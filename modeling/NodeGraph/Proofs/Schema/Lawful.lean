import Mathlib.Logic.Equiv.Basic
import Mathlib.Tactic.MkIffOfInductiveProp
import NodeGraph.Proofs.Schema.Validity

/-!
# The rules of schemas

A validator finds no error exactly in the schemas that keep the rules: names are given and
distinct, objects are complete and have fields, and fields refer to objects of the schema.  How
names are spelled decides about warnings only, and what a validator has checked before does not
matter.
-/

namespace NodeGraph

variable {R : Type}

/-- The type of an object, or of lists of it. -/
inductive OutputType.PointsAt : OutputType → Nat → Prop
  | object (id : Nat) : PointsAt (.object id) id
  | list {item : OutputType} {id : Nat} (items : PointsAt item id) : PointsAt (.list item) id

theorem OutputType.objectId?_eq_some_iff {output : OutputType} {id : Nat} :
    output.objectId? = some id ↔ output.PointsAt id := by
  constructor
  · intro found
    induction output with
    | scalar scalar => cases found
    | object other =>
        cases found
        exact .object _
    | list item ih => exact .list (ih found)
  · intro points
    induction points with
    | object id => rfl
    | list _ ih => exact ih

namespace Schema

/-- The rules for an object and its fields. -/
@[mk_iff]
structure LawfulObject (schema : Schema R) (object : ObjectType R) : Prop where
  complete : object.complete = true
  hasFields : object.fields ≠ []
  fieldsNamed : ∀ field ∈ object.fields, field.name ≠ ""
  fieldsDistinct : (object.fields.map SchemaField.name).Nodup
  fieldsPlaced : ∀ field ∈ object.fields, ∀ id,
    field.output.PointsAt id → id < schema.objects.length

/-- The rules for a schema. -/
@[mk_iff]
structure Lawful (schema : Schema R) : Prop where
  typesDistinct : (schema.objects.map ObjectType.name).Nodup
  objects : ∀ object ∈ schema.objects, schema.LawfulObject object
  rootsNamed : ∀ root ∈ schema.roots, root.name ≠ ""
  rootsDistinct : (schema.roots.map RootField.name).Nodup

section Rules

theorem isDangling_eq_true_iff {schema : Schema R} {output : OutputType} :
    schema.isDangling output = true ↔ ∃ id, output.PointsAt id ∧ schema.objects.length ≤ id := by
  simp only [← OutputType.objectId?_eq_some_iff]
  unfold isDangling
  cases output.objectId? with
  | none => simp
  | some id => simp

/-- Names that are given are distinct if none of them is there again. -/
theorem nodup_of_not_repeats {names : List String} (named : ∀ name ∈ names, name ≠ "")
    (distinct : ∀ name, name ≠ "" → ¬ Repeats [] name names) : names.Nodup := by
  rw [List.nodup_iff_forall_not_duplicate]
  intro name repeated
  exact distinct name (named name repeated.mem) (repeats_start.mpr repeated)

theorem not_repeats_of_nodup {names : List String} (distinct : names.Nodup) (name : String) :
    ¬ Repeats [] name names := by
  rw [repeats_start]
  exact List.nodup_iff_forall_not_duplicate.mp distinct name

/-- An object keeps the rules exactly if it shows no issue.  Issues about fields without a name
stand for the checks that are skipped for these fields. -/
theorem lawfulObject_iff_not_shows {schema : Schema R} {object : ObjectType R} :
    schema.LawfulObject object ↔ ∀ issue, ¬ schema.ObjectShows object issue := by
  constructor
  · intro lawful issue shows
    cases issue with
    | incompleteNode tag => exact Bool.false_ne_true (shows.2.symm.trans lawful.complete)
    | noFields tag => exact lawful.hasFields shows.2
    | emptyFieldName tag =>
        obtain ⟨_, field, declares, unnamed⟩ := shows
        exact lawful.fieldsNamed field declares unnamed
    | repeatedField name tag => exact not_repeats_of_nodup lawful.fieldsDistinct name shows.2.2
    | danglingReference name tag =>
        obtain ⟨_, _, field, declares, _, dangling⟩ := shows
        obtain ⟨id, points, outside⟩ := isDangling_eq_true_iff.mp dangling
        have inside := lawful.fieldsPlaced field declares id points
        omega
    | _ => exact shows
  · intro sound
    have fieldsNamed : ∀ field ∈ object.fields, field.name ≠ "" :=
      fun field declares unnamed =>
        sound (.emptyFieldName object.nodeType) ⟨rfl, field, declares, unnamed⟩
    refine ⟨?_, ?_, fieldsNamed, ?_, ?_⟩
    · by_contra incomplete
      exact sound (.incompleteNode object.nodeType) ⟨rfl, Bool.not_eq_true _ ▸ incomplete⟩
    · exact fun none => sound (.noFields object.nodeType) ⟨rfl, none⟩
    · apply nodup_of_not_repeats
      · exact List.forall_mem_map.mpr fieldsNamed
      · exact fun name named repeated =>
          sound (.repeatedField name object.nodeType) ⟨rfl, named, repeated⟩
    · intro field declares id points
      by_contra outside
      have dangling : schema.isDangling field.output = true :=
        isDangling_eq_true_iff.mpr ⟨id, points, Nat.le_of_not_lt outside⟩
      exact sound (.danglingReference field.name object.nodeType)
        ⟨rfl, fieldsNamed field declares, field, declares, rfl, dangling⟩

/-- A schema keeps the rules exactly if it shows no issue. -/
theorem lawful_iff_not_shows {schema : Schema R} :
    schema.Lawful ↔ ∀ issue, ¬ schema.Shows issue := by
  have rootsOnly : ∀ {issue}, RootsShow [] schema.roots issue → schema.Shows issue := .inr
  have objectsOnly : ∀ {object issue}, object ∈ schema.objects →
      schema.ObjectShows object issue → schema.Shows issue := by
    intro object issue held shows
    left
    cases issue with
    | repeatedTypeName name => exact absurd shows id
    | _ => exact ⟨object, held, shows⟩
  constructor
  · intro lawful issue shows
    have objects := fun object held => lawfulObject_iff_not_shows.mp (lawful.objects object held)
    rcases shows with onObjects | onRoots
    · cases issue with
      | repeatedTypeName name => exact not_repeats_of_nodup lawful.typesDistinct name onObjects
      | _ =>
          obtain ⟨object, held, shows⟩ := onObjects
          exact objects object held _ shows
    · cases issue with
      | emptyNodeName tag =>
          obtain ⟨root, held, _, unnamed⟩ := onRoots
          exact lawful.rootsNamed root held unnamed
      | repeatedNodeName name => exact not_repeats_of_nodup lawful.rootsDistinct name onRoots.2
      | _ => exact onRoots
  · intro sound
    have rootsNamed : ∀ root ∈ schema.roots, root.name ≠ "" :=
      fun root held unnamed =>
        sound (.emptyNodeName root.nodeType) (rootsOnly ⟨root, held, rfl, unnamed⟩)
    refine ⟨?_, ?_, rootsNamed, ?_⟩
    · rw [List.nodup_iff_forall_not_duplicate]
      exact fun name repeated =>
        sound (.repeatedTypeName name) (.inl (repeats_start.mpr repeated))
    · exact fun object held => lawfulObject_iff_not_shows.mpr fun issue shows =>
        sound issue (objectsOnly held shows)
    · apply nodup_of_not_repeats
      · exact List.forall_mem_map.mpr rootsNamed
      · exact fun name named repeated =>
          sound (.repeatedNodeName name) (rootsOnly ⟨named, repeated⟩)

theorem isValid_report_iff_lawful (schema : Schema R) :
    schema.report.isValid = true ↔ schema.Lawful := by
  rw [isValid_report_iff, lawful_iff_not_shows]

end Rules

instance (schema : Schema R) : Decidable schema.Lawful :=
  decidable_of_iff _ schema.isValid_report_iff_lawful

section Spelling

/-- The schema with the names of its fields and root fields spelt in another way. -/
def respell (spell : String → String) (schema : Schema R) : Schema R where
  objects := schema.objects.map fun object =>
    { object with
      fields := object.fields.map fun field => { field with name := spell field.name } }
  roots := schema.roots.map fun root => { root with name := spell root.name }
  arguments := schema.arguments

/-- Another spelling keeps the rules if it keeps names apart and leaves the empty name empty. -/
theorem lawful_respell_iff {spell : String → String} (injective : Function.Injective spell)
    (empty : spell "" = "") (schema : Schema R) :
    (schema.respell spell).Lawful ↔ schema.Lawful := by
  have named : ∀ name, spell name ≠ "" ↔ name ≠ "" := by
    intro name
    rw [Ne, Ne, ← injective.eq_iff (a := name), empty]
  have distinct : ∀ names : List String, (names.map spell).Nodup ↔ names.Nodup :=
    fun names => List.nodup_map_iff injective
  have fieldNames : ∀ fields : List (SchemaField R),
      fields.map (fun field => spell field.name) = (fields.map SchemaField.name).map spell :=
    fun fields => List.map_map.symm
  have rootNames :
      schema.roots.map (fun root => spell root.name) =
        (schema.roots.map RootField.name).map spell :=
    List.map_map.symm
  simp only [lawful_iff, lawfulObject_iff, respell, List.forall_mem_map, List.map_map,
    Function.comp_def, List.length_map, Ne, List.map_eq_nil_iff] at named ⊢
  simp only [named, fieldNames, rootNames, distinct]

end Spelling

end Schema

namespace SchemaValidator

/-- What a validator finds about schemas that it checks one after another, and the validator that
is left. -/
def validateAll (validator : SchemaValidator) :
    List (Schema R) → List SchemaReport × SchemaValidator
  | [] => ([], validator)
  | schema :: rest =>
      let (report, checked) := validator.validate schema
      let (reports, last) := checked.validateAll rest
      (report :: reports, last)

/-- A validator finds what a new one finds, and it is left as new. -/
theorem validate_eq (validator : SchemaValidator) (schema : Schema R) :
    validator.validate schema = (schema.report, {}) :=
  rfl

theorem validateAll_reports (validator : SchemaValidator) (schemas : List (Schema R)) :
    (validator.validateAll schemas).1 = schemas.map Schema.report := by
  induction schemas generalizing validator with
  | nil => rfl
  | cons schema rest ih =>
      have step : (validator.validateAll (schema :: rest)).1 =
          schema.report :: (validateAll {} rest).1 := rfl
      rw [step, ih, List.map_cons]

/-- A validator, whatever it has found before, finds no error exactly in schemas that keep the
rules.  Neither the warnings nor the spelling of names, on which they depend, decide whether a
schema is valid, and a validator that checks schemas one after another finds in each what a new
one finds. -/
theorem validate_finds_rules :
    (∀ (validator : SchemaValidator) (schema : Schema R),
      ((validator.validate schema).1.errors = [] ↔ schema.Lawful) ∧
      (∀ warnings, ({ (validator.validate schema).1 with warnings } : SchemaReport).isValid = true ↔
        schema.Lawful) ∧
      ∀ spell : String → String, Function.Injective spell → spell "" = "" →
        (validator.validate (schema.respell spell)).1.isValid =
          (validator.validate schema).1.isValid) ∧
    ∀ (validator : SchemaValidator) (schemas : List (Schema R)),
      (validator.validateAll schemas).1 =
        schemas.map fun schema => (SchemaValidator.validate {} schema).1 := by
  refine ⟨?_, validateAll_reports⟩
  intro validator schema
  have valid := schema.isValid_report_iff_lawful
  rw [validate_eq]
  refine ⟨?_, fun _ => valid, ?_⟩
  · rw [← valid, SchemaReport.isValid, List.isEmpty_iff]
  · intro spell injective empty
    rw [validate_eq, Bool.eq_iff_iff, Schema.isValid_report_iff_lawful, valid]
    exact Schema.lawful_respell_iff injective empty schema

/-- Books that list their authors, with names that are warned of. -/
def shelf : Schema Unit where
  objects :=
    [{ name := "Book", nodeType := "book", complete := true
       fields :=
        [{ name := "Title", output := .scalar .string },
          { name := "2nd", output := .list (.list (.object 1)) }] },
      { name := "Author", nodeType := "author", complete := true
        fields := [{ name := "name", output := .scalar .string }] }]
  roots := [⟨"Books", "book", .list (.object 0), [], ()⟩]
  arguments := {}

/-- A shelf whose authors are missing. -/
def authorless : Schema Unit := { shelf with objects := shelf.objects.take 1 }

theorem validate_shelf_reused :
    shelf.Lawful ∧ ¬ authorless.Lawful ∧ shelf.report.warnings.length = 3 ∧
      (shelf.respell (Equiv.swap "Title" "title")).Lawful ∧
      (SchemaValidator.validateAll {} [authorless, shelf]).1 =
        [authorless.report, shelf.report] := by
  obtain ⟨rules, reused⟩ := @validate_finds_rules Unit
  have lawful : shelf.Lawful := (rules {} shelf).1.mp (by decide +kernel)
  have unlawful : ¬ authorless.Lawful := mt (rules {} authorless).1.mpr (by decide +kernel)
  have fixed : Equiv.swap "Title" "title" "" = "" :=
    Equiv.swap_apply_of_ne_of_ne (by decide) (by decide)
  have respelt := (rules {} shelf).2.2 _ (Equiv.swap "Title" "title").injective fixed
  refine ⟨lawful, unlawful, by decide +kernel, ?_, reused {} [authorless, shelf]⟩
  exact ((rules {} _).2.1 _).mp (respelt.trans (((rules {} shelf).2.1 _).mpr lawful))

end SchemaValidator

end NodeGraph
