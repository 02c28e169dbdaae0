import NodeGraph.Argument.Validated
import NodeGraph.Proofs.RelatedLists

/-!
# What validation accepts

The raw arguments of a field are valid if the field accepts every name, also of a null value, and
a fresh argument of the kind under the name records every other value.  These arguments are what
validation gives, in the order of the entries.  Otherwise the first offending entry decides the
error, whatever follows it.
-/

namespace NodeGraph

theorem Json.isNull_eq_false_iff {value : Json} : value.isNull = false ↔ value ≠ .null := by
  cases value <;> simp [isNull]

/-- What a fresh argument of the kind under a name becomes by a value that it accepts. -/
def ArgumentRegistry.Records (registry : ArgumentRegistry) (entry : String × Json)
    (argument : Argument) : Prop :=
  ∃ kind, registry.kind? entry.1 = some kind ∧ kind.fresh.record entry.2 = (.ok (), argument)

theorem ArgumentRegistry.exists_records_iff {registry : ArgumentRegistry}
    {entry : String × Json} :
    (∃ argument, registry.Records entry argument) ↔
      ∃ kind, registry.kind? entry.1 = some kind ∧ (kind.fresh.record entry.2).1 = .ok () := by
  constructor
  · rintro ⟨argument, kind, registered, recorded⟩
    exact ⟨kind, registered, congrArg Prod.fst recorded⟩
  · rintro ⟨kind, registered, recorded⟩
    exact ⟨_, kind, registered, Prod.ext recorded rfl⟩

namespace ValidatedArguments

/-- The names of accepted arguments. -/
abbrev acceptedNames (accepted : List ArgumentDefinition) : List String :=
  accepted.map ArgumentDefinition.name

/-- The error by which an entry offends: its name is not accepted, or else its value is not null
and there is no kind under the name, or else a fresh argument of the kind refuses the value. -/
inductive Offends (registry : ArgumentRegistry) (field : String)
    (accepted : List ArgumentDefinition) : String × Json → GraphError → Prop
  | unaccepted {name : String} {value : Json} (unnamed : name ∉ acceptedNames accepted) :
      Offends registry field accepted (name, value) (.unsupportedArgument field name)
  | unregistered {name : String} {value : Json} (named : name ∈ acceptedNames accepted)
      (given : value ≠ .null) (missing : registry.kind? name = none) :
      Offends registry field accepted (name, value) (.unknownArgument name)
  | refused {name : String} {value : Json} {kind : ArgumentKind} {fault : GraphError}
      (named : name ∈ acceptedNames accepted) (given : value ≠ .null)
      (registered : registry.kind? name = some kind)
      (failed : (kind.fresh.record value).1 = .error fault) :
      Offends registry field accepted (name, value) fault

/-- What a valid entry gives: nothing for null, and otherwise the argument that records its
value. -/
inductive Gives (registry : ArgumentRegistry) (accepted : List ArgumentDefinition) :
    String × Json → Option Argument → Prop
  | absent {name : String} (named : name ∈ acceptedNames accepted) :
      Gives registry accepted (name, .null) none
  | recorded {name : String} {value : Json} {argument : Argument}
      (named : name ∈ acceptedNames accepted) (given : value ≠ .null)
      (records : registry.Records (name, value) argument) :
      Gives registry accepted (name, value) (some argument)

variable {registry : ArgumentRegistry} {field : String} {accepted : List ArgumentDefinition}
  {entry : String × Json} {raw : List (String × Json)}

theorem any_name_iff {name : String} :
    (accepted.any fun definition => definition.name == name) = true ↔
      name ∈ acceptedNames accepted := by
  simp

theorem validateEntry_of_gives {given : Option Argument}
    (gives : Gives registry accepted entry given) (field : String) :
    validateEntry registry field accepted entry = .ok given := by
  cases gives with
  | absent named =>
      rw [validateEntry, any_name_iff.mpr named]
      rfl
  | recorded named given records =>
      obtain ⟨kind, registered, recorded⟩ := records
      rw [validateEntry, any_name_iff.mpr named]
      simp only [Json.isNull_eq_false_iff.mpr given, ArgumentRegistry.fresh?, registered,
        Option.map_some, recorded]
      rfl

theorem validateEntry_of_offends {fault : GraphError}
    (offends : Offends registry field accepted entry fault) :
    validateEntry registry field accepted entry = .error fault := by
  cases offends with
  | unaccepted unnamed =>
      rw [validateEntry, Bool.eq_false_iff.mpr (mt any_name_iff.mp unnamed)]
      rfl
  | unregistered named given missing =>
      rw [validateEntry, any_name_iff.mpr named]
      simp only [Json.isNull_eq_false_iff.mpr given, ArgumentRegistry.fresh?, missing,
        Option.map_none]
      rfl
  | @refused name value kind fault named given registered failed =>
      obtain ⟨argument, recorded⟩ :
          ∃ argument, kind.fresh.record value = (.error fault, argument) :=
        ⟨_, Prod.ext failed rfl⟩
      rw [validateEntry, any_name_iff.mpr named]
      simp only [Json.isNull_eq_false_iff.mpr given, ArgumentRegistry.fresh?, registered,
        Option.map_some, recorded]
      rfl

/-- Every entry gives something or offends. -/
theorem gives_or_offends (registry : ArgumentRegistry) (field : String)
    (accepted : List ArgumentDefinition) (entry : String × Json) :
    (∃ given, Gives registry accepted entry given) ∨
      ∃ fault, Offends registry field accepted entry fault := by
  obtain ⟨name, value⟩ := entry
  by_cases named : name ∈ acceptedNames accepted
  · by_cases absent : value = .null
    · subst absent
      exact .inl ⟨none, .absent named⟩
    · cases registered : registry.kind? name with
      | none => exact .inr ⟨_, .unregistered named absent registered⟩
      | some kind =>
          rcases recorded : kind.fresh.record value with ⟨fault | _, argument⟩
          · exact .inr ⟨fault, .refused named absent registered (congrArg Prod.fst recorded)⟩
          · exact .inl ⟨argument, .recorded named absent ⟨kind, registered, recorded⟩⟩
  · exact .inr ⟨_, .unaccepted named⟩

/-- No entry gives something and offends. -/
theorem Gives.not_offends {given : Option Argument} (gives : Gives registry accepted entry given)
    (fault : GraphError) : ¬ Offends registry field accepted entry fault := by
  intro offends
  have valid := validateEntry_of_gives gives field
  rw [validateEntry_of_offends offends] at valid
  cases valid

theorem validate_cons_of_gives {given : Option Argument}
    (gives : Gives registry accepted entry given) (rest : List (String × Json)) :
    validate registry field accepted (entry :: rest) =
      (validate registry field accepted rest).map (given.toList ++ ·) := by
  rw [validate, validateEntry_of_gives gives]
  cases validate registry field accepted rest <;> rfl

theorem validate_cons_of_offends {fault : GraphError}
    (offends : Offends registry field accepted entry fault) (rest : List (String × Json)) :
    validate registry field accepted (entry :: rest) = .error fault := by
  rw [validate, validateEntry_of_offends offends]
  rfl

/-- Validation gives an argument for each value that is not null. -/
theorem validate_eq_ok_iff {arguments : ValidatedArguments} :
    validate registry field accepted raw = .ok arguments ↔
      (∀ entry ∈ raw, entry.1 ∈ acceptedNames accepted) ∧
      List.Forall₂ registry.Records (raw.filter fun entry => !entry.2.isNull) arguments := by
  induction raw generalizing arguments with
  | nil =>
      rw [validate, List.filter_nil, List.forall₂_nil_left_iff]
      constructor
      · rintro ⟨⟩
        exact ⟨fun _ member => absurd member List.not_mem_nil, rfl⟩
      · rintro ⟨_, rfl⟩
        rfl
  | cons entry rest ih =>
      rw [List.forall_mem_cons]
      constructor
      · intro valid
        obtain ⟨given, gives⟩ | ⟨fault, offends⟩ := gives_or_offends registry field accepted entry
        · rw [validate_cons_of_gives gives] at valid
          cases later : validate registry field accepted rest with
          | error fault =>
              rw [later] at valid
              cases valid
          | ok others =>
              rw [later] at valid
              cases valid
              obtain ⟨named, placed⟩ := ih.mp later
              cases gives with
              | absent here => exact ⟨⟨here, named⟩, placed⟩
              | recorded here given records =>
                  rw [List.filter_cons_of_pos (by simp [Json.isNull_eq_false_iff.mpr given])]
                  exact ⟨⟨here, named⟩, .cons records placed⟩
        · rw [validate_cons_of_offends offends] at valid
          cases valid
      · obtain ⟨name, value⟩ := entry
        rintro ⟨⟨here, named⟩, placed⟩
        by_cases absent : value = .null
        · subst absent
          rw [validate_cons_of_gives (.absent here), ih.mpr ⟨named, placed⟩]
          rfl
        · rw [List.filter_cons_of_pos (by simp [Json.isNull_eq_false_iff.mpr absent])] at placed
          cases placed with
          | cons records later =>
              rw [validate_cons_of_gives (.recorded here absent records), ih.mpr ⟨named, later⟩]
              rfl

/-- The first offending entry decides the error. -/
theorem validate_eq_error_iff {fault : GraphError} :
    validate registry field accepted raw = .error fault ↔
      ∃ front entry back, raw = front ++ entry :: back ∧
        (∀ earlier ∈ front, ∀ other, ¬ Offends registry field accepted earlier other) ∧
        Offends registry field accepted entry fault := by
  induction raw with
  | nil =>
      constructor
      · rintro ⟨⟩
      · rintro ⟨front, entry, back, split, -⟩
        exact absurd split (by simp)
  | cons first rest ih =>
      constructor
      · intro invalid
        obtain ⟨given, gives⟩ | ⟨other, offends⟩ := gives_or_offends registry field accepted first
        · rw [validate_cons_of_gives gives] at invalid
          cases later : validate registry field accepted rest with
          | ok others =>
              rw [later] at invalid
              cases invalid
          | error other =>
              rw [later] at invalid
              cases invalid
              obtain ⟨front, entry, back, rfl, earlier, offends⟩ := ih.mp later
              refine ⟨first :: front, entry, back, rfl, ?_, offends⟩
              rw [List.forall_mem_cons]
              exact ⟨gives.not_offends, earlier⟩
        · rw [validate_cons_of_offends offends] at invalid
          cases invalid
          exact ⟨[], first, rest, rfl, fun _ member => absurd member List.not_mem_nil, offends⟩
      · rintro ⟨front, entry, back, split, earlier, offends⟩
        cases front with
        | nil =>
            cases split
            exact validate_cons_of_offends offends rest
        | cons _ front =>
            cases split
            rw [List.forall_mem_cons] at earlier
            obtain ⟨given, gives⟩ | ⟨other, wrong⟩ :=
              gives_or_offends registry field accepted first
            · have later := ih.mpr ⟨front, entry, back, rfl, earlier.2, offends⟩
              rw [validate_cons_of_gives gives, later]
              rfl
            · exact absurd wrong (earlier.1 other)

theorem exists_validate_iff :
    (∃ arguments, validate registry field accepted raw = .ok arguments) ↔
      (∀ entry ∈ raw, entry.1 ∈ acceptedNames accepted) ∧
      ∀ entry ∈ raw, entry.2 ≠ .null →
        ∃ kind, registry.kind? entry.1 = some kind ∧ (kind.fresh.record entry.2).1 = .ok () := by
  simp only [validate_eq_ok_iff, exists_and_left, exists_forall₂_iff, List.mem_filter,
    Bool.not_eq_true', Json.isNull_eq_false_iff, ArgumentRegistry.exists_records_iff, and_imp]

/-- Arguments are valid if and only if the field accepts every name and a fresh argument of a
registered kind records every value but null.  They are these arguments then, in the order of the
entries.  Otherwise the error is that of the first offending entry, whatever entries follow it. -/
theorem validate_exact (registry : ArgumentRegistry) (field : String)
    (accepted : List ArgumentDefinition) (raw : List (String × Json)) :
    ((∃ arguments, validate registry field accepted raw = .ok arguments) ↔
      (∀ entry ∈ raw, entry.1 ∈ acceptedNames accepted) ∧
      ∀ entry ∈ raw, entry.2 ≠ .null →
        ∃ kind, registry.kind? entry.1 = some kind ∧ (kind.fresh.record entry.2).1 = .ok ()) ∧
    (∀ arguments, validate registry field accepted raw = .ok arguments →
      List.Forall₂ registry.Records (raw.filter fun entry => !entry.2.isNull) arguments) ∧
    (∀ fault, validate registry field accepted raw = .error fault ↔
      ∃ front entry back, raw = front ++ entry :: back ∧
        (∀ earlier ∈ front, ∀ other, ¬ Offends registry field accepted earlier other) ∧
        Offends registry field accepted entry fault) ∧
    ∀ front entry back fault, raw = front ++ entry :: back →
      (∀ earlier ∈ front, ∀ other, ¬ Offends registry field accepted earlier other) →
      Offends registry field accepted entry fault →
      ∀ others, validate registry field accepted (front ++ entry :: others) = .error fault := by
  refine ⟨exists_validate_iff, fun arguments valid => (validate_eq_ok_iff.mp valid).2,
    fun fault => validate_eq_error_iff, ?_⟩
  intro front entry _ fault _ earlier offends others
  exact validate_eq_error_iff.mpr ⟨front, entry, others, rfl, earlier, offends⟩

/-- Arguments that a field accepts, the last of them without a kind. -/
def upToHaving : List ArgumentDefinition :=
  [⟨"filter", "Filter"⟩, ⟨"limit", "Limit"⟩, ⟨"order_by", "OrderBy"⟩, ⟨"having", "Having"⟩]

def youngestFive : List (String × Json) :=
  [("order_by", .object [("age", .string "asc")]), ("filter", .null),
    ("limit", .object [("count", .ofInt 5)])]

/-- Null for an accepted argument, a value for one without a kind, and null for one that is not
accepted. -/
def severalFaults : List (String × Json) :=
  [("filter", .null), ("having", .string "age"), ("group_by", .null)]

theorem validate_exact_youngestFive :
    List.Forall₂ ArgumentRegistry.builtIn.Records
      [("order_by", .object [("age", .string "asc")]), ("limit", .object [("count", .ofInt 5)])]
      [.orderBy [⟨"age", .ascending⟩], .limit ⟨5, 0⟩] ∧
    (∃ front entry back, severalFaults = front ++ entry :: back ∧
      Offends .builtIn "users" upToHaving entry (.unknownArgument "having")) ∧
    ∀ others, validate .builtIn "users" upToHaving
      ([("filter", .null)] ++ ("having", .string "age") :: others) =
        .error (.unknownArgument "having") := by
  obtain ⟨_, accepts, _, _⟩ := validate_exact .builtIn "users" upToHaving youngestFive
  obtain ⟨_, _, first, whatever⟩ := validate_exact .builtIn "users" upToHaving severalFaults
  have placed := accepts [.orderBy [⟨"age", .ascending⟩], .limit ⟨5, 0⟩] rfl
  obtain ⟨front, entry, back, split, _, offends⟩ := (first (.unknownArgument "having")).mp rfl
  refine ⟨placed, ⟨front, entry, back, split, offends⟩, ?_⟩
  have null : Gives .builtIn upToHaving ("filter", .null) none := .absent (by decide)
  refine whatever _ _ [("group_by", .null)] _ rfl ?_ (.unregistered (by decide) (by simp) rfl)
  intro earlier member
  rw [List.mem_singleton.mp member]
  exact null.not_offends

end ValidatedArguments

end NodeGraph
