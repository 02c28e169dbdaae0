import NodeGraph.Proofs.RelatedLists
import NodeGraph.Proofs.Text.ByteOrder
import NodeGraph.Schema.Sdl
import Mathlib.Data.List.Induction
import Mathlib.Data.List.Nodup
import Mathlib.Data.String.Basic

/-!
# The documents of schemas

A document writes a schema if it holds the query root, one scalar for each type of arguments
in the order of their bytes, the objects and the root fields, each with its name, its arguments
and its type, and nothing else.  Such a document is closed: every type that it names is built
in or defined in it.  The document of a schema takes its scalars from the objects alone, so it
writes the schema if every argument is typed as one of some object.
-/

namespace NodeGraph

variable {R : Type}

/-- The name that a type comes down to. -/
def SdlType.typeName : SdlType → String
  | .named name => name
  | .list item => item.typeName

/-- The types that a field names: its own and those of its arguments. -/
def SdlField.typeNames (field : SdlField) : List String :=
  field.type.typeName :: field.arguments.map Prod.snd

namespace SdlDefinition

/-- The type that is defined. -/
def defines? : SdlDefinition → Option String
  | .root _ => none
  | .scalar name => some name
  | .object name _ => some name

/-- The types that a definition names. -/
def mentions : SdlDefinition → List String
  | .root query => [query]
  | .scalar _ => []
  | .object _ fields => fields.flatMap SdlField.typeNames

end SdlDefinition

namespace SdlDocument

/-- The types that a document defines, in order. -/
def definedNames (document : SdlDocument) : List String :=
  document.filterMap SdlDefinition.defines?

theorem definedNames_sections (query : String) (scalars : List String)
    (types : List SdlDefinition) (queries : List SdlField) :
    definedNames (.root query :: scalars.map .scalar ++ types ++ [.object query queries]) =
      scalars ++ types.filterMap SdlDefinition.defines? ++ [query] := by
  have scalarsDefined : (scalars.map SdlDefinition.scalar).filterMap SdlDefinition.defines? =
      scalars := by
    rw [List.filterMap_map]
    exact List.filterMap_some
  rw [definedNames, List.cons_append, List.cons_append, List.filterMap_cons_none rfl,
    List.filterMap_append, List.filterMap_append, scalarsDefined]
  rfl

/-- Every type that is named is built in or defined. -/
def Closed (document : SdlDocument) : Prop :=
  ∀ definition ∈ document, ∀ name ∈ definition.mentions,
    (∃ scalar : ScalarType, scalar.name = name) ∨ name ∈ document.definedNames

end SdlDocument

namespace Schema

/-- A type is written as it is, with objects by the names of their types. -/
inductive WritesType (schema : Schema R) : OutputType → SdlType → Prop
  | scalar (scalar : ScalarType) : WritesType schema (.scalar scalar) (.named scalar.name)
  | object {id : Nat} {object : ObjectType R} (found : schema.objects[id]? = some object) :
      WritesType schema (.object id) (.named object.name)
  | list {item : OutputType} {written : SdlType} (items : WritesType schema item written) :
      WritesType schema (.list item) (.list written)

structure WritesField (schema : Schema R) (field : SchemaField R) (written : SdlField) :
    Prop where
  name : written.name = field.name
  description : written.description = field.description
  arguments : written.arguments =
    field.arguments.map fun argument => (argument.name, argument.typeName)
  type : schema.WritesType field.output written.type

structure WritesRoot (schema : Schema R) (root : RootField R) (written : SdlField) :
    Prop where
  name : written.name = root.name
  description : written.description = none
  arguments : written.arguments =
    root.arguments.map fun argument => (argument.name, argument.typeName)
  type : schema.WritesType root.output written.type

inductive WritesObject (schema : Schema R) (object : ObjectType R) : SdlDefinition → Prop
  | mk {written : List SdlField}
      (fields : List.Forall₂ schema.WritesField object.fields written) :
      WritesObject schema object (.object object.name written)

/-- An argument of an object, of a field or of a root field. -/
inductive HasArgument (schema : Schema R) : ArgumentDefinition → Prop
  | object {object : ObjectType R} {argument : ArgumentDefinition}
      (held : object ∈ schema.objects) (takes : argument ∈ object.arguments) :
      HasArgument schema argument
  | field {object : ObjectType R} {field : SchemaField R} {argument : ArgumentDefinition}
      (held : object ∈ schema.objects) (declares : field ∈ object.fields)
      (takes : argument ∈ field.arguments) : HasArgument schema argument
  | root {root : RootField R} {argument : ArgumentDefinition} (held : root ∈ schema.roots)
      (takes : argument ∈ root.arguments) : HasArgument schema argument

/-- A document that writes all of a schema and nothing else: the root, one scalar for each
type of arguments in the order of their bytes, the objects in order, and the query type. -/
inductive WritesDocument (schema : Schema R) : SdlDocument → Prop
  | mk {scalars : List String} {types : List SdlDefinition} {queries : List SdlField}
      (ascending : scalars.Pairwise fun first second =>
        Text.utf8Bytes first < Text.utf8Bytes second)
      (used : ∀ name, name ∈ scalars ↔
        ∃ argument, schema.HasArgument argument ∧ argument.typeName = name)
      (objects : List.Forall₂ schema.WritesObject schema.objects types)
      (roots : List.Forall₂ schema.WritesRoot schema.roots queries) :
      WritesDocument schema
        (.root "Query" :: scalars.map .scalar ++ types ++ [.object "Query" queries])

/-- Positions lead to objects, and every argument is typed as an argument of some object. -/
structure Sound (schema : Schema R) : Prop where
  fields : ∀ object ∈ schema.objects, ∀ field ∈ object.fields, ∀ id,
    field.output.objectId? = some id → id < schema.objects.length
  roots : ∀ root ∈ schema.roots, ∀ id,
    root.output.objectId? = some id → id < schema.objects.length
  arguments : ∀ argument, schema.HasArgument argument →
    ∃ object ∈ schema.objects, argument ∈ object.arguments

section Scalars

theorem mem_argumentScalars {schema : Schema R} {name : String} :
    name ∈ schema.argumentScalars ↔
      ∃ object ∈ schema.objects, ∃ argument ∈ object.arguments, argument.typeName = name := by
  simp [argumentScalars]

theorem nodup_eraseDups (names : List String) : names.eraseDups.Nodup := by
  induction names using List.reverseRecOn with
  | nil => exact List.nodup_nil
  | append_singleton names name ih =>
      rw [List.eraseDups_append]
      by_cases known : name ∈ names
      · simpa [List.removeAll, known] using ih
      · have once : ([name].removeAll names).eraseDups = [name] := by
          simp [List.removeAll, known, List.eraseDups_cons]
        rw [once, ← List.concat_eq_append]
        exact List.Nodup.concat (by simpa using known) ih

/-- Each scalar stands once, and the scalars ascend. -/
theorem pairwise_argumentScalars (schema : Schema R) :
    schema.argumentScalars.Pairwise (· < ·) := by
  have distinct : schema.argumentScalars.Nodup :=
    (List.mergeSort_perm _ _).nodup_iff.mpr (nodup_eraseDups _)
  have sorted : schema.argumentScalars.Pairwise fun first second =>
      decide (first ≤ second) = true := by
    refine List.pairwise_mergeSort ?_ ?_ _
    · simp only [decide_eq_true_eq]
      exact fun first second third => le_trans
    · simp only [Bool.or_eq_true, decide_eq_true_eq]
      exact le_total
  refine (sorted.and distinct).imp fun both => ?_
  exact lt_of_le_of_ne (by simpa using both.1) both.2

end Scalars

theorem definedNames_document (schema : Schema R) :
    schema.document.definedNames =
      schema.argumentScalars ++ schema.objects.map ObjectType.name ++ [queryTypeName] := by
  have objectsDefined : (schema.objects.map fun object =>
      SdlDefinition.object object.name (object.fields.map schema.sdlField)).filterMap
        SdlDefinition.defines? = schema.objects.map ObjectType.name := by
    rw [List.filterMap_map]
    exact congrFun (List.filterMap_eq_map (f := ObjectType.name)) schema.objects
  rw [document, SdlDocument.definedNames_sections, objectsDefined]

section Writing

variable {schema : Schema R}

theorem writesType_sdlType {output : OutputType}
    (resolved : ∀ id, output.objectId? = some id → id < schema.objects.length) :
    schema.WritesType output (schema.sdlType output) := by
  induction output with
  | scalar scalar => exact .scalar scalar
  | object id =>
      have bound : id < schema.objects.length := resolved id rfl
      have found : schema.objects[id]? = some schema.objects[id] :=
        List.getElem?_eq_getElem bound
      have same : schema.object id = schema.objects[id] := by
        rw [object, List.getD_eq_getElem?_getD, found, Option.getD_some]
      rw [sdlType, same]
      exact .object found
  | list item ih => exact .list (ih resolved)

/-- The document of a sound schema writes it. -/
theorem writesDocument_document (sound : schema.Sound) :
    schema.WritesDocument schema.document := by
  refine .mk ?_ ?_ ?_ ?_
  · exact schema.pairwise_argumentScalars.imp Text.utf8Bytes_lt_of_lt
  · intro name
    rw [mem_argumentScalars]
    constructor
    · rintro ⟨object, held, argument, takes, typed⟩
      exact ⟨argument, .object held takes, typed⟩
    · rintro ⟨argument, has, typed⟩
      obtain ⟨object, held, takes⟩ := sound.arguments argument has
      exact ⟨object, held, argument, takes, typed⟩
  · refine List.forall₂_map_right_iff.mpr (List.forall₂_same.mpr fun object held => .mk ?_)
    refine List.forall₂_map_right_iff.mpr (List.forall₂_same.mpr fun field declares => ?_)
    exact ⟨rfl, rfl, rfl, writesType_sdlType (sound.fields object held field declares)⟩
  · refine List.forall₂_map_right_iff.mpr (List.forall₂_same.mpr fun root held => ?_)
    exact ⟨rfl, rfl, rfl, writesType_sdlType (sound.roots root held)⟩

theorem WritesType.named {output : OutputType} {written : SdlType}
    (writes : schema.WritesType output written) :
    (∃ scalar : ScalarType, scalar.name = written.typeName) ∨
      ∃ object ∈ schema.objects, object.name = written.typeName := by
  induction writes with
  | scalar scalar => exact .inl ⟨scalar, rfl⟩
  | object found => exact .inr ⟨_, List.mem_of_getElem? found, rfl⟩
  | list _ ih => exact ih

theorem WritesObject.defines {object : ObjectType R} {definition : SdlDefinition}
    (writes : schema.WritesObject object definition) :
    definition.defines? = some object.name := by
  cases writes
  rfl

/-- What is defined by a document that writes a schema. -/
theorem WritesDocument.mem_definedNames_iff {document : SdlDocument}
    (writes : schema.WritesDocument document) {name : String} :
    name ∈ document.definedNames ↔
      (∃ argument, schema.HasArgument argument ∧ argument.typeName = name) ∨
        (∃ object ∈ schema.objects, object.name = name) ∨ name = "Query" := by
  cases writes with
  | mk ascending used objects roots =>
      rename_i scalars types queries
      have typesDefined : (∃ definition ∈ types, definition.defines? = some name) ↔
          ∃ object ∈ schema.objects, object.name = name := by
        have defined : schema.objects.map (fun object => some object.name) =
            types.map SdlDefinition.defines? :=
          map_eq_of_forall₂ objects fun _ _ written => written.defines.symm
        simpa using (congrArg (some name ∈ ·) defined).symm
      rw [← used, ← typesDefined, SdlDocument.definedNames_sections]
      simp

/-- A field whose type and arguments are written names types that are built in or written. -/
theorem WritesDocument.known {document : SdlDocument} (writes : schema.WritesDocument document)
    {written : SdlField} {output : OutputType} {arguments : List ArgumentDefinition}
    (type : schema.WritesType output written.type)
    (writtenArguments : written.arguments =
      arguments.map fun argument => (argument.name, argument.typeName))
    (has : ∀ argument ∈ arguments, schema.HasArgument argument) {name : String}
    (member : name ∈ written.typeNames) :
    (∃ scalar : ScalarType, scalar.name = name) ∨ name ∈ document.definedNames := by
  rw [writes.mem_definedNames_iff]
  rcases List.mem_cons.mp member with rfl | member
  · exact type.named.imp_right fun named => .inr (.inl named)
  · rw [writtenArguments, List.map_map] at member
    obtain ⟨argument, taken, rfl⟩ := List.mem_map.mp member
    exact .inr (.inl ⟨argument, has argument taken, rfl⟩)

/-- A document that writes a schema defines every type that it names. -/
theorem WritesDocument.closed {document : SdlDocument}
    (writes : schema.WritesDocument document) : document.Closed := by
  have known := @WritesDocument.known _ _ _ writes
  have query := writes.mem_definedNames_iff.mpr (.inr (.inr rfl))
  cases writes with
  | mk ascending used objects roots =>
      intro definition member name mentioned
      simp only [List.mem_append, List.mem_cons, List.mem_map, List.not_mem_nil,
        or_false] at member
      obtain ((rfl | ⟨scalar, _, rfl⟩) | typed) | rfl := member
      · obtain rfl := List.mem_singleton.mp mentioned
        exact .inr query
      · cases mentioned
      · obtain ⟨object, held, ⟨fields⟩⟩ := exists_left_of_forall₂ objects typed
        obtain ⟨written, writtenMem, named⟩ := List.mem_flatMap.mp mentioned
        obtain ⟨field, declares, writesField⟩ := exists_left_of_forall₂ fields writtenMem
        exact known writesField.type writesField.arguments
          (fun argument takes => .field held declares takes) named
      · obtain ⟨written, writtenMem, named⟩ := List.mem_flatMap.mp mentioned
        obtain ⟨root, held, writesRoot⟩ := exists_left_of_forall₂ roots writtenMem
        exact known writesRoot.type writesRoot.arguments
          (fun argument takes => .root held takes) named

end Writing

end Schema

end NodeGraph
