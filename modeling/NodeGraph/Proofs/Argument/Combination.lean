import NodeGraph.Proofs.Argument.Validation

/-!
# Combining built-in arguments

The fragments that arguments of the built-in kinds write: the last filter gives the
condition, the last limit the window and the last sort order the ordering.  Validation
against the built-in registry gives such arguments only.
-/

namespace NodeGraph

namespace Argument

/-- An argument of a built-in kind. -/
def IsBuiltIn : Argument → Prop
  | .custom _ _ => False
  | _ => True

instance (argument : Argument) : Decidable argument.IsBuiltIn := by
  cases argument <;> simp only [IsBuiltIn] <;> infer_instance

def predicates? : Argument → Option (List Predicate)
  | .filter predicates => some predicates
  | _ => none

def window? : Argument → Option Limit
  | .limit window => some window
  | _ => none

def sorts? : Argument → Option (List SortKey)
  | .orderBy sorts => some sorts
  | _ => none

/-- The fields that a filter or a sort order names. -/
def fieldNames : Argument → List String
  | .filter predicates => predicates.map Predicate.field
  | .orderBy sorts => sorts.map SortKey.field
  | _ => []

/-- The kind that made an argument. -/
def kind : Argument → ArgumentKind
  | .filter _ => .filter
  | .limit _ => .limit
  | .orderBy _ => .orderBy
  | .custom kind _ => .custom kind

@[simp]
theorem kind_fresh (kind : ArgumentKind) : kind.fresh.kind = kind := by
  cases kind <;> rfl

/-- An argument stays of its kind, whatever it is sent. -/
@[simp]
theorem kind_record (argument : Argument) (value : Json) :
    (argument.record value).2.kind = argument.kind := by
  cases argument <;> rfl

theorem isBuiltIn_record {argument : Argument} (builtIn : argument.IsBuiltIn)
    (value : Json) : (argument.record value).2.IsBuiltIn := by
  cases argument with
  | filter predicates => trivial
  | limit window => trivial
  | orderBy sorts => trivial
  | custom kind notes => exact absurd builtIn id

end Argument

namespace ArgumentRegistry

theorem kind?_builtIn_cases {name : String} {kind : ArgumentKind}
    (registered : builtIn.kind? name = some kind) :
    name = filterName ∧ kind = .filter ∨ name = limitName ∧ kind = .limit ∨
      name = orderByName ∧ kind = .orderBy := by
  have member : (name, kind) ∈ builtIn.kinds := by
    obtain ⟨before, after, split, -⟩ := List.lookup_eq_some_iff.mp registered
    rw [split]
    simp
  have kinds : builtIn.kinds =
      [(filterName, .filter), (limitName, .limit), (orderByName, .orderBy)] := rfl
  rw [kinds] at member
  simpa only [List.mem_cons, Prod.mk.injEq, List.not_mem_nil, or_false] using member

theorem Records.isBuiltIn {entry : String × Json} {argument : Argument}
    (records : builtIn.Records entry argument) : argument.IsBuiltIn := by
  obtain ⟨kind, registered, recorded⟩ := records
  have kept : (kind.fresh.record entry.2).2.IsBuiltIn := by
    refine Argument.isBuiltIn_record ?_ entry.2
    obtain ⟨-, rfl⟩ | ⟨-, rfl⟩ | ⟨-, rfl⟩ := kind?_builtIn_cases registered <;> trivial
  rwa [recorded] at kept

end ArgumentRegistry

namespace ValidatedArguments

/-- What the last argument of some kind holds. -/
def lastOf? {α : Type} (pick : Argument → Option α) : ValidatedArguments → Option α
  | [] => none
  | argument :: rest => (lastOf? pick rest).or (pick argument)

/-- The predicates of the last filter; none without a filter. -/
def lastPredicates (arguments : ValidatedArguments) : List Predicate :=
  (arguments.lastOf? Argument.predicates?).getD []

/-- The sorts of the last sort order; none without a sort order. -/
def lastSorts (arguments : ValidatedArguments) : List SortKey :=
  (arguments.lastOf? Argument.sorts?).getD []

theorem exists_of_lastOf?_eq_some {α : Type} {pick : Argument → Option α}
    {arguments : ValidatedArguments} {value : α}
    (last : arguments.lastOf? pick = some value) :
    ∃ argument ∈ arguments, pick argument = some value := by
  induction arguments with
  | nil => simp [lastOf?] at last
  | cons argument rest ih =>
      rcases Option.or_eq_some_iff.mp last with later | ⟨-, here⟩
      · obtain ⟨other, member, holds⟩ := ih later
        exact ⟨other, List.mem_cons_of_mem _ member, holds⟩
      · exact ⟨argument, List.mem_cons_self, here⟩

/-- Arguments that agree after a change that the picked part follows agree on it. -/
theorem lastOf?_map {α : Type} {pick : Argument → Option α} {change : Argument → Argument}
    {follow : α → α} (picked : ∀ argument, pick (change argument) = (pick argument).map follow)
    (arguments : ValidatedArguments) :
    lastOf? pick (arguments.map change) = (lastOf? pick arguments).map follow := by
  induction arguments with
  | nil => rfl
  | cons argument rest ih =>
      rw [List.map_cons, lastOf?, lastOf?, ih, picked]
      cases lastOf? pick rest <;> rfl

/-- Arguments that the built-in registry validates are of the built-in kinds. -/
theorem isBuiltIn_of_validate {field : String} {accepted : List ArgumentDefinition}
    {raw : List (String × Json)} {arguments : ValidatedArguments}
    (valid : validate .builtIn field accepted raw = .ok arguments) :
    ∀ argument ∈ arguments, argument.IsBuiltIn := by
  intro argument member
  obtain ⟨_, _, records⟩ := exists_left_of_forall₂ (validate_eq_ok_iff.mp valid).2 member
  exact records.isBuiltIn

/-- Of several filters, limits or sort orders the last one is written; every other
fragment stays as it was. -/
theorem combineInto_eq {arguments : ValidatedArguments}
    (builtIn : ∀ argument ∈ arguments, argument.IsBuiltIn) (clauses : SelectClauses) :
    arguments.combineInto clauses =
      { clauses with
        condition := ((arguments.lastOf? Argument.predicates?).map Filter.toSql).getD
          clauses.condition
        limit := ((arguments.lastOf? Argument.window?).map Limit.toSql).getD clauses.limit
        ordering := ((arguments.lastOf? Argument.sorts?).map OrderBy.toSql).getD
          clauses.ordering } := by
  induction arguments generalizing clauses with
  | nil => rfl
  | cons argument rest ih =>
      have builtInRest : ∀ other ∈ rest, other.IsBuiltIn :=
        fun other member => builtIn other (List.mem_cons_of_mem _ member)
      have step : combineInto (argument :: rest) clauses =
          combineInto rest (argument.combine clauses) := rfl
      rw [step, ih builtInRest]
      simp only [lastOf?]
      cases argument with
      | filter predicates =>
          simp only [Argument.predicates?, Argument.window?, Argument.sorts?, Option.or_none]
          cases lastOf? Argument.predicates? rest <;> rfl
      | limit window =>
          simp only [Argument.predicates?, Argument.window?, Argument.sorts?, Option.or_none]
          cases lastOf? Argument.window? rest <;> rfl
      | orderBy sorts =>
          simp only [Argument.predicates?, Argument.window?, Argument.sorts?, Option.or_none]
          cases lastOf? Argument.sorts? rest <;> rfl
      | custom kind notes => exact absurd (builtIn _ List.mem_cons_self) id

end ValidatedArguments

end NodeGraph
