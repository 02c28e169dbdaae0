import Mathlib.Data.List.Nodup
import Mathlib.Data.List.Perm.Basic
import NodeGraph.Proofs.Argument.Combination
import NodeGraph.TableAdapter

/-!
# Arguments in any order

The built-in kinds write different fragments, and validation gives at most one argument of each.
So the order in which a client writes the arguments of a field has no influence on the statement.
-/

namespace NodeGraph

namespace Argument

theorem typeName_record (argument : Argument) (value : Json) :
    (argument.record value).2.typeName = argument.typeName := by
  cases argument <;> rfl

/-- Built-in arguments of different kinds write different fragments. -/
theorem combine_comm {first second : Argument} (firstBuiltIn : first.IsBuiltIn)
    (secondBuiltIn : second.IsBuiltIn) (different : first.typeName ≠ second.typeName)
    (clauses : SelectClauses) :
    second.combine (first.combine clauses) = first.combine (second.combine clauses) := by
  cases first with
  | custom kind notes => exact absurd firstBuiltIn id
  | filter predicates =>
      cases second with
      | filter others => exact absurd rfl different
      | limit window => rfl
      | orderBy sorts => rfl
      | custom kind notes => exact absurd secondBuiltIn id
  | limit window =>
      cases second with
      | filter predicates => rfl
      | limit other => exact absurd rfl different
      | orderBy sorts => rfl
      | custom kind notes => exact absurd secondBuiltIn id
  | orderBy sorts =>
      cases second with
      | filter predicates => rfl
      | limit window => rfl
      | orderBy others => exact absurd rfl different
      | custom kind notes => exact absurd secondBuiltIn id

end Argument

namespace ArgumentRegistry

theorem typeName_of_kind?_builtIn {name : String} {kind : ArgumentKind}
    (registered : builtIn.kind? name = some kind) : kind.fresh.typeName = name := by
  obtain ⟨rfl, rfl⟩ | ⟨rfl, rfl⟩ | ⟨rfl, rfl⟩ := kind?_builtIn_cases registered <;> rfl

theorem Records.typeName_eq {entry : String × Json} {argument : Argument}
    (records : builtIn.Records entry argument) : argument.typeName = entry.1 := by
  obtain ⟨kind, registered, recorded⟩ := records
  have kept := kind.fresh.typeName_record entry.2
  rwa [recorded, typeName_of_kind?_builtIn registered] at kept

theorem records_unique (registry : ArgumentRegistry) : Relator.RightUnique registry.Records := by
  rintro entry argument other ⟨kind, registered, recorded⟩ ⟨otherKind, alsoRegistered, alsoRecorded⟩
  obtain rfl := Option.some.inj (registered.symm.trans alsoRegistered)
  exact congrArg Prod.snd (recorded.symm.trans alsoRecorded)

end ArgumentRegistry

/-- An adapter sees nothing of its arguments but what they write. -/
theorem TableAdapter.resolve_congr {World : Type} {arguments others : ValidatedArguments}
    (same : ∀ clauses, arguments.combineInto clauses = others.combineInto clauses)
    (adapter : TableAdapter World) (params : ResolveParams) :
    adapter.buildClauses { params with arguments := arguments } =
        adapter.buildClauses { params with arguments := others } ∧
      adapter.resolve { params with arguments := arguments } =
        adapter.resolve { params with arguments := others } := by
  have built : adapter.buildClauses { params with arguments := arguments } =
      adapter.buildClauses { params with arguments := others } := by
    simp only [buildClauses, unlinkedClauses, same]
  refine ⟨built, funext fun state => ?_⟩
  rw [resolve, resolve, built]

namespace ValidatedArguments

variable {registry : ArgumentRegistry} {field : String} {accepted : List ArgumentDefinition}
  {raw others : List (String × Json)} {arguments rearranged : ValidatedArguments}

theorem exists_validate_perm (permuted : raw.Perm others) :
    (∃ arguments, validate registry field accepted raw = .ok arguments) ↔
      ∃ arguments, validate registry field accepted others = .ok arguments := by
  simp only [exists_validate_iff, permuted.mem_iff]

/-- The same entries in another order give the same arguments in another order. -/
theorem perm_of_validate (permuted : raw.Perm others)
    (valid : validate registry field accepted raw = .ok arguments)
    (alsoValid : validate registry field accepted others = .ok rearranged) :
    arguments.Perm rearranged := by
  obtain ⟨_, placed⟩ := validate_eq_ok_iff.mp valid
  obtain ⟨_, alsoPlaced⟩ := validate_eq_ok_iff.mp alsoValid
  obtain ⟨between, placedBetween, same⟩ :=
    List.perm_comp_forall₂ (permuted.filter fun entry => !entry.2.isNull) alsoPlaced
  obtain rfl := registry.records_unique.forall₂ placed placedBetween
  exact same

theorem nodup_typeNames (distinct : (raw.map Prod.fst).Nodup)
    (valid : validate .builtIn field accepted raw = .ok arguments) :
    (arguments.map Argument.typeName).Nodup := by
  obtain ⟨_, placed⟩ := validate_eq_ok_iff.mp valid
  rw [← map_eq_of_forall₂ placed fun _ _ records => records.typeName_eq.symm]
  exact (List.filter_sublist.map _).nodup distinct

/-- Arguments of different built-in kinds write the same in any order. -/
theorem combineInto_perm (same : arguments.Perm rearranged)
    (builtIn : ∀ argument ∈ arguments, argument.IsBuiltIn)
    (distinct : (arguments.map Argument.typeName).Nodup) (clauses : SelectClauses) :
    arguments.combineInto clauses = rearranged.combineInto clauses := by
  refine same.foldl_eq' ?_ clauses
  intro first firstMem second secondMem clauses
  by_cases equal : first.typeName = second.typeName
  · rw [List.inj_on_of_nodup_map distinct firstMem secondMem equal]
  · exact Argument.combine_comm (builtIn first firstMem) (builtIn second secondMem) equal clauses

/-- Entries with distinct names are valid in every order or in none.  The arguments that they give
write the same into any clauses, so every adapter builds the same statement from them and answers
the same. -/
theorem arguments_in_any_order (distinct : (raw.map Prod.fst).Nodup) (permuted : raw.Perm others) :
    ((∃ arguments, validate .builtIn field accepted raw = .ok arguments) ↔
      ∃ rearranged, validate .builtIn field accepted others = .ok rearranged) ∧
    ∀ arguments rearranged, validate .builtIn field accepted raw = .ok arguments →
      validate .builtIn field accepted others = .ok rearranged →
      (∀ clauses, arguments.combineInto clauses = rearranged.combineInto clauses) ∧
      ∀ (World : Type) (adapter : TableAdapter World) (params : ResolveParams),
        adapter.buildClauses { params with arguments := arguments } =
            adapter.buildClauses { params with arguments := rearranged } ∧
          adapter.resolve { params with arguments := arguments } =
            adapter.resolve { params with arguments := rearranged } := by
  refine ⟨exists_validate_perm permuted, ?_⟩
  intro arguments rearranged valid alsoValid
  have same : ∀ clauses, arguments.combineInto clauses = rearranged.combineInto clauses :=
    combineInto_perm (perm_of_validate permuted valid alsoValid) (isBuiltIn_of_validate valid)
      (nodup_typeNames distinct valid)
  exact ⟨same, fun World => TableAdapter.resolve_congr same⟩

/-- Raw arguments of all built-in kinds. -/
def oldestAdults : List (String × Json) :=
  [("filter", .object [("age", .object [("greater_than", .string "17")])]),
    ("order_by", .object [("age", .string "desc")]), ("limit", .object [("count", .ofInt 5)])]

theorem oldestAdults_in_any_order :
    ∃ arguments rearranged,
      validate .builtIn "users" upToHaving oldestAdults = .ok arguments ∧
      validate .builtIn "users" upToHaving oldestAdults.reverse = .ok rearranged ∧
      names arguments = ["filter", "order_by", "limit"] ∧
      names rearranged = ["limit", "order_by", "filter"] ∧
      ∀ clauses, arguments.combineInto clauses = rearranged.combineInto clauses := by
  have distinct : (oldestAdults.map Prod.fst).Nodup := by decide
  have valid : validate .builtIn "users" upToHaving oldestAdults = .ok _ := rfl
  have alsoValid : validate .builtIn "users" upToHaving oldestAdults.reverse = .ok _ := rfl
  obtain ⟨_, same⟩ := arguments_in_any_order distinct oldestAdults.reverse_perm.symm
  exact ⟨_, _, valid, alsoValid, rfl, rfl, (same _ _ valid alsoValid).1⟩

end ValidatedArguments

end NodeGraph
