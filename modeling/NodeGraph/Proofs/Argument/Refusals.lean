import NodeGraph.Proofs.Argument.Combination
import NodeGraph.Proofs.Execution.Rejection

/-!
# How arguments are refused

The kinds that are built in refuse a value as invalid or for an operator that there is not.  The
arguments of a field are refused for such a value, for a name that the field does not accept or
for one that it accepts although no kind has it.  Any other error with which they are refused is
one that a custom kind has answered itself.
-/

namespace NodeGraph

/-- The errors with which the built-in kinds refuse a value. -/
inductive GraphError.IsValueFault : GraphError → Prop
  | invalid {argument : String} {fault : ArgumentFault} :
      IsValueFault (.invalidArgument argument fault)
  | operation {operator : String} : IsValueFault (.unsupportedOperation operator)

open GraphError (IsValueFault)

namespace Predicate

theorem refusals_comparedText (operator : Operator) (field : String) (operand : Json) :
    FaultsWithin IsValueFault (comparedText operator field operand) := by
  unfold comparedText
  split
  · exact .ok _
  · exact .ok _
  · exact .error .invalid

theorem refusals_itemText (operator : Operator) (field : String) (item : Json) :
    FaultsWithin IsValueFault (itemText operator field item) := by
  unfold itemText
  split
  · exact .ok _
  · exact .ok _
  · exact .ok _
  · exact .error .invalid

theorem refusals_ofOperand (tag field : String) (operand : Json) :
    FaultsWithin IsValueFault (ofOperand tag field operand) := by
  unfold ofOperand
  split
  · exact .error .operation
  · split
    · split
      · exact .map (.mapM fun item => refusals_itemText _ _ item)
      · exact .error .invalid
    · exact .map (refusals_comparedText _ _ _)

end Predicate

theorem Filter.refusals_recordEntries (predicates : List Predicate)
    (entries : List (String × Json)) :
    FaultsWithin IsValueFault (recordEntries predicates entries).1 := by
  induction entries generalizing predicates with
  | nil => exact .ok ()
  | cons entry rest ih =>
      obtain ⟨field, raw⟩ := entry
      rw [recordEntries]
      split
      · rename_i fault failed
        refine .error ?_
        unfold readEntry at failed
        split at failed
        · cases failed
          exact .invalid
        · exact Predicate.refusals_ofOperand _ _ _ fault failed
        · cases failed
          exact .invalid
        · cases failed
          exact .invalid
      · exact ih _

theorem Filter.refusals_record (predicates : List Predicate) (value : Json) :
    FaultsWithin IsValueFault (record predicates value).1 := by
  unfold record
  split
  · exact refusals_recordEntries _ _
  · exact .error .invalid

theorem Limit.refusals_readCount (key : String) (value : Json) :
    FaultsWithin IsValueFault (readCount key value) := by
  unfold readCount
  dsimp only
  split
  · split
    · exact .ok _
    · exact .error .invalid
  · exact .error .invalid

theorem Limit.refusals_read (value : Json) : FaultsWithin IsValueFault (read value) := by
  unfold read
  split
  · dsimp only
    split
    · exact .error .invalid
    · refine (refusals_readCount _ _).bind fun count => ?_
      split
      · exact .ok _
      · exact (refusals_readCount _ _).bind fun offset => .ok _
  · exact .error .invalid

theorem Limit.refusals_record (limit : Limit) (value : Json) :
    FaultsWithin IsValueFault (limit.record value).1 := by
  unfold record
  split
  · exact .ok ()
  · rename_i fault failed
    exact .error (refusals_read value fault failed)

theorem OrderBy.refusals_read (value : Json) : FaultsWithin IsValueFault (read value) := by
  unfold read
  refine FaultsWithin.bind ?_ fun entries => .mapM fun entry => ?_
  · unfold entries
    split
    · exact .ok _
    · refine .map (.mapM fun item => ?_)
      unfold itemEntries
      split
      · exact .ok _
      · exact .error .invalid
    · exact .error .invalid
  · unfold readEntry
    split
    · split
      · exact .ok _
      · exact .error .invalid
    · exact .error .invalid

theorem OrderBy.refusals_record (sorts : List SortKey) (value : Json) :
    FaultsWithin IsValueFault (record sorts value).1 := by
  unfold record
  split
  · exact .ok ()
  · rename_i fault failed
    exact .error (refusals_read value fault failed)

/-- A custom kind of the registry answers a value with an error. -/
def ArgumentRegistry.CustomRefuses (registry : ArgumentRegistry) (fault : GraphError) : Prop :=
  ∃ name kind value, registry.kind? name = some (.custom kind) ∧
    (kind.record [] value).1 = .error fault

theorem ArgumentRegistry.not_customRefuses_builtIn (fault : GraphError) :
    ¬ builtIn.CustomRefuses fault := by
  rintro ⟨name, kind, value, registered, _⟩
  rcases kind?_builtIn_cases registered with ⟨_, ⟨⟩⟩ | ⟨_, ⟨⟩⟩ | ⟨_, ⟨⟩⟩

theorem ArgumentKind.refusals_record {registry : ArgumentRegistry} {name : String}
    {kind : ArgumentKind} (registered : registry.kind? name = some kind) (value : Json)
    {fault : GraphError} (failed : (kind.fresh.record value).1 = .error fault) :
    fault.IsValueFault ∨ registry.CustomRefuses fault := by
  cases kind with
  | filter => exact .inl (Filter.refusals_record [] value fault failed)
  | limit => exact .inl (Limit.refusals_record {} value fault failed)
  | orderBy => exact .inl (OrderBy.refusals_record [] value fault failed)
  | custom kind => exact .inr ⟨name, kind, value, registered, failed⟩

/-- The errors with which arguments are refused for a field that accepts some. -/
inductive ArgumentRegistry.Refuses (registry : ArgumentRegistry) (field : String)
    (accepted : List ArgumentDefinition) : GraphError → Prop
  | value {fault : GraphError} (ofValue : fault.IsValueFault) :
      Refuses registry field accepted fault
  | unaccepted {argument : String} :
      Refuses registry field accepted (.unsupportedArgument field argument)
  | unregistered {definition : ArgumentDefinition} (member : definition ∈ accepted)
      (missing : registry.contains definition.name = false) :
      Refuses registry field accepted (.unknownArgument definition.name)
  | custom {fault : GraphError} (refuses : registry.CustomRefuses fault) :
      Refuses registry field accepted fault

theorem ArgumentRegistry.Refuses.isArgumentFault_or {registry : ArgumentRegistry}
    {field : String} {accepted : List ArgumentDefinition} {fault : GraphError}
    (refuses : registry.Refuses field accepted fault) :
    fault.IsArgumentFault ∨ registry.CustomRefuses fault := by
  cases refuses with
  | value ofValue =>
      cases ofValue with
      | invalid => exact .inl .invalid
      | operation => exact .inl .operation
  | unaccepted => exact .inl .unsupported
  | unregistered member missing => exact .inl .unknown
  | custom refuses => exact .inr refuses

theorem ValidatedArguments.refusals_validate {registry : ArgumentRegistry} {field : String}
    {accepted : List ArgumentDefinition} {entries : List (String × Json)} :
    FaultsWithin (registry.Refuses field accepted) (validate registry field accepted entries) := by
  intro fault invalid
  obtain ⟨_, _, _, _, _, offends⟩ := validate_eq_error_iff.mp invalid
  cases offends with
  | unaccepted unnamed => exact .unaccepted
  | unregistered named given missing =>
      obtain ⟨definition, member, rfl⟩ := List.mem_map.mp named
      exact .unregistered member (by simp [ArgumentRegistry.contains, missing])
  | @refused name value kind fault named given registered failed =>
      rcases ArgumentKind.refusals_record registered value failed with ofValue | refuses
      · exact .value ofValue
      · exact .custom refuses

end NodeGraph
