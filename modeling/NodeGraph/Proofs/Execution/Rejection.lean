import NodeGraph.Proofs.Execution.Calls
import NodeGraph.Proofs.Execution.Faults
import NodeGraph.Proofs.Sql.Sending
import NodeGraph.Schema.Catalog

/-!
# Refused arguments

Arguments are validated when execution arrives at their field.  A request that is refused for
its arguments has therefore called no resolver only if the first field that it selects on the
query root is the one that is refused; wherever else the arguments stand, a resolver was
called before them.
-/

namespace NodeGraph

variable {World α β : Type}

/-- The errors with which arguments are refused. -/
inductive GraphError.IsArgumentFault : GraphError → Prop
  | invalid {argument : String} {fault : ArgumentFault} :
      IsArgumentFault (.invalidArgument argument fault)
  | unknown {argument : String} : IsArgumentFault (.unknownArgument argument)
  | unsupported {field argument : String} :
      IsArgumentFault (.unsupportedArgument field argument)
  | operation {operator : String} : IsArgumentFault (.unsupportedOperation operator)

theorem FaultsOfQuery.not_isArgumentFault {result : Except GraphError α} {fault : GraphError}
    (only : FaultsOfQuery result) (failed : result = .error fault) :
    ¬ fault.IsArgumentFault := by
  obtain ⟨reason, rfl⟩ := only fault failed
  intro argumentFault
  cases argumentFault

namespace Execution

/-- The arguments of a field are read and then refused by the kinds that they are given
for, or as not accepted by the field. -/
def ArgumentsRefused (schema : Schema (Resolver World)) (bindings : JsonObject)
    (field : String) (accepted : List ArgumentDefinition)
    (arguments : List (String × Literal)) (fault : GraphError) : Prop :=
  ∃ raw, Literal.toJsonFields bindings arguments = .ok raw ∧
    ValidatedArguments.validate schema.arguments field accepted (JsonObject.ofEntries raw) =
      .error fault

/-- The first field that is selected on the query root, after any that stand for the name of
the type, has arguments that are refused. -/
inductive RefusedFirst (schema : Schema (Resolver World)) (bindings : JsonObject)
    (fault : GraphError) : List Selection → Prop
  | typename {renamed arguments below selections}
      (rest : RefusedFirst schema bindings fault selections) :
      RefusedFirst schema bindings fault
        (.field renamed typenameField arguments below :: selections)
  | root {renamed name arguments below selections root id}
      (notTypename : name ≠ typenameField) (found : schema.root? name = some root)
      (target : root.output.objectId? = some id)
      (refused : ArgumentsRefused schema bindings root.name root.arguments arguments fault) :
      RefusedFirst schema bindings fault (.field renamed name arguments below :: selections)

/-- A resolver was called between two progresses. -/
def HasCalled (before after : Progress World) : Prop :=
  ∃ params, before.calls ++ [params] <+: after.calls

theorem HasCalled.trans {before middle after : Progress World}
    (called : HasCalled before middle) (kept : middle.calls <+: after.calls) :
    HasCalled before after := by
  obtain ⟨params, recorded⟩ := called
  exact ⟨params, recorded.trans kept⟩

theorem hasCalled_of_recorded {before after : Progress World} {params : ResolveParams}
    (recorded : after.calls = before.calls ++ [params]) : HasCalled before after :=
  ⟨params, recorded ▸ List.prefix_refl _⟩

section Refusal

variable {schema : Schema (Resolver World)} {bindings : JsonObject}
  {before after : Progress World} {fault : GraphError}

theorem validated_eq_error_of_refused {field : String} {accepted : List ArgumentDefinition}
    {arguments : List (String × Literal)}
    (refused : ArgumentsRefused schema bindings field accepted arguments fault) :
    validated schema bindings field accepted arguments = .error fault := by
  obtain ⟨raw, read, refused⟩ := refused
  unfold validated
  rw [read]
  exact refused

theorem argumentsRefused_of_validated {field : String} {accepted : List ArgumentDefinition}
    {arguments : List (String × Literal)} (argumentFault : fault.IsArgumentFault)
    (failed : validated schema bindings field accepted arguments = .error fault) :
    ArgumentsRefused schema bindings field accepted arguments fault := by
  unfold validated at failed
  cases read : Literal.toJsonFields bindings arguments with
  | error reason =>
      rw [read] at failed
      cases failed
      have harmless := (Literal.faultsOfQuery_toJsonFields arguments).not_isArgumentFault read
      exact absurd argumentFault harmless
  | ok raw =>
      rw [read] at failed
      exact ⟨raw, read, failed⟩

section Nodes

variable {field : String} {resolver : Resolver World} {accepted : List ArgumentDefinition}
  {output : OutputType} {arguments : List (String × Literal)} {selections : List Selection}
  {parent : Option Record}
  {complete : ObjectType (Resolver World) → Record → Execution World Json}
  {held : Resolver World → Prop} {allowed : GraphError → Prop}

theorem hasCalled_of_gives_resolveNode
    (each : ∀ id record, Composed held allowed (complete (schema.object id) record)) {value : Json}
    (gives : Gives (resolveNode schema bindings field resolver accepted output arguments
      selections parent complete) before value after) : HasCalled before after := by
  unfold resolveNode at gives
  cases target : output.objectId? with
  | none =>
      rw [target] at gives
      exact absurd gives gives_throw
  | some id =>
      rw [target] at gives
      obtain ⟨given, _, valid, gives⟩ := gives_bind.mp gives
      obtain ⟨_, rfl⟩ := gives_ofExcept.mp valid
      obtain ⟨names, _, selected, gives⟩ := gives_bind.mp gives
      obtain ⟨_, rfl⟩ := gives_ofExcept.mp selected
      obtain ⟨records, middle, called, shaped⟩ := gives_bind.mp gives
      have kept := (composed_shape (each id)).keepsCalls.of_gives shaped
      exact (hasCalled_of_recorded (gives_call.mp called).recorded).trans kept

/-- A node that fails with a fault of arguments has called its resolver, unless it is the
node's own arguments that are refused. -/
theorem refused_or_hasCalled_of_fails_resolveNode (argumentFault : fault.IsArgumentFault)
    (each : ∀ id record, Composed held allowed (complete (schema.object id) record))
    (fails : Fails (resolveNode schema bindings field resolver accepted output arguments
      selections parent complete) before fault after) :
    (∃ id, output.objectId? = some id ∧
        ArgumentsRefused schema bindings field accepted arguments fault) ∨
      HasCalled before after := by
  unfold resolveNode at fails
  cases target : output.objectId? with
  | none =>
      rw [target] at fails
      obtain ⟨rfl, _⟩ := fails_throw.mp fails
      cases argumentFault
  | some id =>
      rw [target] at fails
      rcases fails_bind.mp fails with invalid | ⟨given, _, valid, fails⟩
      · obtain ⟨failed, _⟩ := fails_ofExcept.mp invalid
        exact .inl ⟨id, rfl, argumentsRefused_of_validated argumentFault failed⟩
      obtain ⟨_, rfl⟩ := gives_ofExcept.mp valid
      rcases fails_bind.mp fails with unselected | ⟨names, _, selected, fails⟩
      · obtain ⟨failed, _⟩ := fails_ofExcept.mp unselected
        have harmless := (faultsOfQuery_selectedNames selections).not_isArgumentFault failed
        exact absurd argumentFault harmless
      obtain ⟨_, rfl⟩ := gives_ofExcept.mp selected
      rcases fails_bind.mp fails with uncalled | ⟨records, middle, called, shaped⟩
      · rcases calls_of_fails_call uncalled with rfl | recorded
        · cases argumentFault
        · exact .inr (hasCalled_of_recorded recorded)
      · have kept := (composed_shape (each id)).keepsCalls.of_fails shaped
        exact .inr ((hasCalled_of_recorded (gives_call.mp called).recorded).trans kept)

theorem fails_resolveNode_of_refused {id : Nat} (target : output.objectId? = some id)
    (refused : ArgumentsRefused schema bindings field accepted arguments fault) :
    Fails (resolveNode schema bindings field resolver accepted output arguments selections
      parent complete) before fault before := by
  unfold resolveNode
  rw [target]
  refine fails_bind.mpr (.inl ?_)
  exact fails_ofExcept.mpr ⟨validated_eq_error_of_refused refused, rfl⟩

end Nodes

theorem typename_or_hasCalled_of_gives_rootSelection {selection : Selection}
    {entry : String × Json}
    (gives : Gives (rootSelection schema bindings selection) before entry after) :
    (∃ renamed arguments below,
        selection = .field renamed typenameField arguments below ∧ before = after) ∨
      HasCalled before after := by
  cases selection with
  | fragmentSpread name => exact absurd gives gives_throw
  | inlineFragment typeCondition below => exact absurd gives gives_throw
  | field renamed name arguments below =>
      rw [rootSelection] at gives
      split at gives
      · rename_i typename
        obtain ⟨_, unchanged⟩ := gives_pure.mp gives
        exact .inl ⟨renamed, arguments, below, by rw [typename], unchanged⟩
      · cases found : schema.root? name with
        | none =>
            rw [found] at gives
            exact absurd gives gives_throw
        | some root =>
            rw [found] at gives
            obtain ⟨value, _, resolved, gives⟩ := gives_bind.mp gives
            obtain ⟨_, rfl⟩ := gives_pure.mp gives
            have called := hasCalled_of_gives_resolveNode (composed_completeObject admits_all)
              resolved
            exact .inr called

theorem refused_or_hasCalled_of_fails_rootSelection (argumentFault : fault.IsArgumentFault)
    {selection : Selection}
    (fails : Fails (rootSelection schema bindings selection) before fault after) :
    (∀ rest, RefusedFirst schema bindings fault (selection :: rest)) ∨
      HasCalled before after := by
  cases selection with
  | fragmentSpread name =>
      obtain ⟨rfl, _⟩ := fails_throw.mp fails
      cases argumentFault
  | inlineFragment typeCondition below =>
      obtain ⟨rfl, _⟩ := fails_throw.mp fails
      cases argumentFault
  | field renamed name arguments below =>
      rw [rootSelection] at fails
      split at fails
      · exact absurd fails not_fails_pure
      · rename_i notTypename
        cases found : schema.root? name with
        | none =>
            rw [found] at fails
            obtain ⟨rfl, _⟩ := fails_throw.mp fails
            cases argumentFault
        | some root =>
            rw [found] at fails
            rcases fails_bind.mp fails with fails | ⟨_, _, _, fails⟩
            · rcases refused_or_hasCalled_of_fails_resolveNode argumentFault
                (composed_completeObject admits_all) fails with ⟨id, target, refused⟩ | called
              · exact .inl fun rest => .root notTypename found target refused
              · exact .inr called
            · exact absurd fails not_fails_pure

/-- Along the selections on the query root, a fault of arguments is that of the first field
or comes after a call. -/
theorem refusedFirst_or_hasCalled_of_fails (argumentFault : fault.IsArgumentFault)
    {selections : List Selection}
    (fails : Fails (selections.mapM (rootSelection schema bindings)) before fault after) :
    RefusedFirst schema bindings fault selections ∨ HasCalled before after := by
  induction selections generalizing before with
  | nil => exact absurd fails not_fails_pure
  | cons selection rest ih =>
      rw [List.mapM_cons] at fails
      rcases fails_bind.mp fails with first | ⟨entry, middle, given, fails⟩
      · rcases refused_or_hasCalled_of_fails_rootSelection argumentFault first with
          refused | called
        · exact .inl (refused rest)
        · exact .inr called
      rcases fails_bind.mp fails with later | ⟨entries, _, _, fails⟩
      · rcases typename_or_hasCalled_of_gives_rootSelection given with
          ⟨renamed, arguments, below, rfl, rfl⟩ | called
        -- A name of the type leaves the progress as it was, so the first field is in the rest.
        · exact (ih later).imp_left .typename
        -- The rest fails whatever its reason, and it takes back no call.
        · have keeps : KeepsCalls (rest.mapM (rootSelection schema bindings)) :=
            (Composed.mapM (composed_rootSelection admits_all)).keepsCalls
          exact .inr (called.trans (keeps.of_fails later))
      · exact absurd fails not_fails_pure

theorem fails_of_refusedFirst {selections : List Selection}
    (refused : RefusedFirst schema bindings fault selections) :
    Fails (selections.mapM (rootSelection schema bindings)) before fault before := by
  induction refused with
  | typename rest ih =>
      rw [List.mapM_cons, rootSelection, if_pos rfl]
      exact fails_bind.mpr (.inr ⟨_, before, gives_pure.mpr ⟨rfl, rfl⟩,
        fails_bind.mpr (.inl ih)⟩)
  | root notTypename found target refused =>
      rw [List.mapM_cons]
      refine fails_bind.mpr (.inl ?_)
      rw [rootSelection, if_neg notTypename, found]
      exact fails_bind.mpr (.inl (fails_resolveNode_of_refused target refused))

end Refusal

end Execution

/-- A request that is refused for its arguments either is refused at the first field on the
query root and leaves everything as it was, or has called a resolver before. -/
theorem Schema.refused_first_or_called {schema : Schema (Resolver World)}
    {request : QueryRequest} {before after : Progress World} {fault : GraphError}
    (executed : schema.execute request before = (.error fault, after))
    (argumentFault : fault.IsArgumentFault) :
    ∃ selections bindings, Schema.prepare request = .ok (selections, bindings) ∧
      (Execution.RefusedFirst schema bindings fault selections ∧ after = before ∨
        ¬ Execution.RefusedFirst schema bindings fault selections ∧
          ∃ params, before.calls ++ [params] <+: after.calls) := by
  have fails : Execution.Fails (schema.execute request) before fault after := executed
  rcases Execution.fails_bind.mp fails with unready | ⟨⟨selections, bindings⟩, _, ready, fails⟩
  · obtain ⟨failed, _⟩ := Execution.fails_ofExcept.mp unready
    have harmless := (Schema.faultsOfQuery_prepare request).not_isArgumentFault failed
    exact absurd argumentFault harmless
  obtain ⟨prepared, rfl⟩ := Execution.gives_ofExcept.mp ready
  refine ⟨selections, bindings, prepared, ?_⟩
  rcases Execution.fails_bind.mp fails with fails | ⟨_, _, _, fails⟩
  · by_cases refused : Execution.RefusedFirst schema bindings fault selections
    · have unchanged : Execution.Fails
          (selections.mapM (Execution.rootSelection schema bindings)) before fault before :=
        Execution.fails_of_refusedFirst refused
      exact .inl ⟨refused, (Prod.mk.inj (fails.symm.trans unchanged)).2⟩
    · have called := Execution.refusedFirst_or_hasCalled_of_fails argumentFault fails
      exact .inr ⟨refused, called.resolve_left refused⟩
  · exact absurd fails Execution.not_fails_pure

/-- A table adapter fails because its statement lacks a fragment, because the request was
cancelled or with the failure of its source. -/
theorem TableAdapter.faults_resolve (adapter : TableAdapter World) {params : ResolveParams}
    {state : RequestState World} {fault : GraphError}
    (failed : (adapter.resolve params state).1 = .error fault) :
    fault = .incompleteQuery .missingFragments ∨ fault = .cancelled ∨
      ∃ reason, fault = .execution params.field reason := by
  obtain ⟨answer, sent, after, ends⟩ := exists_ends adapter params state
  rw [ends.resolve_eq] at failed
  obtain rfl : answer = .error fault := failed
  cases ends with
  | incomplete => exact .inl rfl
  | cancelled => exact .inr (.inl rfl)
  | interrupted => exact .inr (.inl rfl)
  | failed => exact .inr (.inr ⟨_, rfl⟩)

/-- A table adapter never blames the arguments. -/
theorem TableAdapter.not_isArgumentFault_of_resolve (adapter : TableAdapter World)
    {params : ResolveParams} {state : RequestState World} {fault : GraphError}
    (failed : (adapter.resolve params state).1 = .error fault) : ¬ fault.IsArgumentFault := by
  intro argumentFault
  rcases adapter.faults_resolve failed with rfl | rfl | ⟨reason, rfl⟩ <;> cases argumentFault

namespace Directory

/-- Users in a table whose source keeps the statements that are sent to it. -/
def users : TableAdapter (List String) where
  table := "users"
  columns := [{ name := "id" }]
  source := fun statement state =>
    .answered (.ok ⟨["id"], [[.integer 1]]⟩) { state with world := state.world ++ [statement] }

def departments : Resolver (List String) := fun _ state =>
  (.ok [[("id", Json.ofInt 7)]], state)

def directory : Catalog (Resolver (List String)) :=
  .ofNodes
    [{ name := "users"
       nodeType := "user"
       fields := [{ name := "id", fieldType := .scalar .int }]
       resolver := users.resolve },
     { name := "departments"
       nodeType := "department"
       fields := [{ name := "id", fieldType := .scalar .int }]
       resolver := departments }]
    .builtIn

def start : Progress (List String) := ⟨⟨[], false⟩, []⟩

/-- The error of a request together with what it left behind: the fields whose resolvers
were called and the statements that were sent. -/
def refusal (request : QueryRequest) : Option (GraphError × List String × List String) :=
  match directory.schema.1 with
  | .error _ => none
  | .ok schema =>
      match schema.execute request start with
      | (.error fault, after) =>
          some (fault, after.calls.map ResolveParams.field, after.state.world)
      | (.ok _, _) => none

theorem exists_of_refusal {request : QueryRequest} {fault : GraphError}
    {fields statements : List String}
    (refused : refusal request = some (fault, fields, statements)) :
    ∃ schema after, directory.schema.1 = .ok schema ∧
      schema.execute request start = (.error fault, after) ∧
      after.calls.map ResolveParams.field = fields ∧ after.state.world = statements := by
  unfold refusal at refused
  split at refused
  · cases refused
  · rename_i schema built
    split at refused
    · rename_i after executed
      cases refused
      exact ⟨schema, after, built, executed, rfl, rfl⟩
    · cases refused

def firstRefused : QueryRequest where
  query := "\x7b __typename departments(group_by: \"id\") \x7b id \x7d users \x7b id \x7d \x7d"

theorem first_refused_silently :
    ∃ schema after selections bindings, directory.schema.1 = .ok schema ∧
      schema.execute firstRefused start =
        (.error (.unsupportedArgument "departments" "group_by"), after) ∧
      Schema.prepare firstRefused = .ok (selections, bindings) ∧
      Execution.RefusedFirst schema bindings
        (.unsupportedArgument "departments" "group_by") selections ∧ after = start := by
  have shown : refusal firstRefused =
      some (.unsupportedArgument "departments" "group_by", [], []) := by
    decide +kernel
  obtain ⟨schema, after, built, executed, silent, _⟩ := exists_of_refusal shown
  obtain ⟨selections, bindings, prepared, refused | ⟨_, params, called⟩⟩ :=
    Schema.refused_first_or_called executed .unsupported
  · exact ⟨schema, after, selections, bindings, built, executed, prepared, refused⟩
  · rw [List.map_eq_nil_iff.mp silent] at called
    simp [start] at called

def laterRefused : QueryRequest where
  query := "\x7b users \x7b id \x7d departments(group_by: \"id\") \x7b id \x7d \x7d"

/-- No resolver blames the arguments, yet the users were selected before the departments
refused theirs. -/
theorem later_refused_after_statement :
    (∀ node ∈ directory.nodes, (∀ field ∈ node.fields, field.resolver = none) ∧
        ∀ params state fault, (node.resolver params state).1 = .error fault →
          ¬ fault.IsArgumentFault) ∧
      ∃ schema after, directory.schema.1 = .ok schema ∧
        schema.execute laterRefused start =
          (.error (.unsupportedArgument "departments" "group_by"), after) ∧
        after.calls.map ResolveParams.field = ["users"] ∧
        after.state.world = ["SELECT id FROM users"] := by
  refine ⟨?_, exists_of_refusal (by decide +kernel)⟩
  intro node member
  rcases List.mem_cons.mp member with rfl | member
  · refine ⟨by simp, fun params state fault failed => ?_⟩
    exact users.not_isArgumentFault_of_resolve failed
  · obtain rfl := List.mem_singleton.mp member
    refine ⟨by simp, fun params state fault failed => ?_⟩
    cases failed

end Directory

end NodeGraph
