import NodeGraph.Proofs.Argument.Refusals
import NodeGraph.Proofs.Catalog.Exactness
import NodeGraph.Proofs.RelatedLists

/-!
# Cancelled requests

A request that was cancelled before it is executed calls no resolver, so its answer can be
read off the request and the schema: the data of a request that asks for nothing but the name of
the query type, the first check that fails, or that the request was cancelled.
-/

namespace NodeGraph

variable {World : Type}

namespace Selection

/-- The selection stands for the name of the type. -/
def isTypename : Selection → Bool
  | .field _ name _ _ => name == typenameField
  | _ => false

/-- The first selection that does not stand for the name of the type. -/
def firstOther? (selections : List Selection) : Option Selection :=
  selections.find? fun selection => !selection.isTypename

theorem firstOther?_eq_none_iff {selections : List Selection} :
    firstOther? selections = none ↔ ∀ selection ∈ selections, selection.isTypename = true := by
  simp [firstOther?]

end Selection

namespace Execution

/-- A selection on the query root that comes as far as the call of its resolver: it is a field,
the query root has the field, its literals convert, its arguments are validated and all that is
selected below it are fields. -/
inductive RootReady (schema : Schema (Resolver World)) (bindings : JsonObject) : Selection → Prop
  | field {renamed name arguments below root raw given} (found : schema.root? name = some root)
      (converted : Literal.toJsonFields bindings arguments = .ok raw)
      (valid : ValidatedArguments.validate schema.arguments root.name root.arguments
        (JsonObject.ofEntries raw) = .ok given)
      (fields : ∀ selection ∈ below, selection.name?.isSome = true) :
      RootReady schema bindings (.field renamed name arguments below)

/-- What is checked of a selection on the query root before its resolver is called. -/
def rootChecks (schema : Schema (Resolver World)) (bindings : JsonObject) :
    Selection → Except GraphError Unit
  | .fragmentSpread name => .error (.query (.fragmentSpread name))
  | .inlineFragment _ _ => .error (.query .inlineFragment)
  | .field _ name arguments below =>
      match schema.root? name with
      | none => .error (.query (.unknownField name queryTypeName))
      | some root => do
          let _ ← validated schema bindings root.name root.arguments arguments
          let _ ← selectedNames below
          return ()

/-- The error with which a cancelled request ends at a selection on the query root. -/
def denial (schema : Schema (Resolver World)) (bindings : JsonObject) (selection : Selection) :
    GraphError :=
  match rootChecks schema bindings selection with
  | .error fault => fault
  | .ok () => .cancelled

/-- The data of a selection set that asks for nothing but the name of the query type. -/
def typenameData (selections : List Selection) : Json :=
  answeredObject ((selections.filterMap Selection.key?).map fun key =>
    (key, .string queryTypeName))

section Checks

variable {schema : Schema (Resolver World)} {bindings : JsonObject} {selection : Selection}

theorem exists_selectedNames_iff {selections : List Selection} :
    (∃ names, selectedNames selections = .ok names) ↔
      ∀ selection ∈ selections, selection.name?.isSome = true := by
  have named : ∀ selection, (∃ name, fieldName selection = .ok name) ↔
      selection.name?.isSome = true := by
    intro selection
    cases selection <;> simp [fieldName, Selection.name?]
  simp only [← named, ← exists_mapM_iff]
  unfold selectedNames
  cases selections.mapM fieldName with
  | error fault =>
      constructor
      · rintro ⟨names, given⟩
        cases given
      · rintro ⟨names, given⟩
        cases given
  | ok names => exact ⟨fun _ => ⟨names, rfl⟩, fun _ => ⟨_, rfl⟩⟩

theorem rootChecks_eq_ok_iff :
    rootChecks schema bindings selection = .ok () ↔ RootReady schema bindings selection := by
  constructor
  · intro checked
    cases selection with
    | fragmentSpread name => cases checked
    | inlineFragment typeCondition below => cases checked
    | field renamed name arguments below =>
        rw [rootChecks] at checked
        cases found : schema.root? name with
        | none =>
            rw [found] at checked
            cases checked
        | some root =>
            rw [found] at checked
            obtain ⟨given, validated, checked⟩ := exists_of_bind_eq_ok checked
            obtain ⟨names, selected, _⟩ := exists_of_bind_eq_ok checked
            obtain ⟨raw, converted, valid⟩ := exists_of_bind_eq_ok validated
            exact .field found converted valid (exists_selectedNames_iff.mp ⟨names, selected⟩)
  · rintro ⟨found, converted, valid, fields⟩
    obtain ⟨names, selected⟩ := exists_selectedNames_iff.mpr fields
    rw [rootChecks, found]
    dsimp only
    rw [validated, converted]
    dsimp only [bind, Except.bind]
    rw [valid, selected]
    rfl

/-- The checks of a selection fail with a fault of the query or of arguments, unless a custom
kind answers something else. -/
theorem refusals_rootChecks :
    FaultsWithin (fun fault => (∃ reason, fault = .query reason) ∨ fault.IsArgumentFault ∨
      schema.arguments.CustomRefuses fault) (rootChecks schema bindings selection) := by
  cases selection with
  | fragmentSpread name => exact .error (.inl ⟨_, rfl⟩)
  | inlineFragment typeCondition below => exact .error (.inl ⟨_, rfl⟩)
  | field renamed name arguments below =>
      rw [rootChecks]
      split
      · exact .error (.inl ⟨_, rfl⟩)
      · refine FaultsWithin.bind ?_ fun given => FaultsWithin.bind ?_ fun names => .ok ()
        · refine FaultsWithin.bind ?_ fun raw => ?_
          · exact FaultsWithin.mono (Literal.faultsOfQuery_toJsonFields arguments) fun _ => .inl
          · exact ValidatedArguments.refusals_validate.mono fun _ refuses =>
              .inr refuses.isArgumentFault_or
        · exact FaultsWithin.mono (faultsOfQuery_selectedNames below) fun _ => .inl

theorem denial_of_ready (ready : RootReady schema bindings selection) :
    denial schema bindings selection = .cancelled := by
  unfold denial
  rw [rootChecks_eq_ok_iff.mpr ready]

theorem ready_or_customRefuses_of_denial
    (denied : denial schema bindings selection = .cancelled) :
    RootReady schema bindings selection ∨ schema.arguments.CustomRefuses .cancelled := by
  unfold denial at denied
  cases checked : rootChecks schema bindings selection with
  | ok _ => exact .inl (rootChecks_eq_ok_iff.mp checked)
  | error fault =>
      rw [checked] at denied
      subst denied
      rcases refusals_rootChecks _ checked with ⟨reason, other⟩ | argumentFault | refused
      · cases other
      · cases argumentFault
      · exact .inr refused

end Checks

section Cancelled

variable {schema : Schema (Resolver World)} {bindings : JsonObject} {before : Progress World}

theorem fails_call_of_cancelled (cancelled : before.state.cancelled = true)
    (resolver : Resolver World) (params : ResolveParams) :
    Fails (call resolver params) before .cancelled before := by
  unfold Fails call
  rw [if_pos cancelled]

theorem gives_rootSelection_of_typename {selection : Selection}
    (typename : selection.isTypename = true) :
    ∃ key, selection.key? = some key ∧
      Gives (rootSelection schema bindings selection) before (key, .string queryTypeName)
        before := by
  cases selection with
  | fragmentSpread name => cases typename
  | inlineFragment typeCondition below => cases typename
  | field renamed name arguments below =>
      refine ⟨_, rfl, ?_⟩
      rw [rootSelection, if_pos (by simpa [Selection.isTypename] using typename)]
      exact gives_pure.mpr ⟨rfl, rfl⟩

/-- Selections that stand for the name of the type leave everything as it was. -/
theorem gives_rootSelections_of_typenames {selections : List Selection}
    (typenames : ∀ selection ∈ selections, selection.isTypename = true) :
    Gives (rootSelections schema bindings selections) before (typenameData selections) before := by
  refine gives_bind.mpr ⟨_, before, ?_, gives_pure.mpr ⟨rfl, rfl⟩⟩
  induction selections with
  | nil => exact gives_pure.mpr ⟨rfl, rfl⟩
  | cons selection rest ih =>
      obtain ⟨typename, typenames⟩ := List.forall_mem_cons.mp typenames
      obtain ⟨key, keyed, given⟩ := gives_rootSelection_of_typename typename
      rw [List.filterMap_cons_some keyed, List.map_cons, List.mapM_cons]
      exact gives_bind.mpr ⟨_, before, given,
        gives_bind.mpr ⟨_, before, ih typenames, gives_pure.mpr ⟨rfl, rfl⟩⟩⟩

variable (targets : ∀ name root, schema.root? name = some root →
  ∃ id, root.output.objectId? = some id)

include targets

/-- A cancelled request ends at a selection that does not stand for the name of the type, with
the first check that fails or at the call. -/
theorem fails_rootSelection_of_cancelled (cancelled : before.state.cancelled = true)
    {selection : Selection} (other : selection.isTypename = false) :
    Fails (rootSelection schema bindings selection) before
      (denial schema bindings selection) before := by
  cases selection with
  | fragmentSpread name => exact fails_throw.mpr ⟨rfl, rfl⟩
  | inlineFragment typeCondition below => exact fails_throw.mpr ⟨rfl, rfl⟩
  | field renamed name arguments below =>
      have notTypename : name ≠ typenameField := by simpa [Selection.isTypename] using other
      rw [rootSelection, if_neg notTypename, denial, rootChecks]
      cases found : schema.root? name with
      | none => exact fails_throw.mpr ⟨rfl, rfl⟩
      | some root =>
          obtain ⟨id, target⟩ := targets name root found
          refine fails_bind.mpr (.inl ?_)
          rw [resolveNode, target]
          dsimp only
          cases valid : validated schema bindings root.name root.arguments arguments with
          | error fault => exact fails_bind.mpr (.inl (fails_ofExcept.mpr ⟨rfl, rfl⟩))
          | ok given =>
              refine fails_bind.mpr (.inr ⟨given, before, gives_ofExcept.mpr ⟨rfl, rfl⟩, ?_⟩)
              cases selected : selectedNames below with
              | error fault => exact fails_bind.mpr (.inl (fails_ofExcept.mpr ⟨rfl, rfl⟩))
              | ok names =>
                  refine fails_bind.mpr (.inr ⟨names, before, gives_ofExcept.mpr ⟨rfl, rfl⟩, ?_⟩)
                  exact fails_bind.mpr (.inl (fails_call_of_cancelled cancelled _ _))

theorem fails_rootSelections_of_cancelled (cancelled : before.state.cancelled = true)
    {selections : List Selection} {other : Selection}
    (first : Selection.firstOther? selections = some other) :
    Fails (rootSelections schema bindings selections) before (denial schema bindings other)
      before := by
  refine fails_bind.mpr (.inl ?_)
  induction selections with
  | nil => cases first
  | cons selection rest ih =>
      rw [List.mapM_cons]
      unfold Selection.firstOther? at first
      cases typename : selection.isTypename with
      | true =>
          rw [List.find?_cons_of_neg (by simp [typename])] at first
          obtain ⟨key, _, given⟩ := gives_rootSelection_of_typename typename
          exact fails_bind.mpr (.inr ⟨_, before, given, fails_bind.mpr (.inl (ih first))⟩)
      | false =>
          rw [List.find?_cons_of_pos (by simp [typename])] at first
          cases first
          exact fails_bind.mpr (.inl (fails_rootSelection_of_cancelled targets cancelled typename))

end Cancelled

end Execution

namespace Schema

/-- What a request answers that was cancelled before. -/
def cancelledAnswer (schema : Schema (Resolver World)) (request : QueryRequest) :
    Except GraphError Json := do
  let (selections, bindings) ← prepare request
  match Selection.firstOther? selections with
  | none => return Execution.typenameData selections
  | some other => .error (Execution.denial schema bindings other)

/-- The request is read, an operation is chosen and its variables are bound, and the first
selection on the query root that does not stand for the name of the type comes as far as the call
of its resolver. -/
def ReachesCall (schema : Schema (Resolver World)) (request : QueryRequest) : Prop :=
  ∃ selections bindings other, prepare request = .ok (selections, bindings) ∧
    Selection.firstOther? selections = some other ∧ Execution.RootReady schema bindings other

/-- The answer to a request that was cancelled depends on the request and the schema only, and
everything is left as it was. -/
theorem execute_of_cancelled {schema : Schema (Resolver World)}
    (targets : ∀ name root, schema.root? name = some root →
      ∃ id, root.output.objectId? = some id)
    (request : QueryRequest) {before : Progress World}
    (cancelled : before.state.cancelled = true) :
    schema.execute request before = (schema.cancelledAnswer request, before) := by
  rw [execute, cancelledAnswer]
  cases prepared : prepare request with
  | error fault => rfl
  | ok ready =>
      obtain ⟨selections, bindings⟩ := ready
      change Execution.rootSelections schema bindings selections before =
        (match Selection.firstOther? selections with
          | none => .ok (Execution.typenameData selections)
          | some other => .error (Execution.denial schema bindings other), before)
      cases first : Selection.firstOther? selections with
      | none =>
          have typenames := Selection.firstOther?_eq_none_iff.mp first
          exact Execution.gives_rootSelections_of_typenames typenames
      | some other => exact Execution.fails_rootSelections_of_cancelled targets cancelled first

section Answers

variable {schema : Schema (Resolver World)} {request : QueryRequest}

theorem cancelledAnswer_eq_ok_iff {data : Json} :
    schema.cancelledAnswer request = .ok data ↔ ∃ selections bindings,
      prepare request = .ok (selections, bindings) ∧
        (∀ selection ∈ selections, selection.isTypename = true) ∧
        data = Execution.typenameData selections := by
  rw [cancelledAnswer]
  constructor
  · intro answered
    obtain ⟨⟨selections, bindings⟩, prepared, answered⟩ := exists_of_bind_eq_ok answered
    dsimp only at answered
    split at answered
    · rename_i none
      cases answered
      exact ⟨selections, bindings, prepared, Selection.firstOther?_eq_none_iff.mp none, rfl⟩
    · cases answered
  · rintro ⟨selections, bindings, prepared, typenames, rfl⟩
    rw [prepared]
    dsimp only [bind, Except.bind]
    rw [Selection.firstOther?_eq_none_iff.mpr typenames]
    rfl

theorem cancelledAnswer_of_reachesCall (reaches : schema.ReachesCall request) :
    schema.cancelledAnswer request = .error .cancelled := by
  obtain ⟨selections, bindings, other, prepared, first, ready⟩ := reaches
  rw [cancelledAnswer, prepared]
  dsimp only [bind, Except.bind]
  rw [first]
  dsimp only
  rw [Execution.denial_of_ready ready]

theorem reachesCall_or_customRefuses_of_cancelledAnswer
    (answered : schema.cancelledAnswer request = .error .cancelled) :
    schema.ReachesCall request ∨ schema.arguments.CustomRefuses .cancelled := by
  rw [cancelledAnswer] at answered
  cases prepared : prepare request with
  | error fault =>
      obtain ⟨reason, rfl⟩ := faultsOfQuery_prepare request fault prepared
      rw [prepared] at answered
      cases answered
  | ok ready =>
      obtain ⟨selections, bindings⟩ := ready
      rw [prepared] at answered
      dsimp only [bind, Except.bind] at answered
      split at answered
      · cases answered
      · rename_i other first
        have denied : Execution.denial schema bindings other = .cancelled := by
          simpa using answered
        refine (Execution.ready_or_customRefuses_of_denial denied).imp_left fun ready => ?_
        exact ⟨selections, bindings, other, prepared, first, ready⟩

end Answers

end Schema

theorem SchemaBuilt.exists_target {list : NodeList (Resolver World)}
    {schema : Schema (Resolver World)} (built : SchemaBuilt list schema) (name : String)
    (root : RootField (Resolver World)) (found : schema.root? name = some root) :
    ∃ id, root.output.objectId? = some id := by
  obtain ⟨node, _, rootBuilt⟩ :=
    exists_left_of_forall₂ built.roots (List.mem_of_find?_eq_some found)
  cases rootBuilt with
  | mk id arguments placed defined => exact ⟨id, OutputType.objectId?_forNode id node.isList⟩

/-- A table adapter that is called in a cancelled request answers without its source. -/
theorem TableAdapter.resolve_of_cancelled (adapter : TableAdapter World) (params : ResolveParams)
    {state : RequestState World} (cancelled : state.cancelled = true) :
    (adapter.resolve params state).2 = state ∧
      ∀ source, ({ adapter with source } : TableAdapter World).resolve params state =
        adapter.resolve params state := by
  obtain ⟨answer, sent, after, ends⟩ := exists_ends adapter params state
  obtain rfl : sent = [] := by
    rw [ends.sent_eq_nil_iff]
    rintro ⟨_, _, running⟩
    exact Bool.false_ne_true (running.symm.trans cancelled)
  rw [ends.resolve_eq]
  exact ⟨ends.after_eq, fun source => (ends.withSource source).resolve_eq⟩

/-- A request that was cancelled before it is executed calls nothing and changes nothing.  It
gives data only if it asks for nothing but the name of the query type, and it fails as cancelled
if it comes as far as the call of a resolver, and only then, unless a custom kind of arguments
answers so itself.  A table adapter that is called in a cancelled request never reaches for its
source. -/
theorem Schema.cancelled_touches_nothing {catalog : Catalog (Resolver World)}
    (reachable : catalog.Reachable) {schema : Schema (Resolver World)}
    (built : catalog.schema.1 = .ok schema) (request : QueryRequest) {before : Progress World}
    (cancelled : before.state.cancelled = true) :
    (schema.execute request before).2 = before ∧
      (∀ data, (schema.execute request before).1 = .ok data ↔ ∃ selections bindings,
        prepare request = .ok (selections, bindings) ∧
          (∀ selection ∈ selections, selection.isTypename = true) ∧
          data = Execution.typenameData selections) ∧
      (schema.ReachesCall request → (schema.execute request before).1 = .error .cancelled) ∧
      (¬ schema.arguments.CustomRefuses .cancelled →
        ((schema.execute request before).1 = .error .cancelled ↔ schema.ReachesCall request)) ∧
      ∀ (adapter : TableAdapter World) (params : ResolveParams) (state : RequestState World),
        state.cancelled = true → (adapter.resolve params state).2 = state ∧
          ∀ source, ({ adapter with source } : TableAdapter World).resolve params state =
            adapter.resolve params state := by
  have targets := (reachable.schemaBuilt built).exists_target
  rw [execute_of_cancelled targets request cancelled]
  refine ⟨rfl, fun data => cancelledAnswer_eq_ok_iff, cancelledAnswer_of_reachesCall, ?_, ?_⟩
  · intro noCustom
    refine ⟨fun answered => ?_, cancelledAnswer_of_reachesCall⟩
    exact (reachesCall_or_customRefuses_of_cancelledAnswer answered).resolve_right noCustom
  · intro adapter params state stateCancelled
    exact adapter.resolve_of_cancelled params stateCancelled

namespace Directory

def stopped : Progress (List String) := ⟨⟨[], true⟩, []⟩

def usersAndType : QueryRequest where
  query := "\x7b __typename users \x7b id \x7d \x7d"

theorem directory_reachable : directory.Reachable :=
  Catalog.reachable_ofNodes _ (by decide) (by decide)

/-- The error of a request that was cancelled before it is executed. -/
def failure (request : QueryRequest) : Option GraphError :=
  match directory.schema.1 with
  | .error _ => none
  | .ok schema =>
      match (schema.execute request stopped).1 with
      | .error fault => some fault
      | .ok _ => none

theorem exists_of_failure {request : QueryRequest} {fault : GraphError}
    (failed : failure request = some fault) :
    ∃ schema, directory.schema.1 = .ok schema ∧
      (schema.execute request stopped).1 = .error fault := by
  unfold failure at failed
  split at failed
  · cases failed
  · rename_i schema built
    split at failed
    · rename_i thrown executed
      cases failed
      exact ⟨schema, built, executed⟩
    · cases failed

theorem users_cancelled :
    directory.Reachable ∧ stopped.state.cancelled = true ∧
      ∃ schema, directory.schema.1 = .ok schema ∧ schema.ReachesCall usersAndType ∧
        schema.execute usersAndType stopped = (.error .cancelled, stopped) ∧
        (users.resolve { field := "users" } stopped.state).2.world = [] := by
  have cancelled : stopped.state.cancelled = true := rfl
  refine ⟨directory_reachable, cancelled, ?_⟩
  have shown : failure usersAndType = some .cancelled := by decide +kernel
  obtain ⟨schema, built, failed⟩ := exists_of_failure shown
  have builtIn : ¬ schema.arguments.CustomRefuses .cancelled := by
    rw [(directory_reachable.schemaBuilt built).arguments]
    exact ArgumentRegistry.not_customRefuses_builtIn .cancelled
  obtain ⟨unchanged, _, _, exactly, adapters⟩ :=
    Schema.cancelled_touches_nothing directory_reachable built usersAndType cancelled
  refine ⟨schema, built, (exactly builtIn).mp failed, Prod.ext failed unchanged, ?_⟩
  rw [(adapters users _ _ cancelled).1]
  rfl

end Directory

end NodeGraph
