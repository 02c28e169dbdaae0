import NodeGraph.Proofs.Catalog.Definitions
import NodeGraph.Proofs.Execution.Cancellation

/-!
# The phases of errors

Errors of requests are told apart from those of schemas by `GraphError.isRequestError`.  Every
error that execution itself raises over a built schema is one of requests, and none of them is
about an unknown kind of arguments, because every kind that a built schema accepts is registered.
The build of a schema raises that one error for a node that names such a kind, so it is the only
error of construction that is taken for one of a request.
-/

namespace NodeGraph

/-- The error is one of requests, and no build of a schema raises it. -/
def GraphError.IsOfRequest (fault : GraphError) : Prop :=
  fault.isRequestError = true ∧ ∀ kind, fault ≠ .unknownArgument kind

theorem GraphError.IsOfRequest.query (reason : QueryFault) :
    (GraphError.query reason).IsOfRequest :=
  ⟨rfl, nofun⟩

theorem GraphError.IsValueFault.isOfRequest {fault : GraphError} (ofValue : fault.IsValueFault) :
    fault.IsOfRequest := by
  cases ofValue with
  | invalid => exact ⟨rfl, nofun⟩
  | operation => exact ⟨rfl, nofun⟩

theorem TableAdapter.isOfRequest_of_resolve {World : Type} (adapter : TableAdapter World)
    {params : ResolveParams} {state : RequestState World} {fault : GraphError}
    (failed : (adapter.resolve params state).1 = .error fault) : fault.IsOfRequest := by
  rcases adapter.faults_resolve failed with rfl | rfl | ⟨reason, rfl⟩
  · exact ⟨rfl, nofun⟩
  · exact ⟨rfl, nofun⟩
  · exact ⟨rfl, nofun⟩

namespace Schema

/-- Every argument that is accepted somewhere in the schema is of a registered kind. -/
def KindsRegistered {R : Type} (schema : Schema R) : Prop :=
  ∀ argument, schema.HasArgument argument → schema.arguments.contains argument.name = true

/-- A resolver of a root field or of a field of an object. -/
def Holds {R : Type} (schema : Schema R) (resolver : R) : Prop :=
  (∃ root ∈ schema.roots, root.resolver = resolver) ∨
    ∃ object ∈ schema.objects, ∃ field ∈ object.fields, field.resolver = some resolver

end Schema

theorem SchemaBuilt.kindsRegistered {R : Type} {list : NodeList R} {schema : Schema R}
    (built : SchemaBuilt list schema) : schema.KindsRegistered := by
  intro argument has
  obtain ⟨object, held, takes⟩ := built.sound.arguments argument has
  obtain ⟨node, _, objectBuilt⟩ := built.owned object held
  have named : argument.name ∈ object.arguments.map ArgumentDefinition.name :=
    List.mem_map_of_mem takes
  rw [objectBuilt.arguments.names, List.mem_eraseDups] at named
  rw [built.arguments]
  exact objectBuilt.arguments.contains named

namespace Schema

variable {World : Type} {schema : Schema (Resolver World)}

/-- What execution over a schema raises between the calls of resolvers. -/
def Raises (schema : Schema (Resolver World)) (fault : GraphError) : Prop :=
  fault.IsOfRequest ∨ schema.arguments.CustomRefuses fault

theorem raises_validated {bindings : JsonObject} {field : String}
    {accepted : List ArgumentDefinition} {arguments : List (String × Literal)}
    (registered : ∀ definition ∈ accepted,
      schema.arguments.contains definition.name = true) :
    FaultsWithin schema.Raises
      (Execution.validated schema bindings field accepted arguments) := by
  refine FaultsWithin.bind ?_ fun raw => ?_
  · intro fault failed
    obtain ⟨reason, rfl⟩ := Literal.faultsOfQuery_toJsonFields arguments fault failed
    exact .inl (.query reason)
  · intro fault failed
    cases ValidatedArguments.refusals_validate fault failed with
    | value ofValue => exact .inl ofValue.isOfRequest
    | unaccepted => exact .inl ⟨rfl, nofun⟩
    | unregistered member missing =>
        have contained := registered _ member
        rw [missing] at contained
        cases contained
    | custom refuses => exact .inr refuses

theorem KindsRegistered.admits (registered : schema.KindsRegistered) (bindings : JsonObject) :
    Execution.Admits schema bindings schema.Holds schema.Raises where
  query reason := .inl (.query reason)
  rootHeld root held := .inl ⟨root, held, rfl⟩
  rootArguments _ held _ :=
    raises_validated fun definition member => registered definition (.root held member)
  fieldHeld object held field declares _ owned := .inr ⟨object, held, field, declares, owned⟩
  fieldArguments _ held _ declares _ :=
    raises_validated fun definition member => registered definition (.field held declares member)

/-- The error is what a resolver of the schema, other than a table adapter, answered to the
last call. -/
def MadeUp (schema : Schema (Resolver World)) (fault : GraphError)
    (after : Progress World) : Prop :=
  Execution.AnsweredWith
    (fun resolver => schema.Holds resolver ∧
      ∀ adapter : TableAdapter World, resolver ≠ adapter.resolve) fault after

/-- A request fails with an error of requests, unless a custom kind or a custom resolver has
made the error up. -/
theorem fault_of_execute (registered : schema.KindsRegistered) {request : QueryRequest}
    {before after : Progress World} {fault : GraphError}
    (executed : schema.execute request before = (.error fault, after)) :
    fault.IsOfRequest ∨ schema.arguments.CustomRefuses fault ∨ schema.MadeUp fault after := by
  have composed := Execution.composed_execute registered.admits request
  rcases composed.blame executed with
    (ofRequest | refuses) | rfl | ⟨resolver, params, state, held, last, answered⟩
  · exact .inl ofRequest
  · exact .inr (.inl refuses)
  · exact .inl ⟨rfl, nofun⟩
  · by_cases adapts : ∃ adapter : TableAdapter World, resolver = adapter.resolve
    · obtain ⟨adapter, rfl⟩ := adapts
      exact .inl (adapter.isOfRequest_of_resolve (congrArg Prod.fst answered))
    · exact .inr (.inr ⟨resolver, params, state, ⟨held, not_exists.mp adapts⟩, last, answered⟩)

end Schema

namespace Catalog

variable {R : Type}

theorem isRequestError_of_register {catalog : Catalog R} {node : Node R} {fault : GraphError}
    (failed : (catalog.register node).1 = .error fault) : fault.isRequestError = false := by
  unfold register at failed
  split at failed
  · cases failed
    rfl
  · split at failed
    · cases failed
      rfl
    · cases failed

theorem isRequestError_of_node {catalog : Catalog R} {nodeType : String} {fault : GraphError}
    (failed : catalog.node nodeType = .error fault) : fault.isRequestError = false := by
  unfold node at failed
  split at failed
  · cases failed
  · cases failed
    rfl

/-- A node names a kind of arguments that is not registered, and the error says which. -/
def NamesUnknownKind (catalog : Catalog R) (fault : GraphError) : Prop :=
  ∃ node ∈ catalog.nodes, ∃ kind ∈ node.arguments,
    catalog.list.arguments.contains kind = false ∧ fault = .unknownArgument kind

theorem Reachable.isRequestError_of_schema {catalog : Catalog R}
    (reachable : catalog.Reachable) {fault : GraphError}
    (failed : catalog.schema.1 = .error fault) :
    fault.isRequestError = true ↔ catalog.NamesUnknownKind fault := by
  rcases reachable.outcome with ⟨schema, _, answer⟩ | ⟨other, answer, unresolved⟩
  · rw [answer] at failed
    split at failed
    · cases failed
    · cases failed
      constructor
      · intro ofRequest
        cases ofRequest
      · rintro ⟨_, _, _, _, _, other⟩
        cases other
  · obtain rfl : other = fault := by simpa [answer] using failed
    cases unresolved with
    | kind node kind registered named missing =>
        exact ⟨fun _ => ⟨node, registered, kind, named, missing, rfl⟩, fun _ => rfl⟩
    | tag node field tag registered declares refers missing =>
        constructor
        · intro ofRequest
          cases ofRequest
        · rintro ⟨_, _, _, _, _, other⟩
          cases other

/-- Registration and lookup fail with errors of construction.  So does the build of a schema,
except for a node that names an unregistered kind of arguments, whose error is taken for one of
a request.  A request over a built schema fails with an error of requests, never over an unknown
kind, unless a custom kind or a custom resolver has made the error up. -/
theorem faults_of_phases {World : Type} {catalog : Catalog (Resolver World)}
    (reachable : catalog.Reachable) :
    (∀ node fault, (catalog.register node).1 = .error fault → fault.isRequestError = false) ∧
    (∀ nodeType fault, catalog.node nodeType = .error fault → fault.isRequestError = false) ∧
    (∀ fault, catalog.schema.1 = .error fault →
      (fault.isRequestError = true ↔ catalog.NamesUnknownKind fault)) ∧
    ∀ schema, catalog.schema.1 = .ok schema → ∀ request before fault after,
      schema.execute request before = (.error fault, after) →
        fault.IsOfRequest ∨ schema.arguments.CustomRefuses fault ∨
          schema.MadeUp fault after := by
  refine ⟨fun _ _ => isRequestError_of_register, fun _ _ => isRequestError_of_node,
    fun _ => reachable.isRequestError_of_schema, ?_⟩
  intro schema built request before fault after executed
  exact Schema.fault_of_execute (reachable.schemaBuilt built).kindsRegistered executed

/-- A node that names a kind of arguments which nobody has registered. -/
def sales : Catalog Unit :=
  .ofNodes
    [{ name := "sales"
       nodeType := "sale"
       arguments := ["having"]
       fields := [{ name := "id", fieldType := .ofTag "Int" }]
       resolver := () }]
    .builtIn

theorem sales_schema_blames_request :
    sales.Reachable ∧ sales.schema.1 = .error (.unknownArgument "having") ∧
      (GraphError.unknownArgument "having").isRequestError = true :=
  ⟨reachable_ofNodes _ (by decide) (by decide), rfl, rfl⟩

end Catalog

namespace Directory

theorem errors_of_directory_in_phases :
    directory.Reachable ∧
      directory.node "team" = .error (.unsupportedNodeType "team") ∧
      (GraphError.unsupportedNodeType "team").isRequestError = false ∧
      ∃ schema after, directory.schema.1 = .ok schema ∧
        schema.execute laterRefused start =
          (.error (.unsupportedArgument "departments" "group_by"), after) ∧
        ((GraphError.unsupportedArgument "departments" "group_by").IsOfRequest ∨
          schema.arguments.CustomRefuses (.unsupportedArgument "departments" "group_by") ∨
          schema.MadeUp (.unsupportedArgument "departments" "group_by") after) := by
  have shown : refusal laterRefused =
      some (.unsupportedArgument "departments" "group_by", ["users"],
        ["SELECT id FROM users"]) := by
    decide +kernel
  obtain ⟨schema, after, built, executed, _⟩ := exists_of_refusal shown
  have missing : directory.node "team" = .error (.unsupportedNodeType "team") := rfl
  obtain ⟨_, looked, _, requested⟩ := Catalog.faults_of_phases directory_reachable
  exact ⟨directory_reachable, missing, looked _ _ missing, schema, after, built, executed,
    requested schema built laterRefused start _ after executed⟩

end Directory

end NodeGraph
