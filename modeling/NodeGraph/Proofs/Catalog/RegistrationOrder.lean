import NodeGraph.Proofs.Catalog.Refusal
import NodeGraph.Proofs.Schema.Renaming

/-!
# The order of registration

Distinct nodes can be registered in any order.  Whether a schema can be built of them does
not depend on the order, since what speaks against it is read off single nodes or off the
collection of their names, and the schemas of two orders differ in the positions of their
objects only.
-/

namespace NodeGraph

variable {R : Type}

namespace NodeList.SameNodes

variable {list other : NodeList R}

theorem unresolved (same : list.SameNodes other) {fault : GraphError}
    (unresolved : Unresolved list fault) : Unresolved other fault := by
  cases unresolved with
  | kind node kind registered named missing =>
      exact .kind node kind (same.nodes.mem_iff.mp registered) named
        (same.arguments ▸ missing)
  | tag node field tag registered declares refers missing =>
      exact .tag node field tag (same.nodes.mem_iff.mp registered) declares refers
        fun target member => missing target (same.nodes.mem_iff.mpr member)

theorem breaks_iff (same : list.SameNodes other) (issue : SchemaIssue) :
    list.Breaks issue ↔ other.Breaks issue := by
  cases issue with
  | repeatedTypeName typeName =>
      have names := same.nodes.map fun node => Text.pascalCase node.nodeType
      simp only [Breaks, List.duplicate_iff_two_le_count, names.count_eq]
  | _ => simp only [Breaks, same.nodes.mem_iff]

end NodeList.SameNodes

namespace Catalog

/-- Catalogs of the same nodes either both give a schema or both give none. -/
theorem Reachable.succeeds_of_sameNodes {catalog other : Catalog R}
    (reachable : catalog.Reachable) (otherReachable : other.Reachable)
    (same : catalog.list.SameNodes other.list) {schema : Schema R}
    (built : catalog.schema.1 = .ok schema) : ∃ otherSchema, other.schema.1 = .ok otherSchema := by
  have schemaBuilt := reachable.schemaBuilt built
  rcases otherReachable.outcome with
    ⟨otherSchema, otherBuilt, answer⟩ | ⟨fault, _, unresolved⟩
  · refine ⟨otherSchema, answer.trans (if_pos ?_)⟩
    rw [Schema.isValid_report_iff]
    intro issue shown
    have valid : schema.report.isValid = true := by
      rw [reachable.schema_eq] at built
      exact (freshSchema_eq_ok_iff.mp built).2
    rw [otherBuilt.shows_iff_breaks same.distinct_other, ← same.breaks_iff,
      ← schemaBuilt.shows_iff_breaks same.distinct] at shown
    exact schema.isValid_report_iff.mp valid issue shown
  · exact absurd (same.symm.unresolved unresolved) (schemaBuilt.not_unresolved fault)

/-- Distinct nodes give the same schema in whatever order they are registered.  Every order is
accepted; either all of them give a schema or none does; and two schemas are equal up to the
renaming of positions that the type tags induce, with their root fields in the order of
registration. -/
theorem schema_same_in_any_order (arguments : ArgumentRegistry) {nodes others : List (Node R)}
    (same : nodes.Perm others) (types : (nodes.map Node.nodeType).Nodup)
    (names : (nodes.map Node.name).Nodup) :
    ∃ catalog other, registerAll (withArguments arguments) nodes = (.ok (), catalog) ∧
      registerAll (withArguments arguments) others = (.ok (), other) ∧
      ((∃ schema, catalog.schema.1 = .ok schema) ↔
        ∃ otherSchema, other.schema.1 = .ok otherSchema) ∧
      ∀ schema otherSchema, catalog.schema.1 = .ok schema →
        other.schema.1 = .ok otherSchema →
          Schema.Renamed (schema.placeIn otherSchema) schema otherSchema ∧
          schema.roots.map RootField.name = nodes.map Node.name ∧
          otherSchema.roots.map RootField.name = others.map Node.name := by
  have otherTypes := (same.map Node.nodeType).nodup_iff.mp types
  have otherNames := (same.map Node.name).nodup_iff.mp names
  have reachable := reachable_ofNodes arguments types names
  have otherReachable := reachable_ofNodes arguments otherTypes otherNames
  have sameNodes : NodeList.SameNodes (ofNodes nodes arguments).list
      (ofNodes others arguments).list :=
    { nodes := by simpa only [list_nodes, nodes_ofNodes] using same
      arguments := by simp
      distinct := reachable.coherent.distinct
      otherIndexed := otherReachable.coherent.distinct.indexed }
  refine ⟨_, _, registerAll_eq_ofNodes arguments types names,
    registerAll_eq_ofNodes arguments otherTypes otherNames, ⟨?_, ?_⟩, ?_⟩
  · rintro ⟨schema, built⟩
    exact reachable.succeeds_of_sameNodes otherReachable sameNodes built
  · rintro ⟨otherSchema, otherBuilt⟩
    exact otherReachable.succeeds_of_sameNodes reachable sameNodes.symm otherBuilt
  · intro schema otherSchema built otherBuilt
    have schemaBuilt := reachable.schemaBuilt built
    have otherSchemaBuilt := otherReachable.schemaBuilt otherBuilt
    have rootNames := schemaBuilt.rootNames
    have otherRootNames := otherSchemaBuilt.rootNames
    simp only [list_nodes, nodes_ofNodes] at rootNames otherRootNames
    exact ⟨schemaBuilt.renamed sameNodes otherSchemaBuilt, rootNames, otherRootNames⟩

def organisationBackwards : Catalog Unit := .ofNodes organisation.nodes.reverse .builtIn

/-- Registered backwards, persons come before the teams that refer to them: teams and persons
change places, and all references move along. -/
theorem organisation_same_backwards :
    ∃ schema otherSchema, organisation.schema.1 = .ok schema ∧
      organisationBackwards.schema.1 = .ok otherSchema ∧
      Schema.Renamed (schema.placeIn otherSchema) schema otherSchema ∧
      schema.placeIn otherSchema 0 = 1 ∧ schema.placeIn otherSchema 1 = 0 ∧
      otherSchema.roots.map RootField.name = ["persons", "teams"] := by
  obtain ⟨catalog, other, registered, otherRegistered, succeeds, renamed⟩ :=
    schema_same_in_any_order .builtIn (List.reverse_perm organisation.nodes).symm (by decide)
      (by decide)
  obtain rfl : organisation = catalog := congrArg Prod.snd registered
  obtain rfl : organisationBackwards = other := congrArg Prod.snd otherRegistered
  have places : (do
      let schema ← organisation.schema.1
      let otherSchema ← organisationBackwards.schema.1
      return (schema.placeIn otherSchema 0, schema.placeIn otherSchema 1)).toOption =
        some (1, 0) := by
    decide +kernel
  cases built : organisation.schema.1 with
  | error fault =>
      rw [built] at places
      cases places
  | ok schema =>
      obtain ⟨otherSchema, otherBuilt⟩ := succeeds.mp ⟨schema, built⟩
      obtain ⟨renamed, -, roots⟩ := renamed schema otherSchema built otherBuilt
      rw [built, otherBuilt] at places
      obtain ⟨first, second⟩ := Prod.mk.inj (Option.some.inj places)
      exact ⟨schema, otherSchema, rfl, otherBuilt, renamed, first, second, roots⟩

end Catalog

end NodeGraph
