import NodeGraph.Schema.Build
import Mathlib.Data.Set.Insert

/-!
# Depth-first order

The nodes of a catalog are the vertices of a graph, with an edge for each field that refers to a
node.  The depth-first preorder of a graph is given by three rules, without a bound on the depth.
No more than one list is the preorder from given nodes on, and a preorder from some nodes can be
continued from others.
-/

namespace NodeGraph

/-- The depth-first preorder from some nodes on: a node stands before those that are found below
it, these come in the order of its successors, and nodes that were seen are passed over. -/
inductive DepthFirst (successors : Nat → List Nat) : Set Nat → List Nat → List Nat → Prop
  | nil (seen : Set Nat) : DepthFirst successors seen [] []
  | skip {seen : Set Nat} {index : Nat} {rest order : List Nat} (known : index ∈ seen)
      (later : DepthFirst successors seen rest order) :
      DepthFirst successors seen (index :: rest) order
  | visit {seen : Set Nat} {index : Nat} {rest below beside : List Nat} (unknown : index ∉ seen)
      (inner : DepthFirst successors (insert index seen) (successors index) below)
      (later : DepthFirst successors (insert index seen ∪ {other | other ∈ below}) rest beside) :
      DepthFirst successors seen (index :: rest) (index :: below ++ beside)

namespace DepthFirst

variable {successors : Nat → List Nat} {seen : Set Nat} {todo : List Nat}

theorem unique {first second : List Nat} (visited : DepthFirst successors seen todo first)
    (alsoVisited : DepthFirst successors seen todo second) : first = second := by
  induction visited generalizing second with
  | nil seen =>
      cases alsoVisited
      rfl
  | skip known _ ih =>
      cases alsoVisited with
      | skip _ later => exact ih later
      | visit unknown _ _ => exact absurd known unknown
  | visit unknown _ _ belowIh besideIh =>
      cases alsoVisited with
      | skip known _ => exact absurd known unknown
      | visit _ inner later =>
          obtain rfl := belowIh inner
          obtain rfl := besideIh later
          rfl

/-- The preorder is determined by the graph and the nodes that were seen. -/
theorem iff_eq {order : List Nat} (visited : DepthFirst successors seen todo order)
    (other : List Nat) : DepthFirst successors seen todo other ↔ other = order :=
  ⟨fun alsoVisited => alsoVisited.unique visited, fun same => same ▸ visited⟩

/-- All nodes to be visited are in the preorder, unless they were seen. -/
theorem covers {order : List Nat} (visited : DepthFirst successors seen todo order) {index : Nat}
    (member : index ∈ todo) : index ∈ seen ∨ index ∈ order := by
  induction visited with
  | nil => simp at member
  | skip known _ ih =>
      rcases List.mem_cons.mp member with rfl | later
      · exact .inl known
      · exact ih later
  | visit _ _ _ _ ih =>
      rcases List.mem_cons.mp member with rfl | later
      · exact .inr (by simp)
      · have covered := ih later
        simp only [Set.mem_union, Set.mem_insert_iff, Set.mem_ofPred_eq] at covered
        simp only [List.cons_append, List.mem_cons, List.mem_append]
        grind

theorem append {more first second : List Nat} (visited : DepthFirst successors seen todo first)
    (continued : DepthFirst successors (seen ∪ {index | index ∈ first}) more second) :
    DepthFirst successors seen (todo ++ more) (first ++ second) := by
  induction visited with
  | nil seen => simpa using continued
  | skip known _ ih => exact .skip known (ih continued)
  | @visit seen index rest below beside unknown inner _ _ ih =>
      rw [List.cons_append, List.append_assoc]
      refine .visit unknown inner (ih ?_)
      have seenAfter : insert index seen ∪ {other | other ∈ below} ∪ {other | other ∈ beside} =
          seen ∪ {other | other ∈ index :: below ++ beside} := by
        ext other
        simp only [Set.mem_union, Set.mem_insert_iff, Set.mem_ofPred_eq, List.cons_append,
          List.mem_cons, List.mem_append, or_assoc]
        exact or_left_comm
      rwa [seenAfter]

end DepthFirst

namespace NodeList

variable {R : Type}

/-- The registered node that a field refers to. -/
def reference? (list : NodeList R) (field : Field R) : Option Nat :=
  field.fieldType.nodeType?.bind list.indexOf?

/-- The nodes that the fields of a node refer to, in the order of the fields. -/
def references (list : NodeList R) (index : Nat) : List Nat :=
  match list.nodes[index]? with
  | some node => node.fields.filterMap list.reference?
  | none => []

theorem references_eq {list : NodeList R} {index : Nat} {node : Node R}
    (found : list.nodes[index]? = some node) :
    list.references index = node.fields.filterMap list.reference? := by
  rw [references, found]

end NodeList

end NodeGraph
