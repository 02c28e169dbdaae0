import NodeGraph.Schema.Build
import Mathlib.Data.List.Nodup

/-!
# Indexes of positions

An index lists some texts if it finds exactly the position at which each of them stands.  Then
the texts are pairwise distinct, and entering a new text with the next position makes an index
that lists this text, too.  A list of nodes is indexed if its index lists their type tags.
-/

namespace NodeGraph

namespace NodeIndex

@[simp]
theorem position?_insert (index : NodeIndex) (text : String) (position : Nat) (other : String) :
    (index.insert text position).position? other =
      if other = text then some position else index.position? other := by
  by_cases same : other = text
  · simp [position?, insert, same]
  · have differs : (other == text) = false := by simpa using same
    simp [position?, insert, List.lookup_cons, differs, same]

theorem getElem?_concat_eq_some_iff {texts : List String} {text other : String}
    {position : Nat} :
    (texts ++ [text])[position]? = some other ↔
      texts[position]? = some other ∨ position = texts.length ∧ other = text := by
  rw [List.getElem?_append]
  split
  · rename_i inside
    simp [Nat.ne_of_lt inside]
  · rename_i outside
    have atEnd : position - texts.length = 0 ↔ position = texts.length := by omega
    rw [List.getElem?_singleton, List.getElem?_eq_none (Nat.le_of_not_lt outside)]
    by_cases last : position = texts.length <;> simp [atEnd, last, eq_comm]

/-- The index finds the position of each text, and of no other. -/
def Lists (index : NodeIndex) (texts : List String) : Prop :=
  ∀ text position, index.position? text = some position ↔ texts[position]? = some text

theorem lists_nil : ({} : NodeIndex).Lists [] := by
  intro text position
  simp [position?]

namespace Lists

variable {index : NodeIndex} {texts : List String}

theorem position?_eq_none_iff (lists : index.Lists texts) {text : String} :
    index.position? text = none ↔ text ∉ texts := by
  simp only [Option.eq_none_iff_forall_ne_some, ne_eq, lists text, List.mem_iff_getElem?,
    not_exists]

theorem contains_iff (lists : index.Lists texts) {text : String} :
    index.contains text = true ↔ text ∈ texts := by
  rw [contains, ← not_iff_not, Bool.not_eq_true, Option.isSome_eq_false_iff,
    Option.isNone_iff_eq_none, lists.position?_eq_none_iff]

/-- Two positions of one text would both be the one that is found. -/
theorem nodup (lists : index.Lists texts) : texts.Nodup := by
  rw [List.nodup_iff_getElem?_ne_getElem?]
  intro first second ordered bounded same
  have atSecond := List.getElem?_eq_getElem bounded
  have found := (lists _ _).mpr atSecond
  rw [(lists _ _).mpr (same.trans atSecond)] at found
  obtain rfl : first = second := Option.some.inj found
  exact Nat.lt_irrefl _ ordered

/-- A new text at the end leaves the positions of the others as they are. -/
theorem insert (lists : index.Lists texts) {text : String} (new : text ∉ texts) :
    (index.insert text texts.length).Lists (texts ++ [text]) := by
  intro other position
  rw [position?_insert, getElem?_concat_eq_some_iff]
  by_cases same : other = text
  · subst same
    have absent : texts[position]? ≠ some other := fun found =>
      new (List.mem_of_getElem? found)
    simp [absent, eq_comm]
  · rw [if_neg same, lists other]
    simp [same]

/-- An index of the texts of some items finds the items. -/
theorem bind_getElem?_eq_some_iff {α : Type} {items : List α} {key : α → String}
    (lists : index.Lists (items.map key)) {text : String} {item : α} :
    ((index.position? text).bind fun position => items[position]?) = some item ↔
      item ∈ items ∧ key item = text := by
  rw [Option.bind_eq_some_iff]
  constructor
  · rintro ⟨position, indexed, found⟩
    have carries := (lists text position).mp indexed
    rw [List.getElem?_map, found] at carries
    exact ⟨List.mem_of_getElem? found, Option.some.inj carries⟩
  · rintro ⟨member, rfl⟩
    obtain ⟨position, found⟩ := List.getElem?_of_mem member
    refine ⟨position, (lists _ _).mpr ?_, found⟩
    rw [List.getElem?_map, found, Option.map_some]

end Lists

end NodeIndex

namespace NodeList

variable {R : Type} {list : NodeList R}

/-- The index of the list finds its nodes by their type tags. -/
def Indexed (list : NodeList R) : Prop := list.byType.Lists (list.nodes.map Node.nodeType)

theorem Indexed.add (indexed : list.Indexed) {node : Node R}
    (new : node.nodeType ∉ list.nodes.map Node.nodeType) : (list.add node).Indexed := by
  have lists := NodeIndex.Lists.insert indexed new
  rw [List.length_map] at lists
  simpa [Indexed, NodeList.add] using lists

theorem indexOf?_eq_some_iff (indexed : list.Indexed) {tag : String} {index : Nat} :
    list.indexOf? tag = some index ↔
      ∃ node, list.nodes[index]? = some node ∧ node.nodeType = tag := by
  rw [indexOf?, indexed tag index, List.getElem?_map, Option.map_eq_some_iff]

theorem indexOf?_eq_none_iff (indexed : list.Indexed) {tag : String} :
    list.indexOf? tag = none ↔ ∀ node ∈ list.nodes, node.nodeType ≠ tag := by
  rw [indexOf?, indexed.position?_eq_none_iff]
  simp

end NodeList

end NodeGraph
