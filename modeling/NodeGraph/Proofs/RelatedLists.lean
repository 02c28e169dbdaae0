import Mathlib.Data.List.Forall2

/-!
# Lists related place by place

What declarations and built values, records and responses, or selections and entries have in
common is that they stand at the same places of two lists.
-/

namespace NodeGraph

variable {α β γ : Type} {related : α → β → Prop} {first : List α} {second : List β}

theorem exists_right_of_forall₂ (placed : List.Forall₂ related first second) {item : α}
    (member : item ∈ first) : ∃ other ∈ second, related item other := by
  induction placed with
  | nil => simp at member
  | cons head _ ih =>
      rcases List.mem_cons.mp member with rfl | later
      · exact ⟨_, List.mem_cons_self, head⟩
      · obtain ⟨other, otherMem, holds⟩ := ih later
        exact ⟨other, List.mem_cons_of_mem _ otherMem, holds⟩

theorem exists_left_of_forall₂ (placed : List.Forall₂ related first second) {other : β}
    (member : other ∈ second) : ∃ item ∈ first, related item other :=
  exists_right_of_forall₂ placed.flip member

/-- Something stands beside the items of a list if and only if each of them has it. -/
theorem exists_forall₂_iff :
    (∃ others, List.Forall₂ related first others) ↔
      ∀ item ∈ first, ∃ other, related item other := by
  constructor
  · rintro ⟨others, placed⟩ item member
    obtain ⟨other, _, holds⟩ := exists_right_of_forall₂ placed member
    exact ⟨other, holds⟩
  · intro each
    induction first with
    | nil => exact ⟨[], .nil⟩
    | cons item rest ih =>
        rw [List.forall_mem_cons] at each
        obtain ⟨other, head⟩ := each.1
        obtain ⟨others, later⟩ := ih each.2
        exact ⟨other :: others, .cons head later⟩

theorem map_eq_of_forall₂ (placed : List.Forall₂ related first second) {left : α → γ}
    {right : β → γ} (agree : ∀ item other, related item other → left item = right other) :
    first.map left = second.map right := by
  induction placed with
  | nil => rfl
  | cons head _ ih => simp only [List.map_cons, agree _ _ head, ih]

/-- If each item determines what stands beside it in a third list from what stands beside it
in the second one, the second list determines the third. -/
theorem eq_map_of_forall₂ {third : List γ} {alsoRelated : α → γ → Prop} {determined : β → γ}
    (placed : List.Forall₂ related first second)
    (alsoPlaced : List.Forall₂ alsoRelated first third)
    (agree : ∀ item other last, related item other → alsoRelated item last →
      last = determined other) : third = second.map determined := by
  induction placed generalizing third with
  | nil =>
      cases alsoPlaced
      rfl
  | cons head _ ih =>
      cases alsoPlaced with
      | cons alsoHead alsoRest => rw [List.map_cons, agree _ _ _ head alsoHead, ih alsoRest]

end NodeGraph
