import Mathlib.Data.List.Forall2
import NodeGraph.Proofs.Execution.Faults

/-!
# Two runs side by side

Two steps are alike if from the same progress they lead to the same progress, and either fail
with the same error or give values in some relation.  Everything that steps are put together
from keeps likeness, so two executions are compared part by part.
-/

namespace NodeGraph

namespace Execution

variable {World α β γ δ : Type}

/-- Two steps fail alike, or give related values, and leave the same progress. -/
def Alike (related : α → β → Prop) (first : Execution World α) (second : Execution World β) :
    Prop :=
  ∀ before,
    (∃ value other after, Gives first before value after ∧ Gives second before other after ∧
      related value other) ∨
    ∃ fault after, Fails first before fault after ∧ Fails second before fault after

variable {related : α → β → Prop}

theorem alike_pure {value : α} {other : β} (values : related value other) :
    Alike related (pure value : Execution World α) (pure other) :=
  fun before => .inl ⟨value, other, before, rfl, rfl, values⟩

theorem alike_throw (fault : GraphError) :
    Alike related (throw fault : Execution World α) (throw fault) :=
  fun before => .inr ⟨fault, before, rfl, rfl⟩

/-- A step is like itself. -/
theorem alike_self (step : Execution World α) : Alike Eq step step := by
  intro before
  rcases taken : step before with ⟨fault | value, after⟩
  · exact .inr ⟨fault, after, taken, taken⟩
  · exact .inl ⟨value, value, after, taken, taken, rfl⟩

theorem Alike.bind {first : Execution World α} {second : Execution World β}
    {next : α → Execution World γ} {nextToo : β → Execution World δ} {later : γ → δ → Prop}
    (steps : Alike related first second)
    (rest : ∀ value other, related value other → Alike later (next value) (nextToo other)) :
    Alike later (first >>= next) (second >>= nextToo) := by
  intro before
  obtain ⟨value, other, middle, gives, givesToo, values⟩ | ⟨fault, after, fails, failsToo⟩ :=
    steps before
  · obtain ⟨last, lastToo, after, thenGives, thenGivesToo, lasts⟩ |
      ⟨fault, after, thenFails, thenFailsToo⟩ := rest value other values middle
    · exact .inl ⟨last, lastToo, after, gives_bind.mpr ⟨_, _, gives, thenGives⟩,
        gives_bind.mpr ⟨_, _, givesToo, thenGivesToo⟩, lasts⟩
    · exact .inr ⟨fault, after, fails_bind.mpr (.inr ⟨_, _, gives, thenFails⟩),
        fails_bind.mpr (.inr ⟨_, _, givesToo, thenFailsToo⟩)⟩
  · exact .inr ⟨fault, after, fails_bind.mpr (.inl fails), fails_bind.mpr (.inl failsToo)⟩

/-- The same step before two that are alike. -/
theorem Alike.after {step : Execution World γ} {next : γ → Execution World α}
    {nextToo : γ → Execution World β}
    (rest : ∀ value, Alike related (next value) (nextToo value)) :
    Alike related (step >>= next) (step >>= nextToo) :=
  (alike_self step).bind fun value _ same => same ▸ rest value

theorem Alike.mapM {items : List γ} {step : γ → Execution World α} {stepToo : γ → Execution World β}
    (each : ∀ item, Alike related (step item) (stepToo item)) :
    Alike (List.Forall₂ related) (items.mapM step) (items.mapM stepToo) := by
  induction items with
  | nil => exact alike_pure .nil
  | cons item rest ih =>
      rw [List.mapM_cons, List.mapM_cons]
      refine (each item).bind fun value other head => ?_
      exact ih.bind fun values others tail => alike_pure (.cons head tail)

end Execution

end NodeGraph
