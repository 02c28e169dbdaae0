import NodeGraph.Execution.Completion
import NodeGraph.Proofs.RelatedLists

/-!
# Steps that succeed

What it takes for a step of execution to give a value: one statement for each way in which
steps are made and put together.
-/

namespace NodeGraph

/-- A computation that gives a value has given one at its first step. -/
theorem exists_of_bind_eq_ok {ε α β : Type} {first : Except ε α} {next : α → Except ε β} {value : β}
    (gives : first >>= next = .ok value) : ∃ given, first = .ok given ∧ next given = .ok value := by
  cases first with
  | error fault => cases gives
  | ok given => exact ⟨given, rfl, gives⟩

theorem exists_of_map_eq_ok {ε α β : Type} {computed : Except ε α} {change : α → β} {value : β}
    (gives : computed.map change = .ok value) :
    ∃ given, computed = .ok given ∧ change given = value := by
  cases computed with
  | error fault => cases gives
  | ok given => exact ⟨given, rfl, Except.ok.inj gives⟩

/-- A computation along a list gives the values that its steps give, in their places. -/
theorem mapM_eq_ok_iff {ε α β : Type} {items : List α} {step : α → Except ε β}
    {values : List β} :
    items.mapM step = .ok values ↔
      List.Forall₂ (fun item value => step item = .ok value) items values := by
  induction items generalizing values with
  | nil =>
      rw [List.forall₂_nil_left_iff]
      constructor
      · intro gives
        exact (Except.ok.inj gives).symm
      · rintro rfl
        rfl
  | cons item rest ih =>
      rw [List.mapM_cons, List.forall₂_cons_left_iff]
      constructor
      · intro gives
        obtain ⟨value, first, gives⟩ := exists_of_bind_eq_ok gives
        obtain ⟨others, later, gives⟩ := exists_of_bind_eq_ok gives
        exact ⟨value, others, first, ih.mp later, (Except.ok.inj gives).symm⟩
      · rintro ⟨value, others, first, later, rfl⟩
        rw [first, ih.mpr later]
        rfl

/-- A computation along a list succeeds if and only if it does at each item. -/
theorem exists_mapM_iff {ε α β : Type} {items : List α} {step : α → Except ε β} :
    (∃ values, items.mapM step = .ok values) ↔ ∀ item ∈ items, ∃ value, step item = .ok value := by
  simp only [mapM_eq_ok_iff]
  exact exists_forall₂_iff

/-- A computation along a list fails at the first item at which its step fails. -/
theorem mapM_eq_error_iff {ε α β : Type} {items : List α} {step : α → Except ε β} {fault : ε} :
    items.mapM step = .error fault ↔
      ∃ front item back, items = front ++ item :: back ∧
        (∀ earlier ∈ front, ∃ value, step earlier = .ok value) ∧ step item = .error fault := by
  induction items with
  | nil =>
      constructor
      · intro fails
        cases fails
      · rintro ⟨front, item, back, split, -⟩
        cases front <;> cases split
  | cons first rest ih =>
      rw [List.mapM_cons]
      constructor
      · intro fails
        cases here : step first with
        | error other =>
            rw [here] at fails
            cases fails
            exact ⟨[], first, rest, rfl, List.forall_mem_nil _, here⟩
        | ok value =>
            cases later : rest.mapM step with
            | ok values =>
                rw [here, later] at fails
                cases fails
            | error other =>
                rw [here, later] at fails
                cases fails
                obtain ⟨front, item, back, rfl, earlier, faulty⟩ := ih.mp later
                refine ⟨first :: front, item, back, rfl, ?_, faulty⟩
                exact List.forall_mem_cons.mpr ⟨⟨value, here⟩, earlier⟩
      · rintro ⟨front, item, back, split, earlier, faulty⟩
        cases front with
        | nil =>
            cases split
            rw [faulty]
            rfl
        | cons head front =>
            cases split
            obtain ⟨⟨value, here⟩, earlier⟩ := List.forall_mem_cons.mp earlier
            rw [here, ih.mpr ⟨front, item, back, rfl, earlier, faulty⟩]
            rfl

/-- A resolver was called while the request was running, and returned records. -/
structure Called {World : Type} (resolver : Resolver World) (params : ResolveParams)
    (before : Progress World) (records : List Record) (after : Progress World) : Prop where
  running : before.state.cancelled = false
  returned : resolver params before.state = (.ok records, after.state)
  recorded : after.calls = before.calls ++ [params]

namespace Execution

variable {World α β : Type}

/-- A step gives a value and leads from one progress to another. -/
def Gives (step : Execution World α) (before : Progress World) (value : α)
    (after : Progress World) : Prop :=
  step before = (.ok value, after)

variable {before after : Progress World}

@[simp]
theorem gives_pure {given value : α} :
    Gives (pure given) before value after ↔ given = value ∧ before = after := by
  constructor
  · intro gives
    cases gives
    exact ⟨rfl, rfl⟩
  · rintro ⟨rfl, rfl⟩
    rfl

@[simp]
theorem gives_throw {fault : GraphError} {value : α} :
    ¬ Gives (throw fault) before value after := by
  intro gives
  cases gives

@[simp]
theorem gives_ofExcept {result : Except GraphError α} {value : α} :
    Gives (ofExcept result) before value after ↔ result = .ok value ∧ before = after := by
  constructor
  · intro gives
    cases gives
    exact ⟨rfl, rfl⟩
  · rintro ⟨rfl, rfl⟩
    rfl

theorem bind_apply (step : Execution World α) (next : α → Execution World β)
    (before : Progress World) :
    (step >>= next) before =
      match step before with
      | (.ok given, middle) => next given middle
      | (.error fault, middle) => (.error fault, middle) := by
  change ExceptT.bindCont next (step before).1 (step before).2 = _
  rcases step before with ⟨fault | given, middle⟩ <;> rfl

theorem gives_bind {step : Execution World α} {next : α → Execution World β} {value : β} :
    Gives (step >>= next) before value after ↔
      ∃ given middle, Gives step before given middle ∧
        Gives (next given) middle value after := by
  constructor
  · intro gives
    unfold Gives at gives
    rw [bind_apply] at gives
    split at gives
    · rename_i given middle first
      exact ⟨given, middle, first, gives⟩
    · cases gives
  · rintro ⟨given, middle, first, second⟩
    unfold Gives at first second ⊢
    rw [bind_apply, first]
    exact second

theorem gives_call {resolver : Resolver World} {params : ResolveParams}
    {records : List Record} :
    Gives (call resolver params) before records after ↔
      Called resolver params before records after := by
  unfold Gives call
  split
  · rename_i cancelled
    constructor
    · intro gives
      cases gives
    · intro called
      simp [called.running] at cancelled
  · rename_i running
    rcases answer : resolver params before.state with ⟨outcome, state⟩
    constructor
    · intro gives
      cases gives
      exact ⟨by simpa using running, answer, rfl⟩
    · intro called
      have returned := called.returned
      rw [answer] at returned
      obtain ⟨rfl, rfl⟩ := Prod.mk.inj returned
      rw [← called.recorded]

end Execution

end NodeGraph
