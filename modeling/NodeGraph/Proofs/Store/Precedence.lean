import NodeGraph.Proofs.Store.Comparisons

/-!
# The precedence of connectives

A condition is written with OR between disjuncts, AND between the conjuncts of each, and NOT or
parentheses around what binds tighter.  The grammar says which tokens make which condition; the
reader of statements reads exactly what the grammar derives, so that the disjuncts of a text,
those that no parentheses hold together, are its own.
-/

namespace NodeGraph

open SqlToken

namespace Condition

variable {T : Type}

/-- The conjunction of conditions, one after another. -/
def allOf (first : Condition T) (rest : List (Condition T)) : Condition T :=
  rest.foldl .conjunction first

/-- The disjunction of conditions, one after another. -/
def anyOf (first : Condition T) (rest : List (Condition T)) : Condition T :=
  rest.foldl .disjunction first

theorem allOf_concat (first last : Condition T) (rest : List (Condition T)) :
    allOf first (rest ++ [last]) = .conjunction (allOf first rest) last := by
  rw [allOf, List.foldl_append]
  rfl

theorem anyOf_concat (first last : Condition T) (rest : List (Condition T)) :
    anyOf first (rest ++ [last]) = .disjunction (anyOf first rest) last := by
  rw [anyOf, List.foldl_append]
  rfl

end Condition

namespace Statement

mutual

/-- Tokens that make an operand of a conjunction: a comparison, a negation, or a disjunction in
parentheses. -/
inductive Operand : List SqlToken → Condition Term → Prop
  | comparison {own condition} (compares : Compares own condition) : Operand own condition
  | negation {word own condition} (spelled : upper word = "NOT")
      (operand : Operand own condition) : Operand (.word word :: own) (.negation condition)
  | parentheses {own first rest} (inner : Disjuncts own (first :: rest)) :
      Operand (.symbol "(" :: (own ++ [.symbol ")"])) (Condition.anyOf first rest)

/-- Tokens that make operands with AND between them. -/
inductive Conjuncts : List SqlToken → List (Condition Term) → Prop
  | single {own condition} (operand : Operand own condition) : Conjuncts own [condition]
  | concat {own word last conditions condition} (earlier : Conjuncts own conditions)
      (spelled : upper word = "AND") (operand : Operand last condition) :
      Conjuncts (own ++ .word word :: last) (conditions ++ [condition])

/-- Tokens that make conjunctions with OR between them. -/
inductive Disjuncts : List SqlToken → List (Condition Term) → Prop
  | single {own first rest} (conjuncts : Conjuncts own (first :: rest)) :
      Disjuncts own [Condition.allOf first rest]
  | concat {own word last conditions first rest} (earlier : Disjuncts own conditions)
      (spelled : upper word = "OR") (conjuncts : Conjuncts last (first :: rest)) :
      Disjuncts (own ++ .word word :: last) (conditions ++ [Condition.allOf first rest])

end

theorem Operand.ne_nil {own : List SqlToken} {condition : Condition Term}
    (operand : Operand own condition) : own ≠ [] := by
  cases operand with
  | comparison compares => exact compares.ne_nil
  | negation => exact List.cons_ne_nil _ _
  | parentheses => exact List.cons_ne_nil _ _

mutual

/-- No condition is made of words only. -/
theorem Operand.exists_symbol : ∀ {own : List SqlToken} {condition : Condition Term},
    Operand own condition → ∃ symbol, SqlToken.symbol symbol ∈ own
  | _, _, .comparison compares => compares.exists_symbol
  | _, _, .negation _ operand =>
      operand.exists_symbol.imp fun _ member => List.mem_cons_of_mem _ member
  | _, _, .parentheses _ => ⟨"(", List.mem_cons_self⟩

theorem Conjuncts.exists_symbol : ∀ {own : List SqlToken} {conditions : List (Condition Term)},
    Conjuncts own conditions → ∃ symbol, SqlToken.symbol symbol ∈ own
  | _, _, .single operand => operand.exists_symbol
  | _, _, .concat earlier _ _ =>
      earlier.exists_symbol.imp fun _ member => List.mem_append_left _ member

theorem Disjuncts.exists_symbol : ∀ {own : List SqlToken} {conditions : List (Condition Term)},
    Disjuncts own conditions → ∃ symbol, SqlToken.symbol symbol ∈ own
  | _, _, .single conjuncts => conjuncts.exists_symbol
  | _, _, .concat earlier _ _ =>
      earlier.exists_symbol.imp fun _ member => List.mem_append_left _ member

end

theorem Conjuncts.ne_nil : ∀ {own : List SqlToken} {conditions : List (Condition Term)},
    Conjuncts own conditions → own ≠ [] ∧ conditions ≠ []
  | _, _, .single operand => ⟨operand.ne_nil, List.cons_ne_nil _ _⟩
  | _, _, .concat _ _ _ => by simp

/-- Every conjunct but the first takes a keyword, too. -/
theorem Conjuncts.length_le : ∀ {own : List SqlToken} {conditions : List (Condition Term)},
    Conjuncts own conditions → 2 * conditions.length ≤ own.length + 1
  | _, _, .single operand => by
      have := List.length_pos_iff.mpr operand.ne_nil
      simp only [List.length_singleton]
      omega
  | _, _, .concat earlier _ operand => by
      have := earlier.length_le
      have := List.length_pos_iff.mpr operand.ne_nil
      simp only [List.length_append, List.length_cons, List.length_nil]
      omega

theorem Disjuncts.ne_nil : ∀ {own : List SqlToken} {conditions : List (Condition Term)},
    Disjuncts own conditions → conditions ≠ []
  | _, _, .single _ => List.cons_ne_nil _ _
  | _, _, .concat _ _ _ => by simp

theorem Disjuncts.length_le : ∀ {own : List SqlToken} {conditions : List (Condition Term)},
    Disjuncts own conditions → 2 * conditions.length ≤ own.length + 1
  | _, _, .single conjuncts => by
      have := List.length_pos_iff.mpr conjuncts.ne_nil.1
      simp only [List.length_singleton]
      omega
  | _, _, .concat earlier _ conjuncts => by
      have := earlier.length_le
      have := List.length_pos_iff.mpr conjuncts.ne_nil.1
      simp only [List.length_append, List.length_cons, List.length_nil]
      omega

theorem Conjuncts.append {own later : List SqlToken} {conditions others : List (Condition Term)}
    {word : String} (left : Conjuncts own conditions) (spelled : upper word = "AND") :
    Conjuncts later others → Conjuncts (own ++ .word word :: later) (conditions ++ others)
  | .single operand => .concat left spelled operand
  | .concat earlier and operand => by
      have joined := Conjuncts.concat (left.append spelled earlier) and operand
      simpa using joined

theorem Disjuncts.append_conjuncts {own later : List SqlToken} {earlier : List (Condition Term)}
    {last first : Condition Term} {others : List (Condition Term)} {word : String}
    (left : Disjuncts own (earlier ++ [last])) (spelled : upper word = "AND")
    (right : Conjuncts later (first :: others)) : ∃ head tail,
      last = Condition.allOf head tail ∧
      Disjuncts (own ++ .word word :: later)
        (earlier ++ [Condition.allOf head (tail ++ first :: others)]) := by
  generalize same : earlier ++ [last] = conditions at left
  cases left with
  | @single _ head tail conjuncts =>
      obtain ⟨rfl, single⟩ := List.append_inj' (same.trans (List.nil_append _).symm) rfl
      exact ⟨head, tail, List.singleton_inj.mp single,
        .single (conjuncts.append spelled right)⟩
  | @concat own or tokens conditions head tail before either conjuncts =>
      obtain ⟨rfl, single⟩ := List.append_inj' same rfl
      refine ⟨head, tail, List.singleton_inj.mp single, ?_⟩
      have joined := Disjuncts.concat before either (conjuncts.append spelled right)
      simpa using joined

/-- A word AND between two conditions joins the disjuncts beside it only. -/
theorem Disjuncts.append {own : List SqlToken} {earlier : List (Condition Term)}
    {last : Condition Term} {word : String} (left : Disjuncts own (earlier ++ [last]))
    (spelled : upper word = "AND") : ∀ {later : List SqlToken} {conditions : List (Condition Term)},
    Disjuncts later conditions → ∃ head tail first rest others,
      last = Condition.allOf head tail ∧ conditions = Condition.allOf first rest :: others ∧
      Disjuncts (own ++ .word word :: later)
        (earlier ++ Condition.allOf head (tail ++ first :: rest) :: others)
  | _, _, .single conjuncts => by
      obtain ⟨head, tail, rfl, joined⟩ := left.append_conjuncts spelled conjuncts
      exact ⟨head, tail, _, _, [], rfl, rfl, joined⟩
  | _, _, .concat before or conjuncts => by
      obtain ⟨head, tail, first, rest, others, rfl, rfl, joined⟩ := left.append spelled before
      refine ⟨head, tail, first, rest, others ++ [_], rfl, rfl, ?_⟩
      have longer := Disjuncts.concat joined or conjuncts
      simpa using longer

/-- What the readers of a condition read with so many steps is what the grammar derives. -/
structure Derives (steps : Nat) : Prop where
  operand {tokens left condition} (read : negation? steps tokens = some (condition, left)) :
    ∃ own, tokens = own ++ left ∧ Operand own condition
  moreConjuncts {before first rest tokens left condition}
    (conjuncts : Conjuncts before (first :: rest))
    (read : moreConjuncts? steps (Condition.allOf first rest) tokens = some (condition, left)) :
    ∃ own others, tokens = own ++ left ∧ Conjuncts (before ++ own) (first :: others) ∧
      condition = Condition.allOf first others
  conjuncts {tokens left condition} (read : conjunction? steps tokens = some (condition, left)) :
    ∃ own first rest, tokens = own ++ left ∧ Conjuncts own (first :: rest) ∧
      condition = Condition.allOf first rest
  moreDisjuncts {before first rest tokens left condition}
    (disjuncts : Disjuncts before (first :: rest))
    (read : moreDisjuncts? steps (Condition.anyOf first rest) tokens = some (condition, left)) :
    ∃ own others, tokens = own ++ left ∧ Disjuncts (before ++ own) (first :: others) ∧
      condition = Condition.anyOf first others
  disjuncts {tokens left condition} (read : disjunction? steps tokens = some (condition, left)) :
    ∃ own first rest, tokens = own ++ left ∧ Disjuncts own (first :: rest) ∧
      condition = Condition.anyOf first rest

namespace Derives

variable {steps : Nat} {tokens left : List SqlToken} {condition : Condition Term}

theorem operand_succ (derives : Derives steps)
    (read : negation? (steps + 1) tokens = some (condition, left)) :
    ∃ own, tokens = own ++ left ∧ Operand own condition := by
  rw [negation?] at read
  split at read
  · rename_i after negated
    obtain ⟨word, spelled, rfl⟩ := keyword?_own negated
    obtain ⟨⟨inner, left⟩, found, same⟩ := Option.map_eq_some_iff.mp read
    cases same
    obtain ⟨own, rfl, operand⟩ := derives.operand found
    exact ⟨.word word :: own, rfl, .negation spelled operand⟩
  split at read
  · rename_i after opened
    obtain rfl := symbol?_own opened
    split at read
    · rename_i inner after found
      obtain ⟨own, first, rest, rfl, disjuncts, rfl⟩ := derives.disjuncts found
      obtain ⟨left, closed, same⟩ := Option.map_eq_some_iff.mp read
      cases same
      obtain rfl := symbol?_own closed
      exact ⟨_, by simp, .parentheses disjuncts⟩
    · cases read
  · obtain ⟨own, rfl, compares⟩ := comparison?_own read
    exact ⟨own, rfl, .comparison compares⟩

theorem moreConjuncts_succ (derives : Derives steps) {before : List SqlToken}
    {first : Condition Term} {rest : List (Condition Term)}
    (conjuncts : Conjuncts before (first :: rest))
    (read : moreConjuncts? (steps + 1) (Condition.allOf first rest) tokens =
      some (condition, left)) :
    ∃ own others, tokens = own ++ left ∧ Conjuncts (before ++ own) (first :: others) ∧
      condition = Condition.allOf first others := by
  rw [moreConjuncts?] at read
  split at read
  · cases read
    exact ⟨[], rest, rfl, by rwa [List.append_nil], rfl⟩
  · rename_i after joined
    obtain ⟨word, spelled, rfl⟩ := keyword?_own joined
    split at read
    · cases read
    · rename_i next after found
      obtain ⟨own, rfl, operand⟩ := derives.operand found
      rw [← Condition.allOf_concat] at read
      obtain ⟨more, others, rfl, conjuncts, rfl⟩ :=
        derives.moreConjuncts (.concat conjuncts spelled operand) read
      exact ⟨.word word :: (own ++ more), others, by simp, by simpa using conjuncts, rfl⟩

theorem moreDisjuncts_succ (derives : Derives steps) {before : List SqlToken}
    {first : Condition Term} {rest : List (Condition Term)}
    (disjuncts : Disjuncts before (first :: rest))
    (read : moreDisjuncts? (steps + 1) (Condition.anyOf first rest) tokens =
      some (condition, left)) :
    ∃ own others, tokens = own ++ left ∧ Disjuncts (before ++ own) (first :: others) ∧
      condition = Condition.anyOf first others := by
  rw [moreDisjuncts?] at read
  split at read
  · cases read
    exact ⟨[], rest, rfl, by rwa [List.append_nil], rfl⟩
  · rename_i after joined
    obtain ⟨word, spelled, rfl⟩ := keyword?_own joined
    split at read
    · cases read
    · rename_i next after found
      obtain ⟨own, head, tail, rfl, conjuncts, rfl⟩ := derives.conjuncts found
      rw [← Condition.anyOf_concat] at read
      obtain ⟨more, others, rfl, disjuncts, rfl⟩ :=
        derives.moreDisjuncts (.concat disjuncts spelled conjuncts) read
      exact ⟨.word word :: (own ++ more), others, by simp, by simpa using disjuncts, rfl⟩

end Derives

theorem derives (steps : Nat) : Derives steps := by
  induction steps with
  | zero => constructor <;> intros <;> contradiction
  | succ steps ih =>
      refine ⟨ih.operand_succ, ih.moreConjuncts_succ, ?_, ih.moreDisjuncts_succ, ?_⟩
      · intro tokens left condition read
        rw [conjunction?] at read
        split at read
        · cases read
        · rename_i first after found
          obtain ⟨own, rfl, operand⟩ := ih.operand found
          obtain ⟨more, others, rfl, conjuncts, rfl⟩ :=
            ih.moreConjuncts (.single operand) read
          exact ⟨own ++ more, first, others, by simp, conjuncts, rfl⟩
      · intro tokens left condition read
        rw [disjunction?] at read
        split at read
        · cases read
        · rename_i first after found
          obtain ⟨own, head, tail, rfl, conjuncts, rfl⟩ := ih.conjuncts found
          obtain ⟨more, others, rfl, disjuncts, rfl⟩ :=
            ih.moreDisjuncts (.single conjuncts) read
          exact ⟨own ++ more, _, others, by simp, disjuncts, rfl⟩

/-- A conjunction whose operands are read one after another is read until no AND follows. -/
theorem conjunction?_ended {own : List SqlToken} {first : Condition Term}
    {others : List (Condition Term)} (conjuncts : Conjuncts own (first :: others))
    (operands : ∀ (steps : Nat) (rest : List SqlToken),
      3 * own.length + 1 ≤ steps + (first :: others).length →
        conjunction? (steps + (first :: others).length) (own ++ rest) =
          moreConjuncts? steps (Condition.allOf first others) rest)
    {steps : Nat} {rest : List SqlToken} (ends : keyword? "AND" rest = none)
    (enough : 3 * own.length + 1 ≤ steps) :
    conjunction? steps (own ++ rest) = some (Condition.allOf first others, rest) := by
  have few := conjuncts.length_le
  obtain ⟨more, rfl⟩ : ∃ more, steps = more + 1 + (first :: others).length :=
    ⟨steps - 1 - (first :: others).length, by omega⟩
  rw [operands (more + 1) rest enough, moreConjuncts?, ends]

mutual

theorem Operand.negation? : ∀ {own : List SqlToken} {condition : Condition Term},
    Operand own condition → ∀ (steps : Nat) (rest : List SqlToken),
      3 * own.length ≤ steps →
        Statement.negation? steps (own ++ rest) = some (condition, rest)
  | own, _, .comparison compares, steps, rest, enough => by
      have present := List.length_pos_iff.mpr compares.ne_nil
      obtain ⟨steps, rfl⟩ : ∃ fewer, steps = fewer + 1 := ⟨steps - 1, by omega⟩
      obtain ⟨notNegated, notOpened⟩ := compares.opens rest
      rw [Statement.negation?, notNegated, notOpened]
      exact compares steps rest (by omega)
  | _, _, @Operand.negation not own _ spelled operand, steps, rest, enough => by
      simp only [List.length_cons] at enough
      obtain ⟨steps, rfl⟩ : ∃ fewer, steps = fewer + 1 := ⟨steps - 1, by omega⟩
      have negated : keyword? "NOT" (.word not :: (own ++ rest)) = some (own ++ rest) := by
        rw [keyword?, if_pos spelled]
      have read := operand.negation? steps rest (by omega)
      simp only [List.cons_append, Statement.negation?, negated, read, Option.map_some]
  | _, _, @Operand.parentheses own first others inner, steps, rest, enough => by
      simp only [List.length_cons, List.length_append, List.length_nil] at enough
      have few := inner.length_le
      obtain ⟨steps, rfl⟩ : ∃ fewer, steps = fewer + 1 + (first :: others).length + 1 :=
        ⟨steps - (first :: others).length - 2, by omega⟩
      obtain ⟨_, _, same, reads⟩ := inner.disjunction?
      obtain ⟨rfl, rfl⟩ := List.cons.inj same
      have read := reads (steps + 1) (.symbol ")" :: rest) rfl (by omega)
      have ended : moreDisjuncts? (steps + 1) (Condition.anyOf first others)
          (.symbol ")" :: rest) = some (Condition.anyOf first others, .symbol ")" :: rest) := rfl
      have opened : ∀ after, symbol? "(" (.symbol "(" :: after) = some after := fun _ => rfl
      have notNegated : ∀ after, keyword? "NOT" (.symbol "(" :: after) = none := fun _ => rfl
      rw [ended] at read
      simp only [List.cons_append, List.append_assoc, List.nil_append, Statement.negation?,
        notNegated, opened, read]
      rfl

/-- The first operand takes a step and every further one takes one more. -/
theorem Conjuncts.conjunction? : ∀ {own : List SqlToken} {conditions : List (Condition Term)},
    Conjuncts own conditions → ∃ first others, conditions = first :: others ∧
      ∀ (steps : Nat) (rest : List SqlToken),
        3 * own.length + 1 ≤ steps + conditions.length →
          Statement.conjunction? (steps + conditions.length) (own ++ rest) =
            moreConjuncts? steps (Condition.allOf first others) rest
  | own, _, .single operand => by
      refine ⟨_, [], rfl, fun steps rest enough => ?_⟩
      have read := operand.negation? steps rest (by
        simp only [List.length_singleton] at enough
        omega)
      rw [List.length_singleton, Statement.conjunction?, read]
      rfl
  | _, _, @Conjuncts.concat own and last conditions condition earlier spelled operand => by
      obtain ⟨first, before, same, reads⟩ := earlier.conjunction?
      refine ⟨first, before ++ [condition], by rw [same, List.cons_append],
        fun steps rest enough => ?_⟩
      have few := earlier.length_le
      simp only [List.length_append, List.length_cons, List.length_nil] at enough few
      have joined : keyword? "AND" (.word and :: (last ++ rest)) = some (last ++ rest) := by
        rw [keyword?, if_pos spelled]
      have next := operand.negation? steps rest (by omega)
      have split : own ++ .word and :: last ++ rest = own ++ .word and :: (last ++ rest) := by
        rw [List.append_assoc, List.cons_append]
      have count : steps + (conditions ++ [condition]).length =
          steps + 1 + conditions.length := by
        simp only [List.length_append, List.length_cons, List.length_nil]
        omega
      rw [split, count, reads _ _ (by omega), moreConjuncts?, joined, Condition.allOf_concat]
      simp only [next]

theorem Disjuncts.disjunction? : ∀ {own : List SqlToken} {conditions : List (Condition Term)},
    Disjuncts own conditions → ∃ first others, conditions = first :: others ∧
      ∀ (steps : Nat) (rest : List SqlToken), keyword? "AND" rest = none →
        3 * own.length + 2 ≤ steps + conditions.length →
          Statement.disjunction? (steps + conditions.length) (own ++ rest) =
            moreDisjuncts? steps (Condition.anyOf first others) rest
  | own, _, .single conjuncts => by
      refine ⟨_, [], rfl, fun steps rest ends enough => ?_⟩
      simp only [List.length_singleton] at enough
      obtain ⟨_, _, same, reads⟩ := conjuncts.conjunction?
      obtain ⟨rfl, rfl⟩ := List.cons.inj same
      have read := conjunction?_ended conjuncts reads ends
        (show 3 * own.length + 1 ≤ steps by omega)
      rw [List.length_singleton, Statement.disjunction?, read]
      rfl
  | _, _, @Disjuncts.concat own or last conditions head tail earlier spelled conjuncts => by
      obtain ⟨first, before, same, reads⟩ := earlier.disjunction?
      refine ⟨first, before ++ [Condition.allOf head tail], by rw [same, List.cons_append],
        fun steps rest ends enough => ?_⟩
      obtain ⟨_, _, inner, conjunctsRead⟩ := conjuncts.conjunction?
      obtain ⟨rfl, rfl⟩ := List.cons.inj inner
      have few := earlier.length_le
      simp only [List.length_append, List.length_cons, List.length_nil] at enough few
      have notAnd : keyword? "AND" (.word or :: (last ++ rest)) = none := by
        rw [keyword?, if_neg (by rw [spelled]; decide)]
      have joined : keyword? "OR" (.word or :: (last ++ rest)) = some (last ++ rest) := by
        rw [keyword?, if_pos spelled]
      have next := conjunction?_ended conjuncts conjunctsRead ends
        (show 3 * last.length + 1 ≤ steps by omega)
      have split : own ++ .word or :: last ++ rest = own ++ .word or :: (last ++ rest) := by
        rw [List.append_assoc, List.cons_append]
      have count : steps + (conditions ++ [Condition.allOf head tail]).length =
          steps + 1 + conditions.length := by
        simp only [List.length_append, List.length_cons, List.length_nil]
        omega
      rw [split, count, reads _ _ notAnd (by omega), moreDisjuncts?, joined,
        Condition.anyOf_concat]
      simp only [next]

end

/-- The condition that tokens write, if they write one and nothing else. -/
def written? (tokens : List SqlToken) : Option (Condition Term) :=
  match disjunction? (5 * tokens.length + 5) tokens with
  | some (condition, []) => some condition
  | _ => none

/-- The reader reads exactly the conditions that the grammar derives. -/
theorem written?_eq_some_iff {tokens : List SqlToken} {condition : Condition Term} :
    written? tokens = some condition ↔
      ∃ first rest, Disjuncts tokens (first :: rest) ∧ condition = Condition.anyOf first rest := by
  constructor
  · intro read
    unfold written? at read
    split at read
    · rename_i found whole
      obtain rfl := Option.some.inj read
      obtain ⟨own, first, rest, rfl, disjuncts, rfl⟩ := (derives _).disjuncts whole
      exact ⟨first, rest, by rwa [List.append_nil], rfl⟩
    · cases read
  · rintro ⟨first, rest, disjuncts, rfl⟩
    obtain ⟨_, _, same, reads⟩ := disjuncts.disjunction?
    obtain ⟨rfl, rfl⟩ := List.cons.inj same
    have few := disjuncts.length_le
    obtain ⟨steps, count⟩ : ∃ steps,
        5 * tokens.length + 5 = steps + 1 + (first :: rest).length :=
      ⟨5 * tokens.length + 4 - (first :: rest).length, by omega⟩
    have read := reads (steps + 1) [] rfl (by omega)
    rw [List.append_nil, ← count, moreDisjuncts?] at read
    rw [written?, read]
    rfl

end Statement

end NodeGraph
