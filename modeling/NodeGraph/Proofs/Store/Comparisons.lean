import NodeGraph.Proofs.Store.Reading

/-!
# The tokens of a comparison

Every reader of a part of a comparison takes tokens from the front and reads the same part from
them whatever follows, so a comparison has tokens of its own.
-/

namespace NodeGraph

open SqlToken

namespace Statement

/-- Tokens before which the name of a column is over. -/
def EndsName (rest : List SqlToken) : Prop := ∀ after, rest ≠ .symbol "." :: after

theorem endsName_word (word : String) (rest : List SqlToken) :
    EndsName (.word word :: rest) := by
  intro after same
  cases same

theorem qualified?_own {path : List String} {last : String × NameForm}
    {tokens left : List SqlToken} {term : Term}
    (read : qualified? path last tokens = some (term, left)) :
    ∃ own, tokens = own ++ left ∧ EndsName left ∧
      ∀ rest, EndsName rest → qualified? path last (own ++ rest) = some (term, rest) := by
  fun_induction qualified? path last tokens with
  | case1 path last text rest admitted ih =>
      obtain ⟨own, rfl, ends, again⟩ := ih read
      refine ⟨.symbol "." :: .word text :: own, rfl, ends, fun rest endsRest => ?_⟩
      rw [List.cons_append, List.cons_append, qualified?, if_pos admitted, again rest endsRest]
  | case2 => cases read
  | case3 path last text form rest admitted ih =>
      obtain ⟨own, rfl, ends, again⟩ := ih read
      refine ⟨.symbol "." :: .quotedName text form :: own, rfl, ends, fun rest endsRest => ?_⟩
      rw [List.cons_append, List.cons_append, qualified?, if_pos admitted, again rest endsRest]
  | case4 => cases read
  | case5 => cases read
  | case6 path last rest _ _ ends =>
      cases read
      refine ⟨[], rfl, ends, fun rest endsRest => ?_⟩
      rw [List.nil_append]
      unfold qualified?
      split
      · exact absurd rfl (endsRest _)
      · exact absurd rfl (endsRest _)
      · exact absurd rfl (endsRest _)
      · rfl

/-- A term is read from its own tokens, whatever follows them except a further name. -/
theorem term?_own {tokens left : List SqlToken} {term : Term}
    (read : term? tokens = some (term, left)) :
    ∃ own, tokens = own ++ left ∧
      ∀ rest, EndsName rest → term? (own ++ rest) = some (term, rest) := by
  unfold term? at read
  split at read
  · rename_i text rest
    cases read
    exact ⟨[.number text], rfl, fun _ _ => rfl⟩
  · rename_i text rest
    cases meant : wordValue? text with
    | some value =>
        rw [meant] at read
        cases read
        refine ⟨[.word text], rfl, fun rest _ => ?_⟩
        simp only [List.cons_append, List.nil_append, term?, meant]
    | none =>
        simp only [meant] at read
        split at read
        · rename_i column
          obtain ⟨own, rfl, -, again⟩ := qualified?_own read
          refine ⟨.word text :: own, rfl, fun rest ends => ?_⟩
          simp only [List.cons_append, term?, meant, column, if_true, again rest ends]
        · cases read
  · rename_i text form rest
    obtain ⟨own, rfl, -, again⟩ := qualified?_own read
    exact ⟨.quotedName text form :: own, rfl, fun rest ends => again rest ends⟩
  · cases read

theorem literal?_own {tokens left : List SqlToken} {literal : SqlLiteral}
    (read : literal? tokens = some (literal, left)) :
    ∃ token, tokens = token :: left ∧
      ∀ rest, literal? (token :: rest) = some (literal, rest) := by
  unfold literal? at read
  split at read
  · cases read
    exact ⟨_, rfl, fun _ => rfl⟩
  · cases read
    exact ⟨_, rfl, fun _ => rfl⟩
  · cases read

theorem literals?_own {done found : List SqlLiteral} {steps : Nat} {tokens left : List SqlToken}
    (read : literals? done steps tokens = some (found, left)) :
    ∃ own, tokens = own ++ left ∧ ∀ more rest, own.length ≤ more →
      literals? done more (own ++ rest) = some (found, rest) := by
  induction steps generalizing done tokens with
  | zero => cases read
  | succ steps ih =>
      rw [literals?] at read
      split at read
      · rename_i text after first
        obtain ⟨token, rfl, again⟩ := literal?_own first
        obtain ⟨own, rfl, later⟩ := ih read
        refine ⟨token :: .symbol "," :: own, rfl, fun more rest enough => ?_⟩
        obtain ⟨more, rfl⟩ := Nat.exists_eq_add_one_of_ne_zero (Nat.ne_zero_of_lt enough)
        simp only [List.length_cons] at enough
        simp only [List.cons_append, literals?, again]
        exact later more rest (by omega)
      · rename_i text after last
        obtain ⟨token, rfl, again⟩ := literal?_own last
        cases read
        refine ⟨[token, .symbol ")"], rfl, fun more rest enough => ?_⟩
        obtain ⟨more, rfl⟩ := Nat.exists_eq_add_one_of_ne_zero (Nat.ne_zero_of_lt enough)
        simp only [List.cons_append, List.nil_append, literals?, again]
      · cases read

/-- Tokens that are read as one comparison, whatever follows them. -/
def Compares (own : List SqlToken) (condition : Condition Term) : Prop :=
  ∀ steps rest, own.length ≤ steps → comparison? steps (own ++ rest) = some (condition, rest)

theorem keyword?_own {word : String} {tokens left : List SqlToken}
    (read : keyword? word tokens = some left) :
    ∃ text, upper text = word ∧ tokens = .word text :: left := by
  unfold keyword? at read
  split at read
  · rename_i text rest
    split at read
    · rename_i same
      cases read
      exact ⟨text, same, rfl⟩
    · cases read
  · cases read

theorem symbol?_own {symbol : String} {tokens left : List SqlToken}
    (read : symbol? symbol tokens = some left) : tokens = .symbol symbol :: left := by
  unfold symbol? at read
  split at read
  · split at read
    · rename_i same
      cases read
      rw [same]
    · cases read
  · cases read

theorem endsName_symbol {symbol : String} {operator : Operator}
    (known : operatorOf? symbol = some operator) (rest : List SqlToken) :
    EndsName (.symbol symbol :: rest) := by
  intro after same
  obtain rfl := SqlToken.symbol.inj (List.cons.inj same).1
  cases known

/-- A comparison of a term by an operator takes the term, the operator and a literal. -/
theorem compares_literal {own : List SqlToken} {term : Term} {symbol : String}
    {operator : Operator} {literal : SqlLiteral} {token : SqlToken}
    (again : ∀ rest, EndsName rest → term? (own ++ rest) = some (term, rest))
    (known : operatorOf? symbol = some operator)
    (read : ∀ rest, literal? (token :: rest) = some (literal, rest)) :
    Compares (own ++ [.symbol symbol, token]) (.compare term operator literal) := by
  intro steps rest _
  have termRead := again (.symbol symbol :: token :: rest) (endsName_symbol known _)
  simp only [List.append_assoc, List.cons_append, List.nil_append, comparison?, termRead, known,
    read]

/-- What may stand before IN, and whether it negates the containment. -/
inductive Negates : List SqlToken → Bool → Prop
  | nothing : Negates [] false
  | word {word : String} (spelled : upper word = "NOT") : Negates [.word word] true

theorem Negates.keyword? {before : List SqlToken} {negated : Bool} {word : String}
    (negates : Negates before negated) (spelled : upper word = "IN") (rest : List SqlToken) :
    (Statement.keyword? "NOT" (before ++ .word word :: rest)).isSome = negated ∧
      Statement.keyword? "IN" ((Statement.keyword? "NOT" (before ++ .word word :: rest)).getD
        (before ++ .word word :: rest)) = some rest := by
  have inside : Statement.keyword? "IN" (.word word :: rest) = some rest := by
    rw [Statement.keyword?, if_pos spelled]
  cases negates with
  | nothing =>
      have unspelled : Statement.keyword? "NOT" (.word word :: rest) = none := by
        rw [Statement.keyword?, if_neg (by rw [spelled]; decide)]
      rw [List.nil_append, unspelled]
      exact ⟨rfl, inside⟩
  | @word not negated =>
      have dropped : Statement.keyword? "NOT" (.word not :: .word word :: rest) =
          some (.word word :: rest) := by
        rw [Statement.keyword?, if_pos negated]
      rw [List.cons_append, List.nil_append, dropped]
      exact ⟨rfl, inside⟩

theorem Negates.endsName {before : List SqlToken} {negated : Bool}
    (negates : Negates before negated) (word : String) (rest : List SqlToken) :
    EndsName (before ++ .word word :: rest) := by
  cases negates <;> exact endsName_word _ _

section Containment

variable {own before : List SqlToken} {term : Term} {negated : Bool} {word : String}
  (negates : Negates before negated) (spelled : upper word = "IN")
  (again : ∀ rest, EndsName rest → term? (own ++ rest) = some (term, rest))

include negates spelled again

/-- A containment in no values takes its tokens up to the closing parenthesis. -/
theorem comparison?_empty (steps : Nat) (rest : List SqlToken) :
    comparison? steps
        (own ++ (before ++ .word word :: .symbol "(" :: .symbol ")" :: rest)) =
      some (.contains (.constant (.integer 0) "0") negated [], rest) := by
  obtain ⟨isNegated, inside⟩ := negates.keyword? spelled (.symbol "(" :: .symbol ")" :: rest)
  rw [comparison?, again _ (negates.endsName word _)]
  cases negates <;>
    simp only [List.cons_append, List.nil_append] at isNegated inside ⊢ <;>
    simp only [isNegated, inside]

/-- A containment in a list takes the tokens of the list. -/
theorem comparison?_listed {steps : Nat} {tokens rest : List SqlToken} {values : List SqlLiteral}
    (listed : literals? [] steps tokens = some (values, rest)) :
    comparison? steps (own ++ (before ++ .word word :: .symbol "(" :: tokens)) =
      some (.contains term negated values, rest) := by
  obtain ⟨isNegated, inside⟩ := negates.keyword? spelled (.symbol "(" :: tokens)
  have opened : ∀ after, tokens ≠ .symbol ")" :: after := by
    rintro after rfl
    cases steps <;> cases listed
  rw [comparison?, again _ (negates.endsName word _)]
  cases negates <;>
    simp only [List.cons_append, List.nil_append] at isNegated inside ⊢ <;>
    simp only [isNegated, inside, listed, Option.map_some]

end Containment

theorem exists_negates {tokens left : List SqlToken}
    (read : keyword? "IN" ((keyword? "NOT" tokens).getD tokens) = some left) :
    ∃ before word, upper word = "IN" ∧ tokens = before ++ .word word :: left ∧
      Negates before (keyword? "NOT" tokens).isSome := by
  cases negated : keyword? "NOT" tokens with
  | none =>
      rw [negated, Option.getD_none] at read
      obtain ⟨word, spelled, rfl⟩ := keyword?_own read
      exact ⟨[], word, spelled, rfl, .nothing⟩
  | some after =>
      rw [negated, Option.getD_some] at read
      obtain ⟨not, spelledNot, rfl⟩ := keyword?_own negated
      obtain ⟨word, spelled, rfl⟩ := keyword?_own read
      exact ⟨[.word not], word, spelled, rfl, .word spelledNot⟩

theorem comparison?_own {steps : Nat} {tokens left : List SqlToken}
    {condition : Condition Term} (read : comparison? steps tokens = some (condition, left)) :
    ∃ own, tokens = own ++ left ∧ Compares own condition := by
  unfold comparison? at read
  split at read
  · cases read
  · rename_i term symbol after first
    obtain ⟨own, rfl, again⟩ := term?_own first
    cases known : operatorOf? symbol with
    | none => simp [known] at read
    | some operator =>
        cases found : literal? after with
        | none => simp [known, found] at read
        | some pair =>
            obtain ⟨text, rest⟩ := pair
            obtain ⟨token, rfl, literal⟩ := literal?_own found
            rw [known, found] at read
            cases read
            exact ⟨own ++ [.symbol symbol, token], by simp,
              compares_literal again known literal⟩
  · rename_i term after _ first
    obtain ⟨own, rfl, again⟩ := term?_own first
    dsimp only at read
    split at read
    · rename_i rest inside
      obtain ⟨before, word, spelled, rfl, negates⟩ := exists_negates inside
      cases read
      refine ⟨own ++ (before ++ [.word word, .symbol "(", .symbol ")"]), by simp,
        fun more others _ => ?_⟩
      simpa using comparison?_empty negates spelled again more others
    · rename_i rest notEmpty inside
      obtain ⟨before, word, spelled, rfl, negates⟩ := exists_negates inside
      obtain ⟨⟨values, left⟩, listed, same⟩ := Option.map_eq_some_iff.mp read
      cases same
      obtain ⟨list, rfl, later⟩ := literals?_own listed
      refine ⟨own ++ (before ++ .word word :: .symbol "(" :: list), by simp,
        fun more others enough => ?_⟩
      simp only [List.length_append, List.length_cons] at enough
      simpa using comparison?_listed negates spelled again (later more others (by omega))
    · cases read

theorem Compares.ne_nil {own : List SqlToken} {condition : Condition Term}
    (compares : Compares own condition) : own ≠ [] := by
  rintro rfl
  have read := compares 0 [] (Nat.zero_le _)
  cases read

theorem Compares.exists_symbol {own : List SqlToken} {condition : Condition Term}
    (compares : Compares own condition) : ∃ symbol, SqlToken.symbol symbol ∈ own := by
  have read := compares own.length [] le_rfl
  rw [List.append_nil] at read
  unfold comparison? at read
  split at read
  · cases read
  · rename_i term symbol after first
    obtain ⟨tokens, rfl, -⟩ := term?_own first
    exact ⟨symbol, by simp⟩
  · rename_i term after _ first
    obtain ⟨tokens, rfl, -⟩ := term?_own first
    dsimp only at read
    split at read
    · rename_i inside
      obtain ⟨before, word, -, rfl, -⟩ := exists_negates inside
      exact ⟨"(", by simp⟩
    · rename_i inside
      obtain ⟨before, word, -, rfl, -⟩ := exists_negates inside
      exact ⟨"(", by simp⟩
    · cases read

/-- No term begins with NOT. -/
theorem term?_not {word : String} (spelled : upper word = "NOT") (rest : List SqlToken) :
    term? (.word word :: rest) = none := by
  have meant : wordValue? word = none := by
    rw [wordValue?, spelled]
    rfl
  have reserved : isColumnName word = false := by
    rw [isColumnName, isName, spelled]
    rfl
  simp [term?, meant, reserved]

/-- A comparison begins neither with NOT nor with a parenthesis. -/
theorem Compares.opens {own : List SqlToken} {condition : Condition Term}
    (compares : Compares own condition) (rest : List SqlToken) :
    keyword? "NOT" (own ++ rest) = none ∧ symbol? "(" (own ++ rest) = none := by
  have read := compares own.length rest le_rfl
  constructor
  · by_contra negated
    obtain ⟨after, negated⟩ := Option.ne_none_iff_exists'.mp negated
    obtain ⟨word, spelled, same⟩ := keyword?_own negated
    rw [same, comparison?, term?_not spelled] at read
    cases read
  · by_contra opened
    obtain ⟨after, opened⟩ := Option.ne_none_iff_exists'.mp opened
    rw [symbol?_own opened] at read
    cases read

end Statement

end NodeGraph
