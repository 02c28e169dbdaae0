import NodeGraph.Proofs.Store.Writing
import NodeGraph.Store.Statement.Reader

/-!
# Statements read back

The tokens of an adapter's statement are read as the selection that they were written for:
its columns with their labels, its table, the conjunction of its predicates, its sorts and its
window.  Only a condition that is too high is refused.
-/

namespace NodeGraph

open SqlToken Statement

/-- A name that stands by itself for a column. -/
def columnTerm (name : String) : Term := .column { name }

namespace Column

/-- What the selection of a column reads as. -/
def item (column : Column) : SelectItem :=
  .term (columnTerm column.name)
    (if column.name = column.label then none else some column.label)

end Column

namespace Predicate

/-- What a predicate reads as. -/
def condition : Predicate → Condition Term
  | .compare field operator value => .compare (columnTerm field) operator (.text value)
  | .contains field operator values =>
      .contains (columnTerm field) (operator == .noneOf) (values.map .text)

end Predicate

namespace SortKey

/-- What a sort reads as. -/
def item (sort : SortKey) : Term × Bool :=
  (columnTerm sort.field, sort.direction == .descending)

end SortKey

namespace Filter

/-- A condition conjoined with further predicates, one after another. -/
def conjoinAll (first : Condition Term) (rest : List Predicate) : Condition Term :=
  rest.foldl (fun condition predicate => .conjunction condition predicate.condition) first

/-- What a conjunction of predicates reads as: nothing if all of them are empty. -/
def condition? (predicates : List Predicate) : Option (Condition Term) :=
  match restricting predicates with
  | [] => none
  | first :: rest => some (conjoinAll first.condition rest)

/-- The condition that the predicates make is not too high to be read. -/
def FitsHeight (predicates : List Predicate) : Prop :=
  ∀ condition ∈ condition? predicates, condition.height Term.height ≤ Statement.heightLimit

instance (predicates : List Predicate) : Decidable (FitsHeight predicates) :=
  inferInstanceAs (Decidable (∀ condition ∈ condition? predicates,
    condition.height Term.height ≤ Statement.heightLimit))

/-- One operation on a column is at most four levels high, and at least two. -/
theorem height_condition (predicate : Predicate) :
    2 ≤ predicate.condition.height Term.height ∧ predicate.condition.height Term.height ≤ 4 := by
  cases predicate with
  | compare field operator value => exact ⟨le_refl 2, Nat.le_add_left 2 2⟩
  | contains field operator values =>
      have column : (columnTerm field).height = 1 := rfl
      have negated : (operator == .noneOf).toNat ≤ 1 := Bool.toNat_le _
      rw [Predicate.condition, Condition.height, column]
      split <;> omega

/-- Every further predicate makes a conjunction one level higher. -/
theorem height_conjoinAll (first : Condition Term) (rest : List Predicate) :
    first.height Term.height + rest.length ≤ (conjoinAll first rest).height Term.height ∧
      (conjoinAll first rest).height Term.height ≤
        max (first.height Term.height) 4 + rest.length := by
  induction rest generalizing first with
  | nil => exact ⟨le_refl _, le_max_left _ _⟩
  | cons predicate rest ih =>
      have next := (height_condition predicate).2
      have joined : (Condition.conjunction first predicate.condition).height Term.height =
          max (first.height Term.height) (predicate.condition.height Term.height) + 1 := rfl
      have ⟨lower, upper⟩ := ih (.conjunction first predicate.condition)
      have unfolded : conjoinAll first (predicate :: rest) =
          conjoinAll (.conjunction first predicate.condition) rest := rfl
      rw [unfolded, List.length_cons]
      omega

/-- Few predicates fit, whatever they are. -/
theorem fitsHeight_of_length {predicates : List Predicate}
    (few : (restricting predicates).length + 3 ≤ Statement.heightLimit) :
    FitsHeight predicates := by
  intro condition stated
  unfold condition? at stated
  split at stated
  · cases stated
  · rename_i first rest present
    rw [present, List.length_cons] at few
    have high := (height_condition first).2
    have joined := (height_conjoinAll first.condition rest).2
    rw [← Option.some.inj stated]
    omega

/-- Too many predicates do not fit, whatever they are. -/
theorem not_fitsHeight_of_length {predicates : List Predicate}
    (many : Statement.heightLimit ≤ (restricting predicates).length) :
    ¬ FitsHeight predicates := by
  intro fits
  obtain ⟨first, rest, present⟩ := List.exists_cons_of_length_pos
    (lt_of_lt_of_le (by decide) many)
  have stated : condition? predicates = some (conjoinAll first.condition rest) := by
    rw [condition?, present]
  have fits := fits _ stated
  have low := (height_condition first).1
  have joined := (height_conjoinAll first.condition rest).1
  rw [present, List.length_cons] at many
  omega

end Filter

namespace TableAdapter

variable {World : Type}

/-- What the statement of an adapter reads as. -/
def selectStatement (adapter : TableAdapter World) (params : ResolveParams) :
    SelectStatement where
  items := (selectedColumns adapter.columns params.selection).map Column.item
  table := { name := adapter.table }
  condition := Filter.condition? (adapter.predicates params)
  ordering := params.arguments.lastSorts.map SortKey.item
  window := (params.arguments.lastOf? Argument.window?).map fun window =>
    (window.offset, window.count)

end TableAdapter

namespace Statement

theorem isName_of_isPlainColumn {name : String} (plain : isPlainColumn name = true) :
    isName name = true := by
  simp only [isPlainColumn, isColumnName, Bool.and_eq_true] at plain
  exact plain.1.2.1

theorem keyword?_word {keyword name : String} (reserved : keyword ∈ reservedWords)
    (named : isName name = true) (rest : List SqlToken) :
    keyword? keyword (.word name :: rest) = none := by
  rw [keyword?, if_neg]
  rintro rfl
  rw [isName, Bool.not_eq_true', List.contains_eq_mem, decide_eq_false_iff_not] at named
  exact named reserved

theorem name?_word {name : String} (named : isName name = true) (rest : List SqlToken) :
    name? (.word name :: rest) = some (name, rest) := by
  simp only [name?, nameThat?, named, if_true, Option.map_some]

/-- A plain name is read as a column unless another name follows after a point. -/
theorem term?_word {name : String} (plain : isPlainColumn name = true)
    {rest : List SqlToken} (ends : ∀ after, rest ≠ .symbol "." :: after) :
    term? (.word name :: rest) = some (columnTerm name, rest) := by
  simp only [isPlainColumn, Bool.and_eq_true, Option.isNone_iff_eq_none] at plain
  obtain ⟨⟨-, column⟩, value⟩ := plain
  simp only [term?, value, column, if_true]
  unfold qualified?
  split
  · exact absurd rfl (ends _)
  · exact absurd rfl (ends _)
  · exact absurd rfl (ends _)
  · rfl

theorem operatorOf?_symbol {operator : Operator} (compares : operator.isContainment = false) :
    operatorOf? operator.symbol = some operator := by
  cases operator with
  | oneOf => cases compares
  | noneOf => cases compares
  | _ => decide

theorem literals?_listed (done : List SqlLiteral) (value : String) (values : List String)
    {steps : Nat} (enough : values.length < steps) (rest : List SqlToken) :
    literals? done steps
        (listed ((value :: values).map fun text => [.literal text]) ++ .symbol ")" :: rest) =
      some (done.reverse ++ (value :: values).map .text, rest) := by
  induction values generalizing done value steps with
  | nil =>
      obtain ⟨steps, rfl⟩ := Nat.exists_eq_add_one_of_ne_zero (Nat.ne_zero_of_lt enough)
      simp [listed_singleton, literals?, literal?]
  | cons next values ih =>
      obtain ⟨steps, rfl⟩ := Nat.exists_eq_add_one_of_ne_zero (Nat.ne_zero_of_lt enough)
      have later := ih (.text value :: done) next (Nat.lt_of_succ_lt_succ enough)
      rw [List.map_cons] at later ⊢
      simp only [List.map_cons, listed_cons_cons, List.cons_append, List.nil_append, literals?,
        literal?] at later ⊢
      rw [later, List.reverse_cons, List.append_assoc, List.singleton_append]

/-- A predicate that is not empty is read back, whatever follows it. -/
theorem comparison?_tokens {predicate : Predicate} (typed : predicate.IsTyped)
    (plain : isPlainColumn predicate.field = true) (restricts : predicate.operands ≠ [])
    {steps : Nat} (enough : predicate.operands.length ≤ steps) (rest : List SqlToken) :
    comparison? steps (predicate.tokens ++ rest) = some (predicate.condition, rest) := by
  cases predicate with
  | compare field operator value =>
      have symbol : operator.symbol ≠ "." := by cases operator <;> decide
      have term : term? (.word field :: .symbol operator.symbol :: .literal value :: rest) =
          some (columnTerm field, .symbol operator.symbol :: .literal value :: rest) := by
        refine term?_word plain fun after same => symbol ?_
        exact SqlToken.symbol.inj (List.cons.inj same).1
      simp only [Predicate.tokens, List.cons_append, List.nil_append, comparison?, term,
        operatorOf?_symbol typed, literal?, Predicate.condition]
  | contains field operator values =>
      cases values with
      | nil => exact absurd rfl restricts
      | cons value values =>
          have read := literals?_listed [] value values enough rest
          have term : ∀ word after, term? (.word field :: .word word :: after) =
              some (columnTerm field, .word word :: after) := fun word after =>
            term?_word plain fun _ same => SqlToken.noConfusion (List.cons.inj same).1
          have shape : ∃ tail, listed ((value :: values).map fun text => [.literal text]) ++
              .symbol ")" :: rest = .literal value :: tail := by
            cases values <;> simp [listed]
          obtain ⟨tail, shape⟩ := shape
          simp only [Predicate.tokens, List.cons_append, List.append_assoc, List.nil_append]
          rw [shape] at read ⊢
          cases operator with
          | oneOf =>
              have unnegated : keyword? "NOT" (.word "IN" :: .symbol "(" :: .literal value ::
                  tail) = none := rfl
              have opened : keyword? "IN" (.word "IN" :: .symbol "(" :: .literal value ::
                  tail) = some (.symbol "(" :: .literal value :: tail) := rfl
              simp only [Predicate.negation, reduceCtorEq, if_false, List.nil_append,
                comparison?, term, unnegated, Option.getD_none, opened, read, Option.map_some]
              rfl
          | noneOf =>
              have negated : keyword? "NOT" (.word "NOT" :: .word "IN" :: .symbol "(" ::
                  .literal value :: tail) =
                some (.word "IN" :: .symbol "(" :: .literal value :: tail) := rfl
              have opened : keyword? "IN" (.word "IN" :: .symbol "(" :: .literal value ::
                  tail) = some (.symbol "(" :: .literal value :: tail) := rfl
              simp only [Predicate.negation, if_true, List.cons_append, List.nil_append,
                comparison?, term, negated, Option.getD_some, opened, read, Option.map_some]
              rfl
          | _ => cases typed

/-- Predicates that restrict something and can be read back. -/
structure Readable (predicate : Predicate) : Prop where
  typed : predicate.IsTyped
  field : isPlainColumn predicate.field = true
  restricts : predicate.operands ≠ []

theorem length_operands_lt (predicate : Predicate) (restricts : predicate.operands ≠ []) :
    predicate.operands.length < predicate.tokens.length := by
  cases predicate with
  | compare field operator value => simp [Predicate.operands, Predicate.tokens]
  | contains field operator values =>
      cases values with
      | nil => exact absurd rfl restricts
      | cons value values =>
          have enough := length_le_listed (value :: values)
            (fun text => [.literal text]) fun _ _ => List.cons_ne_nil _ _
          simp only [Predicate.operands, Predicate.tokens, List.length_cons,
            List.length_append] at enough ⊢
          omega

theorem negation?_tokens {predicate : Predicate} (readable : Readable predicate) (steps : Nat)
    (enough : predicate.tokens.length ≤ steps) (rest : List SqlToken) :
    negation? steps (predicate.tokens ++ rest) = some (predicate.condition, rest) := by
  have shorter := length_operands_lt predicate readable.restricts
  obtain ⟨steps, rfl⟩ := Nat.exists_eq_add_one_of_ne_zero
    (Nat.ne_zero_of_lt (Nat.lt_of_lt_of_le shorter enough))
  have read := comparison?_tokens readable.typed readable.field readable.restricts
    (Nat.le_of_lt_succ (Nat.lt_of_lt_of_le shorter enough)) rest
  obtain ⟨tail, shape⟩ : ∃ tail, predicate.tokens = .word predicate.field :: tail := by
    cases predicate with
    | compare field operator value => exact ⟨_, rfl⟩
    | contains field operator values =>
        cases values with
        | nil => exact absurd rfl readable.restricts
        | cons value values => exact ⟨_, rfl⟩
  rw [shape, List.cons_append] at read ⊢
  have named := isName_of_isPlainColumn readable.field
  simp only [negation?, keyword?_word (by decide : "NOT" ∈ reservedWords) named, symbol?, read]

/-- The conjuncts after the first one, each after its keyword. -/
def conjuncts (predicates : List Predicate) : List SqlToken :=
  predicates.flatMap fun predicate => .word "AND" :: predicate.tokens

theorem conjuncts_cons (first : Predicate) (rest : List Predicate) :
    conjuncts (first :: rest) = .word "AND" :: (first.tokens ++ conjuncts rest) := by
  rw [conjuncts, List.flatMap_cons, List.cons_append, conjuncts]

theorem intercalate_conjuncts (first : Predicate) (rest : List Predicate) :
    [.word "AND"].intercalate ((first :: rest).map Predicate.tokens) =
      first.tokens ++ conjuncts rest := by
  induction rest generalizing first with
  | nil => simp [conjuncts]
  | cons next rest ih =>
      have later := ih next
      rw [List.map_cons] at later
      rw [List.map_cons, List.map_cons, List.intercalate_cons_cons, later, conjuncts_cons,
        List.append_assoc, List.singleton_append]

/-- No tokens, or tokens of which the first is one of the keywords. -/
inductive StartsWith (keywords : List String) : List SqlToken → Prop
  | nil : StartsWith keywords []
  | word {keyword : String} (member : keyword ∈ keywords) (after : List SqlToken) :
      StartsWith keywords (.word keyword :: after)

namespace StartsWith

variable {keywords : List String} {rest : List SqlToken}

theorem keyword?_eq_none (starts : StartsWith keywords rest) (keyword : String)
    (other : ∀ word ∈ keywords, upper word ≠ keyword) : keyword? keyword rest = none := by
  cases starts with
  | nil => rfl
  | word member after => rw [keyword?, if_neg (other _ member)]

theorem ne_symbol (starts : StartsWith keywords rest) (symbol : String)
    (after : List SqlToken) : rest ≠ .symbol symbol :: after := by
  rintro rfl
  cases starts

/-- Reserved words are no labels. -/
theorem optionalLabel? (starts : StartsWith keywords rest)
    (reserved : ∀ word ∈ keywords, isName word = false ∧ upper word ≠ "AS") :
    optionalLabel? isTableLabel rest = some (none, rest) := by
  have keyword := starts.keyword?_eq_none _ fun word member => (reserved word member).2
  cases starts with
  | nil => rfl
  | @word word member after =>
      have refused : isTableLabel word = false := by
        rw [isTableLabel, (reserved word member).1, Bool.false_and]
      simp only [Statement.optionalLabel?, keyword, nameThat?, refused, Bool.false_eq_true,
        if_false]

end StartsWith

theorem moreConjuncts?_conjuncts {predicates : List Predicate}
    (readable : ∀ predicate ∈ predicates, Readable predicate) (left : Condition Term)
    (steps : Nat) (enough : (conjuncts predicates).length < steps) {rest : List SqlToken}
    (ends : keyword? "AND" rest = none) :
    moreConjuncts? steps left (conjuncts predicates ++ rest) =
      some (Filter.conjoinAll left predicates, rest) := by
  induction predicates generalizing left steps with
  | nil =>
      obtain ⟨steps, rfl⟩ := Nat.exists_eq_add_one_of_ne_zero (Nat.ne_zero_of_lt enough)
      simp only [conjuncts, List.flatMap_nil, List.nil_append, moreConjuncts?, ends]
      rfl
  | cons predicate predicates ih =>
      obtain ⟨steps, rfl⟩ := Nat.exists_eq_add_one_of_ne_zero (Nat.ne_zero_of_lt enough)
      rw [conjuncts_cons] at enough ⊢
      simp only [List.length_append, List.length_cons] at enough
      have keyword : ∀ after, keyword? "AND" (.word "AND" :: after) = some after :=
        fun _ => rfl
      have read := negation?_tokens (readable predicate List.mem_cons_self)
        steps (by omega) (conjuncts predicates ++ rest)
      have later := ih (fun other member => readable other (List.mem_cons_of_mem _ member))
        (.conjunction left predicate.condition) steps (by omega)
      simp only [List.cons_append, List.append_assoc, moreConjuncts?, keyword, read, later]
      rfl

/-- A conjunction of predicates is read back unless it is too high. -/
theorem condition?_tokens {first : Predicate} {predicates : List Predicate}
    (readable : ∀ predicate ∈ first :: predicates, Readable predicate)
    {rest : List SqlToken} (noAnd : keyword? "AND" rest = none)
    (noOr : keyword? "OR" rest = none) :
    condition? ([.word "AND"].intercalate ((first :: predicates).map Predicate.tokens) ++ rest) =
      if (Filter.conjoinAll first.condition predicates).height Term.height ≤ heightLimit then
        some (Filter.conjoinAll first.condition predicates, rest)
      else none := by
  rw [intercalate_conjuncts, List.append_assoc, condition?]
  generalize measure :
    5 * (first.tokens ++ (conjuncts predicates ++ rest)).length + 5 = steps
  obtain ⟨steps, rfl⟩ : ∃ fewer, steps = fewer + 4 :=
    ⟨5 * (first.tokens ++ (conjuncts predicates ++ rest)).length + 1, by omega⟩
  simp only [List.length_append] at measure
  have read := negation?_tokens (readable first List.mem_cons_self) (steps + 2)
    (by omega) (conjuncts predicates ++ rest)
  have later := moreConjuncts?_conjuncts
    (fun other member => readable other (List.mem_cons_of_mem _ member)) first.condition
    (steps + 2) (by omega) noAnd
  have whole : disjunction? (steps + 4) (first.tokens ++ (conjuncts predicates ++ rest)) =
      some (Filter.conjoinAll first.condition predicates, rest) := by
    simp only [disjunction?, conjunction?, read, later, moreDisjuncts?, noOr]
  rw [whole, Option.filter]
  split <;> simp_all

theorem optionalCondition?_tokens {predicates : List Predicate}
    (readable : ∀ predicate ∈ Filter.restricting predicates, Readable predicate)
    {rest : List SqlToken} (starts : StartsWith ["ORDER", "LIMIT"] rest) :
    optionalCondition? (Filter.tokens predicates ++ rest) =
      if Filter.FitsHeight predicates then some (Filter.condition? predicates, rest)
      else none := by
  have noWhere := starts.keyword?_eq_none "WHERE" (by decide)
  have noAnd := starts.keyword?_eq_none "AND" (by decide)
  have noOr := starts.keyword?_eq_none "OR" (by decide)
  cases restricting : Filter.restricting predicates with
  | nil =>
      have tokens : Filter.tokens predicates = [] := by rw [Filter.tokens, restricting]
      have condition : Filter.condition? predicates = none := by
        rw [Filter.condition?, restricting]
      have fits : Filter.FitsHeight predicates := by
        rw [Filter.FitsHeight, condition]
        simp
      rw [if_pos fits, tokens, condition, List.nil_append, optionalCondition?, noWhere]
  | cons first others =>
      rw [restricting] at readable
      have tokens : Filter.tokens predicates = .word "WHERE" ::
          [.word "AND"].intercalate ((first :: others).map Predicate.tokens) := by
        rw [Filter.tokens, restricting]
      have condition : Filter.condition? predicates =
          some (Filter.conjoinAll first.condition others) := by
        rw [Filter.condition?, restricting]
      have keyword : ∀ after, keyword? "WHERE" (.word "WHERE" :: after) = some after :=
        fun _ => rfl
      simp only [tokens, List.cons_append, optionalCondition?, keyword,
        condition?_tokens readable noAnd noOr, Filter.FitsHeight, condition, Option.mem_def,
        Option.some.injEq, forall_eq']
      split <;> rfl

/-- Tokens after which a list of items is over. -/
def EndsItem (rest : List SqlToken) : Prop :=
  (∃ after, rest = .symbol "," :: after) ∨ ∃ after, rest = .word "FROM" :: after

theorem item?_tokens {column : Column} (name : isPlainColumn column.name = true)
    (label : isPlainName column.label = true) {rest : List SqlToken} (ends : EndsItem rest) :
    item? (column.tokens ++ rest) = some (column.item, rest) := by
  have named := isName_of_isPlainColumn name
  have labelled : isName column.label = true := by
    rw [isPlainName, Bool.and_eq_true] at label
    exact label.2
  have unlabelled : optionalLabel? isTermLabel rest = some (none, rest) := by
    rcases ends with ⟨after, rfl⟩ | ⟨after, rfl⟩ <;> rfl
  have plain : term? (.word column.name :: rest) = some (columnTerm column.name, rest) := by
    refine term?_word name ?_
    rcases ends with ⟨after, rfl⟩ | ⟨after, rfl⟩ <;> simp
  have aliased : ∀ after, term? (.word column.name :: .word "AS" :: after) =
      some (columnTerm column.name, .word "AS" :: after) :=
    fun after => term?_word name (by simp)
  have keyword : ∀ after, keyword? "AS" (.word "AS" :: after) = some after := fun _ => rfl
  unfold Column.tokens Column.item
  split
  · simp only [List.cons_append, List.nil_append, item?, symbol?, name?_word named, plain,
      unlabelled, Option.map_some]
    rcases ends with ⟨after, rfl⟩ | ⟨after, rfl⟩ <;> rfl
  · simp only [List.cons_append, List.nil_append, item?, symbol?, name?_word named, aliased,
      optionalLabel?, keyword, name?_word labelled, Option.map_some]

theorem items?_listed (done : List SelectItem) (first : Column) (columns : List Column)
    (plain : ∀ column ∈ first :: columns,
      isPlainColumn column.name = true ∧ isPlainName column.label = true)
    (steps : Nat) (enough : columns.length < steps) (rest : List SqlToken) :
    items? done steps
        (listed ((first :: columns).map Column.tokens) ++ .word "FROM" :: rest) =
      some (done.reverse ++ (first :: columns).map Column.item, .word "FROM" :: rest) := by
  have ⟨name, label⟩ := plain first List.mem_cons_self
  induction columns generalizing done first steps with
  | nil =>
      obtain ⟨steps, rfl⟩ := Nat.exists_eq_add_one_of_ne_zero (Nat.ne_zero_of_lt enough)
      have read := item?_tokens name label (.inr ⟨rest, rfl⟩)
      simp only [List.map_cons, List.map_nil, listed_singleton, items?, read,
        List.reverse_cons]
  | cons next columns ih =>
      obtain ⟨steps, rfl⟩ := Nat.exists_eq_add_one_of_ne_zero (Nat.ne_zero_of_lt enough)
      have ⟨nextName, nextLabel⟩ := plain next (by simp)
      have later := ih (first.item :: done) next
        (fun column member => plain column (List.mem_cons_of_mem _ member))
        steps (Nat.lt_of_succ_lt_succ enough) nextName nextLabel
      have read := item?_tokens name label (.inl
        ⟨listed ((next :: columns).map Column.tokens) ++ .word "FROM" :: rest, rfl⟩)
      simp only [List.map_cons, listed_cons_cons, List.append_assoc, List.cons_append, items?]
        at read later ⊢
      rw [read]
      simp only [later, List.reverse_cons, List.append_assoc, List.singleton_append]

theorem sort?_tokens {sort : SortKey} (plain : isPlainColumn sort.field = true)
    (rest : List SqlToken) : sort? (sort.tokens ++ rest) = some (sort.item, rest) := by
  have term : ∀ word after, term? (.word sort.field :: .word word :: after) =
      some (columnTerm sort.field, .word word :: after) :=
    fun word after => term?_word plain (by simp)
  simp only [SortKey.tokens, List.cons_append, List.nil_append, sort?, term, SortKey.item]
  cases sort.direction <;> rfl

theorem sorts?_listed (done : List (Term × Bool)) (first : SortKey) (sorts : List SortKey)
    (plain : ∀ sort ∈ first :: sorts, isPlainColumn sort.field = true) (steps : Nat)
    (enough : sorts.length < steps) {rest : List SqlToken}
    (ends : ∀ after, rest ≠ .symbol "," :: after) :
    sorts? done steps (listed ((first :: sorts).map SortKey.tokens) ++ rest) =
      some (done.reverse ++ (first :: sorts).map SortKey.item, rest) := by
  have field := plain first List.mem_cons_self
  induction sorts generalizing done first steps with
  | nil =>
      obtain ⟨steps, rfl⟩ := Nat.exists_eq_add_one_of_ne_zero (Nat.ne_zero_of_lt enough)
      simp only [List.map_cons, List.map_nil, listed_singleton, sorts?, sort?_tokens field,
        List.reverse_cons]
  | cons next sorts ih =>
      obtain ⟨steps, rfl⟩ := Nat.exists_eq_add_one_of_ne_zero (Nat.ne_zero_of_lt enough)
      have later := ih (first.item :: done) next
        (fun sort member => plain sort (List.mem_cons_of_mem _ member))
        steps (Nat.lt_of_succ_lt_succ enough) (plain next (by simp))
      simp only [List.map_cons, listed_cons_cons, List.append_assoc, List.cons_append, sorts?,
        sort?_tokens field] at later ⊢
      simp only [later, List.reverse_cons, List.append_assoc, List.singleton_append]

theorem optionalOrdering?_tokens {sorts : List SortKey}
    (plain : ∀ sort ∈ sorts, isPlainColumn sort.field = true) {rest : List SqlToken}
    (starts : StartsWith ["LIMIT"] rest) :
    optionalOrdering? (OrderBy.tokens sorts ++ rest) = some (sorts.map SortKey.item, rest) := by
  cases sorts with
  | nil =>
      have noOrder := starts.keyword?_eq_none "ORDER" (by decide)
      simp only [OrderBy.tokens, List.nil_append, optionalOrdering?, noOrder, List.map_nil]
  | cons first sorts =>
      have order : ∀ after, keyword? "ORDER" (.word "ORDER" :: after) = some after :=
        fun _ => rfl
      have next : ∀ after, keyword? "BY" (.word "BY" :: after) = some after := fun _ => rfl
      have enough := length_le_listed (first :: sorts) SortKey.tokens
        fun _ _ => List.cons_ne_nil _ _
      have read := sorts?_listed [] first sorts plain
        ((listed ((first :: sorts).map SortKey.tokens) ++ rest).length + 1)
        (by rw [List.length_append]; rw [List.length_cons] at enough; omega)
        (starts.ne_symbol ",")
      simp only [OrderBy.tokens, List.cons_append, optionalOrdering?, order, next, read,
        List.reverse_nil, List.nil_append]

end Statement

/-- The digits of a number are read as the number. -/
theorem digitsValue_toString (value : Nat) : digitsValue (toString value).toList = value := by
  rw [Nat.toString_eq_ofList_toDigits, String.toList_ofList]
  have same : digitsValue (Nat.toDigits 10 value) =
      Nat.ofDigitChars 10 (Nat.toDigits 10 value) 0 := by
    simp only [digitsValue, Nat.ofDigitChars, Nat.mul_comm]
  rw [same, Nat.ofDigitChars_toDigits (by decide) (by decide)]

namespace Statement

theorem optionalWindow?_tokens (window : Option Limit) :
    optionalWindow? ((window.map Limit.tokens).getD []) =
      some (window.map fun window => (window.offset, window.count), []) := by
  cases window with
  | none => rfl
  | some window =>
      have keyword : ∀ after, keyword? "LIMIT" (.word "LIMIT" :: after) = some after :=
        fun _ => rfl
      simp only [Option.map_some, Option.getD_some, Limit.tokens, optionalWindow?, keyword,
        digitsValue_toString]

theorem startsWith_window (window : Option Limit) :
    StartsWith ["LIMIT"] ((window.map Limit.tokens).getD []) := by
  cases window with
  | none => exact .nil
  | some window => exact .word (by decide) _

theorem StartsWith.append {keywords more : List String} {first rest : List SqlToken}
    (left : StartsWith keywords first) (right : StartsWith more rest) :
    StartsWith (keywords ++ more) (first ++ rest) := by
  cases left with
  | nil =>
      cases right with
      | nil => exact .nil
      | word member after => exact .word (List.mem_append_right _ member) after
  | word member after => exact .word (List.mem_append_left _ member) _

theorem table?_word {name : String} (named : isName name = true) {keywords : List String}
    {rest : List SqlToken} (starts : StartsWith keywords rest)
    (reserved : ∀ word ∈ keywords, isName word = false ∧ upper word ≠ "AS") :
    table? (.word name :: rest) = some ({ name }, rest) := by
  have label := starts.optionalLabel? reserved
  cases starts with
  | nil => simp only [table?, name?_word named, label, Option.map_some]
  | word member after => simp only [table?, name?_word named, label, Option.map_some]

theorem startsWith_ordering (sorts : List SortKey) :
    StartsWith ["ORDER"] (OrderBy.tokens sorts) := by
  cases sorts with
  | nil => exact .nil
  | cons first sorts => exact .word (by decide) _

theorem startsWith_condition (predicates : List Predicate) :
    StartsWith ["WHERE"] (Filter.tokens predicates) := by
  unfold Filter.tokens
  split
  · exact .nil
  · exact .word (by decide) _

end Statement

namespace TableAdapter

variable {World : Type} {adapter : TableAdapter World} {params : ResolveParams}

theorem selectedColumns_ne_nil_of_toSql {statement : String}
    (rendered : (adapter.statementClauses params).toSql = .ok statement) :
    selectedColumns adapter.columns params.selection ≠ [] := by
  intro none
  have ⟨columns, _⟩ := (SelectClauses.exists_toSql_iff _).mp ⟨statement, rendered⟩
  rw [statementClauses, none] at columns
  exact columns rfl

/-- The predicates that are not empty can be read back. -/
theorem Plain.readable (plain : adapter.Plain params) :
    ∀ predicate ∈ Filter.restricting (adapter.predicates params), Readable predicate := by
  intro predicate member
  obtain ⟨member, restricts⟩ := List.mem_filter.mp member
  have ⟨typed, field, _⟩ := plain.predicates predicate member
  exact ⟨typed, field, by simpa using restricts⟩

theorem selection?_statement (plain : adapter.Plain params)
    (present : selectedColumns adapter.columns params.selection ≠ []) :
    selection? (adapter.statementTokens params).tail =
      if Filter.FitsHeight (adapter.predicates params) then
        some (adapter.selectStatement params, [])
      else none := by
  have window := startsWith_window (params.arguments.lastOf? Argument.window?)
  have ordering := (startsWith_ordering params.arguments.lastSorts).append window
  have condition := (startsWith_condition (adapter.predicates params)).append ordering
  obtain ⟨first, columns, selected⟩ := List.exists_cons_of_ne_nil present
  have plainColumns : ∀ column ∈ first :: columns,
      isPlainColumn column.name = true ∧ isPlainName column.label = true := by
    intro column member
    rw [← selected] at member
    exact plain.columns column (mem_of_mem_selectedColumns member)
  have table : isName adapter.table = true := by
    have table := plain.table
    rw [isPlainName, Bool.and_eq_true] at table
    exact table.2
  have source : ∀ after, keyword? "FROM" (.word "FROM" :: after) = some after := fun _ => rfl
  have enough := length_le_listed (first :: columns) Column.tokens (by
    intro column _
    unfold Column.tokens
    split <;> exact List.cons_ne_nil _ _)
  have items := fun rest => items?_listed [] first columns plainColumns
    ((listed ((first :: columns).map Column.tokens) ++ .word "FROM" :: rest).length + 1)
    (by rw [List.length_append]; rw [List.length_cons] at enough; omega) rest
  have restricted := optionalCondition?_tokens plain.readable ordering
  have ordered := optionalOrdering?_tokens plain.sorts window
  rw [statementTokens, List.tail_cons, selected]
  simp only [selection?, items, source, table?_word table condition (by decide), restricted,
    Option.bind_eq_bind, Option.bind_some]
  by_cases fits : Filter.FitsHeight (adapter.predicates params)
  · simp only [if_pos fits, Option.bind_some, ordered, optionalWindow?_tokens, selectStatement,
      selected, List.reverse_nil, List.nil_append]
    rfl
  · simp only [if_neg fits]
    rfl

/-- The statement of an adapter over plain names is read back as its selection, unless its
condition is too high. -/
theorem parse?_statement (plain : adapter.Plain params) {statement : String}
    (rendered : (adapter.statementClauses params).toSql = .ok statement) :
    Statement.parse? statement =
      if Filter.FitsHeight (adapter.predicates params) then
        some (some (.select (adapter.selectStatement params)))
      else none := by
  have tokens := (writes_statement plain rendered).divided.tokenize?
  have read := selection?_statement plain (selectedColumns_ne_nil_of_toSql rendered)
  obtain ⟨rest, shape⟩ : ∃ rest, adapter.statementTokens params = .word "SELECT" :: rest :=
    ⟨_, rfl⟩
  rw [shape, List.tail_cons] at read
  have selects : statement? (.word "SELECT" :: rest) =
      (selection? rest).map fun found => (.select found.1, found.2) := rfl
  have first : ((.word "SELECT" :: rest).dropWhile fun token => token == .symbol ";") =
      .word "SELECT" :: rest := rfl
  simp only [Statement.parse?, tokens, shape, first, selects, read]
  by_cases fits : Filter.FitsHeight (adapter.predicates params)
  · simp only [if_pos fits, Option.map_some]
    rfl
  · simp only [if_neg fits, Option.map_none]

end TableAdapter

end NodeGraph
