import Mathlib.Data.List.Induction
import NodeGraph.Proofs.Store.Division
import NodeGraph.Proofs.Store.Precedence
import NodeGraph.Store.MemoryStore

/-!
# Conditions joined by AND

A condition that a predicate was conjoined to is the text of both with AND between them.  No
parentheses are written around either, so AND holds together the disjuncts beside it only: what
stands before the last OR of the condition or after the first OR of the predicate is satisfied
on its own.
-/

namespace NodeGraph

open SqlToken

theorem Truth.holds_either (left right : Truth) :
    (either left right).holds = (left.holds || right.holds) := by
  rcases left with _ | (_ | _) <;> rcases right with _ | (_ | _) <;> rfl

namespace Condition

variable {T : Type}

/-- Whether every term of the condition is known to a lookup. -/
def Known {S : Type} (lookup : T → Option S) (condition : Condition T) : Prop :=
  (condition.resolve lookup).isSome

/-- Whether a row satisfies the condition when a lookup binds its terms. -/
def Keeps (lookup : T → Option ValueSource) (row : NumberedRow) (condition : Condition T) :
    Prop :=
  ∃ bound, condition.resolve lookup = some bound ∧ (bound.evaluate row).holds = true

instance {S : Type} (lookup : T → Option S) (condition : Condition T) :
    Decidable (condition.Known lookup) :=
  inferInstanceAs (Decidable ((condition.resolve lookup).isSome = true))

instance (lookup : T → Option ValueSource) (row : NumberedRow) (condition : Condition T) :
    Decidable (condition.Keeps lookup row) :=
  decidable_of_iff ((condition.resolve lookup).any fun bound => (bound.evaluate row).holds)
    (by simp [Keeps, Option.any_eq_true])

variable {lookup : T → Option ValueSource} {row : NumberedRow} {left right : Condition T}

theorem known_conjunction :
    (conjunction left right).Known lookup ↔ left.Known lookup ∧ right.Known lookup := by
  unfold Known
  rw [resolve]
  cases left.resolve lookup <;> cases right.resolve lookup <;> simp

theorem known_disjunction :
    (disjunction left right).Known lookup ↔ left.Known lookup ∧ right.Known lookup := by
  unfold Known
  rw [resolve]
  cases left.resolve lookup <;> cases right.resolve lookup <;> simp

theorem keeps_conjunction :
    (conjunction left right).Keeps lookup row ↔ left.Keeps lookup row ∧ right.Keeps lookup row := by
  unfold Keeps
  rw [resolve]
  cases left.resolve lookup <;> cases right.resolve lookup <;> simp [evaluate]

theorem keeps_disjunction (knownLeft : left.Known lookup) (knownRight : right.Known lookup) :
    (disjunction left right).Keeps lookup row ↔ left.Keeps lookup row ∨ right.Keeps lookup row := by
  unfold Keeps
  obtain ⟨leftBound, leftFound⟩ := Option.isSome_iff_exists.mp knownLeft
  obtain ⟨rightBound, rightFound⟩ := Option.isSome_iff_exists.mp knownRight
  rw [resolve, leftFound, rightFound]
  simp [evaluate, Truth.holds_either]

theorem known_allOf {first : Condition T} {rest : List (Condition T)} :
    (allOf first rest).Known lookup ↔ ∀ condition ∈ first :: rest, condition.Known lookup := by
  induction rest using List.reverseRecOn with
  | nil => simp [allOf]
  | append_singleton rest last ih =>
      rw [allOf_concat, known_conjunction, ih, ← List.cons_append, List.forall_mem_append]
      simp

theorem known_anyOf {first : Condition T} {rest : List (Condition T)} :
    (anyOf first rest).Known lookup ↔ ∀ condition ∈ first :: rest, condition.Known lookup := by
  induction rest using List.reverseRecOn with
  | nil => simp [anyOf]
  | append_singleton rest last ih =>
      rw [anyOf_concat, known_disjunction, ih, ← List.cons_append, List.forall_mem_append]
      simp

theorem keeps_allOf {first : Condition T} {rest : List (Condition T)} :
    (allOf first rest).Keeps lookup row ↔
      ∀ condition ∈ first :: rest, condition.Keeps lookup row := by
  induction rest using List.reverseRecOn with
  | nil => simp [allOf]
  | append_singleton rest last ih =>
      rw [allOf_concat, keeps_conjunction, ih, ← List.cons_append, List.forall_mem_append]
      simp

theorem keeps_anyOf {first : Condition T} {rest : List (Condition T)}
    (known : (anyOf first rest).Known lookup) :
    (anyOf first rest).Keeps lookup row ↔
      ∃ condition ∈ first :: rest, condition.Keeps lookup row := by
  induction rest using List.reverseRecOn with
  | nil => simp [anyOf]
  | append_singleton rest last ih =>
      rw [anyOf_concat] at known ⊢
      obtain ⟨knownEarlier, knownLast⟩ := known_disjunction.mp known
      rw [keeps_disjunction knownEarlier knownLast, ih knownEarlier, ← List.cons_append]
      simp only [List.mem_append, List.mem_singleton, or_and_right, exists_or, exists_eq_left]

/-- The operands of two conjunctions, one after the other, are satisfied as both are. -/
theorem keeps_allOf_append {head first : Condition T} {tail rest : List (Condition T)} :
    (allOf head (tail ++ first :: rest)).Keeps lookup row ↔
      (allOf head tail).Keeps lookup row ∧ (allOf first rest).Keeps lookup row := by
  rw [keeps_allOf, keeps_allOf, keeps_allOf, ← List.cons_append, List.forall_mem_append]

theorem known_allOf_append {head first : Condition T} {tail rest : List (Condition T)} :
    (allOf head (tail ++ first :: rest)).Known lookup ↔
      (allOf head tail).Known lookup ∧ (allOf first rest).Known lookup := by
  rw [known_allOf, known_allOf, known_allOf, ← List.cons_append, List.forall_mem_append]

end Condition

namespace Statement

/-- The condition that a text writes, if it writes one and nothing else. -/
def readCondition? (text : String) : Option (Condition Term) :=
  if '\x00' ∈ text.toList then none else (tokenize? text).bind written?

/-- A text of a condition with these disjuncts outside parentheses. -/
structure ReadsAs (text : String) (disjuncts : List (Condition Term)) : Prop where
  noNull : '\x00' ∉ text.toList
  divided : ∃ tokens, tokenize? text = some tokens ∧ Disjuncts tokens disjuncts

theorem readCondition?_eq_some_iff {text : String} {condition : Condition Term} :
    readCondition? text = some condition ↔
      ∃ first rest, ReadsAs text (first :: rest) ∧ condition = Condition.anyOf first rest := by
  unfold readCondition?
  split
  · rename_i null
    simp only [reduceCtorEq, false_iff, not_exists, not_and]
    exact fun first rest reads => absurd null reads.noNull
  · rename_i noNull
    rw [Option.bind_eq_some_iff]
    constructor
    · rintro ⟨tokens, divided, read⟩
      obtain ⟨first, rest, disjuncts, same⟩ := written?_eq_some_iff.mp read
      exact ⟨first, rest, ⟨noNull, tokens, divided, disjuncts⟩, same⟩
    · rintro ⟨first, rest, ⟨-, tokens, divided, disjuncts⟩, same⟩
      exact ⟨tokens, divided, written?_eq_some_iff.mpr ⟨first, rest, disjuncts, same⟩⟩

namespace ReadsAs

/-- A text of a condition is not blank. -/
theorem isBlankText {text : String} {disjuncts : List (Condition Term)}
    (reads : ReadsAs text disjuncts) : Text.isBlankText text = false := by
  by_contra blank
  rw [Bool.not_eq_false, Text.isBlankText, List.all_eq_true] at blank
  obtain ⟨noNull, tokens, divided, derived⟩ := reads
  obtain ⟨symbol, member⟩ := derived.exists_symbol
  have divides := ((tokenize?_eq_some_iff noNull).mp divided).1
  obtain ⟨word, same⟩ := divides.words blank _ member
  cases same

theorem ne_nil {text : String} {disjuncts : List (Condition Term)}
    (reads : ReadsAs text disjuncts) : disjuncts ≠ [] := by
  obtain ⟨-, tokens, -, derived⟩ := reads
  exact derived.ne_nil

/-- A predicate is conjoined to the last disjunct of a condition, and only its own first disjunct
is. -/
theorem conjoin {condition predicate : String} {earlier conditions : List (Condition Term)}
    {last : Condition Term} (left : ReadsAs condition (earlier ++ [last]))
    (right : ReadsAs predicate conditions) : ∃ head tail first rest others,
      last = Condition.allOf head tail ∧ conditions = Condition.allOf first rest :: others ∧
      ReadsAs (SelectClauses.conjoin condition predicate)
        (earlier ++ Condition.allOf head (tail ++ first :: rest) :: others) := by
  have text : SelectClauses.conjoin condition predicate = condition ++ " AND " ++ predicate := by
    rw [SelectClauses.conjoin, left.isBlankText, right.isBlankText]
    rfl
  obtain ⟨noNullLeft, leftTokens, leftDivided, leftDerived⟩ := left
  obtain ⟨noNullRight, rightTokens, rightDivided, rightDerived⟩ := right
  obtain ⟨head, tail, first, rest, others, lastIs, conditionsAre, derived⟩ :=
    leftDerived.append (show upper "AND" = "AND" from rfl) rightDerived
  refine ⟨head, tail, first, rest, others, lastIs, conditionsAre, ?_⟩
  obtain ⟨leftDivides, fewLeft⟩ := (tokenize?_eq_some_iff noNullLeft).mp leftDivided
  obtain ⟨rightDivides, fewRight⟩ := (tokenize?_eq_some_iff noNullRight).mp rightDivided
  have characters : (condition ++ " AND " ++ predicate).toList =
      condition.toList ++ ' ' :: 'A' :: 'N' :: 'D' :: ' ' :: predicate.toList := by
    simp [String.toList_append]
  have noNull : '\x00' ∉ (condition ++ " AND " ++ predicate).toList := by
    simp [noNullLeft, noNullRight]
  have joined : Divides ('A' :: 'N' :: 'D' :: ' ' :: predicate.toList)
      (.word "AND" :: rightTokens) :=
    .cons (show read? _ = some (_, ' ' :: predicate.toList) from rfl) rightDivides.space
  rw [text]
  refine ⟨noNull, leftTokens ++ .word "AND" :: rightTokens,
    (tokenize?_eq_some_iff noNull).mpr ⟨?_, ?_⟩, derived⟩
  · rw [characters]
    exact leftDivides.append joined.space
  · rw [characters]
    simp only [List.length_append, List.length_cons]
    omega

end ReadsAs

/-- What a predicate of a link reads as. -/
def linkCondition (column text : String) : Condition Term :=
  .compare (columnTerm column) .equal (.text text)

theorem readsAs_compare {column text : String} (plain : isPlainColumn column = true)
    (noNull : '\x00' ∉ text.toList) :
    ReadsAs (Predicate.compare column .equal text).toSql [linkCondition column text] := by
  have typed : (Predicate.compare column .equal text).IsTyped := rfl
  have writes := Predicate.writes_toSql typed (isWord_of_isPlainColumn plain)
    (by simpa [Predicate.operands] using noNull)
  have compares : Compares ([.word column] ++ [.symbol "=", .literal text])
      (linkCondition column text) :=
    compares_literal (fun rest ends => term?_word plain ends) rfl fun _ => rfl
  exact ⟨writes.divided.noNull, _, writes.divided.tokenize?,
    .single (.single (.comparison compares))⟩

end Statement

open Statement

/-- A row satisfies a conjoined condition if it satisfies the two disjuncts that AND stands
between, or one that stands apart from them. -/
theorem Statement.ReadsAs.keeps_conjoin {condition predicate : String}
    {earlier later : List (Condition Term)} {last first : Condition Term}
    (left : ReadsAs condition (earlier ++ [last])) (right : ReadsAs predicate (first :: later)) :
    ∃ joined, readCondition? (SelectClauses.conjoin condition predicate) = some joined ∧
      ∀ lookup row, (∀ disjunct ∈ earlier ++ [last], disjunct.Known lookup) →
        (∀ disjunct ∈ first :: later, disjunct.Known lookup) →
          (joined.Keeps lookup row ↔
            (last.Keeps lookup row ∧ first.Keeps lookup row) ∨
              ∃ disjunct ∈ earlier ++ later, disjunct.Keeps lookup row) := by
  obtain ⟨head, tail, front, rest, others, rfl, same, reads⟩ := left.conjoin right
  obtain ⟨rfl, rfl⟩ := List.cons.inj same
  generalize middleIs : Condition.allOf head (tail ++ front :: rest) = middle at reads
  obtain ⟨outer, more, together⟩ := List.exists_cons_of_ne_nil reads.ne_nil
  rw [together] at reads
  refine ⟨_, readCondition?_eq_some_iff.mpr ⟨outer, more, reads, rfl⟩, ?_⟩
  intro lookup row knownLeft knownRight
  have middleKeeps : middle.Keeps lookup row ↔
      (Condition.allOf head tail).Keeps lookup row ∧
        (Condition.allOf front rest).Keeps lookup row := by
    rw [← middleIs, Condition.keeps_allOf_append]
  have middleKnown : middle.Known lookup := by
    rw [← middleIs, Condition.known_allOf_append]
    exact ⟨knownLeft _ (by simp), knownRight _ (by simp)⟩
  have known : (Condition.anyOf outer more).Known lookup := by
    rw [Condition.known_anyOf, ← together]
    intro disjunct member
    rcases List.mem_append.mp member with before | later
    · exact knownLeft _ (List.mem_append_left _ before)
    · rcases List.mem_cons.mp later with rfl | after
      · exact middleKnown
      · exact knownRight _ (List.mem_cons_of_mem _ after)
  rw [Condition.keeps_anyOf known, ← together, ← middleKeeps]
  simp only [List.mem_append, List.mem_cons, or_and_right, exists_or, exists_eq_left]
  exact or_left_comm

namespace SelectClauses

/-- What a conjoined condition keeps, by the disjuncts that stand outside parentheses. -/
theorem keeps_conjoin {condition predicate : String} {set first : Condition Term}
    {later : List (Condition Term)} (setRead : readCondition? condition = some set)
    (right : ReadsAs predicate (first :: later)) :
    ∃ earlier last joined, ReadsAs condition (earlier ++ [last]) ∧
      readCondition? (conjoin condition predicate) = some joined ∧
      ∀ lookup row, set.Known lookup → (Condition.anyOf first later).Known lookup →
        (joined.Keeps lookup row ↔
          (set.Keeps lookup row ∧ (Condition.anyOf first later).Keeps lookup row) ∨
            ∃ disjunct ∈ earlier ++ later, disjunct.Keeps lookup row) := by
  obtain ⟨opening, more, left, rfl⟩ := readCondition?_eq_some_iff.mp setRead
  obtain ⟨earlier, last, together⟩ :=
    (List.eq_nil_or_concat' (opening :: more)).resolve_left (List.cons_ne_nil _ _)
  rw [together] at left
  obtain ⟨joined, read, keeps⟩ := left.keeps_conjoin right
  refine ⟨earlier, last, joined, left, read, ?_⟩
  intro lookup row knownSet knownAdded
  have knownLeft := Condition.known_anyOf.mp knownSet
  rw [together] at knownLeft
  rw [keeps lookup row knownLeft (Condition.known_anyOf.mp knownAdded),
    Condition.keeps_anyOf knownSet, Condition.keeps_anyOf knownAdded, together]
  simp only [List.mem_append, List.mem_cons, List.not_mem_nil, or_false, or_and_right, exists_or,
    exists_eq_left]
  generalize (∃ disjunct ∈ earlier, Condition.Keeps lookup row disjunct) = before
  generalize (∃ disjunct ∈ later, Condition.Keeps lookup row disjunct) = after
  grind

end SelectClauses

namespace TableAdapter

/-- Conjoining a predicate binds it to the disjunct beside it: every other disjunct of the
condition keeps its rows on its own, and so does every other disjunct of the predicate.  What an
argument writes before its last OR escapes the link of an adapter in this way. -/
theorem conjunction_binds_neighbours {World : Type} (adapter : TableAdapter World)
    (params : ResolveParams) {condition predicate : String} {set added : Condition Term}
    (setRead : readCondition? condition = some set)
    (addedRead : readCondition? predicate = some added) :
    (∃ earlier last first later joined,
      ReadsAs condition (earlier ++ [last]) ∧ ReadsAs predicate (first :: later) ∧
      readCondition? (SelectClauses.conjoin condition predicate) = some joined ∧
      ∀ lookup row, set.Known lookup → added.Known lookup →
        (joined.Keeps lookup row ↔
          (set.Keeps lookup row ∧ added.Keeps lookup row) ∨
            ∃ disjunct ∈ earlier ++ later, disjunct.Keeps lookup row)) ∧
    (∀ link text, (adapter.unlinkedClauses params).condition = condition →
      adapter.link = some link → isPlainColumn link.column = true →
      linkPredicate? link params.parent = some (.compare link.column .equal text) →
      '\x00' ∉ text.toList →
      ∃ earlier last clauses joined,
        ReadsAs condition (earlier ++ [last]) ∧
        adapter.buildClauses params = .ok (some clauses) ∧
        clauses = { adapter.unlinkedClauses params with condition := clauses.condition } ∧
        readCondition? clauses.condition = some joined ∧
        ∀ lookup row, set.Known lookup → (linkCondition link.column text).Known lookup →
          (joined.Keeps lookup row ↔
            (set.Keeps lookup row ∧ (linkCondition link.column text).Keeps lookup row) ∨
              ∃ disjunct ∈ earlier, disjunct.Keeps lookup row)) := by
  constructor
  · obtain ⟨first, later, right, rfl⟩ := readCondition?_eq_some_iff.mp addedRead
    obtain ⟨earlier, last, joined, left, read, keeps⟩ := SelectClauses.keeps_conjoin setRead right
    exact ⟨earlier, last, first, later, joined, left, right, read, keeps⟩
  · rintro link text rfl linked plain stated noNull
    obtain ⟨earlier, last, joined, left, read, keeps⟩ :=
      SelectClauses.keeps_conjoin setRead (readsAs_compare plain noNull)
    have built := buildClauses_eq_some_iff.mpr (.inr ⟨link, _, linked, stated, rfl⟩)
    rw [List.append_nil] at keeps
    exact ⟨earlier, last, _, joined, left, built, rfl, read, keeps⟩

end TableAdapter

deriving instance DecidableEq for Condition

namespace Inbox

/-- Messages with their recipients. -/
def table : StoredTable where
  name := "message"
  columns := ["id", "recipient", "pinned", "unread"]
  rows :=
    [[.integer 1, .text "ada", .integer 0, .integer 1],
     [.integer 2, .text "bob", .integer 1, .integer 0],
     [.integer 3, .text "bob", .integer 0, .integer 0]]

/-- An argument that asks for the messages that need attention. -/
def attention : CustomKind where
  typeName := "attention"
  record := fun notes _ => (.ok (), notes)
  toSql := fun _ => "pinned = '1' OR unread = '1'"
  combine := fun _ clauses => clauses.apply (.condition "pinned = '1' OR unread = '1'")

/-- The messages of the person who is the parent. -/
def adapter : TableAdapter MemoryStore where
  table := "message"
  columns := [⟨"id", "id", false⟩, ⟨"recipient", "recipient", false⟩]
  source := MemoryStore.source
  link := some ⟨"recipient", "name"⟩

def asked : ResolveParams where
  field := "messages"
  arguments := [.custom attention []]
  parent := some [("name", .string "ada")]

def state : RequestState MemoryStore := { world := { tables := [table] } }

def recipient? (record : Record) : Option String :=
  (JsonObject.find? record "recipient").bind TableAdapter.linkText?

/-- What the argument writes. -/
def needsAttention : Condition Term :=
  .disjunction (linkCondition "pinned" "1") (linkCondition "unread" "1")

/-- The link holds for the unread messages only. -/
theorem link_binds_unread :
    readCondition? "pinned = '1' OR unread = '1'" = some needsAttention ∧
      readCondition? " recipient = 'ada' " = some (linkCondition "recipient" "ada") ∧
      TableAdapter.linkPredicate? ⟨"recipient", "name"⟩ asked.parent =
        some (.compare "recipient" .equal "ada") ∧
      ∃ earlier last clauses joined,
        ReadsAs "pinned = '1' OR unread = '1'" (earlier ++ [last]) ∧
        adapter.buildClauses asked = .ok (some clauses) ∧
        readCondition? clauses.condition = some joined ∧
        ∀ row, joined.Keeps (table.source? "message" []) row ↔
          (needsAttention.Keeps (table.source? "message" []) row ∧
            (linkCondition "recipient" "ada").Keeps (table.source? "message" []) row) ∨
          ∃ disjunct ∈ earlier, disjunct.Keeps (table.source? "message" []) row := by
  have written : readCondition? "pinned = '1' OR unread = '1'" = some needsAttention := by
    decide +kernel
  have added : readCondition? " recipient = 'ada' " = some (linkCondition "recipient" "ada") := by
    decide +kernel
  have stated : TableAdapter.linkPredicate? ⟨"recipient", "name"⟩ asked.parent =
      some (.compare "recipient" .equal "ada") := rfl
  obtain ⟨-, binds⟩ := TableAdapter.conjunction_binds_neighbours adapter asked written added
  obtain ⟨earlier, last, clauses, joined, reads, built, -, read, keeps⟩ :=
    binds _ _ rfl rfl (by decide) stated (by decide)
  exact ⟨written, added, stated, earlier, last, clauses, joined, reads, built, read,
    fun row => keeps _ row (by decide) (by decide)⟩

/-- A pinned message of another recipient is returned through the link. -/
theorem pinned_message_escapes_link :
    (¬ ∀ condition predicate set added joined,
      readCondition? condition = some set → readCondition? predicate = some added →
      readCondition? (SelectClauses.conjoin condition predicate) = some joined →
      ∀ lookup row, set.Known lookup → added.Known lookup →
        (joined.Keeps lookup row ↔ set.Keeps lookup row ∧ added.Keeps lookup row)) ∧
    ∃ records, (adapter.resolve asked state).1 = .ok records ∧
      records.map recipient? = [some "ada", some "bob"] := by
  constructor
  · intro conjoins
    have kept := conjoins "pinned = '1' OR unread = '1'" " recipient = 'ada' " needsAttention
      (linkCondition "recipient" "ada")
      (.disjunction (linkCondition "pinned" "1")
        (.conjunction (linkCondition "unread" "1") (linkCondition "recipient" "ada")))
      (by decide +kernel) (by decide +kernel) (by decide +kernel)
      (table.source? "message" []) ⟨[.integer 2, .text "bob", .integer 1, .integer 0], 2⟩
      (by decide) (by decide)
    revert kept
    decide
  · have answered : (adapter.resolve asked state).1.toOption.map (List.map recipient?) =
        some [some "ada", some "bob"] := by
      decide +kernel
    cases resolved : (adapter.resolve asked state).1 with
    | error fault =>
        rw [resolved] at answered
        cases answered
    | ok records =>
        rw [resolved] at answered
        exact ⟨records, rfl, Option.some.inj answered⟩

end Inbox

end NodeGraph
