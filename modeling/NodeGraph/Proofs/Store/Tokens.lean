import Mathlib.Data.List.TakeWhile
import Mathlib.Tactic.FinCases
import NodeGraph.Argument.Operator
import NodeGraph.Number.Decimal
import NodeGraph.Store.Token

/-!
# Texts and their tokens

A text is divided into tokens from left to right.  What a part of a statement writes is read
into the tokens that it means whenever a blank, a comma or a closing parenthesis follows, so
the tokens of a whole statement are those of its parts.
-/

namespace NodeGraph

namespace SqlToken

/-- A text that is read into tokens, each after any number of spaces.  No part of it is the
null character, at which a statement would end. -/
inductive Tokens : List Char → List SqlToken → Prop
  | nil (spaces : Nat) : Tokens (List.replicate spaces ' ') []
  | cons (spaces : Nat) {written rest : List Char} {token : SqlToken}
      {tokens : List SqlToken} (starts : ∃ c ∈ written.head?, continuesBlank c = false)
      (noNull : '\x00' ∉ written) (read : read? (written ++ rest) = some (token, rest))
      (later : Tokens rest tokens) :
      Tokens (List.replicate spaces ' ' ++ (written ++ rest)) (token :: tokens)

/-- Texts that end a token before them. -/
def Breaks (text : List Char) : Prop := ∀ c ∈ text.head?, c = ' ' ∨ c = ',' ∨ c = ')'

theorem Breaks.nil : Breaks [] := by
  simp [Breaks]

theorem Breaks.append {text rest : List Char} (first : Breaks text) (second : Breaks rest) :
    Breaks (text ++ rest) := by
  cases text with
  | nil => exact second
  | cons c text => simpa [Breaks] using first

theorem dropWhile_replicate_append {c : Char} {test : Char → Bool} (holds : test c = true)
    (count : Nat) {text : List Char} (stops : ∀ d ∈ text.head?, test d = false) :
    (List.replicate count c ++ text).dropWhile test = text := by
  rw [List.dropWhile_append_of_pos fun d member => (List.eq_of_mem_replicate member) ▸ holds]
  cases text with
  | nil => rfl
  | cons d text => rw [List.dropWhile_cons_of_neg (by simp [stops d (by simp)])]

theorem skipBlanks_replicate_append (spaces : Nat) (text : List Char)
    (starts : ∀ c ∈ text.head?, continuesBlank c = false) :
    skipBlanks (List.replicate spaces ' ' ++ text) = text := by
  cases spaces with
  | zero =>
      cases text with
      | nil => rfl
      | cons c text =>
          have notBlank : isBlank c = false := by
            have starts := starts c (by simp)
            rw [continuesBlank, Bool.or_eq_false_iff] at starts
            exact starts.1
          simp [skipBlanks, notBlank]
  | succ spaces =>
      have blank : isBlank ' ' = true := rfl
      rw [List.replicate_succ, List.cons_append, skipBlanks, if_pos blank]
      exact dropWhile_replicate_append rfl spaces starts

namespace Tokens

theorem noNull {text : List Char} {tokens : List SqlToken} (divided : Tokens text tokens) :
    '\x00' ∉ text := by
  induction divided with
  | nil spaces => simp [List.mem_replicate]
  | cons spaces _ noNull _ _ ih => simp [List.mem_replicate, noNull, ih]

/-- A text is divided in at most as many steps as it has characters. -/
theorem readAll {text : List Char} {tokens : List SqlToken} (divided : Tokens text tokens)
    (done : List SqlToken) {steps : Nat} (enough : text.length < steps) :
    SqlToken.readAll done steps text = some (done.reverse ++ tokens) := by
  induction divided generalizing done steps with
  | nil spaces =>
      obtain ⟨steps, rfl⟩ := Nat.exists_eq_add_one_of_ne_zero (Nat.ne_zero_of_lt enough)
      have skipped := skipBlanks_replicate_append spaces [] (by simp)
      rw [List.append_nil] at skipped
      simp only [SqlToken.readAll, skipped, List.append_nil]
  | @cons spaces written rest token tokens starts noNull read later ih =>
      obtain ⟨steps, rfl⟩ := Nat.exists_eq_add_one_of_ne_zero (Nat.ne_zero_of_lt enough)
      obtain ⟨c, head, visible⟩ := starts
      obtain ⟨tail, rfl⟩ : ∃ tail, written = c :: tail := by
        simpa [Option.mem_def, List.head?_eq_some_iff] using head
      have skipped := skipBlanks_replicate_append spaces (c :: tail ++ rest)
        (by simpa using visible)
      have shorter : rest.length < steps := by
        simp only [List.length_append, List.length_cons] at enough
        omega
      rw [List.cons_append] at read skipped ⊢
      simp only [SqlToken.readAll, skipped, read]
      rw [ih (token :: done) shorter, List.reverse_cons, List.append_assoc,
        List.singleton_append]

/-- A text that is divided into tokens has these tokens. -/
theorem tokenize? {text : String} {tokens : List SqlToken}
    (divided : Tokens text.toList tokens) : SqlToken.tokenize? text = some tokens := by
  have whole : (text.toList.takeWhile fun c => c != '\x00') = text.toList := by
    rw [List.takeWhile_eq_self_iff]
    intro c member
    rw [bne_iff_ne]
    rintro rfl
    exact divided.noNull member
  simp only [SqlToken.tokenize?, whole]
  simpa using divided.readAll [] (Nat.lt_succ_self _)

theorem token (written : List Char) {rest : List Char} {token : SqlToken} {tokens : List SqlToken}
    (starts : ∃ c ∈ written.head?, continuesBlank c = false) (noNull : '\x00' ∉ written)
    (read : read? (written ++ rest) = some (token, rest)) (later : Tokens rest tokens) :
    Tokens (written ++ rest) (token :: tokens) :=
  .cons 0 starts noNull read later

theorem space {text : List Char} {tokens : List SqlToken} (divided : Tokens text tokens) :
    Tokens (' ' :: text) tokens := by
  cases divided with
  | nil spaces => exact .nil (spaces + 1)
  | cons spaces starts noNull read later => exact .cons (spaces + 1) starts noNull read later

end Tokens

/-- A word as it can be written without quotes. -/
def isWord (text : String) : Bool :=
  match text.toList with
  | [] => false
  | c :: rest => isNameStart c && c != '\uFEFF' && rest.all isNamePart

/-- What begins a name begins no other token, and is no blank except for the mark that is
read as one. -/
theorem read?_of_isNameStart {c : Char} (start : isNameStart c = true) (rest : List Char) :
    read? (c :: rest) = readPlain? c rest := by
  unfold read?
  split <;> rename_i same <;> cases same
  all_goals first | rfl | exact absurd start (by decide)

theorem continuesBlank_of_isNameStart {c : Char} (start : isNameStart c = true)
    (visible : c ≠ '\uFEFF') : continuesBlank c = false := by
  by_contra blank
  simp only [continuesBlank, isBlank, Bool.not_eq_false, Bool.or_eq_true, beq_iff_eq] at blank
  rcases blank with (((((rfl | rfl) | rfl) | rfl) | rfl) | same) | rfl
  all_goals first | exact visible same | cases start

/-- What begins a number begins no other token. -/
theorem read?_of_isDigit {c : Char} (digit : c.isDigit = true) (rest : List Char) :
    read? (c :: rest) =
      if ((rest.dropWhile Char.isDigit).head?.map fun next =>
        isNamePart next || next == '.').getD false then none
      else some (.number (String.ofList (c :: rest.takeWhile Char.isDigit)),
        rest.dropWhile Char.isDigit) := by
  have numeral : c.isDigit = (decide ('0'.val ≤ c.val) && decide (c.val ≤ '9'.val)) := rfl
  have opening : isNameStart c = ((decide ('A'.val ≤ c.val ∧ c.val ≤ 'Z'.val) ||
      (decide ('a'.val ≤ c.val) && decide (c.val ≤ 'z'.val))) || c == '_' ||
        decide (128 ≤ c.toNat)) := rfl
  have notName : isNameStart c = false := by
    by_contra start
    have range := numeral.symm.trans digit
    simp only [opening, Bool.not_eq_false, Bool.or_eq_true, Bool.and_eq_true,
      decide_eq_true_eq, beq_iff_eq, UInt32.le_iff_toNat_le, Char.toNat] at start range
    rcases start with ((upper | lower) | rfl) | large
    · exact absurd (le_trans upper.1 range.2) (by decide)
    · exact absurd (le_trans lower.1 range.2) (by decide)
    · exact absurd range.2 (by decide)
    · exact absurd (le_trans large range.2) (by decide)
  unfold read?
  split <;> rename_i same <;> cases same
  all_goals first | exact absurd digit (by decide) | skip
  simp only [readPlain?, notName, digit]
  simp

theorem continuesBlank_of_isDigit {c : Char} (digit : c.isDigit = true) :
    continuesBlank c = false := by
  by_contra blank
  simp only [continuesBlank, isBlank, Bool.not_eq_false, Bool.or_eq_true, beq_iff_eq] at blank
  rcases blank with (((((rfl | rfl) | rfl) | rfl) | rfl) | rfl) | rfl
  all_goals exact absurd digit (by decide)

theorem not_isNamePart_of_breaks {rest : List Char} (breaks : Breaks rest) :
    ∀ c ∈ rest.head?, isNamePart c = false := by
  intro c head
  rcases breaks c head with rfl | rfl | rfl <;> rfl

theorem takeWhile_append_stop {test : Char → Bool} {word rest : List Char}
    (all : ∀ c ∈ word, test c = true) (stops : ∀ c ∈ rest.head?, test c = false) :
    (word ++ rest).takeWhile test = word ∧ (word ++ rest).dropWhile test = rest := by
  rw [List.takeWhile_append_of_pos all, List.dropWhile_append_of_pos all]
  cases rest with
  | nil => simp
  | cons c rest => simp [stops c (by simp)]

/-- A text that is read into tokens before every text that ends a token. -/
structure Writes (text : String) (tokens : List SqlToken) : Prop where
  before : ∀ rest later, Breaks rest → Tokens rest later →
    Tokens (text.toList ++ rest) (tokens ++ later)

namespace Writes

theorem divided {text : String} {tokens : List SqlToken} (writes : Writes text tokens) :
    Tokens text.toList tokens := by
  simpa using writes.before [] [] .nil (.nil 0)

theorem empty : Writes "" [] := ⟨fun _ _ _ divided => divided⟩

theorem append {text rest : String} {tokens later : List SqlToken}
    (first : Writes text tokens) (second : Writes rest later) (breaks : Breaks rest.toList) :
    Writes (text ++ rest) (tokens ++ later) := by
  refine ⟨fun after others ends divided => ?_⟩
  rw [String.toList_append, List.append_assoc, List.append_assoc]
  exact first.before _ _ (breaks.append ends) (second.before _ _ ends divided)

theorem space {text : String} {tokens : List SqlToken} (writes : Writes text tokens) :
    Writes (" " ++ text) tokens := by
  refine ⟨fun rest later breaks divided => ?_⟩
  rw [String.toList_append, List.append_assoc]
  exact (writes.before rest later breaks divided).space

theorem word {text : String} (spelled : isWord text = true) : Writes text [.word text] := by
  refine ⟨fun rest later breaks divided => ?_⟩
  cases characters : text.toList with
  | nil => simp [isWord, characters] at spelled
  | cons c tail =>
      simp only [isWord, characters, Bool.and_eq_true, bne_iff_ne, List.all_eq_true] at spelled
      obtain ⟨⟨start, visible⟩, parts⟩ := spelled
      obtain ⟨taken, dropped⟩ :=
        takeWhile_append_stop parts (not_isNamePart_of_breaks breaks)
      have same : String.ofList (c :: tail) = text := by rw [← characters, String.ofList_toList]
      refine Tokens.token (c :: tail) ⟨c, rfl,
        continuesBlank_of_isNameStart start visible⟩ ?_ ?_ divided
      · rw [List.mem_cons, not_or]
        constructor
        · rintro rfl
          cases start
        · intro member
          exact absurd (parts _ member) (by decide)
      · rw [List.cons_append, read?_of_isNameStart start, readPlain?, if_pos start, taken,
          dropped, same]

/-- A literal is read back as its text, which has no null character. -/
theorem literal {text : String} (noNull : '\x00' ∉ text.toList) :
    Writes (Sql.literal text) [.literal text] := by
  refine ⟨fun rest later breaks divided => ?_⟩
  have ends : rest.head? ≠ some '\'' := by
    intro head
    have := breaks _ head
    simp at this
  have written : (Sql.literal text).toList ++ rest =
      '\'' :: (Sql.literalBody text.toList ++ '\'' :: rest) := by
    simp [Sql.literal]
  refine Tokens.token _ ⟨'\'', by simp [Sql.literal], rfl⟩ ?_ ?_ divided
  · have body : '\x00' ∉ Sql.literalBody text.toList := by
      rw [Sql.literalBody, List.mem_flatMap]
      rintro ⟨c, member, escaped⟩
      have same : c = '\x00' := by
        unfold Sql.escapeQuote at escaped
        split at escaped <;> simp_all [eq_comm]
      exact noNull (same ▸ member)
    simp [Sql.literal, body]
  · rw [written, read?, Sql.readLiteral_literalBody _ _ ends]
    simp

/-- A parenthesis or a comma is read alone, whatever follows it. -/
theorem symbol (symbol : String) (known : symbol ∈ [",", "(", ")"]) {text : String}
    {tokens : List SqlToken} (writes : Writes text tokens) :
    Writes (symbol ++ text) (.symbol symbol :: tokens) := by
  refine ⟨fun rest later breaks divided => ?_⟩
  obtain ⟨c, characters, visible, noNull, read⟩ : ∃ c, symbol.toList = [c] ∧
      continuesBlank c = false ∧ '\x00' ∉ [c] ∧
        ∀ others, read? ([c] ++ others) = some (.symbol symbol, others) := by
    fin_cases known
    · exact ⟨',', rfl, rfl, by decide, fun _ => rfl⟩
    · exact ⟨'(', rfl, rfl, by decide, fun _ => rfl⟩
    · exact ⟨')', rfl, rfl, by decide, fun _ => rfl⟩
  rw [String.toList_append, List.append_assoc, characters]
  exact Tokens.token _ ⟨c, rfl, visible⟩ noNull (read _) (writes.before rest later breaks divided)

/-- The symbol of a comparison is read alone before a blank. -/
theorem comparison {operator : Operator} (compares : operator.isContainment = false)
    {text : String} {tokens : List SqlToken} (writes : Writes text tokens) :
    Writes (operator.symbol ++ (" " ++ text)) (.symbol operator.symbol :: tokens) := by
  refine ⟨fun rest later breaks divided => ?_⟩
  have after := (writes.before rest later breaks divided).space
  obtain ⟨c, tail, characters, visible, noNull, read⟩ : ∃ c tail,
      operator.symbol.toList = c :: tail ∧ continuesBlank c = false ∧ '\x00' ∉ c :: tail ∧
        ∀ others, read? (c :: tail ++ ' ' :: others) =
          some (.symbol operator.symbol, ' ' :: others) := by
    cases operator with
    | oneOf => cases compares
    | noneOf => cases compares
    | equal => exact ⟨'=', [], rfl, rfl, by decide, fun _ => rfl⟩
    | notEqual => exact ⟨'!', ['='], rfl, rfl, by decide, fun _ => rfl⟩
    | greaterThan => exact ⟨'>', [], rfl, rfl, by decide, fun _ => rfl⟩
    | greaterOrEqual => exact ⟨'>', ['='], rfl, rfl, by decide, fun _ => rfl⟩
    | lessThan => exact ⟨'<', [], rfl, rfl, by decide, fun _ => rfl⟩
    | lessOrEqual => exact ⟨'<', ['='], rfl, rfl, by decide, fun _ => rfl⟩
  have spaced : (" " ++ text).toList ++ rest = ' ' :: (text.toList ++ rest) := by
    simp
  rw [String.toList_append, List.append_assoc, characters, spaced]
  exact Tokens.token _ ⟨c, rfl, visible⟩ noNull (read _) after

theorem number (value : Nat) : Writes (toString value) [.number (toString value)] := by
  refine ⟨fun rest later breaks divided => ?_⟩
  have digits : ∀ c ∈ (toString value).toList, c.isDigit = true := by
    intro c member
    rw [Nat.toString_eq_ofList_toDigits, String.toList_ofList] at member
    exact Nat.isDigit_of_mem_toDigits (by decide) (by decide) member
  cases characters : (toString value).toList with
  | nil => simp at characters
  | cons c tail =>
      rw [characters] at digits
      have digit := digits c List.mem_cons_self
      have ends : ∀ d ∈ rest.head?, Char.isDigit d = false := by
        intro d head
        rcases breaks d head with rfl | rfl | rfl <;> rfl
      obtain ⟨taken, dropped⟩ := takeWhile_append_stop
        (fun d member => digits d (List.mem_cons_of_mem _ member)) ends
      have same : String.ofList (c :: tail) = toString value := by
        rw [← characters, String.ofList_toList]
      have ended : (rest.head?.map fun d => isNamePart d || d == '.').getD false = false := by
        cases head : rest.head? with
        | none => rfl
        | some d => rcases breaks d head with rfl | rfl | rfl <;> rfl
      refine Tokens.token (c :: tail) ⟨c, rfl, continuesBlank_of_isDigit digit⟩ ?_ ?_
        divided
      · intro member
        exact absurd (digits _ member) (by decide)
      · rw [List.cons_append, read?_of_isDigit digit, taken, dropped, ended, same]
        rfl

end Writes

end SqlToken

end NodeGraph
