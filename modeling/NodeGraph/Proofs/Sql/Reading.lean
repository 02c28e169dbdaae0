import NodeGraph.Sql.Literal

/-!
# Reading statements

A statement is read from left to right.  A quote opens a literal, a doubled quote inside a
literal stands for one quote, and a single quote closes it; what stands outside the
literals is kept character by character.  A sequence of pieces is read back from its text
whenever no character of it is a quote and every literal is followed by a character.
-/

namespace NodeGraph

namespace Sql

/-- A piece of a statement: a character outside the literals, or a whole literal. -/
inductive Lexeme where
  | char (c : Char)
  | literal (text : String)
  deriving DecidableEq, Repr

namespace Lexeme

def text : Lexeme → List Char
  | .char c => [c]
  | .literal text => '\'' :: (literalBody text.toList ++ ['\''])

/-- The text that a literal stands for. -/
def literalText : Lexeme → List String
  | .char _ => []
  | .literal text => [text]

/-- The piece with a placeholder, `none`, for a literal. -/
def placeholder : Lexeme → Option Char
  | .char c => some c
  | .literal _ => none

end Lexeme

theorem length_of_readLiteral {text body rest : List Char}
    (read : readLiteral text = some (body, rest)) : rest.length < text.length := by
  induction text using readLiteral.induct generalizing body rest with
  | case1 => simp [readLiteral] at read
  | case2 tail ih =>
      simp only [readLiteral, Option.map_eq_some_iff] at read
      obtain ⟨found, foundEq, pairEq⟩ := read
      obtain ⟨rfl, rfl⟩ := Prod.mk.inj pairEq
      have shorter := ih foundEq
      simp only [List.length_cons]
      omega
  | case3 tail _ =>
      simp_all [readLiteral]
  | case4 c tail _ notQuote ih =>
      simp only [readLiteral, notQuote, if_false, Option.map_eq_some_iff] at read
      obtain ⟨found, foundEq, pairEq⟩ := read
      obtain ⟨rfl, rfl⟩ := Prod.mk.inj pairEq
      have shorter := ih foundEq
      simp only [List.length_cons]
      omega

/-- Read a statement into its pieces; there are none if a literal does not end. -/
def lexemes? : List Char → Option (List Lexeme)
  | [] => some []
  | c :: rest =>
      if c = '\'' then
        match _read : readLiteral rest with
        | none => none
        | some (body, after) => (lexemes? after).map (.literal (String.ofList body) :: ·)
      else (lexemes? rest).map (.char c :: ·)
termination_by text => text.length
decreasing_by
  · have shorter := length_of_readLiteral _read
    simp only [List.length_cons]
    omega
  · simp

def print (lexemes : List Lexeme) : List Char := lexemes.flatMap Lexeme.text

def literals (lexemes : List Lexeme) : List String := lexemes.flatMap Lexeme.literalText

/-- What stands outside the literals, with a placeholder for each literal. -/
def template (lexemes : List Lexeme) : List (Option Char) := lexemes.map Lexeme.placeholder

/-- The pieces of a text without literals. -/
def plain (text : String) : List Lexeme := text.toList.map Lexeme.char

@[simp]
theorem print_nil : print [] = [] :=
  rfl

@[simp]
theorem print_cons (lexeme : Lexeme) (rest : List Lexeme) :
    print (lexeme :: rest) = lexeme.text ++ print rest := by
  simp [print]

@[simp]
theorem print_append (left right : List Lexeme) :
    print (left ++ right) = print left ++ print right := by
  simp [print]

@[simp]
theorem print_plain (text : String) : print (plain text) = text.toList := by
  simp [print, plain, List.flatMap_map, Lexeme.text]

@[simp]
theorem print_eq_nil_iff {lexemes : List Lexeme} : print lexemes = [] ↔ lexemes = [] := by
  constructor
  · intro empty
    cases lexemes with
    | nil => rfl
    | cons lexeme rest => cases lexeme <;> simp [Lexeme.text] at empty
  · rintro rfl
    rfl

@[simp]
theorem literals_nil : literals [] = [] :=
  rfl

@[simp]
theorem literals_cons (lexeme : Lexeme) (rest : List Lexeme) :
    literals (lexeme :: rest) = lexeme.literalText ++ literals rest := by
  simp [literals]

@[simp]
theorem literals_append (left right : List Lexeme) :
    literals (left ++ right) = literals left ++ literals right := by
  simp [literals]

@[simp]
theorem literals_plain (text : String) : literals (plain text) = [] := by
  simp [literals, plain, Lexeme.literalText]

@[simp]
theorem template_nil : template [] = [] :=
  rfl

@[simp]
theorem template_cons (lexeme : Lexeme) (rest : List Lexeme) :
    template (lexeme :: rest) = lexeme.placeholder :: template rest :=
  rfl

@[simp]
theorem template_append (left right : List Lexeme) :
    template (left ++ right) = template left ++ template right := by
  simp [template]

/-- What is carried through concatenations is carried through separators. -/
theorem map_intercalate {α β : Type} {f : List α → List β} (nil : f [] = [])
    (append : ∀ left right, f (left ++ right) = f left ++ f right) (separator : List α)
    (parts : List (List α)) :
    f (separator.intercalate parts) = (f separator).intercalate (parts.map f) := by
  induction parts with
  | nil => simpa using nil
  | cons part parts ih =>
      cases parts with
      | nil => simp
      | cons next parts =>
          simp only [List.intercalate_cons_cons, List.map_cons, append] at ih ⊢
          rw [ih]

theorem print_intercalate (separator : List Lexeme) (parts : List (List Lexeme)) :
    print (separator.intercalate parts) = (print separator).intercalate (parts.map print) :=
  map_intercalate print_nil print_append separator parts

theorem template_intercalate (separator : List Lexeme) (parts : List (List Lexeme)) :
    template (separator.intercalate parts) =
      (template separator).intercalate (parts.map template) :=
  map_intercalate template_nil template_append separator parts

/-- Separators without literals leave only the literals of the parts. -/
theorem literals_intercalate {separator : List Lexeme} (bare : literals separator = [])
    (parts : List (List Lexeme)) :
    literals (separator.intercalate parts) = parts.flatMap literals := by
  rw [map_intercalate literals_nil literals_append, bare]
  induction parts with
  | nil => rfl
  | cons part parts ih =>
      cases parts with
      | nil => simp
      | cons next parts =>
          simp only [List.map_cons, List.intercalate_cons_cons, List.flatMap_cons] at ih ⊢
          rw [ih, List.append_nil]

/-- Where no quote is written there is no literal. -/
theorem literals_eq_nil {lexemes : List Lexeme} (bare : '\'' ∉ print lexemes) :
    literals lexemes = [] := by
  induction lexemes with
  | nil => rfl
  | cons lexeme rest ih =>
      simp only [print_cons, List.mem_append, not_or] at bare
      cases lexeme with
      | char c => exact ih bare.2
      | literal text => simp [Lexeme.text] at bare

def QuoteFree (text : String) : Prop := '\'' ∉ text.toList

instance (text : String) : Decidable (QuoteFree text) :=
  inferInstanceAs (Decidable ('\'' ∉ text.toList))

theorem quoteFree_append {left right : String} :
    QuoteFree (left ++ right) ↔ QuoteFree left ∧ QuoteFree right := by
  simp [QuoteFree, not_or]

theorem quoteFree_intercalate {separator : String} {parts : List String}
    (separatorFree : QuoteFree separator) (partsFree : ∀ part ∈ parts, QuoteFree part) :
    QuoteFree (separator.intercalate parts) := by
  induction parts with
  | nil => exact (by decide : QuoteFree "")
  | cons part rest ih =>
      have partFree := partsFree part List.mem_cons_self
      cases rest with
      | nil => simpa using partFree
      | cons next rest =>
          rw [String.intercalate_cons_cons, quoteFree_append, quoteFree_append]
          exact ⟨⟨partFree, separatorFree⟩,
            ih fun other member => partsFree other (List.mem_cons_of_mem _ member)⟩

/-- Pieces none of whose characters is a quote and whose literals are all followed by a
character, so that no quote can be taken for the second of a doubled one. -/
inductive Spaced : List Lexeme → Prop
  | nil : Spaced []
  | char {c : Char} {rest : List Lexeme} (notQuote : c ≠ '\'') (spaced : Spaced rest) :
      Spaced (.char c :: rest)
  | literal (text : String) {c : Char} {rest : List Lexeme} (notQuote : c ≠ '\'')
      (spaced : Spaced rest) : Spaced (.literal text :: .char c :: rest)

namespace Spaced

theorem append {left right : List Lexeme} (spacedLeft : Spaced left)
    (spacedRight : Spaced right) : Spaced (left ++ right) := by
  induction spacedLeft with
  | nil => exact spacedRight
  | char notQuote _ ih => exact .char notQuote ih
  | literal text notQuote _ ih => exact .literal text notQuote ih

theorem plain {text : String} (quoteFree : QuoteFree text) : Spaced (plain text) := by
  unfold QuoteFree at quoteFree
  unfold Sql.plain
  generalize text.toList = characters at quoteFree ⊢
  induction characters with
  | nil => exact .nil
  | cons c rest ih =>
      simp only [List.mem_cons, not_or] at quoteFree
      exact .char (fun same => quoteFree.1 same.symm) (ih quoteFree.2)

theorem intercalate {separator : List Lexeme} (spacedSeparator : Spaced separator)
    {parts : List (List Lexeme)} (spacedParts : ∀ part ∈ parts, Spaced part) :
    Spaced (separator.intercalate parts) := by
  induction parts with
  | nil => exact .nil
  | cons part parts ih =>
      have spacedPart := spacedParts part (by simp)
      cases parts with
      | nil => simpa using spacedPart
      | cons next parts =>
          rw [List.intercalate_cons_cons]
          exact (spacedPart.append spacedSeparator).append
            (ih fun other member => spacedParts other (List.mem_cons_of_mem _ member))

/-- Whether pieces are spaced shows outside the literals. -/
theorem of_template {lexemes others : List Lexeme} (spaced : Spaced lexemes)
    (same : template others = template lexemes) : Spaced others := by
  induction spaced generalizing others with
  | nil =>
      obtain rfl : others = [] := by simpa [template] using same
      exact .nil
  | @char c rest notQuote _ ih =>
      rcases others with _ | ⟨first | first, others⟩ <;>
        simp only [template_nil, template_cons, Lexeme.placeholder, reduceCtorEq,
          List.cons.injEq, Option.some.injEq, false_and] at same
      obtain ⟨rfl, tails⟩ := same
      exact .char notQuote (ih tails)
  | @literal text c rest notQuote _ ih =>
      rcases others with _ | ⟨first | first, _ | ⟨second | second, others⟩⟩ <;>
        simp only [template_nil, template_cons, Lexeme.placeholder, reduceCtorEq,
          List.cons.injEq, Option.some.injEq, false_and, true_and] at same
      obtain ⟨rfl, tails⟩ := same
      exact .literal first notQuote (ih tails)

end Spaced

/-- Pieces that are spaced are read back from their text. -/
theorem lexemes?_print {lexemes : List Lexeme} (spaced : Spaced lexemes) :
    lexemes? (print lexemes) = some lexemes := by
  induction spaced with
  | nil => rw [print_nil, lexemes?]
  | @char c rest notQuote _ ih =>
      rw [print_cons, Lexeme.text, List.singleton_append, lexemes?, if_neg notQuote, ih]
      rfl
  | @literal text c rest notQuote _ ih =>
      -- The next character keeps the closing quote from being read as a doubled one.
      have closed : (c :: print rest).head? ≠ some '\'' := by simpa using notQuote
      have body := readLiteral_literalBody text.toList (c :: print rest) closed
      rw [print_cons, print_cons, Lexeme.text, Lexeme.text, List.singleton_append,
        List.cons_append, List.append_assoc, List.singleton_append, lexemes?]
      simp only [if_true]
      split
      · simp_all
      · rename_i read after found
        rw [body] at found
        obtain ⟨rfl, rfl⟩ := Prod.mk.inj (Option.some.inj found)
        rw [lexemes?, if_neg notQuote, ih]
        simp

/-- A doubled quote inside a literal is read as one quote. -/
example : lexemes? ['=', '\'', 's', '\'', '\'', '\'', ' '] =
    some [.char '=', .literal "s'", .char ' '] := by
  have spaced : Spaced [.char '=', .literal "s'", .char ' '] :=
    .char (by decide) (.literal "s'" (by decide) .nil)
  exact lexemes?_print spaced

end Sql

end NodeGraph
