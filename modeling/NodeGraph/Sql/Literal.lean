/-!
# Text literals of a statement

A text stands in a statement between single quotes, and a quote inside it is written
twice.  Reading a literal gives back exactly the text that was written.
-/

namespace NodeGraph

namespace Sql

/-- A character as it is written inside a literal. -/
def escapeQuote (c : Char) : List Char := if c = '\'' then ['\'', '\''] else [c]

/-- The characters of a literal, without the quotes around it. -/
def literalBody (text : List Char) : List Char := text.flatMap escapeQuote

def literal (text : String) : String :=
  "'" ++ String.ofList (literalBody text.toList) ++ "'"

/-- Read a literal whose opening quote is gone, up to its closing quote. -/
def readLiteral : List Char → Option (List Char × List Char)
  | [] => none
  | '\'' :: '\'' :: rest =>
      (readLiteral rest).map fun found => ('\'' :: found.1, found.2)
  | c :: rest =>
      if c = '\'' then some ([], rest)
      else (readLiteral rest).map fun found => (c :: found.1, found.2)

@[simp]
theorem literalBody_nil : literalBody [] = [] :=
  rfl

@[simp]
theorem literalBody_cons (c : Char) (rest : List Char) :
    literalBody (c :: rest) = escapeQuote c ++ literalBody rest := by
  simp [literalBody]

/-- A literal reads back as the text it was written for, whatever follows it except
another quote. -/
theorem readLiteral_literalBody (text rest : List Char)
    (ends : rest.head? ≠ some '\'') :
    readLiteral (literalBody text ++ '\'' :: rest) = some (text, rest) := by
  induction text with
  | nil =>
      cases rest with
      | nil => simp [readLiteral]
      | cons c rest =>
          have different : c ≠ '\'' := by simpa using ends
          simp [readLiteral, different]
  | cons c text ih =>
      by_cases quote : c = '\''
      · subst quote
        simp [escapeQuote, readLiteral, ih]
      · simp [escapeQuote, quote, readLiteral, ih]

end Sql

end NodeGraph
