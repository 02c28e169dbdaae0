import NodeGraph.Sql.Literal

/-!
# Tokens of statements

The text of a statement is divided into words, quoted names, literals, numbers and symbols
before it is read.
-/

namespace NodeGraph

/-- How a name is written.  Only a plain one can be a keyword, and only one in double
quotes can be meant as a text. -/
inductive NameForm where
  | plain
  | doubleQuoted
  | otherwiseQuoted
  deriving DecidableEq, Repr, Inhabited

/-- A token of a statement. -/
inductive SqlToken where
  | word (text : String)
  | quotedName (text : String) (form : NameForm)
  | literal (text : String)
  | number (text : String)
  | symbol (text : String)
  deriving DecidableEq, Repr, Inhabited

namespace SqlToken

def isNameStart (c : Char) : Bool := c.isAlpha || c == '_' || decide (128 ≤ c.toNat)

def isNamePart (c : Char) : Bool := isNameStart c || c.isDigit || c == '$'

def isBlank (c : Char) : Bool :=
  c == ' ' || c == '\t' || c == '\n' || c == '\x0c' || c == '\r' || c == '\uFEFF'

/-- A blank between tokens, or a vertical tab, which is one only after another blank. -/
def continuesBlank (c : Char) : Bool := isBlank c || c == '\x0b'

def skipBlanks : List Char → List Char
  | [] => []
  | c :: rest => if isBlank c then rest.dropWhile continuesBlank else c :: rest

/-- Read a quoted name whose opening quote is gone.  The quote is written twice inside. -/
def readQuotedName (quote : Char) : List Char → Option (List Char × List Char)
  | [] => none
  | [c] => if c = quote then some ([], []) else none
  | c :: next :: rest =>
      if c = quote then
        if next = quote then
          (readQuotedName quote rest).map fun found => (quote :: found.1, found.2)
        else some ([], next :: rest)
      else (readQuotedName quote (next :: rest)).map fun found => (c :: found.1, found.2)

/-- Read a name in brackets whose opening bracket is gone. -/
def readBracketedName (text : List Char) : Option (List Char × List Char) :=
  match text.dropWhile (fun c => c != ']') with
  | [] => none
  | _ :: rest => some (text.takeWhile (fun c => c != ']'), rest)

def symbols : List Char := ['=', '<', '>', '(', ')', ',', '*', ';', '.']

/-- Read a word, a number or a symbol of one character. -/
def readPlain? (c : Char) (rest : List Char) : Option (SqlToken × List Char) :=
  if isNameStart c then
    some (.word (String.ofList (c :: rest.takeWhile isNamePart)), rest.dropWhile isNamePart)
  else if c.isDigit then
    let after := rest.dropWhile Char.isDigit
    if (after.head?.map fun next => isNamePart next || next == '.').getD false then none
    else some (.number (String.ofList (c :: rest.takeWhile Char.isDigit)), after)
  else if symbols.contains c then some (.symbol (String.ofList [c]), rest)
  else none

def read? : List Char → Option (SqlToken × List Char)
  | [] => none
  | '\'' :: rest =>
      (Sql.readLiteral rest).map fun found => (.literal (String.ofList found.1), found.2)
  | '"' :: rest => (readQuotedName '"' rest).map fun found =>
      (.quotedName (String.ofList found.1) .doubleQuoted, found.2)
  | '\x60' :: rest => (readQuotedName '\x60' rest).map fun found =>
      (.quotedName (String.ofList found.1) .otherwiseQuoted, found.2)
  | '[' :: rest => (readBracketedName rest).map fun found =>
      (.quotedName (String.ofList found.1) .otherwiseQuoted, found.2)
  | '!' :: '=' :: rest => some (.symbol "!=", rest)
  | '<' :: '>' :: rest => some (.symbol "!=", rest)
  | '>' :: '=' :: rest => some (.symbol ">=", rest)
  | '<' :: '=' :: rest => some (.symbol "<=", rest)
  | '=' :: '=' :: rest => some (.symbol "=", rest)
  | c :: rest => readPlain? c rest

/-- Read all tokens, at most as many as `steps`. -/
def readAll (done : List SqlToken) : Nat → List Char → Option (List SqlToken)
  | 0, _ => none
  | steps + 1, text =>
      match skipBlanks text with
      | [] => some done.reverse
      | other =>
          match read? other with
          | some (token, rest) => readAll (token :: done) steps rest
          | none => none

/-- The tokens of a statement, which ends at the first null character. -/
def tokenize? (text : String) : Option (List SqlToken) :=
  let characters := text.toList.takeWhile fun c => c != '\x00'
  readAll [] (characters.length + 1) characters

end SqlToken

end NodeGraph
