import NodeGraph.Json.Parser
import NodeGraph.Text.Blank
import NodeGraph.Text.Lines

/-!
# Tokens of query documents

A document is a sequence of names, punctuators, numbers and strings.  Blanks, commas, byte
order marks and comments between them are dropped.  Every token is brought to its value
here, so that a numeral out of range or a faulty escape refuses the document as a whole.
-/

namespace NodeGraph

/-- A token of a document. -/
inductive Token where
  | name (text : String)
  | punctuator (c : Char)
  | spread
  | int (value : Int)
  | float (value : Binary64)
  | string (value : String)
  deriving DecidableEq, Repr, Inhabited

namespace Token

def isNameStart (c : Char) : Bool := c.isAlpha || c == '_'

/-- A letter, digit or underscore. -/
def isNamePart (c : Char) : Bool := c.isAlphanum || c == '_'

def punctuators : List Char :=
  ['!', '$', ':', '=', '@', '|', '&', '(', ')', '[', ']', '\x7b', '\x7d']

def isIgnored (c : Char) : Bool :=
  c == ' ' || c == '\t' || c == '\r' || c == '\n' || c == ',' || c == '\uFEFF'

def endsNumeral (c : Char) : Bool :=
  c == ' ' || c == '\t' || c == '\r' || c == '\n' || c == ',' || c == '#' ||
    punctuators.contains c

/-- The digits of an integer after its sign: zero, or digits that start with another. -/
def isInteger (digits : List Char) : Bool :=
  match digits with
  | [] => false
  | ['0'] => true
  | first :: rest => first.isDigit && first != '0' && rest.all Char.isDigit

/-- The exponent of a float after its letter.  Without a sign it starts with a digit from
one to eight. -/
def readPower? (text : List Char) : Option Int :=
  match text with
  | [] => none
  | first :: rest =>
      if first == '+' || first == '-' then
        if rest.isEmpty || !rest.all Char.isDigit then none
        else
          let magnitude : Int := digitsValue rest
          some (if first == '-' then -magnitude else magnitude)
      else if '1' ≤ first && first ≤ '8' && rest.all Char.isDigit then
        some (digitsValue text)
      else none

/-- The parts of a float after its sign. -/
def readFloat? (negative : Bool) (text : List Char) : Option Numeral :=
  let isExponent (c : Char) : Bool := c == 'e' || c == 'E'
  let mantissa := text.takeWhile fun c => !isExponent c
  let whole := mantissa.takeWhile fun c => c != '.'
  let fraction? : Option (List Char) :=
    match mantissa.dropWhile fun c => c != '.' with
    | [] => some []
    | _ :: digits =>
        if !digits.isEmpty && digits.all Char.isDigit then some digits else none
  let power? : Option Int :=
    match text.dropWhile fun c => !isExponent c with
    | [] => some 0
    | _ :: power => readPower? power
  match fraction?, power? with
  | some fraction, some power =>
      if isInteger whole then some ⟨negative, whole, fraction, power⟩ else none
  | _, _ => none

def readNumeral? (text : List Char) : Option Token :=
  let negative := text.head? == some '-'
  let unsigned := if negative then text.drop 1 else text
  if unsigned.any fun c => c == '.' || c == 'e' || c == 'E' then
    (readFloat? negative unsigned).map fun numeral => .float numeral.nearest
  else if isInteger unsigned then
    let magnitude : Int := digitsValue unsigned
    let value := if negative then -magnitude else magnitude
    if leastInt64 ≤ value ∧ value ≤ greatestInt64 then some (.int value) else none
  else none

/-- The value of four characters as a hexadecimal number, where a plus sign may stand in
place of the first digit. -/
def unicodeEscape? (a b c d : Char) : Option Char :=
  let code? : Option Nat :=
    if a = '+' then Json.hexUnit? '0' b c d else Json.hexUnit? a b c d
  match code? with
  | some code =>
      if Json.isLeadingSurrogate code || Json.isTrailingSurrogate code then none
      else some (Char.ofNat code)
  | none => none

/-- The character of a one letter escape.  The letter of the backspace stands for the code
sixteen. -/
def escaped? (c : Char) : Option Char :=
  match c with
  | '"' => some '"'
  | '\\' => some '\\'
  | '/' => some '/'
  | 'b' => some '\x10'
  | 'f' => some '\x0c'
  | 'n' => some '\n'
  | 'r' => some '\r'
  | 't' => some '\t'
  | _ => none

/-- Read a string on one line whose opening quote is gone; `done` holds the characters read
so far in reverse. -/
def readString (done : List Char) : List Char → Option (String × List Char)
  | [] => none
  | '"' :: rest => some (String.ofList done.reverse, rest)
  | '\\' :: 'u' :: a :: b :: c :: d :: rest =>
      if a = '\n' || b = '\n' || c = '\n' || d = '\n' then none
      else
        match unicodeEscape? a b c d with
        | some found => readString (found :: done) rest
        | none => none
  | '\\' :: c :: rest =>
      match escaped? c with
      | some found => readString (found :: done) rest
      | none => none
  | c :: rest => if c = '\n' || c = '\\' then none else readString (c :: done) rest

/-- The raw text of a block string whose opening quotes are gone.  Three quotes after a
backslash belong to it. -/
def readBlock (done : List Char) : List Char → Option (List Char × List Char)
  | [] => none
  | '"' :: '"' :: '"' :: rest =>
      if done.head? = some '\\' then readBlock ('"' :: '"' :: '"' :: done) rest
      else some (done.reverse, rest)
  | c :: rest => readBlock (c :: done) rest

/-- The bytes of the blanks that a line starts with. -/
def indentation (line : List Char) : Nat :=
  (String.ofList (line.takeWhile Text.isBlank)).utf8ByteSize

/-- A line without its first bytes. -/
def dropBytes : Nat → List Char → List Char
  | _, [] => []
  | 0, line => line
  | count, c :: rest => dropBytes (count - c.utf8Size) rest

/-- A line without the common indentation, unless it is shorter. -/
def dedent (common : Nat) (line : List Char) : List Char :=
  if (String.ofList line).utf8ByteSize < common then line else dropBytes common line

/-- Three quotes after a backslash stand for three quotes. -/
def unescapeTripleQuotes : List Char → List Char
  | '\\' :: '"' :: '"' :: '"' :: rest => '"' :: '"' :: '"' :: unescapeTripleQuotes rest
  | c :: rest => c :: unescapeTripleQuotes rest
  | [] => []

/-- Drop blank lines at the start and at the end. -/
def dropBlankEnds (lines : List (List Char)) : List (List Char) :=
  let isBlankLine (line : List Char) : Bool := line.all Text.isBlank
  ((lines.dropWhile isBlankLine).reverse.dropWhile isBlankLine).reverse

/-- The value of a block string: its lines without the indentation that all but the first
share, and without blank lines at its ends. -/
def blockValue (raw : List Char) : String :=
  match Text.lines raw with
  | [] => ""
  | first :: rest =>
      let common :=
        ((rest.filter fun line => !line.all Text.isBlank).map indentation).min?.getD 0
      let lines := dropBlankEnds (first :: rest.map (dedent common))
      String.ofList (unescapeTripleQuotes (['\n'].intercalate lines))

def read? : List Char → Option (Token × List Char)
  | '.' :: '.' :: '.' :: rest => some (.spread, rest)
  | '"' :: '"' :: '"' :: rest =>
      (readBlock [] rest).map fun found => (.string (blockValue found.1), found.2)
  | '"' :: rest => (readString [] rest).map fun found => (.string found.1, found.2)
  | c :: rest =>
      if punctuators.contains c then some (.punctuator c, rest)
      else if isNameStart c then
        some (.name (String.ofList (c :: rest.takeWhile isNamePart)),
          rest.dropWhile isNamePart)
      else if c == '-' || c.isDigit then
        (readNumeral? (c :: rest.takeWhile fun d => !endsNumeral d)).map fun token =>
          (token, rest.dropWhile fun d => !endsNumeral d)
      else none
  | [] => none

/-- Drop what stands between tokens. -/
def skipIgnored : List Char → List Char
  | [] => []
  | c :: rest => if isIgnored c then skipIgnored rest else c :: rest

/-- Drop a comment up to the end of its line. -/
def skipComment (text : List Char) : List Char :=
  text.dropWhile fun c => c != '\n' && c != '\r'

/-- Read all tokens, at most as many as `steps`. -/
def readAll (done : List Token) : Nat → List Char → Option (List Token)
  | 0, _ => none
  | steps + 1, text =>
      match skipIgnored text with
      | [] => some done.reverse
      | '#' :: rest => readAll done steps (skipComment rest)
      | other =>
          match read? other with
          | some (token, rest) => readAll (token :: done) steps rest
          | none => none

/-- The most brackets that may be open at once. -/
def depthLimit : Nat := 50

/-- Whether no more brackets are open at once than allowed, after `openBrackets` of
them. -/
def withinDepth (openBrackets : Nat) : List Token → Bool
  | [] => true
  | .punctuator c :: rest =>
      if c == '(' || c == '[' || c == '\x7b' then
        decide (openBrackets < depthLimit) && withinDepth (openBrackets + 1) rest
      else if c == ')' || c == ']' || c == '\x7d' then withinDepth (openBrackets - 1) rest
      else withinDepth openBrackets rest
  | _ :: rest => withinDepth openBrackets rest

/-- The tokens of a text.  Every token takes a character, so as many steps as characters
are enough. -/
def tokenize? (text : String) : Option (List Token) :=
  let characters := text.toList
  match readAll [] (characters.length + 1) characters with
  | some tokens => if withinDepth 0 tokens then some tokens else none
  | none => none

end Token

end NodeGraph
