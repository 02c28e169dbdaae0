import NodeGraph.Json.Value

/-!
# Reading JSON text

The reader accepts exactly the JSON grammar: no leading zeros, no raw control characters
in strings, no lone surrogates, nothing after the value, and at most 127 brackets open at
once.  A repeated key keeps its first position and its last value.

Numerals with a point or an exponent, the negative zero and integers outside the 64 bit
ranges become doubles.  Their digits are gathered while they fit in 64 bits and the
gathered number is then scaled by one power of ten, so a numeral of many digits is read
to within the last place rather than exactly.
-/

namespace NodeGraph

namespace JsonNumber

/-- Append digits to a number while the result fits in 64 bits.  The result is the
number, how many digits it took, and the digits that were left. -/
def gather (value taken : Nat) : List Char → Nat × Nat × List Char
  | [] => (value, taken, [])
  | digit :: rest =>
      let longer := value * 10 + (digit.toNat - '0'.toNat)
      if longer ≤ greatestNat64 then gather longer (taken + 1) rest
      else (value, taken, digit :: rest)

/-- The greatest power of ten that is a double. -/
def greatestPower : Nat := 308

/-- Multiply a double by a power of ten; there is no result if it is too large.  Powers
too small for one division are applied in steps, and a few steps reach zero. -/
def scaleByTen : Nat → Binary64 → Int → Option Binary64
  | 0, _, _ => some (Binary64.zero false)
  | steps + 1, value, exponent =>
      if value = Binary64.zero false then some value
      else if exponent.natAbs ≤ greatestPower then
        let power := Binary64.ofDecimal false 1 exponent.natAbs
        if 0 ≤ exponent then
          let scaled := Binary64.scaleUp value power
          if scaled.isFinite then some scaled else none
        else some (Binary64.scaleDown value power)
      else if 0 ≤ exponent then none
      else
        let power := Binary64.ofDecimal false 1 greatestPower
        scaleByTen steps (Binary64.scaleDown value power) (exponent + greatestPower)

/-- A gathered number scaled by a power of ten, with its sign. -/
def ofParts? (negative : Bool) (value : Nat) (exponent : Int) : Option JsonNumber :=
  (scaleByTen 8 (Binary64.ofRatio false value 1) exponent).map fun magnitude =>
    .float (if negative then magnitude.negate else magnitude)

/-- The number a numeral of digits alone stands for. -/
def ofDigits? (negative : Bool) (whole : List Char) : Option JsonNumber :=
  match gather 0 0 whole with
  | (value, _, []) =>
      if !negative then some (.integer value)
      else if value ≠ 0 ∧ leastInt64 ≤ -(value : Int) then some (.integer (-(value : Int)))
      else some (.float (Binary64.ofRatio true value 1))
  | (value, _, left) => ofParts? negative value left.length

/-- The number a numeral with a point or an exponent stands for. -/
def ofScaled? (numeral : Numeral) : Option JsonNumber :=
  match gather 0 0 numeral.whole with
  | (value, _, left) =>
      match gather value 0 numeral.fraction with
      | (value, taken, _) =>
          ofParts? numeral.negative value
            ((left.length : Int) - (taken : Int) + numeral.exponent)

end JsonNumber

namespace Json

/-- Drop spaces, tabs and line ends. -/
def skipBlanks (text : List Char) : List Char :=
  text.dropWhile fun c => c = ' ' || c = '\t' || c = '\n' || c = '\r'

def hexValue? (c : Char) : Option Nat :=
  if '0' ≤ c ∧ c ≤ '9' then some (c.toNat - '0'.toNat)
  else if 'a' ≤ c ∧ c ≤ 'f' then some (c.toNat - 'a'.toNat + 10)
  else if 'A' ≤ c ∧ c ≤ 'F' then some (c.toNat - 'A'.toNat + 10)
  else none

def hexUnit? (a b c d : Char) : Option Nat := do
  let first ← hexValue? a
  let second ← hexValue? b
  let third ← hexValue? c
  let fourth ← hexValue? d
  return ((first * 16 + second) * 16 + third) * 16 + fourth

/-- The character that a one letter escape stands for. -/
def escaped? (c : Char) : Option Char :=
  match c with
  | '"' => some '"'
  | '\\' => some '\\'
  | '/' => some '/'
  | 'b' => some '\x08'
  | 'f' => some '\x0c'
  | 'n' => some '\n'
  | 'r' => some '\r'
  | 't' => some '\t'
  | _ => none

/-- The first half of a surrogate pair. -/
def isLeadingSurrogate (unit : Nat) : Bool := 0xD800 ≤ unit && unit < 0xDC00

/-- The second half of a surrogate pair. -/
def isTrailingSurrogate (unit : Nat) : Bool := 0xDC00 ≤ unit && unit < 0xE000

/-- Read the rest of a string whose opening quote is gone; `done` holds the characters
read so far in reverse. -/
def readString (done : List Char) : List Char → Option (String × List Char)
  | [] => none
  | '"' :: rest => some (String.ofList done.reverse, rest)
  | '\\' :: 'u' :: a :: b :: c :: d :: '\\' :: 'u' :: e :: f :: g :: h :: rest =>
      match hexUnit? a b c d with
      | none => none
      | some unit =>
          if isLeadingSurrogate unit then
            match hexUnit? e f g h with
            | none => none
            | some trailing =>
                if isTrailingSurrogate trailing then
                  let code := 0x10000 + (unit - 0xD800) * 0x400 + (trailing - 0xDC00)
                  readString (Char.ofNat code :: done) rest
                else none
          else if isTrailingSurrogate unit then none
          else
            readString (Char.ofNat unit :: done)
              ('\\' :: 'u' :: e :: f :: g :: h :: rest)
  | '\\' :: 'u' :: a :: b :: c :: d :: rest =>
      match hexUnit? a b c d with
      | none => none
      | some unit =>
          if isLeadingSurrogate unit || isTrailingSurrogate unit then none
          else readString (Char.ofNat unit :: done) rest
  | '\\' :: c :: rest =>
      match escaped? c with
      | none => none
      | some plain => readString (plain :: done) rest
  | c :: rest => if c.toNat < 32 || c = '\\' then none else readString (c :: done) rest

/-- Read the digits after a point: at least one. -/
def readFraction? (text : List Char) : Option (List Char × List Char) :=
  let digits := text.takeWhile Char.isDigit
  if digits.isEmpty then none else some (digits, text.dropWhile Char.isDigit)

/-- Read an exponent after its letter: a sign or none, and at least one digit. -/
def readExponent? (text : List Char) : Option (Int × List Char) :=
  let signed := Numeral.signedDigits text
  let digits := signed.2.takeWhile Char.isDigit
  if digits.isEmpty then none
  else
    let magnitude : Int := digitsValue digits
    some (if signed.1 then -magnitude else magnitude, signed.2.dropWhile Char.isDigit)

def startsExponent : List Char → Bool
  | 'e' :: _ => true
  | 'E' :: _ => true
  | _ => false

/-- Read a numeral after its sign. -/
def readNumber (negative : Bool) (text : List Char) : Option (JsonNumber × List Char) :=
  let whole := text.takeWhile Char.isDigit
  let rest := text.dropWhile Char.isDigit
  if whole.isEmpty || (whole.length ≠ 1 && whole.head? == some '0') then none
  else do
    let (fraction, rest) ←
      match rest with
      | '.' :: after => readFraction? after
      | other => some ([], other)
    if startsExponent rest then
      let (exponent, rest) ← readExponent? (rest.drop 1)
      let number ← JsonNumber.ofScaled? ⟨negative, whole, fraction, exponent⟩
      return (number, rest)
    else if fraction.isEmpty then
      return (← JsonNumber.ofDigits? negative whole, rest)
    else
      return (← JsonNumber.ofScaled? ⟨negative, whole, fraction, 0⟩, rest)

/-- The most brackets that may be open at once. -/
def depthLimit : Nat := 127

mutual

/-- Read one value; `steps` bounds the number of nested calls and `depth` the number of
further brackets. -/
def readValue (steps depth : Nat) (text : List Char) : Option (Json × List Char) :=
  match steps with
  | 0 => none
  | steps + 1 =>
      match skipBlanks text with
      | 'n' :: 'u' :: 'l' :: 'l' :: rest => some (.null, rest)
      | 't' :: 'r' :: 'u' :: 'e' :: rest => some (.bool true, rest)
      | 'f' :: 'a' :: 'l' :: 's' :: 'e' :: rest => some (.bool false, rest)
      | '"' :: rest => (readString [] rest).map fun found => (.string found.1, found.2)
      | '[' :: rest =>
          match depth with
          | 0 => none
          | depth + 1 =>
              match skipBlanks rest with
              | ']' :: after => some (.array [], after)
              | other => readItems steps depth [] other
      | '\x7b' :: rest =>
          match depth with
          | 0 => none
          | depth + 1 =>
              match skipBlanks rest with
              | '\x7d' :: after => some (.object [], after)
              | other => readFields steps depth [] other
      | '-' :: rest => (readNumber true rest).map fun found => (.number found.1, found.2)
      | rest => (readNumber false rest).map fun found => (.number found.1, found.2)

/-- Read the items of a list up to its bracket; `done` holds those read, in reverse. -/
def readItems (steps depth : Nat) (done : List Json) (text : List Char) :
    Option (Json × List Char) :=
  match steps with
  | 0 => none
  | steps + 1 =>
      match readValue steps depth text with
      | none => none
      | some (item, rest) =>
          match skipBlanks rest with
          | ',' :: after => readItems steps depth (item :: done) after
          | ']' :: after => some (.array (item :: done).reverse, after)
          | _ => none

/-- Read the entries of an object up to its bracket; `done` holds those read, in
reverse. -/
def readFields (steps depth : Nat) (done : List (String × Json)) (text : List Char) :
    Option (Json × List Char) :=
  match steps with
  | 0 => none
  | steps + 1 =>
      match skipBlanks text with
      | '"' :: rest =>
          match readString [] rest with
          | none => none
          | some (key, rest) =>
              match skipBlanks rest with
              | ':' :: rest =>
                  match readValue steps depth rest with
                  | none => none
                  | some (value, rest) =>
                      match skipBlanks rest with
                      | ',' :: after => readFields steps depth ((key, value) :: done) after
                      | '\x7d' :: after =>
                          some (.object (JsonObject.ofEntries ((key, value) :: done).reverse),
                            after)
                      | _ => none
              | _ => none
      | _ => none

end

/-- Read a text that holds one value and nothing else.  Every nested call of the reader
takes a character, so as many steps as characters are enough. -/
def parse? (text : String) : Option Json :=
  let characters := text.toList
  match readValue (2 * characters.length + 2) depthLimit characters with
  | some (value, rest) => if (skipBlanks rest).isEmpty then some value else none
  | none => none

end Json

end NodeGraph
