import NodeGraph.Number.DoublePair
import NodeGraph.Row.Cell

/-!
# Stored values

What a column of the in-memory store holds.  Every column prefers numbers: text that reads
as a number is stored as one, and a number without a fraction is stored as an integer.
Values are ordered by class first, nulls before numbers before texts before bytes.
-/

namespace NodeGraph

/-- A value in a table. -/
inductive StoredValue where
  | null
  | integer (value : Int)
  | real (value : Binary64)
  | text (value : String)
  | blob (value : List UInt8)
  deriving DecidableEq, Repr, Inhabited

namespace StoredValue

/-- A blank that may surround a number in a text. -/
def isNumberBlank (c : Char) : Bool :=
  c == ' ' || c == '\t' || c == '\n' || c == '\x0b' || c == '\x0c' || c == '\r'

/-- A real number, or the integer it equals.  The ends of the integer range stay real. -/
def ofReal (value : Binary64) : StoredValue :=
  match value.toInt? with
  | some whole => if leastInt64 < whole ∧ whole < greatestInt64 then .integer whole
      else .real value
  | none => .real value

/-- A text without the blanks around it. -/
def trimmed (text : String) : List Char :=
  ((text.toList.dropWhile isNumberBlank).reverse.dropWhile isNumberBlank).reverse

/-- The integer of 64 bits that a run of digits with an optional sign stands for. -/
def wholeNumber? (text : List Char) : Option Int :=
  let signed := Numeral.signedDigits text
  if signed.2.isEmpty || !signed.2.all Char.isDigit then none
  else
    let magnitude : Int := digitsValue signed.2
    let whole := if signed.1 then -magnitude else magnitude
    if leastInt64 ≤ whole ∧ whole ≤ greatestInt64 then some whole else none

/-- The number that a text reads as, with blanks around it dropped. -/
def ofNumeral? (text : String) : Option StoredValue :=
  match wholeNumber? (trimmed text) with
  | some whole => some (.integer whole)
  | none => (Numeral.read? (trimmed text)).map fun numeral => ofReal numeral.viaPair

/-- A text as a column stores it or compares with it. -/
def ofText (text : String) : StoredValue := (ofNumeral? text).getD (.text text)

def ofCell : Cell → StoredValue
  | .null => .null
  | .bool value => .integer (if value then 1 else 0)
  | .integer value => .integer value
  | .float .nan => .null
  | .float value => ofReal value
  | .text value => ofText value
  | .bytes value => .blob value

def toCell : StoredValue → Cell
  | .null => .null
  | .integer value => .integer value
  | .real value => .float value
  | .text value => .text value
  | .blob value => .bytes value

/-- Whether the value is null. -/
def isNull : StoredValue → Bool
  | .null => true
  | _ => false

/-- The class of a value in the order of classes. -/
def rank : StoredValue → Nat
  | .null => 0
  | .integer _ => 1
  | .real _ => 1
  | .text _ => 2
  | .blob _ => 3

/-- Bytes in the order of a dictionary. -/
def orderBytes : List UInt8 → List UInt8 → Ordering
  | [], [] => .eq
  | [], _ :: _ => .lt
  | _ :: _, [] => .gt
  | left :: lefts, right :: rights => (compare left right).then (orderBytes lefts rights)

/-- The order of stored values. -/
def order : StoredValue → StoredValue → Ordering
  | .integer left, .integer right => compare left right
  | .integer left, .real right => Binary64.orderInt left right
  | .real left, .integer right => (Binary64.orderInt right left).swap
  | .real left, .real right => Binary64.order left right
  | .text left, .text right => compare left right
  | .blob left, .blob right => orderBytes left right
  | left, right => compare left.rank right.rank

end StoredValue

end NodeGraph
