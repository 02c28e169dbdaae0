import NodeGraph.Number.Binary64

/-!
# Decimal text of double precision numbers

The shortest decimal of a double is found by trying grids of one, two, up to seventeen
significant digits: on each grid only the two neighbours of the exact value can lie in
the interval of reals that round to it, and the first grid with such a neighbour wins.
The two layouts below write those digits, one as JSON number text and one in plain
positional form.  Reading goes the other way and is exact.
-/

namespace NodeGraph

/-- A positive decimal `significand * 10 ^ scale`. -/
structure Decimal where
  significand : Nat
  scale : Int
  deriving DecidableEq, Repr, Inhabited

/-- Which neighbour a value takes that lies in the middle of two. -/
inductive TieRule where
  | toEven
  | upward
  deriving DecidableEq, Repr

namespace Decimal

def digitText (decimal : Decimal) : String := toString decimal.significand

/-- The power of ten of the first digit. -/
def leadingExponent (decimal : Decimal) : Int :=
  (decimal.digitText.length : Int) - 1 + decimal.scale

/-- Drop trailing zeros of the significand, at most as many as `fuel`. -/
def stripZeros (decimal : Decimal) : Nat → Decimal
  | 0 => decimal
  | fuel + 1 =>
      if decimal.significand % 10 = 0 ∧ decimal.significand ≠ 0 then
        stripZeros ⟨decimal.significand / 10, decimal.scale + 1⟩ fuel
      else decimal

/-- A quotient compared with `10 ^ exponent`: the exponent is not above it. -/
def reachesPower (numerator denominator : Nat) (exponent : Int) : Bool :=
  if 0 ≤ exponent then decide (denominator * Nat.pow 10 exponent.toNat ≤ numerator)
  else decide (denominator ≤ numerator * Nat.pow 10 (-exponent).toNat)

/-- The power of ten of the first digit of a positive quotient. -/
def ratioExponent (numerator denominator : Nat) : Int :=
  let guess : Int :=
    ((toString numerator).length : Int) - ((toString denominator).length : Int)
  if reachesPower numerator denominator guess then guess else guess - 1

/-- The neighbour of a positive quotient on the grid of multiples of `10 ^ scale` that
lies within the bounds, the nearer one if both do. -/
def gridPoint (ties : TieRule) (inside : Nat → Nat → Bool)
    (numerator denominator : Nat) (scale : Int) : Option Nat :=
  let top := if 0 ≤ scale then numerator else numerator * Nat.pow 10 (-scale).toNat
  let bottom := if 0 ≤ scale then denominator * Nat.pow 10 scale.toNat else denominator
  let below := top / bottom
  let above := below + 1
  let holds (point : Nat) : Bool :=
    if 0 ≤ scale then inside (point * Nat.pow 10 scale.toNat) 1
    else inside point (Nat.pow 10 (-scale).toNat)
  let twice := 2 * (top % bottom)
  let nearer :=
    if twice < bottom then below
    else if bottom < twice then above
    else match ties with
      | .toEven => if below % 2 = 0 then below else above
      | .upward => above
  match holds below && below != 0, holds above with
  | true, true => some nearer
  | true, false => some below
  | false, true => some above
  | false, false => none

/-- Try grids of `digits`, `digits + 1`, … significant digits, at most `fuel` of them. -/
def shortestFrom (ties : TieRule) (inside : Nat → Nat → Bool)
    (numerator denominator : Nat) (leading : Int) (digits : Nat) : Nat → Decimal
  | 0 => ⟨numerator / denominator, 0⟩
  | fuel + 1 =>
      let scale := leading - (digits : Int) + 1
      match gridPoint ties inside numerator denominator scale with
      | some point => stripZeros ⟨point, scale⟩ 18
      | none => shortestFrom ties inside numerator denominator leading (digits + 1) fuel

/-- The fewest digits that read back as the double of magnitude
`significand * 2 ^ exponent`, and of those the nearest.  Bounds are counted in quarters
of the last place; the lower gap is half as wide at a power of two, and an end counts
only for an even significand. -/
def shortest (ties : TieRule) (significand : Nat) (exponent : Int) : Decimal :=
  let unit := Binary64.ratio 1 (exponent - 2)
  let lowGap :=
    if significand = Binary64.normalSignificand ∧ Binary64.leastExponent < exponent
    then 1 else 2
  let low := 4 * significand - lowGap
  let high := 4 * significand + 2
  let closed := significand % 2 = 0
  let inside (numerator denominator : Nat) : Bool :=
    let point := numerator * unit.2
    let lowEnd := low * unit.1 * denominator
    let highEnd := high * unit.1 * denominator
    if closed then decide (lowEnd ≤ point) && decide (point ≤ highEnd)
    else decide (lowEnd < point) && decide (point < highEnd)
  let exact := Binary64.ratio significand exponent
  shortestFrom ties inside exact.1 exact.2 (ratioExponent exact.1 exact.2) 1 17

def zeros (count : Nat) : String := String.ofList (List.replicate count '0')

/-- Split a text of digits after the given number of characters. -/
def splitDigits (text : String) (count : Nat) : String × String :=
  (String.ofList (text.toList.take count), String.ofList (text.toList.drop count))

/-- The decimal in positional form, with `whole` after it if it has no fraction. -/
def positional (decimal : Decimal) (whole : String) : String :=
  let text := decimal.digitText
  let leading := decimal.leadingExponent
  if 0 ≤ decimal.scale then text ++ zeros decimal.scale.toNat ++ whole
  else if 0 ≤ leading then
    let parts := splitDigits text (leading.toNat + 1)
    parts.1 ++ "." ++ parts.2
  else "0." ++ zeros (-leading - 1).toNat ++ text

/-- The decimal as one digit, a fraction if there are more digits, and a signed
exponent. -/
def scientific (decimal : Decimal) : String :=
  let parts := splitDigits decimal.digitText 1
  let fraction := if parts.2.isEmpty then "" else "." ++ parts.2
  let leading := decimal.leadingExponent
  let sign := if leading < 0 then "-" else "+"
  parts.1 ++ fraction ++ "e" ++ sign ++ toString leading.natAbs

end Decimal

namespace Binary64

/-- A minus sign for negative numbers, the negative zero among them. -/
def signText (negative : Bool) : String := if negative then "-" else ""

/-- JSON number text.  The first digit's power of ten decides the form: from `-5` to
`15` the number is positional and keeps `.0` when it is whole, outside it is scientific.
Numbers that JSON cannot write have no text. -/
def jsonText? : Binary64 → Option String
  | .finite negative significand exponent =>
      if significand = 0 then some (signText negative ++ "0.0")
      else
        let decimal := Decimal.shortest .toEven significand exponent
        let leading := decimal.leadingExponent
        let body :=
          if -5 ≤ leading ∧ leading ≤ 15 then decimal.positional ".0"
          else decimal.scientific
        some (signText negative ++ body)
  | _ => none

/-- Plain text: the shortest digits in positional form whatever the magnitude, with no
fraction for whole numbers. -/
def plainText : Binary64 → String
  | .nan => "NaN"
  | .infinite negative => signText negative ++ "inf"
  | .finite negative significand exponent =>
      if significand = 0 then signText negative ++ "0"
      else signText negative ++ (Decimal.shortest .upward significand exponent).positional ""

end Binary64

def digitsValue (digits : List Char) : Nat :=
  digits.foldl (fun value digit => value * 10 + (digit.toNat - '0'.toNat)) 0

/-- The parts of a decimal numeral: whether it is negative, the digits before and after
the point, and the power of ten. -/
structure Numeral where
  negative : Bool
  whole : List Char
  fraction : List Char
  exponent : Int
  deriving DecidableEq, Repr, Inhabited

namespace Numeral

def nearest (numeral : Numeral) : Binary64 :=
  Binary64.ofDecimal numeral.negative (digitsValue (numeral.whole ++ numeral.fraction))
    (numeral.exponent - numeral.fraction.length)

/-- A run of digits after an optional sign; the sign is true for a minus. -/
def signedDigits (text : List Char) : Bool × List Char :=
  match text with
  | '-' :: rest => (true, rest)
  | '+' :: rest => (false, rest)
  | rest => (false, rest)

/-- Read `[sign] digits [. digits] [e [sign] digits]`.  One of the two digit runs may be
empty, not both, and the exponent needs a digit. -/
def read? (text : List Char) : Option Numeral :=
  let signed := signedDigits text
  let whole := signed.2.takeWhile Char.isDigit
  let afterWhole := signed.2.dropWhile Char.isDigit
  let fractional : List Char × List Char :=
    match afterWhole with
    | '.' :: rest => (rest.takeWhile Char.isDigit, rest.dropWhile Char.isDigit)
    | rest => ([], rest)
  if whole.isEmpty && fractional.1.isEmpty then none
  else
    match fractional.2 with
    | [] => some ⟨signed.1, whole, fractional.1, 0⟩
    | mark :: rest =>
        let power := signedDigits rest
        if (mark == 'e' || mark == 'E') && !power.2.isEmpty && power.2.all Char.isDigit then
          let magnitude : Int := digitsValue power.2
          some ⟨signed.1, whole, fractional.1, if power.1 then -magnitude else magnitude⟩
        else none

end Numeral

/-- Read a double from decimal text; the words for the values without digits are accepted
in any ASCII case. -/
def Binary64.ofText? (text : String) : Option Binary64 :=
  match Numeral.read? text.toList with
  | some numeral => some numeral.nearest
  | none =>
      let signed := Numeral.signedDigits (text.toList.map Char.toLower)
      let word := String.ofList signed.2
      if word == "inf" || word == "infinity" then some (.infinite signed.1)
      else if word == "nan" then some .nan
      else none

end NodeGraph
