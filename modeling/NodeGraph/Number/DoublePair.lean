import NodeGraph.Number.Decimal

/-!
# Pairs of doubles

A pair of doubles stands for their sum, the second one being the part that the first is
too coarse to hold.  A decimal numeral is read by gathering its leading digits into a
pair and scaling that pair by powers of ten.  Digits beyond the 64 bits of the gathered
number are dropped, and every scaling rounds, so that the double that is read may differ
from the nearest one in its last place.
-/

namespace NodeGraph

/-- A double and a correction to it. -/
structure DoublePair where
  high : Binary64
  low : Binary64
  deriving DecidableEq, Repr, Inhabited

namespace DoublePair

/-- The double nearest to the sum; a sum without a value counts as too large. -/
def toBinary64 (pair : DoublePair) : Binary64 :=
  match pair.high.plus pair.low with
  | .nan => .infinite false
  | value => value

/-- A power of ten: the nearest double, and the double nearest to what that one leaves. -/
def powerOfTen (exponent : Int) : DoublePair :=
  let exact : Int × Nat :=
    if 0 ≤ exponent then (Nat.pow 10 exponent.toNat, 1)
    else (1, Nat.pow 10 (-exponent).toNat)
  match Binary64.ofDecimal false 1 exponent with
  | .finite negative significand power =>
      let nearest := Binary64.signedRatio negative significand power
      { high := .finite negative significand power
        low := Binary64.ofSignedRatio false (exact.1 * nearest.2 - nearest.1 * exact.2)
          (exact.2 * nearest.2) }
  | value => { high := value, low := Binary64.zero false }

/-- The product with a factor.  The first parts are multiplied in halves, which loses
nothing; the other products enter the correction. -/
def scale (factor pair : DoublePair) : DoublePair :=
  let upper := pair.high.upperHalf
  let lower := pair.high.minus upper
  let factorUpper := factor.high.upperHalf
  let factorLower := factor.high.minus factorUpper
  let product := upper.times factorUpper
  let cross := (upper.times factorLower).plus (lower.times factorUpper)
  let leading := product.plus cross
  let lost := ((product.minus leading).plus cross).plus (lower.times factorLower)
  let correction :=
    ((pair.high.times factor.low).plus (pair.low.times factor.high)).plus lost
  let high := leading.plus correction
  { high, low := (leading.minus high).plus correction }

/-- The pair times a power of ten, by steps of a hundred, ten and one in the exponent. -/
def scaleByTen (pair : DoublePair) (exponent : Int) : DoublePair :=
  let size := exponent.natAbs
  let unit : Int := if exponent < 0 then -1 else 1
  let byHundreds := Nat.repeat (scale (powerOfTen (100 * unit))) (size / 100) pair
  let byTens := Nat.repeat (scale (powerOfTen (10 * unit))) (size % 100 / 10) byHundreds
  Nat.repeat (scale (powerOfTen unit)) (size % 10) byTens

/-- The greatest double below the 64th power of two. -/
def greatestBelowWord : Nat := 18446744073709549568

/-- A natural of 64 bits: the nearest double and the difference.  A number whose nearest
double does not fit in 64 bits gets no correction. -/
def ofWord (value : Nat) : DoublePair :=
  let high := Binary64.ofRatio false value 1
  match high.toInt? with
  | some whole =>
      if whole ≤ greatestBelowWord then { high, low := Binary64.ofInt (value - whole) }
      else { high, low := Binary64.zero false }
  | none => { high, low := Binary64.zero false }

end DoublePair

/-- The leading digits of a numeral as one number times a power of ten. -/
structure GatheredDigits where
  value : Nat := 0
  exponent : Int := 0
  deriving DecidableEq, Repr, Inhabited

namespace GatheredDigits

/-- Numbers from here on take no further digit. -/
def fullFrom : Nat := 1844674407370955160

/-- A further digit before the point.  Once the number is full a digit only raises the
exponent. -/
def takeWhole (gathered : GatheredDigits) (digit : Char) : GatheredDigits :=
  if gathered.value < fullFrom then
    { gathered with value := gathered.value * 10 + digitsValue [digit] }
  else { gathered with exponent := gathered.exponent + 1 }

/-- A further digit after the point.  Once the number is full a digit changes nothing. -/
def takeFraction (gathered : GatheredDigits) (digit : Char) : GatheredDigits :=
  if gathered.value < fullFrom then
    { value := gathered.value * 10 + digitsValue [digit], exponent := gathered.exponent - 1 }
  else gathered

/-- Numbers from here on are not multiplied by ten. -/
def wideFrom : Nat := 1844674407370954956

/-- Move a positive exponent into the number while the number stays below 64 bits. -/
def widen (gathered : GatheredDigits) : Nat → GatheredDigits
  | 0 => gathered
  | steps + 1 =>
      if 0 < gathered.exponent ∧ gathered.value < wideFrom then
        widen { value := gathered.value * 10, exponent := gathered.exponent - 1 } steps
      else gathered

/-- Drop the final zeros of the number while the exponent is negative. -/
def dropZeros (gathered : GatheredDigits) : Nat → GatheredDigits
  | 0 => gathered
  | steps + 1 =>
      if gathered.exponent < 0 ∧ gathered.value % 10 = 0 then
        dropZeros { value := gathered.value / 10, exponent := gathered.exponent + 1 } steps
      else gathered

end GatheredDigits

namespace Numeral

/-- The exponent as far as it is read: five digits, or a fixed large one for more. -/
def readExponent (numeral : Numeral) : Int :=
  if numeral.exponent.natAbs < 100000 then numeral.exponent
  else if numeral.exponent < 0 then -10000
  else 10000

/-- The double that the numeral is read as, by way of a pair of doubles. -/
def viaPair (numeral : Numeral) : Binary64 :=
  let whole := numeral.whole.foldl GatheredDigits.takeWhole {}
  let digits := numeral.fraction.foldl GatheredDigits.takeFraction whole
  let gathered : GatheredDigits :=
    { digits with exponent := digits.exponent + numeral.readExponent }
  if gathered.value = 0 then Binary64.zero numeral.negative
  else
    let settled := (gathered.widen 20).dropZeros 20
    let magnitude :=
      ((DoublePair.ofWord settled.value).scaleByTen settled.exponent).toBinary64
    if numeral.negative then magnitude.negate else magnitude

end Numeral

end NodeGraph
