/-!
# Double precision numbers

A double is a sign, a significand and a power of two, or one of the values without
a magnitude.  Every finite value is built by `Binary64.ofRatio`, which rounds an
exact quotient of naturals to the nearest double and lets a half go to the even
significand.  All arithmetic stays in `Nat` and `Int`, so nothing here depends on
the machine's own floating point.
-/

namespace NodeGraph

/-- A double precision number.  A finite value is `significand * 2 ^ exponent`; its
significand is below `2 ^ 53` and its exponent is as small as the significand allows,
so equal values of one sign have one form. -/
inductive Binary64 where
  | nan
  | infinite (negative : Bool)
  | finite (negative : Bool) (significand : Nat) (exponent : Int)
  deriving DecidableEq, Repr, Inhabited

namespace Binary64

/-- The exponent of the subnormal numbers and of zero. -/
def leastExponent : Int := -1074

def greatestExponent : Int := 971

/-- The significands of normal numbers start here, at the 52nd power of two. -/
def normalSignificand : Nat := 4503599627370496

def zero (negative : Bool) : Binary64 := .finite negative 0 leastExponent

/-- The quotient rounded to the nearest natural, a half to the even one. -/
def roundHalfEven (numerator denominator : Nat) : Nat :=
  let floor := numerator / denominator
  let twice := 2 * (numerator % denominator)
  if twice < denominator then floor
  else if denominator < twice then floor + 1
  else if floor % 2 = 0 then floor
  else floor + 1

/-- The quotient divided by `2 ^ exponent`, as a numerator and a denominator. -/
def rescale (numerator denominator : Nat) (exponent : Int) : Nat × Nat :=
  if 0 ≤ exponent then (numerator, denominator * Nat.pow 2 exponent.toNat)
  else (numerator * Nat.pow 2 (-exponent).toNat, denominator)

/-- The exponent at which the quotient has a significand of 53 bits, or the least
exponent for quotients below the normal numbers. -/
def ratioExponent (numerator denominator : Nat) : Int :=
  let low : Int := (numerator.log2 : Int) - (denominator.log2 : Int) - 53
  let scaled := rescale numerator denominator low
  let exact := if 2 * normalSignificand ≤ scaled.1 / scaled.2 then low + 1 else low
  max exact leastExponent

/-- The double nearest to a quotient of naturals, a half to the even significand. -/
def ofRatio (negative : Bool) (numerator denominator : Nat) : Binary64 :=
  if numerator = 0 then zero negative
  else
    let exponent := ratioExponent numerator denominator
    let scaled := rescale numerator denominator exponent
    let rounded := roundHalfEven scaled.1 scaled.2
    let carried := rounded = 2 * normalSignificand
    let significand := if carried then normalSignificand else rounded
    let exponent := if carried then exponent + 1 else exponent
    if greatestExponent < exponent then .infinite negative
    else .finite negative significand exponent

def ofInt (value : Int) : Binary64 :=
  ofRatio (decide (value < 0)) value.natAbs 1

/-- The double nearest to `digits * 10 ^ exponent`.  Magnitudes far outside the range
are settled without computing the power. -/
def ofDecimal (negative : Bool) (digits : Nat) (exponent : Int) : Binary64 :=
  let magnitude : Int := (Nat.toDigits 10 digits).length + exponent
  if digits = 0 then zero negative
  else if 400 < magnitude then .infinite negative
  else if magnitude < -400 then zero negative
  else if 0 ≤ exponent then ofRatio negative (digits * Nat.pow 10 exponent.toNat) 1
  else ofRatio negative digits (Nat.pow 10 (-exponent).toNat)

/-- The magnitude of a finite double as an exact quotient. -/
def ratio (significand : Nat) (exponent : Int) : Nat × Nat :=
  if 0 ≤ exponent then (significand * Nat.pow 2 exponent.toNat, 1)
  else (significand, Nat.pow 2 (-exponent).toNat)

def negate : Binary64 → Binary64
  | .nan => .nan
  | .infinite negative => .infinite (!negative)
  | .finite negative significand exponent => .finite (!negative) significand exponent

/-- A number that is neither infinite nor undefined. -/
def isFinite : Binary64 → Bool
  | .finite .. => true
  | _ => false

def scaleUp : Binary64 → Binary64 → Binary64
  | .finite negative left leftExponent, .finite _ right rightExponent =>
      let leftRatio := ratio left leftExponent
      let rightRatio := ratio right rightExponent
      ofRatio negative (leftRatio.1 * rightRatio.1) (leftRatio.2 * rightRatio.2)
  | value, _ => value

def scaleDown : Binary64 → Binary64 → Binary64
  | .finite negative left leftExponent, .finite _ right rightExponent =>
      let leftRatio := ratio left leftExponent
      let rightRatio := ratio right rightExponent
      ofRatio negative (leftRatio.1 * rightRatio.2) (leftRatio.2 * rightRatio.1)
  | value, _ => value

/-- The exact integer a double stands for, if it stands for one. -/
def toInt? : Binary64 → Option Int
  | .finite negative significand exponent =>
      let magnitude := ratio significand exponent
      if magnitude.1 % magnitude.2 = 0 then
        let whole : Int := (magnitude.1 / magnitude.2 : Nat)
        some (if negative then -whole else whole)
      else none
  | _ => none

/-- The signed numerator of a finite double over the denominator of its magnitude. -/
def signedRatio (negative : Bool) (significand : Nat) (exponent : Int) : Int × Nat :=
  let magnitude := ratio significand exponent
  (if negative then -(magnitude.1 : Int) else magnitude.1, magnitude.2)

/-- The double nearest to a signed quotient; an exact zero is positive unless `negative`
says otherwise. -/
def ofSignedRatio (negative : Bool) (numerator : Int) (denominator : Nat) : Binary64 :=
  if numerator = 0 then zero negative
  else ofRatio (decide (numerator < 0)) numerator.natAbs denominator

/-- The sum, rounded once.  Zeros of one sign keep it, and infinities of different signs
have no sum. -/
def plus : Binary64 → Binary64 → Binary64
  | .nan, _ => .nan
  | _, .nan => .nan
  | .infinite left, .infinite right => if left = right then .infinite left else .nan
  | .infinite negative, .finite .. => .infinite negative
  | .finite .., .infinite negative => .infinite negative
  | .finite leftNegative left leftExponent, .finite rightNegative right rightExponent =>
      let leftRatio := signedRatio leftNegative left leftExponent
      let rightRatio := signedRatio rightNegative right rightExponent
      ofSignedRatio
        (leftNegative && rightNegative && left == 0 && right == 0)
        (leftRatio.1 * rightRatio.2 + rightRatio.1 * leftRatio.2)
        (leftRatio.2 * rightRatio.2)

/-- The difference, rounded once. -/
def minus (left right : Binary64) : Binary64 := left.plus right.negate

/-- The product, rounded once.  An infinity has no product with zero. -/
def times : Binary64 → Binary64 → Binary64
  | .nan, _ => .nan
  | _, .nan => .nan
  | .infinite left, .infinite right => .infinite (left != right)
  | .infinite negative, .finite right significand _ =>
      if significand = 0 then .nan else .infinite (negative != right)
  | .finite left significand _, .infinite negative =>
      if significand = 0 then .nan else .infinite (left != negative)
  | .finite leftNegative left leftExponent, .finite rightNegative right rightExponent =>
      let leftRatio := ratio left leftExponent
      let rightRatio := ratio right rightExponent
      ofRatio (leftNegative != rightNegative) (leftRatio.1 * rightRatio.1)
        (leftRatio.2 * rightRatio.2)

/-- Half of the bits of a significand, as a factor: the 26th power of two. -/
def halfSignificand : Nat := 67108864

/-- The number with the lower half of its significand cleared, so that the product of two
such numbers is exact. -/
def upperHalf : Binary64 → Binary64
  | .finite negative significand exponent =>
      .finite negative (significand - significand % halfSignificand) exponent
  | value => value

/-- The order of the values; the two zeros are equal and an undefined number is below
everything. -/
def order : Binary64 → Binary64 → Ordering
  | .nan, .nan => .eq
  | .nan, _ => .lt
  | _, .nan => .gt
  | .infinite left, .infinite right => compare (!left).toNat (!right).toNat
  | .infinite negative, .finite .. => if negative then .lt else .gt
  | .finite .., .infinite negative => if negative then .gt else .lt
  | .finite leftNegative left leftExponent, .finite rightNegative right rightExponent =>
      let leftRatio := signedRatio leftNegative left leftExponent
      let rightRatio := signedRatio rightNegative right rightExponent
      compare (leftRatio.1 * rightRatio.2) (rightRatio.1 * leftRatio.2)

/-- The order of an integer and a double, without rounding the integer. -/
def orderInt (value : Int) : Binary64 → Ordering
  | .nan => .gt
  | .infinite negative => if negative then .gt else .lt
  | .finite negative significand exponent =>
      let right := signedRatio negative significand exponent
      compare (value * right.2) right.1

end Binary64

end NodeGraph
