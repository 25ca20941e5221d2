/-!
# Binary numbers of double precision

A finite number is a significand below 2^53 times a power of two, where the significand reaches
2^52 unless the exponent is the least one, -1074. `ofRatio` rounds a quotient to the nearest such
number, and a number halfway between two of them to the one with the even significand.
-/

namespace ArgHints.Decimal

inductive Binary64 where
  | nan
  | infinite (negative : Bool)
  | finite (negative : Bool) (significand : Nat) (exponent : Int)
  deriving DecidableEq, Repr

namespace Binary64

def significandBound : Nat := 9007199254740992

def leastNormal : Nat := 4503599627370496

def roundQuotient (numerator denominator : Nat) : Nat :=
  let quotient := numerator / denominator
  let twice := 2 * (numerator % denominator)
  if twice < denominator || (twice == denominator && quotient % 2 == 0) then quotient
  else quotient + 1

def scaled (numerator denominator : Nat) (exponent : Int) : Nat × Nat :=
  (numerator * Nat.pow 2 (-exponent).toNat, denominator * Nat.pow 2 exponent.toNat)

def exponentFor (numerator denominator : Nat) : Int :=
  let low := max (-1074) ((numerator.log2 : Int) - denominator.log2 - 53)
  let (n, d) := scaled numerator denominator low
  if n / d < significandBound then low else low + 1

def ofRatio (negative : Bool) (numerator denominator : Nat) : Binary64 :=
  let exponent := exponentFor numerator denominator
  let (n, d) := scaled numerator denominator exponent
  let significand := roundQuotient n d
  let (significand, exponent) :=
    if significand < significandBound then (significand, exponent)
    else (leastNormal, exponent + 1)
  if exponent ≤ 971 then .finite negative significand exponent else .infinite negative

/-- The number nearest to `digits` times ten to the power of `exponent`. Where the result is past
either end of the range, the power is not computed. -/
def ofDecimal (negative : Bool) (digits : Nat) (exponent : Int) : Binary64 :=
  if digits == 0 then .finite negative 0 (-1074)
  else if 0 ≤ exponent then
    if 1025 < digits.log2 + 3 * exponent then .infinite negative
    else ofRatio negative (digits * Nat.pow 10 exponent.toNat) 1
  else if digits.log2 + 3 * exponent < -1080 then .finite negative 0 (-1074)
  else ofRatio negative digits (Nat.pow 10 (-exponent).toNat)

def isAtMostZero : Binary64 → Bool
  | .nan => false
  | .infinite negative => negative
  | .finite negative significand _ => negative || significand == 0

def toInt? : Binary64 → Option Int
  | .finite negative significand exponent =>
    let (n, d) := scaled significand 1 (-exponent)
    if n % d == 0 then some (if negative then -(n / d : Int) else n / d) else none
  | _ => none

end Binary64

end ArgHints.Decimal
