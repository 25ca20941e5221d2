import ArgHints.Decimal.Binary64

namespace ArgHints.Decimal

structure Scientific where
  digits : Nat
  exponent : Int
  deriving DecidableEq, Repr

def compareScaled (a : Nat) (i : Int) (b : Nat) (j : Int) : Ordering :=
  compare (a * Nat.pow 10 i.toNat * Nat.pow 2 (-j).toNat)
    (b * Nat.pow 2 j.toNat * Nat.pow 10 (-i).toNat)

/-- Whether a decimal number is nearer to `significand * 2 ^ exponent` than to its neighbours. A
number halfway between two of them belongs to the one with the even significand. Just below a power
of two the neighbours are twice as dense. -/
def readsBack (significand : Nat) (exponent : Int) (decimal : Scientific) : Bool :=
  let below := if significand == Binary64.leastNormal && -1074 < exponent then 1 else 2
  let low := compareScaled decimal.digits decimal.exponent (4 * significand - below) (exponent - 2)
  let high := compareScaled decimal.digits decimal.exponent (4 * significand + 2) (exponent - 2)
  let even := significand % 2 == 0
  (low == .gt || (even && low == .eq)) && (high == .lt || (even && high == .eq))

/-- The two decimal numbers with the exponent `power` between which a positive number lies, the
nearer one first and the even one first if both are equally near. -/
def neighbours (significand : Nat) (exponent power : Int) : List Scientific :=
  let (n, d) := Binary64.scaled significand 1 (-exponent)
  let n := n * Nat.pow 10 (-power).toNat
  let d := d * Nat.pow 10 power.toNat
  let low : Scientific := ⟨n / d, power⟩
  let high : Scientific := ⟨n / d + 1, power⟩
  let twice := 2 * (n % d)
  if twice < d || (twice == d && low.digits % 2 == 0) then [low, high] else [high, low]

def powerAbove (significand : Nat) (exponent : Int) : Int :=
  let tries := (List.range 635).map fun i : Nat => (i : Int) - 324
  (tries.find? fun k => compareScaled 1 k significand exponent == .gt).getD 310

def shortest (significand : Nat) (exponent : Int) : Scientific :=
  let top := powerAbove significand exponent
  let grids := (List.range 17).map fun i : Nat => top - ((i : Int) + 1)
  let hits := grids.filterMap fun power =>
    (neighbours significand exponent power).find? (readsBack significand exponent)
  hits.headD ⟨0, 0⟩

def Scientific.strip : (fuel : Nat) → Scientific → Scientific
  | 0, decimal => decimal
  | fuel + 1, decimal =>
    if decimal.digits != 0 && decimal.digits % 10 == 0 then
      strip fuel ⟨decimal.digits / 10, decimal.exponent + 1⟩
    else decimal

def Scientific.text (decimal : Scientific) : List Char :=
  let digits := Nat.toDigits 10 decimal.digits
  let point := digits.length + decimal.exponent
  let leading := point - 1
  if -4 ≤ leading && leading < 16 then
    if point ≤ 0 then ['0', '.'] ++ List.replicate (-point).toNat '0' ++ digits
    else
      let whole := digits.take point.toNat ++ List.replicate decimal.exponent.toNat '0'
      let fraction := digits.drop point.toNat
      whole ++ '.' :: (if fraction.isEmpty then ['0'] else fraction)
  else
    let fraction := digits.drop 1
    let power := Nat.toDigits 10 leading.natAbs
    digits.take 1 ++ (if fraction.isEmpty then [] else '.' :: fraction) ++
      'e' :: (if leading < 0 then '-' else '+') ::
        (if power.length < 2 then '0' :: power else power)

def Binary64.text : Binary64 → String
  | .nan => "nan"
  | .infinite negative => if negative then "-inf" else "inf"
  | .finite negative significand exponent =>
    let body :=
      if significand == 0 then ['0', '.', '0']
      else ((shortest significand exponent).strip 17).text
    String.ofList (if negative then '-' :: body else body)

end ArgHints.Decimal
