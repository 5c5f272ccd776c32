import BehaviorTraits.Number.Binary64

/-!
# The shortest decimal of a double

The decimal written for a double is the one with the fewest digits among those that round to the
double; of several with as few digits it is the nearest.
-/

namespace BehaviorTraits.Number

/-- `digits * 10 ^ exponent`, where ten does not divide `digits` unless it is zero. -/
structure Decimal where
  digits : Nat
  exponent : Int
  deriving DecidableEq, Repr

/-- `num / den / 10 ^ exponent` as a fraction of natural numbers. -/
def perPowerOfTen (num den : Nat) (exponent : Int) : Nat × Nat :=
  if exponent < 0 then (num * Nat.pow 10 (-exponent).toNat, den)
  else (num, den * Nat.pow 10 exponent.toNat)

/-- The exponent of the greatest power of ten that is at most `num / den`.  The fraction is at least
`10 ^ (-400)`. -/
def floorLog10 (num den : Nat) : Int :=
  (Nat.toDigits 10 (num * Nat.pow 10 400 / den)).length - 401

/-- Does `digits * 10 ^ k` round to `mantissa * 2 ^ exponent`?  The doubles next to a power of two
are closer below it than above. -/
def readsBack (mantissa : Nat) (exponent : Int) (digits : Nat) (k : Int) : Bool :=
  let below := if mantissa = Nat.pow 2 52 ∧ leastExponent < exponent then 1 else 2
  let (low, lowDen) := shifted (4 * mantissa - below) 4 exponent
  let (high, highDen) := shifted (4 * mantissa + 2) 4 exponent
  let (low, lowDen) := perPowerOfTen low lowDen k
  let (high, highDen) := perPowerOfTen high highDen k
  if mantissa % 2 = 0 then decide (low ≤ digits * lowDen) && decide (digits * highDen ≤ high)
  else decide (low < digits * lowDen) && decide (digits * highDen < high)

/-- The nearest decimal of `count` digits, if it reads back as `mantissa * 2 ^ exponent`. -/
def decimalOf? (mantissa : Nat) (exponent : Int) (count : Nat) : Option Decimal :=
  let (num, den) := shifted mantissa 1 exponent
  let k := floorLog10 num den - count + 1
  let (num, den) := perPowerOfTen num den k
  let nearest := nearestEven num den
  let digits :=
    if readsBack mantissa exponent nearest k then some nearest
    else [num / den, num / den + 1].find? (readsBack mantissa exponent · k)
  digits.map fun d => if d = Nat.pow 10 count then ⟨1, k + count⟩ else ⟨d, k⟩

/-- The shortest decimal that reads back as `mantissa * 2 ^ exponent`; seventeen digits always
do. -/
def shortest (mantissa : Nat) (exponent : Int) : Decimal :=
  if mantissa = 0 then ⟨0, 0⟩
  else
    ((List.range 17).findSome? fun i => decimalOf? mantissa exponent (i + 1)).getD
      ⟨mantissa, exponent⟩

/-- The decimal without exponent part: the digits, with zeros and a point as needed. -/
def Decimal.positional (d : Decimal) : String :=
  let digits := Nat.toDigits 10 d.digits
  if 0 ≤ d.exponent then String.ofList (digits ++ List.replicate d.exponent.toNat '0')
  else
    let places := (-d.exponent).toNat
    -- At least one digit stands before the point.
    let padded := List.replicate (places + 1 - digits.length) '0' ++ digits
    let whole := padded.length - places
    String.ofList (padded.take whole ++ '.' :: padded.drop whole)

/-- The digits with a point behind the first one, and the power of ten they are multiplied by. -/
def Decimal.scientific (d : Decimal) : String × Int :=
  match Nat.toDigits 10 d.digits with
  | [] => ("0", 0)
  | [c] => (String.ofList [c], d.exponent)
  | c :: cs => (String.ofList (c :: '.' :: cs), d.exponent + cs.length)

end BehaviorTraits.Number
