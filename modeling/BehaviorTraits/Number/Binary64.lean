/-!
# Double-precision numbers, exactly

A finite double is a natural number times a power of two.  Every operation here computes the exact
rational result and then rounds it once, to the nearest double, a tie going to the even one.  All of
it is arithmetic on natural numbers.
-/

namespace BehaviorTraits.Number

/-- The absolute value of a double: `mantissa * 2 ^ exponent`, or too large to be one.  The mantissa
has 53 bits, or fewer when the exponent is the least one. -/
inductive Magnitude where
  | finite (mantissa : Nat) (exponent : Int)
  | infinite
  deriving DecidableEq, Repr

structure Binary64 where
  negative : Bool
  magnitude : Magnitude
  deriving DecidableEq, Repr

/-- The exponent of the doubles closest to zero. -/
def leastExponent : Int := -1074

/-- The exponent of the largest doubles. -/
def greatestExponent : Int := 971

/-- `num / den * 2 ^ exponent` as a fraction of natural numbers. -/
def shifted (num den : Nat) (exponent : Int) : Nat × Nat :=
  if exponent < 0 then (num, den * Nat.pow 2 (-exponent).toNat)
  else (num * Nat.pow 2 exponent.toNat, den)

/-- The exponent of the greatest power of two that is at most `num / den`. -/
def floorLog2 (num den : Nat) : Int :=
  let guess : Int := (Nat.log2 num : Int) - Nat.log2 den
  let (n, d) := shifted num den (-guess)
  if d ≤ n then guess else guess - 1

/-- The integer nearest to `num / den`, the even one of two. -/
def nearestEven (num den : Nat) : Nat :=
  let quotient := num / den
  let twice := 2 * (num % den)
  if twice < den then quotient
  else if den < twice then quotient + 1
  else if quotient % 2 = 0 then quotient
  else quotient + 1

namespace Magnitude

def zero : Magnitude := .finite 0 leastExponent

/-- The double nearest to `num / den`. -/
def ofRatio (num den : Nat) : Magnitude :=
  if num = 0 then zero
  else
    let exponent := max (floorLog2 num den - 52) leastExponent
    let (n, d) := shifted num den (-exponent)
    let mantissa := nearestEven n d
    let (mantissa, exponent) :=
      if mantissa = Nat.pow 2 53 then (Nat.pow 2 52, exponent + 1) else (mantissa, exponent)
    if greatestExponent < exponent then .infinite else .finite mantissa exponent

def ofNat (n : Nat) : Magnitude := ofRatio n 1

/-- The double nearest to `digits * 10 ^ exponent`. -/
def ofDecimal (digits : Nat) (exponent : Int) : Magnitude :=
  -- `10 ^ top` is above the value, and a tenth of it is not.
  let top := (Nat.toDigits 10 digits).length + exponent
  if digits = 0 ∨ top < -330 then zero
  else if 330 < top then .infinite
  else if exponent < 0 then ofRatio digits (Nat.pow 10 (-exponent).toNat)
  else ofRatio (digits * Nat.pow 10 exponent.toNat) 1

def mul : Magnitude → Magnitude → Magnitude
  | .finite m e, .finite n f =>
    let (num, den) := shifted (m * n) 1 (e + f)
    ofRatio num den
  | _, _ => .infinite

/-- The quotient by a finite double other than zero. -/
def div : Magnitude → Magnitude → Magnitude
  | .finite m e, .finite n f =>
    let (num, den) := shifted m n (e - f)
    ofRatio num den
  | .infinite, _ => .infinite
  | _, .infinite => zero

/-- The nearest integer, a half going away from zero. -/
def round : Magnitude → Magnitude
  | .finite m e =>
    let (num, den) := shifted m 1 e
    ofRatio ((2 * num + den) / (2 * den)) 1
  | .infinite => .infinite

end Magnitude

end BehaviorTraits.Number
