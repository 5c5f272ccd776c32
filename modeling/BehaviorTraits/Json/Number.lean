import BehaviorTraits.Number.Percent

/-!
# JSON numbers

A number written without point and exponent is an integer when it fits in 64 bits, signed or
unsigned; every other number is a double.  A double is read in two roundings: the leading digits
that fit in 64 bits are rounded, and the result is scaled by the rounded power of ten.
-/

namespace BehaviorTraits.Json

open BehaviorTraits.Number

inductive Number where
  | integer (value : Int)
  | double (value : Binary64)
  deriving DecidableEq, Repr

namespace Number

/-- The greatest power of ten that is itself a double. -/
def greatestPower : Nat := 308

/-- Scales the leading digits of a number; `none` when the result is no finite double. -/
def scaled? (significand : Nat) (exponent : Int) : Option Magnitude :=
  let value := Magnitude.ofNat significand
  if exponent < 0 then
    let places := (-exponent).toNat
    -- Two divisions by the greatest power leave nothing of a 64-bit number.
    if places ≤ greatestPower then some (value.div (.ofNat (Nat.pow 10 places)))
    else
      let value := value.div (.ofNat (Nat.pow 10 greatestPower))
      if places ≤ 2 * greatestPower then
        some (value.div (.ofNat (Nat.pow 10 (places - greatestPower))))
      else some .zero
  else if significand = 0 then some .zero
  else if exponent.toNat ≤ greatestPower then
    match value.mul (.ofNat (Nat.pow 10 exponent.toNat)) with
    | .infinite => none
    | product => some product
  else none

/-- Takes digits while the number they make, after `value`, fits in 64 bits. -/
def takeFitting (value : Nat) : List Char → Nat × List Char
  | [] => (value, [])
  | c :: cs =>
    let next := value * 10 + (c.toNat - '0'.toNat)
    if next < Nat.pow 2 64 then takeFitting next cs else (value, c :: cs)

/-- The value of a number with a point, an exponent or too many digits.  Digits of the whole part
that do not fit count as a power of ten; digits behind the point that do not fit are dropped. -/
def double? (negative : Bool) (whole places : List Char) (exponent : Int) : Option Number :=
  let (significand, uncounted) := takeFitting 0 whole
  let (significand, dropped) := takeFitting significand places
  let taken : Int := places.length - dropped.length
  (scaled? significand (exponent + uncounted.length - taken)).map fun m => .double ⟨negative, m⟩

/-- Reads a number: an optional minus, digits without a leading zero, and optionally a point with
digits and an exponent. -/
def ofChars? (cs : List Char) : Option Number :=
  let negative := cs.head? = some '-'
  let cs := if negative then cs.drop 1 else cs
  let whole := cs.takeWhile Char.isDigit
  let rest := cs.dropWhile Char.isDigit
  if whole = [] ∨ (whole.head? = some '0' ∧ whole.length ≠ 1) then none
  else
    let value := digitsValue whole
    match rest with
    | [] =>
      if !negative && decide (value < Nat.pow 2 64) then some (.integer value)
      else if negative && decide (0 < value) && decide (value ≤ Nat.pow 2 63) then
        some (.integer (-(value : Int)))
      else double? negative whole [] 0
    | '.' :: rest =>
      let places := rest.takeWhile Char.isDigit
      if places = [] then none
      else (exponentOf? (rest.dropWhile Char.isDigit)).bind (double? negative whole places)
    | rest => (exponentOf? rest).bind (double? negative whole [])

/-- A double in a message: the shortest digits, with a point when the value is below `10 ^ 16` and
at least `10 ^ (-5)`, and with an exponent otherwise. -/
def doubleText (value : Binary64) : String :=
  let sign := if value.negative then "-" else ""
  match value.magnitude with
  | .infinite => sign ++ "inf"
  | .finite m e =>
    let decimal := shortest m e
    let (scientific, power) := decimal.scientific
    if m = 0 then sign ++ "0.0"
    else if power < -5 then s!"{sign}{scientific}e{power}"
    else if 16 ≤ power then s!"{sign}{scientific}e+{power}"
    else if decimal.exponent < 0 then sign ++ decimal.positional
    else sign ++ decimal.positional ++ ".0"

def text : Number → String
  | integer value => toString value
  | double value => doubleText value

end Number

end BehaviorTraits.Json
