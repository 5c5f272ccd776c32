import BehaviorTraits.Number.Shortest
import BehaviorTraits.Text.Blank

/-!
# Percentages

A health threshold such as `30%` or `33.3 %` becomes a fraction with four decimal places.
-/

namespace BehaviorTraits.Number

open Text

/-- Reads an optional sign and hands on whether it is a minus. -/
def takeSign : List Char → Bool × List Char
  | '-' :: cs => (true, cs)
  | '+' :: cs => (false, cs)
  | cs => (false, cs)

/-- The value of a run of ASCII digits. -/
def digitsValue (cs : List Char) : Nat := cs.foldl (fun n c => n * 10 + (c.toNat - '0'.toNat)) 0

/-- Reads the exponent part of a decimal: nothing, or an `e`, an optional sign and digits. -/
def exponentOf? : List Char → Option Int
  | [] => some 0
  | e :: cs =>
    let (negative, digits) := takeSign cs
    if (e = 'e' ∨ e = 'E') ∧ digits ≠ [] ∧ digits.all Char.isDigit then
      some (if negative then -(digitsValue digits : Int) else digitsValue digits)
    else none

/-- Reads a decimal number: an optional sign, digits with an optional point among them, and an
optional exponent. -/
def decimal? (cs : List Char) : Option Binary64 :=
  let (negative, cs) := takeSign cs
  let whole := cs.takeWhile Char.isDigit
  let rest := cs.dropWhile Char.isDigit
  let (places, rest) :=
    match rest with
    | '.' :: rest => (rest.takeWhile Char.isDigit, rest.dropWhile Char.isDigit)
    | rest => ([], rest)
  if whole = [] ∧ places = [] then none
  else
    (exponentOf? rest).map fun exponent =>
      ⟨negative, .ofDecimal (digitsValue (whole ++ places)) (exponent - places.length)⟩

/-- A percentage as a fraction, rounded to four places in double precision. -/
def Magnitude.percent (value : Magnitude) : Magnitude :=
  (((value.div (.ofNat 100)).mul (.ofNat 10000)).round).div (.ofNat 10000)

/-- The shortest text of a double, never with an exponent. -/
def Binary64.positional (value : Binary64) : String :=
  let sign := if value.negative then "-" else ""
  match value.magnitude with
  | .finite m e => sign ++ (shortest m e).positional
  | .infinite => sign ++ "inf"

/-- The text without the percent signs at its end and without blanks around what is left. -/
def withoutPercent (cs : List Char) : List Char :=
  trimChars ((trimChars cs).reverse.dropWhile (· == '%')).reverse

/-- `30%` or `30` as a fraction; nothing for a literal that is no finite number. -/
def percentFraction? (literal : String) : Option String :=
  match decimal? (withoutPercent literal.toList) with
  | some ⟨_, .infinite⟩ => none
  | some ⟨negative, value⟩ => some (Binary64.positional ⟨negative, value.percent⟩)
  | none => none

end BehaviorTraits.Number
