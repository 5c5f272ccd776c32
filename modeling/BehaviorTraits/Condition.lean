import BehaviorTraits.Text.Blank

/-!
# Conditions

A node of a behavior tree may be guarded by a short text:

* `Health < 30%` compares a subject with a literal,
* `EnemyVisible` is a flag,
* `Not EnemyVisible` and `!EnemyVisible` negate what follows.

Reading never fails: a text that is no comparison is a flag whose subject is the whole text.  Two
texts oppose each other when one of them is the other behind a negation mark.
-/

namespace BehaviorTraits

open Text

inductive Comparison where
  | less
  | greater
  | atMost
  | atLeast
  | equal
  | notEqual
  deriving DecidableEq, Repr

namespace Comparison

def symbol : Comparison → String
  | less => "<"
  | greater => ">"
  | atMost => "<="
  | atLeast => ">="
  | equal => "=="
  | notEqual => "!="

/-- All comparisons, those of two characters before those of one. -/
def all : List Comparison := [atMost, atLeast, equal, notEqual, less, greater]

def ofSymbol? (s : String) : Option Comparison := all.find? (·.symbol == s)

/-- What is said about a text that is no comparison symbol. -/
def unknownMessage (s : String) : String := s!"unknown comparison operator '{s}'"

/-- The comparisons that a text may start with, each with the text behind it, longest first. -/
def candidates (cs : List Char) : List (Comparison × List Char) :=
  all.filterMap fun op =>
    let symbol := op.symbol.toList
    if symbol.isPrefixOf cs then some (op, cs.drop symbol.length) else none

end Comparison

/-- A condition as read from a node. -/
structure Condition where
  /-- What the condition talks about. -/
  subject : String
  /-- The comparison made and the text compared with; a flag has neither. -/
  comparison : Option (Comparison × String)
  /-- Was a negation mark taken off? -/
  negated : Bool
  deriving DecidableEq, Repr

namespace Condition

def isFlag (c : Condition) : Bool := c.comparison.isNone

/-- A character of a subject that is compared: an ASCII letter or digit, or an underscore. -/
def isSubjectChar (c : Char) : Bool := c.isAlphanum || c == '_'

/-- The text behind a negation mark.  The mark is a `!` that does not begin `!=`, or the word `not`
in any ASCII case with a blank behind it. -/
def withoutMark? (cs : List Char) : Option (List Char) :=
  match trimStartChars cs with
  | '!' :: rest => if rest.head? = some '=' then none else some (trimChars rest)
  | n :: o :: t :: blank :: rest =>
    if [n, o, t].map Char.toLower = ['n', 'o', 't'] ∧ isBlank blank then some (trimChars rest)
    else none
  | _ => none

/-- The right-hand side of a comparison: it has something on it and stays on one line. -/
def literal? (cs : List Char) : Option (List Char) :=
  let text := trimStartChars cs
  if text = [] ∨ '\n' ∈ text then none else some (trimChars text)

/-- Reads a subject, a comparison and a literal, with blanks between them. -/
def comparison? (body : List Char) : Option (List Char × Comparison × List Char) :=
  let subject := body.takeWhile isSubjectChar
  if subject = [] then none
  else
    (Comparison.candidates (trimStartChars (body.dropWhile isSubjectChar))).findSome?
      fun (op, rest) => (literal? rest).map fun literal => (subject, op, literal)

/-- The condition that a text without negation mark stands for. -/
def ofBody (negated : Bool) (body : List Char) : Condition :=
  match comparison? body with
  | some (subject, op, literal) =>
    ⟨String.ofList subject, some (op, String.ofList literal), negated⟩
  | none => ⟨String.ofList body, none, negated⟩

/-- Reads a condition. -/
def parse (raw : String) : Condition :=
  let text := trimChars raw.toList
  match withoutMark? text with
  | some body => ofBody true body
  | none => ofBody false text

/-- The text behind a negation mark, if there is one. -/
def stripNegation? (raw : String) : Option String :=
  (withoutMark? raw.toList).map String.ofList

/-- Is one of the two texts the other behind a negation mark? -/
def opposed (a b : String) : Bool :=
  let a := trimChars a.toList
  let b := trimChars b.toList
  !a.isEmpty && !b.isEmpty && (withoutMark? a == some b || withoutMark? b == some a)

end Condition

end BehaviorTraits
