import BehaviorTraits.Text.Blank
import BehaviorTraits.Text.Case
import BehaviorTraits.Text.Digit
import BehaviorTraits.Text.Split

/-!
# Actions

A leaf of a behavior tree names what the actor is to do, written as a call: `Wait(25)`,
`MoveTo(10, 20)` or just `Attack`.  Reading never fails: a text that is no call, and a call whose
method is not known, is an unmapped action.
-/

namespace BehaviorTraits

open Text

/-- The families of actions that have generated code. -/
inductive ActionKind where
  | wait
  | attack
  | move
  | unmapped
  deriving DecidableEq, Repr

/-- The family that a method name belongs to, whatever its ASCII case. -/
def ActionKind.ofMethod (method : String) : ActionKind :=
  match lowerAscii method with
  | "wait" | "delay" => .wait
  | "attack" | "pursue" | "hunt" => .attack
  | "move" | "moveto" => .move
  | _ => .unmapped

/-- An action as read from a node. -/
structure Action where
  method : String
  /-- The pieces between the commas of the argument text, blank ones left out. -/
  args : List String
  /-- The text between the outer parentheses. -/
  rawArgs : String
  kind : ActionKind
  deriving DecidableEq, Repr

namespace Action

def isMethodStart (c : Char) : Bool := c.isAlpha || c == '_'

def isMethodChar (c : Char) : Bool := c.isAlphanum || c == '_'

/-- The text between an opening parenthesis at the start and a closing one at the end, if it stays
on one line. -/
def enclosed? (cs : List Char) : Option (List Char) :=
  match cs with
  | '(' :: rest =>
    match rest.reverse with
    | ')' :: inner => if '\n' ∈ inner then none else some inner.reverse
    | _ => none
  | _ => none

/-- Reads a method name and the text between its parentheses, which may be missing. -/
def call? (cs : List Char) : Option (List Char × List Char) :=
  if (cs.head?.map isMethodStart).getD false then
    let method := cs.takeWhile isMethodChar
    let rest := trimStartChars (cs.dropWhile isMethodChar)
    if rest = [] then some (method, [])
    else (enclosed? rest).map fun inner => (method, trimChars inner)
  else none

/-- The pieces between the commas of an argument text, trimmed, blank ones left out. -/
def argsOf (rawArgs : List Char) : List String :=
  (((splitAtChar ',' rawArgs).map trimChars).filter (!·.isEmpty)).map String.ofList

/-- Reads an action. -/
def parse (raw : String) : Action :=
  let text := trimChars raw.toList
  match call? text with
  | some (method, rawArgs) =>
    let method := String.ofList method
    ⟨method, argsOf rawArgs, String.ofList rawArgs, .ofMethod method⟩
  | none => ⟨String.ofList text, [], "", .unmapped⟩

/-- An optional minus and one or more decimal digits of any script. -/
def isCoordinate (cs : List Char) : Bool :=
  let digits := if cs.head? = some '-' then cs.drop 1 else cs
  !digits.isEmpty && digits.all isDecimalDigit

/-- Reads two coordinates with a comma between them. -/
def pair? (cs : List Char) : Option (String × String) :=
  match (splitAtChar ',' cs).map trimChars with
  | [x, y] =>
    if isCoordinate x && isCoordinate y then some (String.ofList x, String.ofList y) else none
  | _ => none

/-- The cell that a move names: a pair of coordinates, or one in parentheses. -/
def target? (rawArgs : String) : Option (String × String) :=
  pair? ((enclosed? rawArgs.toList).getD rawArgs.toList)

/-- An optional sign and ASCII digits whose value fits in 64 bits. -/
def isTickCount (arg : String) : Bool :=
  let cs := arg.toList
  let negative := cs.head? = some '-'
  let digits := if negative || cs.head? = some '+' then cs.drop 1 else cs
  let value := digits.foldl (fun n d => n * 10 + (d.toNat - '0'.toNat)) 0
  !digits.isEmpty && digits.all Char.isDigit &&
    decide (value < if negative then Nat.pow 2 63 + 1 else Nat.pow 2 63)

end Action

end BehaviorTraits
