import BehaviorTraits.Json.Number
import BehaviorTraits.Text.Quoted

/-!
# JSON values

An object is a list of entries.  A reader keeps them in ascending order of their keys, so that a
later entry takes the place of an earlier one with the same key; a value built to be printed keeps
them in the order they are to be printed.
-/

namespace BehaviorTraits

inductive Json where
  | null
  | bool (value : Bool)
  | num (value : Json.Number)
  | str (value : String)
  | arr (items : List Json)
  | obj (entries : List (String × Json))

namespace Json

def ofNat (n : Nat) : Json := .num (.integer n)

def ofBool (b : Bool) : Json := .bool b

def strs (texts : List String) : Json := .arr (texts.map .str)

def isNull : Json → Bool
  | null => true
  | _ => false

/-- Adds an entry in the place of its key, in ascending order; the new value replaces an old one. -/
def insertEntry (key : String) (value : Json) : List (String × Json) → List (String × Json)
  | [] => [(key, value)]
  | (k, v) :: rest =>
    if key < k then (key, value) :: (k, v) :: rest
    else if key = k then (key, value) :: rest
    else (k, v) :: insertEntry key value rest

/-- What a message calls the value. -/
def description : Json → String
  | null => "null"
  | bool b => s!"boolean `{b}`"
  | num (.integer n) => s!"integer `{n}`"
  | num (.double d) => s!"floating point `{Number.doubleText d}`"
  | str s => "string " ++ Text.quoted s
  | arr _ => "sequence"
  | obj _ => "map"

end Json

end BehaviorTraits
