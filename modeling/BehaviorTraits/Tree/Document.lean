import BehaviorTraits.Digest.Sha256
import BehaviorTraits.Json.Printer
import BehaviorTraits.Json.Reader
import BehaviorTraits.Tree.Basic
import BehaviorTraits.Tree.Error

/-!
# Trees as JSON documents

A node is an object with the keys `id`, `condition`, `action` and `children`.  Keys are matched
whatever their case, an entry whose value is `null` counts as absent, and other keys are ignored.
When several keys of one object stand for the same part, the greatest of them wins.  Below the root
a node may also be an array of its parts.

The parts of an object are read in the order action, children, condition, id, and the first fault
is the one reported.
-/

namespace BehaviorTraits.Node

/-- Among the entries whose key in lower case is `name`, none of them `null`, the one with the
greatest key. -/
def winner? {α : Type} (name : String) (entries : List (String × Json × α)) :
    Option (String × Json × α) :=
  entries.foldl
    (fun best entry =>
      let beaten := match best with
        | some (key, _) => decide (key ≤ entry.1)
        | none => true
      if !entry.2.1.isNull && Text.lower entry.1 == name && beaten then some entry else best)
    none

def readText : Json → Except TreeError String
  | .str s => .ok s
  | value => .error (.mismatch value .text)

def readOptionalText : Json → Except TreeError (Option String)
  | .null => .ok none
  | value => (readText value).map some

/-- A node from the entries of an object, each with its value read as a list of nodes. -/
def ofEntries (entries : List (String × Json × Except TreeError (List Node))) :
    Except TreeError Node := do
  let text? (name : String) : Except TreeError (Option String) :=
    match winner? name entries with
    | some (_, value, _) => readOptionalText value
    | none => .ok none
  let action ← text? "action"
  let children ← match winner? "children" entries with
    | some (_, _, nodes) => nodes
    | none => .ok []
  let condition ← text? "condition"
  let id ← text? "id"
  return ⟨id.getD "", condition, action, children⟩

mutual

/-- Reads a node below the root. -/
def ofJson : Json → Except TreeError Node
  | .obj entries => ofEntries (withNodes entries)
  | .arr [] => .ok {}
  | .arr [id] => do return ⟨← readText id, none, none, []⟩
  | .arr [id, condition] => do
    return ⟨← readText id, ← readOptionalText condition, none, []⟩
  | .arr [id, condition, action] => do
    return ⟨← readText id, ← readOptionalText condition, ← readOptionalText action, []⟩
  | .arr (id :: condition :: action :: children :: others) => do
    let id ← readText id
    let condition ← readOptionalText condition
    let action ← readOptionalText action
    let children ← listOfJson children
    if others.isEmpty then return ⟨id, condition, action, children⟩
    else throw (.tooManyItems (others.length + 4))
  | value => .error (.mismatch value .node)

/-- Reads a list of nodes. -/
def listOfJson : Json → Except TreeError (List Node)
  | .arr items => allOfJson items
  | value => .error (.mismatch value .nodeList)

def allOfJson : List Json → Except TreeError (List Node)
  | [] => .ok []
  | item :: items => do
    let node ← ofJson item
    let nodes ← allOfJson items
    return node :: nodes

/-- The entries of an object, each with its value read as a list of nodes. -/
def withNodes :
    List (String × Json) → List (String × Json × Except TreeError (List Node))
  | [] => []
  | (key, value) :: entries => (key, value, listOfJson value) :: withNodes entries

end

/-- Reads a whole document, whose root must be an object. -/
def ofDocument : Json → Except TreeError Node
  | .null => .error .missingRoot
  | .obj entries => ofJson (.obj entries)
  | value => .error (.rootNotObject value)

/-- Reads a tree from its text. -/
def parse (text : String) : Except TreeError Node :=
  match Json.parse? text with
  | some value => ofDocument value
  | none => .error .notJson

mutual

/-- The object of a node; absent parts are left out. -/
def toJson : Node → Json
  | ⟨id, condition, action, children⟩ =>
    let text (key : String) (part : Option String) : List (String × Json) :=
      part.toList.map fun s => (key, .str s)
    let subtrees := match children with
      | [] => []
      | child :: others => [("children", .arr (toJson child :: allToJson others))]
    .obj (("id", .str id) :: text "condition" condition ++ text "action" action ++ subtrees)

def allToJson : List Node → List Json
  | [] => []
  | n :: ns => toJson n :: allToJson ns

end

/-- The tree over several lines. -/
def prettyText (n : Node) : String := n.toJson.pretty

/-- The tree on one line. -/
def compactText (n : Node) : String := n.toJson.compact

/-- The first eight bytes of the digest of the tree on one line, as written into generated files. -/
def hash (n : Node) : String :=
  let words := (Digest.sha256 n.compactText.toUTF8.toList).take 2
  "sha256:" ++ String.ofList (words.flatMap Digest.hexWord)

end BehaviorTraits.Node
