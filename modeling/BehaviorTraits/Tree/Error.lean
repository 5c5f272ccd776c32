import BehaviorTraits.Json.Basic

/-!
# Why a text is no behavior tree
-/

namespace BehaviorTraits

/-- What a place in a tree document calls for. -/
inductive TreePart where
  | text
  | nodeList
  | node
  deriving DecidableEq, Repr

def TreePart.description : TreePart → String
  | text => "a string"
  | nodeList => "a sequence"
  | node => "struct BehaviorNode"

inductive TreeError where
  /-- The text is not JSON. -/
  | notJson
  /-- The document is `null`. -/
  | missingRoot
  /-- The document is neither an object nor `null`. -/
  | rootNotObject (found : Json)
  | mismatch (found : Json) (wanted : TreePart)
  /-- A node written as an array has more items than a node has parts. -/
  | tooManyItems (count : Nat)

namespace TreeError

/-- The kind of a value in the message about the root. -/
def rootKind : Json → String
  | .null => "null"
  | .bool _ => "a boolean"
  | .num _ => "a number"
  | .str _ => "a string"
  | .arr _ => "an array"
  | .obj _ => "an object"

def message : TreeError → String
  | notJson => "Tree parse error: <syntax>"
  | missingRoot => "Tree root is missing"
  | rootNotObject found =>
    s!"Tree parse error: expected an object at the tree root, found {rootKind found}"
  | mismatch found wanted =>
    s!"Tree parse error: invalid type: {found.description}, expected {wanted.description}"
  | tooManyItems count =>
    s!"Tree parse error: invalid length {count}, expected fewer elements in array"

end TreeError

end BehaviorTraits
