import BehaviorTraits.Json.Token

/-!
# Reading JSON

The tokens are read one at a time by a machine with a stack of the arrays and objects that are still
open.  At most 127 may be open at once.
-/

namespace BehaviorTraits.Json

/-- An array or object still open; an object also knows the key of the value to come. -/
inductive Frame where
  /-- The items so far, last one first. -/
  | items (read : List Json)
  | entries (read : List (String × Json)) (key : String)

/-- What may come next. -/
inductive Expecting where
  | value (stack : List Frame)
  /-- A value or the end of an array just opened. -/
  | firstItem (stack : List Frame)
  /-- A key or the end of an object just opened. -/
  | firstKey (stack : List Frame)
  | key (read : List (String × Json)) (stack : List Frame)
  | colon (read : List (String × Json)) (key : String) (stack : List Frame)
  /-- Behind a complete value. -/
  | more (value : Json) (stack : List Frame)

/-- The number of arrays and objects that may be open at once. -/
def nestingLimit : Nat := 127

/-- Reads the first token of a value. -/
def begin? (stack : List Frame) : Token → Option Expecting
  | .word value => some (.more value stack)
  | .text value => some (.more (.str value) stack)
  | .openArray => if stack.length < nestingLimit then some (.firstItem stack) else none
  | .openObject => if stack.length < nestingLimit then some (.firstKey stack) else none
  | _ => none

/-- Reads one token. -/
def next? : Expecting → Token → Option Expecting
  | .value stack, token => begin? stack token
  | .firstItem stack, .closeArray => some (.more (.arr []) stack)
  | .firstItem stack, token => begin? (.items [] :: stack) token
  | .firstKey stack, .closeObject => some (.more (.obj []) stack)
  | .firstKey stack, .text key => some (.colon [] key stack)
  | .firstKey _, _ => none
  | .key read stack, .text key => some (.colon read key stack)
  | .key _ _, _ => none
  | .colon read key stack, .colon => some (.value (.entries read key :: stack))
  | .colon _ _ _, _ => none
  | .more value (.items read :: stack), .comma => some (.value (.items (value :: read) :: stack))
  | .more value (.items read :: stack), .closeArray =>
    some (.more (.arr (value :: read).reverse) stack)
  | .more value (.entries read key :: stack), .comma =>
    some (.key (insertEntry key value read) stack)
  | .more value (.entries read key :: stack), .closeObject =>
    some (.more (.obj (insertEntry key value read)) stack)
  | .more _ _, _ => none

/-- Reads tokens to the end. -/
def run : Expecting → List Token → Option Json
  | .more value [], [] => some value
  | _, [] => none
  | state, token :: tokens => (next? state token).bind (run · tokens)

/-- Reads a JSON text; `none` if it is not one. -/
def parse? (text : String) : Option Json :=
  (Token.scan .between text.toList).bind (run (.value []))

end BehaviorTraits.Json
