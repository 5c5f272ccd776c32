import BehaviorTraits.Yaml.Node

/-!
# Values of YAML nodes

What a node says is settled by what is asked of it.  A text is any scalar as it is written.  A truth
value or a number must be plain: one in quotes is a text.  A node that is left out is a record
without fields or a list without items.  A name stands for the node that it names in the document.
-/

namespace BehaviorTraits.Yaml.Node

variable (document : Node)

/-- The text of any scalar. -/
def text? (node : Node) : Option String :=
  match content document node with
  | .scalar text _ _ => some text
  | _ => none

/-- The text of a scalar that is plain, or a literal block tagged as the kind asked for. -/
def bareText? (kind : String) (node : Node) : Option String :=
  match content document node with
  | .scalar text .plain _ => some text
  | .scalar text .literal tag =>
    if tag = some ("tag:yaml.org,2002:" ++ kind) then some text else none
  | _ => none

def bool? (node : Node) : Option Bool :=
  (bareText? document "bool" node).bind fun text =>
    if text = "true" ∨ text = "True" ∨ text = "TRUE" then some true
    else if text = "false" ∨ text = "False" ∨ text = "FALSE" then some false
    else none

/-- The number that digits of a base denote; there is at least one. -/
def digitsValue? (base : Nat) (cs : List Char) : Option Nat :=
  let value? := cs.foldlM (fun n c =>
    (hexValue? c).bind fun d => if d < base then some (n * base + d) else none) 0
  if cs = [] then none else value?

/-- A number without a fraction, behind a plus sign or not: hexadecimal, octal, binary or decimal.
A decimal one does not start with a needless zero. -/
def numberValue? (text : String) : Option Nat :=
  let cs := match text.toList with
    | '+' :: cs => cs
    | cs => cs
  match cs with
  | '0' :: 'x' :: digits => digitsValue? 16 digits
  | '0' :: 'o' :: digits => digitsValue? 8 digits
  | '0' :: 'b' :: digits => digitsValue? 2 digits
  | '0' :: _ :: _ => none
  | digits => digitsValue? 10 digits

/-- A number below two to the 32nd. -/
def word? (node : Node) : Option Nat :=
  ((bareText? document "int" node).bind numberValue?).filter (decide <| · < Nat.pow 2 32)

/-- Is the text a way to write that there is no value? -/
def isNullText (text : String) : Bool :=
  text == "null" || text == "Null" || text == "NULL" || text == "~"

/-- A value that may be absent: a plain scalar may say that it is. -/
def optional? {α : Type} (read : Node → Option α) (node : Node) : Option (Option α) :=
  match content document node with
  | .scalar text .plain none =>
    if text = "" || isNullText text then some none else (read node).map some
  | .scalar text .plain (some tag) =>
    if tag = "tag:yaml.org,2002:null" then if isNullText text then some none else none
    else (read node).map some
  | _ => (read node).map some

/-- The fields of a record; their names are scalars. -/
def fields? (node : Node) : Option (List (String × Node)) :=
  match content document node with
  | .mapping entries =>
    entries.mapM fun (key, value) => (text? document key).map fun name => (name, value)
  | .scalar "" .plain _ => some []
  | _ => none

/-- The items of a list. -/
def items? (node : Node) : Option (List Node) :=
  match content document node with
  | .sequence items => some items
  | .scalar "" .plain _ => some []
  | _ => none

/-- The value of a field, if it is there; it may be there once only. -/
def field? {α : Type} (fields : List (String × Node)) (name : String) (read : Node → Option α) :
    Option (Option α) :=
  match fields.filter (·.1 = name) with
  | [] => some none
  | [(_, value)] => (read value).map some
  | _ => none

/-- The value of a field, or `default` if it is not there. -/
def fieldOr {α : Type} (fields : List (String × Node)) (name : String) (read : Node → Option α)
    (default : α) : Option α :=
  (field? fields name read).map (·.getD default)

/-- The value of a field that must be there. -/
def required? {α : Type} (fields : List (String × Node)) (name : String)
    (read : Node → Option α) : Option α :=
  (field? fields name read).join

end BehaviorTraits.Yaml.Node
