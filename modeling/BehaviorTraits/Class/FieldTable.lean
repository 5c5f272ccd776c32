import BehaviorTraits.Class.Basic
import BehaviorTraits.Text.Identifier
import BehaviorTraits.Text.Line

/-!
# Fields made on demand

A tree refers to values that the engine does not know.  Each becomes a field of the Info class, made
when it is first mentioned.  Its name consists of the ASCII letters and digits of the text that
mentions it; a text without any gets a number instead.
-/

namespace BehaviorTraits.FieldDecl

/-- The field name for a text, when `count` fields are there already. -/
def nameFor (count : Nat) (raw : String) : String :=
  let letters := Text.alphanumerics raw
  if letters = "" then s!"Param{count}"
  else if Text.startsWithDigit letters then "Param" ++ letters
  else Text.capitalize letters

/-- Finds or makes the field for a text: its name, and the fields that there are then.  A field
that is there already stays as it is. -/
def ensure (fields : List FieldDecl) (raw type : String) (default? : Option String)
    (description : String) : String × List FieldDecl :=
  let name := nameFor fields.length raw
  if fields.any (·.name == name) then (name, fields)
  else (name, fields ++ [ofDocument name type default? (Text.singleLine description)])

end BehaviorTraits.FieldDecl
