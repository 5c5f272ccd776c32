import BehaviorTraits.Text.Line

/-!
# MiniYaml documents

MiniYaml is the engine's format for actor definitions: one entry a line, a tab for each level, then
`key: value # comment`.  Value and comment are left out when empty.
-/

namespace BehaviorTraits

open Text

structure MiniYaml where
  key : String
  value : Option String := none
  children : List MiniYaml := []
  comment : Option String := none

namespace MiniYaml

/-- A heading for other entries. -/
def block (key : String) : MiniYaml := { key }

def entry (key value : String) : MiniYaml := { key, value := some value }

/-- The document with one more child behind the others. -/
def withChild (d child : MiniYaml) : MiniYaml := { d with children := d.children ++ [child] }

def withComment (d : MiniYaml) (comment : String) : MiniYaml := { d with comment := some comment }

/-- The first child with a key. -/
def child? (d : MiniYaml) (key : String) : Option MiniYaml := d.children.find? (·.key == key)

/-- A part of a line, with what stands before it; nothing if the part is absent or empty. -/
def partChars (before : List Char) (part : Option String) : List Char :=
  match part with
  | some s => if s = "" then [] else before ++ singleLineChars s.toList
  | none => []

/-- The line of one entry. -/
def lineChars (depth : Nat) (key : String) (value comment : Option String) : List Char :=
  List.replicate depth '\t' ++ singleLineChars key.toList ++ ':' :: partChars [' '] value ++
    partChars [' ', '#', ' '] comment ++ ['\n']

mutual

/-- The lines of an entry and of all below it. -/
def renderChars (depth : Nat) : MiniYaml → List Char
  | ⟨key, value, children, comment⟩ =>
    lineChars depth key value comment ++ renderAllChars (depth + 1) children

def renderAllChars (depth : Nat) : List MiniYaml → List Char
  | [] => []
  | d :: ds => renderChars depth d ++ renderAllChars depth ds

end

/-- The text of a document. -/
def render (d : MiniYaml) : String := String.ofList (renderChars 0 d)

end MiniYaml

end BehaviorTraits
