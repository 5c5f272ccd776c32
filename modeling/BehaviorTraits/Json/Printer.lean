import BehaviorTraits.Json.Basic

/-!
# Printing JSON

A value is printed on one line without blanks, or over several lines with two blanks for each
level.  In a text only the quote, the backslash and the control characters are escaped.
-/

namespace BehaviorTraits.Json

/-- How a character is written inside a text. -/
def escapedChar (c : Char) : List Char :=
  if c = '"' ∨ c = '\\' then ['\\', c]
  else if c = '\n' then ['\\', 'n']
  else if c = '\r' then ['\\', 'r']
  else if c = '\t' then ['\\', 't']
  else if c = '\x08' then ['\\', 'b']
  else if c = '\x0c' then ['\\', 'f']
  else if c.toNat < 0x20 then
    ['\\', 'u', '0', '0', Nat.digitChar (c.toNat / 16), Nat.digitChar (c.toNat % 16)]
  else [c]

def quotedChars (s : String) : List Char := '"' :: s.toList.flatMap escapedChar ++ ['"']

/-- A value that holds no others; for the rest the brackets of an empty one. -/
def scalarChars : Json → List Char
  | null => "null".toList
  | bool b => (toString b).toList
  | num n => n.text.toList
  | str s => quotedChars s
  | arr _ => ['[', ']']
  | obj _ => ['\x7b', '\x7d']

mutual

/-- The value on one line. -/
def compactChars : Json → List Char
  | arr items => '[' :: compactItems items ++ [']']
  | obj entries => '\x7b' :: compactEntries entries ++ ['\x7d']
  | value => scalarChars value

def compactItems : List Json → List Char
  | [] => []
  | [item] => compactChars item
  | item :: items => compactChars item ++ ',' :: compactItems items

def compactEntries : List (String × Json) → List Char
  | [] => []
  | [(key, value)] => quotedChars key ++ ':' :: compactChars value
  | (key, value) :: entries =>
    quotedChars key ++ ':' :: compactChars value ++ ',' :: compactEntries entries

end

/-- The start of a line at a level. -/
def newLine (level : Nat) : List Char := '\n' :: List.replicate (2 * level) ' '

mutual

/-- The value over several lines; `level` is that of the line it starts on. -/
def prettyChars (level : Nat) : Json → List Char
  | arr (item :: items) =>
    '[' :: newLine (level + 1) ++ prettyItems (level + 1) (item :: items) ++ newLine level ++ [']']
  | obj (entry :: entries) =>
    '\x7b' :: newLine (level + 1) ++ prettyEntries (level + 1) (entry :: entries) ++ newLine level
      ++ ['\x7d']
  | value => scalarChars value

def prettyItems (level : Nat) : List Json → List Char
  | [] => []
  | [item] => prettyChars level item
  | item :: items => prettyChars level item ++ ',' :: newLine level ++ prettyItems level items

def prettyEntries (level : Nat) : List (String × Json) → List Char
  | [] => []
  | [(key, value)] => quotedChars key ++ ':' :: ' ' :: prettyChars level value
  | (key, value) :: entries =>
    quotedChars key ++ ':' :: ' ' :: prettyChars level value ++ ',' :: newLine level
      ++ prettyEntries level entries

end

def compact (value : Json) : String := String.ofList (compactChars value)

def pretty (value : Json) : String := String.ofList (prettyChars 0 value)

end BehaviorTraits.Json
