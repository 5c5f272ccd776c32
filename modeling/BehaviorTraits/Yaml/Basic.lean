/-!
# Characters and places of a YAML text

Line breaks are brought to one form before anything else: a carriage return, alone or before a line
feed, and a next-line character become a line feed.  The line and paragraph separators stay as they
are and break lines too.
-/

namespace BehaviorTraits.Yaml

/-- Brings line breaks to one form. -/
def unifyBreaks : List Char → List Char
  | [] => []
  | '\r' :: '\n' :: cs => '\n' :: unifyBreaks cs
  | c :: cs => (if c = '\r' ∨ c = '\u0085' then '\n' else c) :: unifyBreaks cs

/-- May the character stand in a text at all?  Most control characters may not. -/
def isAllowed (c : Char) : Bool :=
  let n := c.toNat
  n == 0x09 || n == 0x0A || n == 0x0D || (decide (0x20 ≤ n) && decide (n ≤ 0x7E)) || n == 0x85 ||
    (decide (0xA0 ≤ n) && decide (n ≤ 0xFFFD)) || decide (0x10000 ≤ n)

def isBreak (c : Char) : Bool := c == '\n' || c == '\u2028' || c == '\u2029'

def isBlank (c : Char) : Bool := c == ' ' || c == '\t'

/-- Does the text start with a blank or a line break, or is it at its end? -/
def startsBlank (cs : List Char) : Bool := (cs.head?.map fun c => isBlank c || isBreak c).getD true

/-- Does the text start with `---` or `...` and a blank, a line break or its end? -/
def startsDocumentMark (cs : List Char) : Bool :=
  (cs.take 3 == ['-', '-', '-'] || cs.take 3 == ['.', '.', '.']) && startsBlank (cs.drop 3)

/-- A character of an anchor or a tag handle. -/
def isWordChar (c : Char) : Bool := c.isAlphanum || c == '_' || c == '-'

/-- A place in a text.  A column is one character wide. -/
structure Place where
  line : Nat := 0
  column : Nat := 0
  /-- The number of bytes before it. -/
  offset : Nat := 0
  deriving DecidableEq, Repr

namespace Place

/-- The place behind a character. -/
def after (p : Place) (c : Char) : Place :=
  let offset := p.offset + c.utf8Size
  if isBreak c then ⟨p.line + 1, 0, offset⟩ else ⟨p.line, p.column + 1, offset⟩

end Place

/-- The text from a place on. -/
structure Cursor where
  rest : List Char
  place : Place := {}

namespace Cursor

/-- Skips the characters of a class. -/
def skipWhile (p : Char → Bool) (place : Place) : List Char → Cursor
  | [] => ⟨[], place⟩
  | c :: cs => if p c then skipWhile p (place.after c) cs else ⟨c :: cs, place⟩

/-- Skips a number of characters. -/
def skip : Nat → Cursor → Cursor
  | 0, cursor => cursor
  | n + 1, ⟨c :: cs, place⟩ => skip n ⟨cs, place.after c⟩
  | _ + 1, ⟨[], place⟩ => ⟨[], place⟩

/-- The characters of a class at the cursor, and what is behind them. -/
def takeWhile (p : Char → Bool) (cursor : Cursor) : List Char × Cursor :=
  (cursor.rest.takeWhile p, skipWhile p cursor.place cursor.rest)

def column (cursor : Cursor) : Nat := cursor.place.column

end Cursor

end BehaviorTraits.Yaml
