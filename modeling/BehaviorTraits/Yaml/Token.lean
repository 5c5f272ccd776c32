import BehaviorTraits.Yaml.Scalar

/-!
# YAML tokens

The scanner cuts a text into tokens.  Indentation becomes tokens that open and close block
collections.  A mapping key has no mark of its own: only the colon behind it shows that it was one,
so the scanner remembers where a key may have started, and puts the tokens for it there when the
colon comes.  A key must end on the line where it starts, within 1024 bytes.
-/

namespace BehaviorTraits.Yaml

inductive Token where
  | versionDirective (major minor : Nat)
  | tagDirective (handle stem : String)
  | documentStart
  | documentEnd
  | blockSequenceStart
  | blockMappingStart
  | blockEnd
  | flowSequenceStart
  | flowSequenceEnd
  | flowMappingStart
  | flowMappingEnd
  | blockEntry
  | flowEntry
  | key
  | value
  | alias (name : String)
  | anchor (name : String)
  | tag (handle suffix : String)
  | scalar (text : String) (style : Style)
  deriving DecidableEq, Repr

/-- A place where a key may have started. -/
structure KeyPlace where
  /-- Must a key be there?  It must where a block mapping goes on. -/
  required : Bool
  /-- The number of tokens before it. -/
  number : Nat
  place : Place

structure Scanner where
  cursor : Cursor
  tokens : Array Token := #[]
  /-- The column of the innermost block collection, and those around it. -/
  indent : Int := -1
  outer : List Int := []
  keyAllowed : Bool := true
  /-- Possible keys: of the innermost flow collection, or of the block, and of those around it. -/
  key? : Option KeyPlace := none
  outerKeys : List (Option KeyPlace) := []

namespace Scanner

def inFlow (s : Scanner) : Bool := !s.outerKeys.isEmpty

def column (s : Scanner) : Int := s.cursor.column

def push (s : Scanner) (t : Token) : Scanner := { s with tokens := s.tokens.push t }

def insertAt (s : Scanner) (number : Nat) (t : Token) : Scanner :=
  { s with tokens := s.tokens.take number ++ #[t] ++ s.tokens.drop number }

/-- Skips blanks, comments and line breaks.  A line break allows keys in block context; a tab is
skipped where none can start.  A byte order mark may start a line, where it takes up a column. -/
def skipGap (keyAllowed inFlow comment : Bool) (p : Place) : List Char → Bool × Cursor
  | [] => (keyAllowed, ⟨[], p⟩)
  | c :: cs =>
    if isBreak c then skipGap (keyAllowed || !inFlow) inFlow false (p.after c) cs
    else if comment then skipGap keyAllowed inFlow true (p.after c) cs
    else if c == ' ' || (c == '\t' && (inFlow || !keyAllowed)) then
      skipGap keyAllowed inFlow false (p.after c) cs
    else if c == '\ufeff' && p.column == 0 then skipGap keyAllowed inFlow false (p.after c) cs
    else if c == '#' then skipGap keyAllowed inFlow true (p.after c) cs
    else (keyAllowed, ⟨c :: cs, p⟩)

def skipToToken (s : Scanner) : Scanner :=
  let (keyAllowed, cursor) := skipGap s.keyAllowed s.inFlow false s.cursor.place s.cursor.rest
  { s with keyAllowed, cursor }

/-- Is it too late for a key that started there? -/
def isStale (now : Place) (key : KeyPlace) : Bool :=
  decide (key.place.line < now.line) || decide (key.place.offset + 1024 < now.offset)

/-- Gives up the possible keys for which it is too late. -/
def dropStale (s : Scanner) : Option Scanner :=
  let stale := isStale s.cursor.place
  if (s.key? :: s.outerKeys).any fun k => (k.map fun key => stale key && key.required).getD false
  then none
  else some { s with
    key? := s.key?.filter (!stale ·), outerKeys := s.outerKeys.map (·.filter (!stale ·)) }

/-- Gives up the possible key. -/
def dropKey (s : Scanner) : Option Scanner :=
  if (s.key?.map KeyPlace.required).getD false then none else some { s with key? := none }

/-- A key may start here. -/
def saveKey (s : Scanner) : Option Scanner :=
  if s.keyAllowed then do
    let s ← s.dropKey
    let required := !s.inFlow && s.indent == s.column
    return { s with key? := some ⟨required, s.tokens.size, s.cursor.place⟩ }
  else some s

/-- Closes the block collections that are indented further than a column. -/
def unroll (column : Int) (s : Scanner) : Scanner :=
  if s.inFlow then s else close s.outer s.indent s
where
  close : List Int → Int → Scanner → Scanner
    | [], indent, s =>
      if column < indent then { s.push .blockEnd with indent := -1, outer := [] }
      else { s with indent, outer := [] }
    | next :: outer, indent, s =>
      if column < indent then close outer next (s.push .blockEnd)
      else { s with indent, outer := next :: outer }

/-- Opens a block collection at a column, if the current one is indented less. -/
def roll (column : Int) (number : Nat) (start : Token) (s : Scanner) : Scanner :=
  if !s.inFlow && decide (s.indent < column) then
    { s.insertAt number start with indent := column, outer := s.indent :: s.outer }
  else s

def skip (n : Nat) (s : Scanner) : Scanner := { s with cursor := s.cursor.skip n }

/-- A mark that ends what is before it at the left margin. -/
def documentMark (t : Token) (s : Scanner) : Option Scanner := do
  let s ← (s.unroll (-1)).dropKey
  return ({ s with keyAllowed := false }.skip 3).push t

def flowStart (t : Token) (s : Scanner) : Option Scanner := do
  let s ← s.saveKey
  let s := { s with outerKeys := s.key? :: s.outerKeys, key? := none, keyAllowed := true }
  return (s.skip 1).push t

def flowEnd (t : Token) (s : Scanner) : Option Scanner := do
  let s ← s.dropKey
  let s := match s.outerKeys with
    | key? :: outerKeys => { s with key?, outerKeys }
    | [] => s
  return ({ s with keyAllowed := false }.skip 1).push t

def flowEntry (s : Scanner) : Option Scanner := do
  let s ← s.dropKey
  return ({ s with keyAllowed := true }.skip 1).push .flowEntry

/-- A dash, a question mark or a lone colon, which open a block collection. -/
def blockMark (start t : Token) (keyAllowed : Bool) (s : Scanner) : Option Scanner :=
  if !s.inFlow && !s.keyAllowed then none
  else do
    let s ← (s.roll s.column s.tokens.size start).dropKey
    return ({ s with keyAllowed }.skip 1).push t

/-- A colon: behind a possible key it makes it one. -/
def valueMark (s : Scanner) : Option Scanner :=
  match s.key? with
  | some key =>
    let s := { s.insertAt key.number .key with key? := none, keyAllowed := false }
    some (((s.roll key.place.column key.number .blockMappingStart).skip 1).push .value)
  | none => s.blockMark .blockMappingStart .value (!s.inFlow)

/-- The name behind `*` or `&`. -/
def named (t : String → Token) (s : Scanner) : Option Scanner := do
  let s ← s.saveKey
  let (name, cursor) := (s.cursor.skip 1).takeWhile isWordChar
  let follows := startsBlank cursor.rest || (cursor.rest.head?.map fun c =>
    c == '?' || c == ':' || c == ',' || c == ']' || c == '\x7d' || c == '%' || c == '@' ||
      c == '\x60').getD false
  if name = [] || !follows then none
  else some ({ s with cursor, keyAllowed := false }.push (t (String.ofList name)))

/-- A character of a tag; a comma or bracket only where `wide`. -/
def isTagChar (wide : Bool) (c : Char) : Bool :=
  isWordChar c || ";/?:@&=+$.!~*'()".toList.contains c ||
    (wide && (c == ',' || c == '[' || c == ']'))

/-- The value of the two digits behind a percent sign. -/
def percentOctet? : List Char → Option Nat
  | '%' :: a :: b :: _ => do
    let high ← hexValue? a
    let low ← hexValue? b
    return high * 16 + low
  | _ => none

/-- How many octets are still due behind one, if `due` were due before it: the first octet of a
character in UTF-8 tells how many follow, and those that follow have a form of their own. -/
def octetsDue? (due octet : Nat) : Option Nat :=
  if due ≠ 0 then if octet / 64 = 2 then some (due - 1) else none
  else if octet < 0x80 then some 0
  else if octet / 32 = 6 then some 1
  else if octet / 16 = 14 then some 2
  else if octet / 8 = 30 then some 3
  else none

/-- Reads the characters of a tag, last one first.  A percent sign and two digits are an octet, which
is kept as one character.  At most `fuel` characters are read; `due` octets must come next. -/
def tagText (wide : Bool) : Nat → Nat → List Char → Cursor → Option (List Char × Cursor)
  | 0, due, read, cursor => if due = 0 then some (read, cursor) else none
  | fuel + 1, due, read, cursor =>
    match cursor.rest with
    | '%' :: _ => do
      let octet ← percentOctet? cursor.rest
      tagText wide fuel (← octetsDue? due octet) (Char.ofNat octet :: read) (cursor.skip 3)
    | rest =>
      if due ≠ 0 then none
      else
        match rest with
        | c :: _ =>
          if isTagChar wide c then tagText wide fuel 0 (c :: read) (cursor.skip 1)
          else some (read, cursor)
        | [] => some (read, cursor)

/-- The text of a tag behind what of it is read already. -/
def tagSuffix (wide : Bool) (read : List Char) (cursor : Cursor) : Option (List Char × Cursor) :=
  (tagText wide cursor.rest.length 0 read.reverse cursor).map fun (text, cursor) =>
    (text.reverse, cursor)

/-- What a tag is known by: it ends at an octet of zero. -/
def tagName (text : List Char) : String := String.ofList (text.takeWhile (· != '\x00'))

/-- A tag: `!<text>`, or a handle between exclamation marks and a suffix. -/
def tagToken (s : Scanner) : Option Scanner := do
  let s ← s.saveKey
  let start := s.cursor
  let (handle, suffix, cursor) ←
    if (start.rest.drop 1).head? = some '<' then do
      let (text, cursor) ← tagSuffix true [] (start.skip 2)
      if text ≠ [] ∧ cursor.rest.head? = some '>' then pure ("", tagName text, cursor.skip 1)
      else none
    else do
      let (word, behind) := (start.skip 1).takeWhile isWordChar
      if behind.rest.head? = some '!' then do
        let (suffix, cursor) ← tagSuffix false [] (behind.skip 1)
        if suffix = [] then none
        else pure ("!" ++ String.ofList word ++ "!", tagName suffix, cursor)
      else do
        let (suffix, cursor) ← tagSuffix false word behind
        let suffix := tagName suffix
        pure (if suffix = "" then ("", "!", cursor) else ("!", suffix, cursor))
  let ends := startsBlank cursor.rest || (s.inFlow && cursor.rest.head? == some ',')
  if ends then some ({ s with cursor, keyAllowed := false }.push (.tag handle suffix)) else none

/-- The end of a directive or a block header: blanks, a comment, a line break. -/
def restOfLine (cursor : Cursor) : Option Cursor :=
  let cursor := (cursor.takeWhile isBlank).2
  let cursor :=
    if cursor.rest.head? = some '#' then (cursor.takeWhile (!isBreak ·)).2 else cursor
  match cursor.rest with
  | [] => some cursor
  | c :: _ => if isBreak c then some (cursor.skip 1) else none

/-- A number of at most nine digits. -/
def number? (cs : List Char) : Option Nat :=
  if cs = [] ∨ 9 < cs.length then none
  else some (cs.foldl (fun n c => n * 10 + (c.toNat - '0'.toNat)) 0)

/-- What follows `%YAML`: two numbers with a point between them. -/
def versionDirective (cursor : Cursor) : Option (Token × Cursor) := do
  let (major, cursor) := (cursor.takeWhile isBlank).2.takeWhile Char.isDigit
  let major ← number? major
  if cursor.rest.head? ≠ some '.' then none
  else
    let (minor, cursor) := (cursor.skip 1).takeWhile Char.isDigit
    return (.versionDirective major (← number? minor), cursor)

/-- What follows `%TAG`: a handle and what it stands for. -/
def tagDirective (cursor : Cursor) : Option (Token × Cursor) := do
  let cursor := (cursor.takeWhile isBlank).2
  if cursor.rest.head? ≠ some '!' then none
  else
    let (word, behind) := (cursor.skip 1).takeWhile isWordChar
    let closed := behind.rest.head? == some '!'
    let behind := if closed then behind.skip 1 else behind
    let handle := "!" ++ String.ofList word ++ (if closed then "!" else "")
    let (gap, cursor) := behind.takeWhile isBlank
    if (!closed && word ≠ []) || gap = [] then none
    else
      let (stem, cursor) ← tagSuffix true [] cursor
      if stem = [] || !startsBlank cursor.rest then none
      else return (.tagDirective handle (tagName stem), cursor)

def directive (s : Scanner) : Option Scanner := do
  let s ← (s.unroll (-1)).dropKey
  let (name, cursor) := (s.cursor.skip 1).takeWhile isWordChar
  if !startsBlank cursor.rest then none
  else
    let (token, cursor) ←
      if name = "YAML".toList then versionDirective cursor
      else if name = "TAG".toList then tagDirective cursor
      else none
    let cursor ← restOfLine cursor
    return { s with cursor, keyAllowed := false }.push token

/-- The marks behind `|` or `>`: how to chomp, and an indentation from one to nine. -/
def blockHeader (cs : List Char) : Option (Chomping × Nat × Nat) :=
  let chomping? (c : Char) : Option Chomping :=
    if c = '+' then some .keep else if c = '-' then some .strip else none
  let indent? (c : Char) : Option Nat :=
    if c.isDigit then some (c.toNat - '0'.toNat) else none
  let first := cs.head?
  let second := (cs.drop 1).head?
  let (chomping, indent, length) :=
    match first.bind chomping?, first.bind indent? with
    | some chomping, _ =>
      match second.bind indent? with
      | some indent => (chomping, some indent, 2)
      | none => (chomping, none, 1)
    | none, some indent =>
      match second.bind chomping? with
      | some chomping => (chomping, some indent, 2)
      | none => (.clip, some indent, 1)
    | none, none => (.clip, none, 0)
  if indent = some 0 then none else some (chomping, indent.getD 0, length)

def blockToken (style : Style) (s : Scanner) : Option Scanner := do
  let s ← s.dropKey
  let cursor := s.cursor.skip 1
  let (chomping, increment, length) ← blockHeader cursor.rest
  let cursor ← restOfLine (cursor.skip length)
  let indent := if increment = 0 then 0 else (max s.indent 0).toNat + increment
  let least := max 1 (s.indent + 1).toNat
  let (text, cursor) ← blockScalar (style == .folded) chomping least indent (.margin 0) {}
    cursor.place cursor.rest
  return { s with cursor, keyAllowed := true }.push (.scalar (String.ofList text) style)

def quotedToken (style : Style) (s : Scanner) : Option Scanner := do
  let s ← s.saveKey
  let cursor := s.cursor.skip 1
  let (text, cursor) ←
    quotedScalar (style == .singleQuoted) none {} cursor.place cursor.rest
  return { s with cursor, keyAllowed := false }.push (.scalar (String.ofList text) style)

def plainToken (s : Scanner) : Option Scanner := do
  let s ← s.saveKey
  let (text, broken, cursor) ←
    plainScalar s.inFlow (s.indent + 1) true {} s.cursor.place s.cursor.rest
  return { s with cursor, keyAllowed := broken }.push (.scalar (String.ofList text) .plain)

/-- Characters that cannot start a plain scalar. -/
def isIndicator (c : Char) : Bool := "-?:,[]\x7b\x7d#&*!|>'\"%@\x60".toList.contains c

/-- May a plain scalar start here?  A dash may start one before anything but a blank; a question
mark or a colon may outside flow collections. -/
def startsPlain (inFlow : Bool) (c : Char) (cs : List Char) : Bool :=
  !(isIndicator c || isBlank c) || (c == '-' && !(cs.head?.map isBlank).getD false) ||
    (!inFlow && (c == '?' || c == ':') && !startsBlank cs)

/-- Reads the token at the cursor. -/
def token (s : Scanner) (c : Char) (cs : List Char) : Option Scanner :=
  let atMargin := s.column == 0
  let blankNext := startsBlank cs
  if atMargin && c == '%' then s.directive
  else if atMargin && startsDocumentMark (c :: cs) then
    s.documentMark (if c == '-' then .documentStart else .documentEnd)
  else if c == '[' then s.flowStart .flowSequenceStart
  else if c == '\x7b' then s.flowStart .flowMappingStart
  else if c == ']' then s.flowEnd .flowSequenceEnd
  else if c == '\x7d' then s.flowEnd .flowMappingEnd
  else if c == ',' then s.flowEntry
  else if c == '-' && blankNext then s.blockMark .blockSequenceStart .blockEntry true
  else if c == '?' && (s.inFlow || blankNext) then
    s.blockMark .blockMappingStart .key (!s.inFlow)
  else if c == ':' && (s.inFlow || blankNext) then s.valueMark
  else if c == '*' then s.named .alias
  else if c == '&' then s.named .anchor
  else if c == '!' then s.tagToken
  else if c == '|' && !s.inFlow then s.blockToken .literal
  else if c == '>' && !s.inFlow then s.blockToken .folded
  else if c == '\'' then s.quotedToken .singleQuoted
  else if c == '"' then s.quotedToken .doubleQuoted
  else if startsPlain s.inFlow c cs then s.plainToken
  else none

/-- Closes what is open at the end of the text. -/
def finish (s : Scanner) : Option (List Token) := do
  let s ← (s.unroll (-1)).dropKey
  return s.tokens.toList

/-- Reads tokens to the end; each takes at least one character, so `fuel` characters are enough. -/
def run : Nat → Scanner → Option (List Token)
  | 0, _ => none
  | fuel + 1, s => do
    let s ← s.skipToToken.dropStale
    let s := s.unroll s.column
    match s.cursor.rest with
    | [] => s.finish
    | c :: cs => run fuel (← s.token c cs)

end Scanner

/-- Cuts a text into tokens; `none` if it has an error. -/
def tokens? (text : String) : Option (List Token) :=
  if text.toList.all isAllowed then
    let cs := unifyBreaks text.toList
    Scanner.run (cs.length + 1) { cursor := ⟨cs, {}⟩ }
  else none

end BehaviorTraits.Yaml
