import BehaviorTraits.Yaml.Basic

/-!
# Scalars

A scalar is written plain, in single or double quotes, or as a block of lines.  Plain and quoted
scalars fold line breaks: a single one becomes a blank, and of several the first is dropped.  A
block keeps its lines (`|`) or folds those that are not indented further (`>`).
-/

namespace BehaviorTraits.Yaml

inductive Style where
  | plain
  | singleQuoted
  | doubleQuoted
  | literal
  | folded
  deriving DecidableEq, Repr

/-- A scalar being read, characters last one first: the text, and the white space that follows it so
far. -/
structure Folding where
  text : List Char := []
  spaces : List Char := []
  /-- Has a line been broken? -/
  broken : Bool := false
  /-- The first line break. -/
  first : Option Char := none
  /-- The line breaks behind the first one. -/
  more : List Char := []

namespace Folding

/-- Adds a blank; at the start of a line it is dropped. -/
def blank (f : Folding) (c : Char) : Folding :=
  if f.broken then f else { f with spaces := c :: f.spaces }

def lineBreak (f : Folding) (c : Char) : Folding :=
  if f.broken then { f with more := c :: f.more }
  else { f with spaces := [], broken := true, first := some c }

/-- The text with the white space behind it folded in. -/
def settled (f : Folding) : List Char :=
  if f.broken then
    if f.first = some '\n' then
      if f.more = [] then ' ' :: f.text else f.more ++ f.text
    else f.more ++ f.first.toList ++ f.text
  else f.spaces ++ f.text

/-- Adds a character that is no white space. -/
def push (f : Folding) (c : Char) : Folding := { text := c :: f.settled }

/-- A line break that joins the lines without a blank. -/
def joinLines (f : Folding) : Folding := { text := f.settled, broken := true }

end Folding

/-- Brackets and commas end a plain scalar inside a flow collection. -/
def isFlowMark (c : Char) : Bool :=
  c == ',' || c == '[' || c == ']' || c == '\x7b' || c == '\x7d'

/-- Reads a plain scalar.  `inWord` says that the last character was part of it and no white space;
`indent` is the least column of its further lines outside flow collections.  The result also says
whether the white space behind the scalar breaks the line. -/
def plainScalar (flow : Bool) (indent : Int) (inWord : Bool) (f : Folding) (p : Place) :
    List Char → Option (List Char × Bool × Cursor)
  | [] => some (f.text.reverse, f.broken, ⟨[], p⟩)
  | c :: cs =>
    let behind := p.after c
    if isBlank c then
      if f.broken && decide ((p.column : Int) < indent) && c == '\t' then none
      else plainScalar flow indent false (f.blank c) behind cs
    else if isBreak c then plainScalar flow indent false (f.lineBreak c) behind cs
    else
      let outdented := !flow && decide ((p.column : Int) < indent)
      let marked := p.column == 0 && startsDocumentMark (c :: cs)
      let next := cs.head?
      if !inWord && (outdented || marked || c == '#') then
        some (f.text.reverse, f.broken, ⟨c :: cs, p⟩)
      else if flow && c == ':' && (next.map fun d => isFlowMark d || d == '?').getD false then none
      else if (c == ':' && startsBlank cs) || (flow && isFlowMark c) then
        some (f.text.reverse, f.broken, ⟨c :: cs, p⟩)
      else plainScalar flow indent true (f.push c) behind cs

/-- The character of a one-letter escape in double quotes. -/
def escapeChar? : Char → Option Char
  | '0' => some '\x00'
  | 'a' => some '\x07'
  | 'b' => some '\x08'
  | 't' | '\t' => some '\t'
  | 'n' => some '\n'
  | 'v' => some '\x0b'
  | 'f' => some '\x0c'
  | 'r' => some '\r'
  | 'e' => some '\x1b'
  | ' ' => some ' '
  | '"' => some '"'
  | '/' => some '/'
  | '\\' => some '\\'
  | 'N' => some '\u0085'
  | '_' => some '\u00a0'
  | 'L' => some '\u2028'
  | 'P' => some '\u2029'
  | _ => none

/-- The number of hexadecimal digits of an escape by code point. -/
def escapeDigits? : Char → Option Nat
  | 'x' => some 2
  | 'u' => some 4
  | 'U' => some 8
  | _ => none

def hexValue? (c : Char) : Option Nat :=
  if c.isDigit then some (c.toNat - '0'.toNat)
  else if 'a' ≤ c ∧ c ≤ 'f' then some (c.toNat - 'a'.toNat + 10)
  else if 'A' ≤ c ∧ c ≤ 'F' then some (c.toNat - 'A'.toNat + 10)
  else none

/-- The character of a code point; surrogates and numbers beyond the last code point have none. -/
def codePoint? (n : Nat) : Option Char :=
  if (0xD800 ≤ n ∧ n ≤ 0xDFFF) ∨ 0x10FFFF < n then none else some (Char.ofNat n)

/-- Reads a quoted scalar behind its opening quote.  `escape` is an escape by code point under way:
the digits still to come and the number so far. -/
def quotedScalar (single : Bool) (escape : Option (Nat × Nat)) (f : Folding) (p : Place) :
    List Char → Option (List Char × Cursor)
  | [] => none
  | c :: cs =>
    let behind := p.after c
    match escape with
    | some (left, code) =>
      (hexValue? c).bind fun d =>
        let code := code * 16 + d
        if left ≤ 1 then
          (codePoint? code).bind fun e => quotedScalar single none (f.push e) behind cs
        else quotedScalar single (some (left - 1, code)) f behind cs
    | none =>
      if p.column == 0 && startsDocumentMark (c :: cs) then none
      else if isBlank c then quotedScalar single none (f.blank c) behind cs
      else if isBreak c then quotedScalar single none (f.lineBreak c) behind cs
      else if single then
        match c, cs with
        | '\'', '\'' :: rest => quotedScalar single none (f.push '\'') (behind.after c) rest
        | '\'', rest => some (f.settled.reverse, ⟨rest, behind⟩)
        | c, rest => quotedScalar single none (f.push c) behind rest
      else
        match c, cs with
        | '"', rest => some (f.settled.reverse, ⟨rest, behind⟩)
        | '\\', [] => none
        | '\\', e :: rest =>
          if isBreak e then quotedScalar single none f.joinLines (behind.after e) rest
          else
            match escapeDigits? e with
            | some digits =>
              quotedScalar single (some (digits, 0)) { text := f.settled } (behind.after e) rest
            | none =>
              (escapeChar? e).bind fun d =>
                quotedScalar single none (f.push d) (behind.after e) rest
        | c, rest => quotedScalar single none (f.push c) behind rest

/-- What becomes of the line breaks at the end of a block. -/
inductive Chomping where
  | strip
  | clip
  | keep
  deriving DecidableEq, Repr

/-- A block being read, characters last one first. -/
structure Block where
  text : List Char := []
  /-- The line break behind the last line. -/
  lineEnd : List Char := []
  /-- The line breaks of the empty lines after it. -/
  empties : List Char := []
  /-- Did the last line start with a blank? -/
  startedBlank : Bool := false

namespace Block

/-- Begins a line that starts with `c`.  In a folded block the break before it becomes a blank,
unless one of the two lines starts with a blank or empty lines stand between them. -/
def beginLine (folded : Bool) (b : Block) (c : Char) : Block :=
  let folds := folded && b.lineEnd == ['\n'] && !b.startedBlank && !isBlank c
  let text :=
    if folds then (if b.empties = [] then ' ' :: b.text else b.text) else b.lineEnd ++ b.text
  { text := b.empties ++ text, startedBlank := isBlank c }

def finish (chomping : Chomping) (b : Block) : List Char :=
  match chomping with
  | .strip => b.text.reverse
  | .clip => (b.lineEnd ++ b.text).reverse
  | .keep => (b.empties ++ (b.lineEnd ++ b.text)).reverse

end Block

/-- Where the reader of a block is: inside a line, or in the margin of one, where `widest` is the
greatest indentation of the lines of blanks so far. -/
inductive BlockMode where
  | inLine
  | margin (widest : Nat)

/-- Reads the lines of a block.  An `indent` of zero is found from the first line that is not
empty; it is at least `least`. -/
def blockScalar (folded : Bool) (chomping : Chomping) (least : Nat) (indent : Nat)
    (mode : BlockMode) (b : Block) (p : Place) : List Char → Option (List Char × Cursor)
  | [] => some (b.finish chomping, ⟨[], p⟩)
  | c :: cs =>
    let behind := p.after c
    match mode with
    | .inLine =>
      if isBreak c then
        blockScalar folded chomping least indent (.margin 0) { b with lineEnd := [c] } behind cs
      else
        blockScalar folded chomping least indent .inLine { b with text := c :: b.text } behind cs
    | .margin widest =>
      let inMargin := indent == 0 || decide (p.column < indent)
      let widest := max widest p.column
      if c == ' ' && inMargin then
        blockScalar folded chomping least indent (.margin widest) b behind cs
      else if c == '\t' && inMargin then none
      else if isBreak c then
        blockScalar folded chomping least indent (.margin widest)
          { b with empties := c :: b.empties } behind cs
      else
        let indent := if indent = 0 then max widest least else indent
        if p.column = indent then
          let b := b.beginLine folded c
          blockScalar folded chomping least indent .inLine { b with text := c :: b.text } behind cs
        else some (b.finish chomping, ⟨c :: cs, p⟩)

end BehaviorTraits.Yaml
