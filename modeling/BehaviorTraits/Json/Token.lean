import BehaviorTraits.Json.Basic

/-!
# JSON tokens

A JSON text is cut into marks, texts and words.  A word is a longest run of characters that numbers
and the three names are made of, so two words never touch.  The scanner reads one character at a
time and remembers only what it is in the middle of.
-/

namespace BehaviorTraits.Json

inductive Token where
  | openArray
  | closeArray
  | openObject
  | closeObject
  | comma
  | colon
  | text (value : String)
  /-- A number, a truth value or `null`. -/
  | word (value : Json)

namespace Token

/-- What the scanner is in the middle of; characters read so far stand last one first. -/
inductive Mode where
  | between
  | inWord (read : List Char)
  | inText (read : List Char)
  /-- Behind a backslash. -/
  | escape (read : List Char)
  /-- Among the four digits of an escape: `left` are still to come, `high` is the first half of a
  surrogate pair. -/
  | digits (read : List Char) (high : Option Nat) (left code : Nat)
  /-- Behind the first half of a surrogate pair, or behind the backslash that follows it. -/
  | pairBackslash (read : List Char) (high : Nat)
  | pairLetter (read : List Char) (high : Nat)

def isBlank (c : Char) : Bool := c == ' ' || c == '\t' || c == '\n' || c == '\r'

def isWordChar (c : Char) : Bool := c.isAlphanum || c == '-' || c == '+' || c == '.'

/-- The value that a word stands for. -/
def ofWord? (cs : List Char) : Option Json :=
  if cs = "null".toList then some .null
  else if cs = "true".toList then some (.bool true)
  else if cs = "false".toList then some (.bool false)
  else (Number.ofChars? cs).map .num

/-- The mark that a character is, or the mode it opens. -/
def start? (c : Char) : Option (List Token × Mode) :=
  if isBlank c then some ([], .between)
  else if isWordChar c then some ([], .inWord [c])
  else
    match c with
    | '[' => some ([openArray], .between)
    | ']' => some ([closeArray], .between)
    | '\x7b' => some ([openObject], .between)
    | '\x7d' => some ([closeObject], .between)
    | ',' => some ([comma], .between)
    | ':' => some ([colon], .between)
    | '"' => some ([], .inText [])
    | _ => none

/-- The character that a one-letter escape stands for. -/
def escape? : Char → Option Char
  | '"' => some '"'
  | '\\' => some '\\'
  | '/' => some '/'
  | 'b' => some '\x08'
  | 'f' => some '\x0c'
  | 'n' => some '\n'
  | 'r' => some '\r'
  | 't' => some '\t'
  | _ => none

def hexDigit? (c : Char) : Option Nat :=
  if c.isDigit then some (c.toNat - '0'.toNat)
  else if 'a' ≤ c ∧ c ≤ 'f' then some (c.toNat - 'a'.toNat + 10)
  else if 'A' ≤ c ∧ c ≤ 'F' then some (c.toNat - 'A'.toNat + 10)
  else none

/-- What follows the four digits of an escape: a character, or the second half of a pair. -/
def afterDigits? (read : List Char) (high : Option Nat) (code : Nat) : Option Mode :=
  let leads := decide (0xD800 ≤ code) && decide (code < 0xDC00)
  let trails := decide (0xDC00 ≤ code) && decide (code < 0xE000)
  match high with
  | some high =>
    if trails then
      some (.inText (Char.ofNat (0x10000 + (high - 0xD800) * 0x400 + (code - 0xDC00)) :: read))
    else none
  | none =>
    if leads then some (.pairBackslash read code)
    else if trails then none
    else some (.inText (Char.ofNat code :: read))

/-- Reads one character: the tokens it completes and the mode behind it. -/
def step? (mode : Mode) (c : Char) : Option (List Token × Mode) :=
  match mode with
  | .between => start? c
  | .inWord read =>
    if isWordChar c then some ([], .inWord (c :: read))
    else
      match ofWord? read.reverse, start? c with
      | some value, some (tokens, next) => some (word value :: tokens, next)
      | _, _ => none
  | .inText read =>
    if c = '"' then some ([text (String.ofList read.reverse)], .between)
    else if c = '\\' then some ([], .escape read)
    else if c.toNat < 0x20 then none
    else some ([], .inText (c :: read))
  | .escape read =>
    if c = 'u' then some ([], .digits read none 4 0)
    else (escape? c).map fun e => ([], .inText (e :: read))
  | .digits read high left code =>
    (hexDigit? c).bind fun d =>
      let code := code * 16 + d
      if left ≤ 1 then (afterDigits? read high code).map (([], ·))
      else some ([], .digits read high (left - 1) code)
  | .pairBackslash read high => if c = '\\' then some ([], .pairLetter read high) else none
  | .pairLetter read high => if c = 'u' then some ([], .digits read (some high) 4 0) else none

/-- Cuts a text into tokens, starting in the given mode. -/
def scan (mode : Mode) : List Char → Option (List Token)
  | [] =>
    match mode with
    | .between => some []
    | .inWord read => (ofWord? read.reverse).map fun value => [word value]
    | _ => none
  | c :: cs => do
    let (tokens, next) ← step? mode c
    let rest ← scan next cs
    return tokens ++ rest

end Token

end BehaviorTraits.Json
