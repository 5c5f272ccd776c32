/-!
# Layout of generated code

Code is laid out as a stream of tokens: literal text, a blank, a new line, an empty line, a change
of the indentation.  White space collapses as a token is added behind others, so that the parts of a
file can each ask for the room they want around them.  An empty literal prints nothing but keeps
what stands before it from collapsing.
-/

namespace BehaviorTraits.Layout

inductive Token where
  | literal (text : String)
  | space
  /-- Go on in a new line. -/
  | newLine
  /-- Go on in a new line, with an empty one before it. -/
  | emptyLine
  /-- Go on in a new line, this many levels further in. -/
  | indent (levels : Int)
  deriving DecidableEq, Repr

/-- A stream of tokens, last one first. -/
abbrev Stream := List Token

namespace Stream

def addNewLine : Stream → Stream
  | .emptyLine :: rest => .emptyLine :: rest
  | .space :: rest => addNewLine rest
  | .newLine :: rest => addNewLine rest
  | stream => .newLine :: stream

def addEmptyLine : Stream → Stream
  | .emptyLine :: rest => addEmptyLine rest
  | .newLine :: rest => addEmptyLine rest
  | stream => .emptyLine :: stream

/-- Changes of the indentation add up across white space; a sum of zero leaves nothing behind. -/
def addIndent (levels : Int) : Stream → Stream
  | .newLine :: rest => addIndent levels rest
  | .space :: rest => addIndent levels rest
  | .emptyLine :: rest => addIndent levels rest
  | .indent n :: rest => addIndent (levels + n) rest
  | stream => if levels = 0 then stream else .indent levels :: stream

def addSpace : Stream → Stream
  | .space :: rest => .space :: rest
  | stream => .space :: stream

/-- Adds a token behind the others. -/
def add (stream : Stream) : Token → Stream
  | .literal text => .literal text :: stream
  | .space => stream.addSpace
  | .newLine => stream.addNewLine
  | .emptyLine => stream.addEmptyLine
  | .indent levels => stream.addIndent levels

/-- Adds tokens one by one. -/
def addAll (stream : Stream) (tokens : List Token) : Stream := tokens.foldl add stream

/-- Adds the tokens of another stream one by one. -/
def append (stream other : Stream) : Stream := stream.addAll other.reverse

/-- Adds streams with a token between each two. -/
def appendJoined (stream : Stream) (separator : Token) : List Stream → Stream
  | [] => stream
  | [last] => stream.append last
  | other :: others => ((stream.append other).add separator).appendJoined separator others

end Stream

/-- What separates the text printed so far from the next literal. -/
inductive Gap where
  /-- Nothing has been printed yet. -/
  | start
  | none
  | newLine
  | emptyLine
  deriving DecidableEq, Repr

/-- Where the printer stands. -/
structure Cursor where
  gap : Gap := .start
  spaces : Nat := 0
  indent : Int := 0

namespace Cursor

def toNewLine (c : Cursor) : Cursor :=
  match c.gap with
  | .start | .emptyLine => c
  | _ => { c with gap := .newLine, spaces := 0 }

def toEmptyLine (c : Cursor) : Cursor :=
  match c.gap with
  | .start => c
  | _ => { c with gap := .emptyLine, spaces := 0 }

/-- What is printed before a literal: line breaks and indentation, then blanks. -/
def before (c : Cursor) : List Char :=
  let margin := List.replicate (4 * c.indent.toNat) ' '
  let line := match c.gap with
    | .start => margin
    | .none => []
    | .newLine => '\n' :: margin
    | .emptyLine => '\n' :: '\n' :: margin
  line ++ List.replicate c.spaces ' '

end Cursor

/-- Prints tokens from first to last. -/
def printChars (c : Cursor) : List Token → List Char
  | [] => []
  | .literal text :: rest =>
    if text = "" then printChars c rest
    else c.before ++ text.toList ++ printChars { c with gap := .none, spaces := 0 } rest
  | .space :: rest => printChars { c with spaces := c.spaces + 1 } rest
  | .newLine :: rest => printChars c.toNewLine rest
  | .emptyLine :: rest => printChars c.toEmptyLine rest
  | .indent levels :: rest =>
    printChars { c.toNewLine with indent := c.indent + levels } rest

/-- The text of a stream, which ends with a line break. -/
def Stream.print (stream : Stream) : String :=
  String.ofList (printChars {} stream.reverse ++ ['\n'])

end BehaviorTraits.Layout
