import BehaviorTraits.Text.Printable

/-!
# Quoted text in messages

A message that shows a text puts it in double quotes on one line.  Quotes, backslashes and the
usual control characters have short escapes; any other character that a reader could not see is
written by its code point in hexadecimal.
-/

namespace BehaviorTraits.Text

/-- How a character is written inside double quotes. -/
def quotedChar (c : Char) : List Char :=
  if c = '\x00' then ['\\', '0']
  else if c = '\t' then ['\\', 't']
  else if c = '\r' then ['\\', 'r']
  else if c = '\n' then ['\\', 'n']
  else if c = '\\' ∨ c = '"' then ['\\', c]
  else if isPrintable c then [c]
  else ['\\', 'u', '\x7b'] ++ Nat.toDigits 16 c.toNat ++ ['\x7d']

/-- The text in double quotes. -/
def quoted (s : String) : String :=
  String.ofList ('"' :: s.toList.flatMap quotedChar ++ ['"'])

end BehaviorTraits.Text
