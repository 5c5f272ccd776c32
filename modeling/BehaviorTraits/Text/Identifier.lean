import BehaviorTraits.Text.Case

/-!
# Identifiers from free text

Names of generated classes and fields come from file names, node texts and command-line values.
Words are run together in Pascal case and every character but ASCII letters and digits is dropped.
-/

namespace BehaviorTraits.Text

/-- An underscore, a hyphen or a blank divides words. -/
def isWordSeparator (c : Char) : Bool := c == '_' || c == '-' || c == ' '

/-- Runs the words of a text together; `atStart` says whether the next character opens a word. -/
def pascalChars (atStart : Bool) : List Char → List Char
  | [] => []
  | c :: cs =>
    if isWordSeparator c then pascalChars true cs
    else (if atStart then upperChar c else [c]) ++ pascalChars false cs

/-- The words of a text run together, each with its first character in upper case. -/
def pascalCase (s : String) : String := String.ofList (pascalChars true s.toList)

/-- The text with its first character in upper case. -/
def capitalize (s : String) : String :=
  match s.toList with
  | [] => ""
  | c :: cs => String.ofList (upperChar c ++ cs)

/-- The ASCII letters and digits of a text. -/
def alphanumerics (s : String) : String := String.ofList (s.toList.filter Char.isAlphanum)

/-- Does the text start with a digit `0` to `9`? -/
def startsWithDigit (s : String) : Bool := (s.toList.head?.map Char.isDigit).getD false

end BehaviorTraits.Text
