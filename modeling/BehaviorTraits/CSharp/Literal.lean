/-!
# C# string literals

Inside the quotes of a literal a backslash, a quote and the two line-break characters are escaped by
a backslash; every other character stands for itself.
-/

namespace BehaviorTraits.CSharp

/-- How a character is written inside a literal. -/
def escapedChar (c : Char) : List Char :=
  if c = '\\' ∨ c = '"' then ['\\', c]
  else if c = '\r' then ['\\', 'r']
  else if c = '\n' then ['\\', 'n']
  else [c]

/-- Four characters are escaped, and every other one is written as it is. -/
theorem escapedChar_cases (c : Char) :
    (c = '\\' ∨ c = '"' ∨ c = '\r' ∨ c = '\n') ∨
      (c ≠ '\\' ∧ c ≠ '"' ∧ c ≠ '\r' ∧ c ≠ '\n' ∧ escapedChar c = [c]) := by
  by_cases hbackslash : c = '\\'
  · exact .inl (.inl hbackslash)
  by_cases hquote : c = '"'
  · exact .inl (.inr (.inl hquote))
  by_cases hr : c = '\r'
  · exact .inl (.inr (.inr (.inl hr)))
  by_cases hn : c = '\n'
  · exact .inl (.inr (.inr (.inr hn)))
  · exact .inr ⟨hbackslash, hquote, hr, hn, by simp [escapedChar, hbackslash, hquote, hr, hn]⟩

def escapedChars (cs : List Char) : List Char := cs.flatMap escapedChar

/-- The text between the quotes of a literal. -/
def escaped (s : String) : String := String.ofList (escapedChars s.toList)

/-- The literal of a text. -/
def quoted (s : String) : String := "\"" ++ escaped s ++ "\""

end BehaviorTraits.CSharp
