/-!
# Text on one line

Generated comments, keys and values each take one line.  A line break inside them, in any of its
three spellings, becomes a single blank.
-/

namespace BehaviorTraits.Text

def singleLineChars : List Char → List Char
  | [] => []
  | '\r' :: '\n' :: cs => ' ' :: singleLineChars cs
  | c :: cs => (if c = '\r' ∨ c = '\n' then ' ' else c) :: singleLineChars cs

/-- The text with every line break replaced by one blank. -/
def singleLine (s : String) : String := String.ofList (singleLineChars s.toList)

/-- A text is put on one line character by character. -/
@[simp] theorem toList_singleLine (s : String) :
    (singleLine s).toList = singleLineChars s.toList := by
  simp [singleLine]

end BehaviorTraits.Text
