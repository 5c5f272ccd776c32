/-!
# Splitting at a character
-/

namespace BehaviorTraits.Text

/-- Splits a text at every `separator`; there is one piece more than there are separators. -/
def splitAtChar (separator : Char) : List Char → List (List Char)
  | [] => [[]]
  | c :: cs =>
    match splitAtChar separator cs with
    | [] => [[c]]
    | piece :: pieces => if c = separator then [] :: piece :: pieces else (c :: piece) :: pieces

end BehaviorTraits.Text
