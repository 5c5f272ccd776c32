/-!
# Pairing opposites

The items of a list are paired with the first later item that opposes them.  Going through the list,
an item becomes the partner of the earliest item that still waits for one and that it opposes; if
there is none, it waits itself.
-/

namespace BehaviorTraits.Hook

variable {α : Type}

/-- Gives `x` to the first item that has no partner and opposes it, or lets it wait at the end. -/
def settle (opposes : α → α → Bool) (x : α) : List (α × Option α) → List (α × Option α)
  | [] => [(x, none)]
  | (head, none) :: rest =>
    if opposes head x then (head, some x) :: rest
    else (head, none) :: settle opposes x rest
  | (head, some partner) :: rest => (head, some partner) :: settle opposes x rest

/-- The items that are nobody's partner, in order, each with its partner if it has one. -/
def pairUp (opposes : α → α → Bool) (items : List α) : List (α × Option α) :=
  items.foldl (fun pairs x => settle opposes x pairs) []

end BehaviorTraits.Hook
