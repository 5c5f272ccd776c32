import BehaviorTraits.Text.Blank
import BehaviorTraits.Text.Case

/-!
# Behavior trees

A behavior tree is a node with its subtrees in order.  A node may carry a condition that guards the
subtree and an action to run when the node is reached.  A condition or action of blanks only counts
as absent, and a node with an action is a leaf whatever its children.
-/

namespace BehaviorTraits

structure Node where
  id : String := ""
  condition : Option String := none
  action : Option String := none
  children : List Node := []

namespace Node

def withCondition (n : Node) (condition : String) : Node := { n with condition := some condition }

def withAction (n : Node) (action : String) : Node := { n with action := some action }

/-- The node with one more child behind the others. -/
def withChild (n child : Node) : Node := { n with children := n.children ++ [child] }

/-- The trimmed condition, if it is not blank. -/
def guard? (n : Node) : Option String := n.condition.bind Text.nonBlank?

/-- The trimmed action, if it is not blank. -/
def task? (n : Node) : Option String := n.action.bind Text.nonBlank?

def isLeaf (n : Node) : Bool := n.task?.isSome

/-- The entry of a tree is named `root`, in any ASCII case. -/
def isRoot (n : Node) : Bool := Text.eqIgnoringAsciiCase n.id "root"

mutual

/-- The number of nodes of the tree. -/
def count : Node → Nat
  | ⟨_, _, _, children⟩ => 1 + countAll children

def countAll : List Node → Nat
  | [] => 0
  | n :: ns => count n + countAll ns

end

end Node

end BehaviorTraits
