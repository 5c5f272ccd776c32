import BehaviorTraits.Condition
import BehaviorTraits.Tree.Basic

/-!
# Structural findings on a tree

Validation visits every node, the ones below a leaf too, and lists what is odd about each: a
missing id, an action beside children, a dead end, a condition that names nothing.  It never stops
early, and whether to go on is left to the caller.
-/

namespace BehaviorTraits

/-- A structural finding on one node. -/
inductive Finding where
  /-- The id is blank. -/
  | missingId
  /-- The node has an action and this many children. -/
  | ambiguousLeaf (children : Nat)
  /-- The node has neither action nor children and is not named as a root. -/
  | deadEnd
  /-- The trimmed condition reduces to no subject. -/
  | unusableCondition (condition : String)
  deriving DecidableEq, Repr

/-- A finding and the id of its node. -/
structure Issue where
  nodeId : String
  finding : Finding
  deriving DecidableEq, Repr

namespace Issue

def code (i : Issue) : String :=
  match i.finding with
  | .missingId => "T001"
  | .ambiguousLeaf _ => "T002"
  | .deadEnd => "T003"
  | .unusableCondition _ => "T004"

/-- The name of the kind of finding. -/
def kind (i : Issue) : String :=
  match i.finding with
  | .missingId => "MissingId"
  | .ambiguousLeaf _ => "AmbiguousLeaf"
  | .deadEnd => "DeadEnd"
  | .unusableCondition _ => "UnusableCondition"

def message (i : Issue) : String :=
  match i.finding with
  | .missingId => "Node found without an ID."
  | .ambiguousLeaf children =>
    s!"Node '{i.nodeId}' is a Leaf (has Action) but also contains {children} child(ren). " ++
      "This is ambiguous."
  | .deadEnd => s!"Branch Node '{i.nodeId}' has no children and no action. It is a dead end."
  | .unusableCondition condition =>
    s!"Node '{i.nodeId}' has invalid condition syntax: '{condition}'"

end Issue

/-- What validation found, in the order of the visit. -/
structure Report where
  issues : List Issue
  nodesChecked : Nat
  deriving DecidableEq, Repr

namespace Report

def isValid (r : Report) : Bool := r.issues.isEmpty

def messages (r : Report) : List String := r.issues.map Issue.message

/-- The report as text, a line for the tree and one for each issue. -/
def text (r : Report) : String :=
  if r.isValid then s!"✓ Tree is valid ({r.nodesChecked} nodes checked)\n"
  else
    s!"✗ {r.issues.length} issue(s) in {r.nodesChecked} nodes\n" ++
      String.join (r.issues.map fun i => s!"  [{i.code}] {i.message}\n")

end Report

namespace Node

/-- What is odd about the node itself. -/
def findings (n : Node) : List Finding :=
  (if Text.trim n.id = "" then [.missingId] else []) ++
  (if n.isLeaf && !n.children.isEmpty then [.ambiguousLeaf n.children.length] else []) ++
  (if !n.isLeaf && n.children.isEmpty && !n.isRoot then [.deadEnd] else []) ++
  match n.guard? with
  | some condition =>
    if Text.trim (Condition.parse condition).subject = "" then [.unusableCondition condition]
    else []
  | none => []

/-- Adds the findings on one node to a report. -/
def check (n : Node) (r : Report) : Report :=
  ⟨r.issues ++ n.findings.map (Issue.mk n.id), r.nodesChecked + 1⟩

mutual

/-- Visits a node and then its children. -/
def visit : Node → Report → Report
  | ⟨id, condition, action, children⟩, r =>
    visitAll children (check ⟨id, condition, action, children⟩ r)

def visitAll : List Node → Report → Report
  | [], r => r
  | n :: ns, r => visitAll ns (visit n r)

end

/-- Validates a tree. -/
def validate (n : Node) : Report := n.visit ⟨[], 0⟩

end Node

end BehaviorTraits
