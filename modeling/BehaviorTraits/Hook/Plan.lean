import BehaviorTraits.Condition
import BehaviorTraits.Hook.Pairing
import BehaviorTraits.Tree.Basic

/-!
# The plan of an update hook

A tree is evaluated anew at every tick.  Its plan says in which order: guards become branches, and
two siblings with opposed conditions share one branch, the second one being its other side.  A child
whose condition opposes that of its parent goes to the other side as well.  The children of a leaf
are not in the plan.

The plan keeps conditions and actions as the tree writes them; only their place is decided here.
-/

namespace BehaviorTraits.Hook

inductive Step where
  /-- The place where a node begins. -/
  | enter (id : String)
  /-- Two siblings are merged into the branch that follows. -/
  | merge (head partner : String)
  /-- Run the action of a leaf; `dropped` of its children are left out. -/
  | perform (id action : String) (dropped : Nat)
  /-- Run the steps if the condition holds. -/
  | guarded (condition : String) (yes : List Step)
  /-- Run the first steps if the condition holds, and the others if not. -/
  | either (condition : String) (yes no : List Step)

abbrev Plan := List Step

/-- What a node contributes to the plan, before it is known whether it stands under a guard of its
own or on the other side of another's. -/
structure Outline where
  id : String
  guard? : Option String
  /-- The node without its guard. -/
  bare : Plan
  /-- What runs when the guard holds. -/
  yes : Plan
  /-- What its children put on the other side; `none` if there is no such child. -/
  no : Option Plan

namespace Outline

/-- Do the guards of two nodes oppose each other? -/
def opposes (a b : Outline) : Bool :=
  match a.guard?, b.guard? with
  | some c, some d => Condition.opposed c d
  | _, _ => false

/-- The node in its place among its siblings, with the partner on its other side. -/
def place (node : Outline) (partner : Option Outline) : Plan :=
  match node.guard? with
  | none => node.bare
  | some condition =>
    let branch :=
      match node.no, partner with
      | none, none => .guarded condition node.yes
      | no, partner => .either condition node.yes (no.getD [] ++ (partner.map bare).getD [])
    [.enter node.id, branch]

/-- The plan of a node that may have a partner. -/
def placePair : Outline × Option Outline → Plan
  | (node, none) => node.place none
  | (node, some partner) => .merge node.id partner.id :: node.place (some partner)

/-- The plan of siblings. -/
def siblings (nodes : List Outline) : Plan := (pairUp opposes nodes).flatMap placePair

end Outline

mutual

/-- The outline of a node. -/
def outline : Node → Outline
  | ⟨id, condition, action, children⟩ =>
    let guard? := condition.bind Text.nonBlank?
    match action.bind Text.nonBlank? with
    | some task =>
      let run := [.perform id task children.length]
      { id, guard?, bare := .enter id :: run, yes := run, no := none }
    | none =>
      let nodes := outlines children
      let (no, yes) := nodes.partition fun child =>
        match guard?, child.guard? with
        | some c, some d => Condition.opposed c d
        | _, _ => false
      { id, guard?
        bare := .enter id :: Outline.siblings nodes
        yes := Outline.siblings yes
        no := if no.isEmpty then none else some (no.flatMap Outline.bare) }

def outlines : List Node → List Outline
  | [] => []
  | n :: ns => outline n :: outlines ns

end

/-- The plan of a whole tree. -/
def plan (root : Node) : Plan := (outline root).place none

end BehaviorTraits.Hook
