import BehaviorTraits.Proofs.Pairing
import BehaviorTraits.Hook.Plan

/-!
# Outlines and the nodes they come from

The plan of a tree is put together from outlines, which have forgotten the nodes.  Here the parts of
an outline are given back in terms of the node: its action, its children, and which of these oppose
it.  After this file nothing looks into `outline` any more.  A recursion over the tree that follows
the plan ends because each call counts fewer nodes.
-/

namespace BehaviorTraits

namespace Node

/-- Do the conditions of the two nodes oppose each other? -/
def opposes (a b : Node) : Bool :=
  match a.guard?, b.guard? with
  | some c, some d => Condition.opposed c d
  | _, _ => false

/-- The children that count: those of a leaf do not. -/
def openChildren (n : Node) : List Node := if n.isLeaf then [] else n.children

/-- The children whose condition opposes that of the node. -/
def negating (n : Node) : List Node := n.openChildren.filter fun child => n.opposes child

/-- The other children. -/
def agreeing (n : Node) : List Node := n.openChildren.filter fun child => !n.opposes child

/-! ## Counting nodes -/

/-- A tree has a node. -/
theorem one_le_count (n : Node) : 1 ≤ n.count := by
  cases n
  rw [count]
  omega

@[simp] theorem countAll_nil : countAll [] = 0 := rfl

@[simp] theorem countAll_cons (n : Node) (ns : List Node) :
    countAll (n :: ns) = n.count + countAll ns := rfl

@[simp] theorem countAll_append (ns ms : List Node) :
    countAll (ns ++ ms) = countAll ns + countAll ms := by
  induction ns with
  | nil => simp
  | cons n ns ih => simp [ih, Nat.add_assoc]

/-- A tree is no larger than a forest that it stands in. -/
theorem count_le_countAll {n : Node} {ns : List Node} (h : n ∈ ns) : n.count ≤ countAll ns := by
  induction ns with
  | nil => cases h
  | cons m ns ih =>
      rw [countAll_cons]
      rcases List.mem_cons.mp h with rfl | h
      · omega
      · have := ih h
        omega

/-- The order of trees does not matter for the number of nodes. -/
theorem countAll_perm {ns ms : List Node} (h : ns.Perm ms) : countAll ns = countAll ms := by
  induction h with
  | nil => rfl
  | cons n _ ih => simp [ih]
  | swap n m ns => simp only [countAll_cons]; omega
  | trans _ _ ih ih' => exact ih.trans ih'

/-- Leaving out trees leaves no more nodes. -/
theorem countAll_filter_le (p : Node → Bool) (ns : List Node) :
    countAll (ns.filter p) ≤ countAll ns := by
  induction ns with
  | nil => simp
  | cons n ns ih =>
      rw [List.filter_cons]
      split <;> simp only [countAll_cons] <;> omega

/-- **Children are smaller than their parent**, all together. -/
theorem countAll_children_lt (n : Node) : countAll n.children < n.count := by
  obtain ⟨id, condition, action, children⟩ := n
  rw [count]
  dsimp only
  omega

theorem countAll_openChildren_lt (n : Node) : countAll n.openChildren < n.count := by
  rw [openChildren]
  split
  · rw [countAll_nil]
    exact n.one_le_count
  · exact n.countAll_children_lt

theorem countAll_negating_lt (n : Node) : countAll n.negating < n.count :=
  Nat.lt_of_le_of_lt (countAll_filter_le _ _) n.countAll_openChildren_lt

theorem countAll_agreeing_lt (n : Node) : countAll n.agreeing < n.count :=
  Nat.lt_of_le_of_lt (countAll_filter_le _ _) n.countAll_openChildren_lt

/-- Every sibling is in one of the pairs. -/
theorem countAll_pairUp (nodes : List Node) :
    countAll (Hook.members (Hook.pairUp opposes nodes)) = countAll nodes :=
  countAll_perm (Hook.members_pairUp opposes nodes)

/-- Induction from the children to the node. -/
theorem induct_children {P : Node → Prop}
    (step : ∀ n : Node, (∀ child ∈ n.children, P child) → P n) (n : Node) : P n := by
  induction hcount : n.count using Nat.strongRecOn generalizing n with
  | ind k ih =>
      refine step n fun child hchild => ih child.count ?_ child rfl
      rw [← hcount]
      exact Nat.lt_of_le_of_lt (count_le_countAll hchild) n.countAll_children_lt

/-- Induction from the children that count to the node. -/
theorem induct_openChildren {P : Node → Prop}
    (step : ∀ n : Node, (∀ child ∈ n.openChildren, P child) → P n) (n : Node) : P n := by
  induction n using induct_children with
  | step n ih =>
      refine step n fun child hchild => ih child ?_
      rw [openChildren] at hchild
      split at hchild
      · cases hchild
      · exact hchild

end Node

namespace Hook

/-- Several nodes have their outlines in a row. -/
theorem outlines_eq_map (nodes : List Node) : outlines nodes = nodes.map outline := by
  induction nodes with
  | nil => rfl
  | cons node nodes ih => simp [outlines, ih]

/-- An outline keeps the name of its node. -/
theorem outline_id (node : Node) : (outline node).id = node.id := by
  obtain ⟨id, condition, action, children⟩ := node
  rw [outline]
  cases action.bind Text.nonBlank? <;> rfl

/-- An outline keeps the condition of its node. -/
theorem outline_guard (node : Node) : (outline node).guard? = node.guard? := by
  obtain ⟨id, condition, action, children⟩ := node
  rw [outline]
  cases action.bind Text.nonBlank? <;> rfl

/-- Outlines oppose each other as their nodes do. -/
theorem outline_opposes (a b : Node) : (outline a).opposes (outline b) = a.opposes b := by
  rw [Node.opposes, ← outline_guard a, ← outline_guard b]
  rfl

/-- The action of a node as a plan. -/
def taskPlan (node : Node) : Plan :=
  match node.task? with
  | some action => [.perform node.id action node.children.length]
  | none => []

/-- Without its guard a node runs its action, then its children as siblings. -/
theorem outline_bare (node : Node) :
    (outline node).bare =
      .enter node.id :: (taskPlan node ++ Outline.siblings (node.openChildren.map outline)) := by
  obtain ⟨id, condition, action, children⟩ := node
  cases htask : action.bind Text.nonBlank? with
  | some task =>
      simp [outline, taskPlan, Node.openChildren, Node.isLeaf, Node.task?, htask,
        Outline.siblings, pairUp]
  | none =>
      simp [outline, taskPlan, Node.openChildren, Node.isLeaf, Node.task?, htask,
        outlines_eq_map]

/-- **The two sides of a node.**  When its guard holds, a node runs its action and the children
that do not oppose it; the children that do are put on the other side. -/
theorem outline_sides (node : Node) :
    (outline node).yes = taskPlan node ++ Outline.siblings (node.agreeing.map outline) ∧
    (outline node).no =
      if node.negating = [] then none
      else some ((node.negating.map outline).flatMap Outline.bare) := by
  obtain ⟨id, condition, action, children⟩ := node
  cases htask : action.bind Text.nonBlank? with
  | some task =>
      simp [outline, taskPlan, Node.agreeing, Node.negating, Node.openChildren, Node.isLeaf,
        Node.task?, htask, Outline.siblings, pairUp]
  | none =>
      have hopposes : ∀ child : Node,
          (match condition.bind Text.nonBlank?, (outline child).guard? with
            | some c, some d => Condition.opposed c d
            | _, _ => false) = Node.opposes ⟨id, condition, action, children⟩ child := by
        intro child
        rw [outline_guard, Node.opposes]
        rfl
      have hchildren : Node.openChildren ⟨id, condition, action, children⟩ = children := by
        simp [Node.openChildren, Node.isLeaf, Node.task?, htask]
      have hyes : (children.map outline).filter (fun child =>
          !match condition.bind Text.nonBlank?, child.guard? with
            | some c, some d => Condition.opposed c d
            | _, _ => false) =
          (Node.agreeing ⟨id, condition, action, children⟩).map outline := by
        rw [List.filter_map, Node.agreeing, hchildren]
        exact congrArg (List.map outline)
          (List.filter_congr fun child _ => congrArg (!·) (hopposes child))
      have hno : (children.map outline).filter (fun child =>
          match condition.bind Text.nonBlank?, child.guard? with
          | some c, some d => Condition.opposed c d
          | _, _ => false) =
          (Node.negating ⟨id, condition, action, children⟩).map outline := by
        rw [List.filter_map, Node.negating, hchildren]
        exact congrArg (List.map outline) (List.filter_congr fun child _ => hopposes child)
      simp only [outline, htask, List.partition_eq_filter_filter, outlines_eq_map, taskPlan,
        Node.task?]
      refine ⟨congrArg Outline.siblings hyes, ?_⟩
      refine (congrArg (fun no : List Outline =>
        if no.isEmpty then none else some (no.flatMap Outline.bare)) hno).trans ?_
      simp

/-- The plan of siblings, pair by pair. -/
theorem siblings_outline (nodes : List Node) :
    Outline.siblings (nodes.map outline) =
      (pairUp Node.opposes nodes).flatMap fun pair => Outline.placePair (mapPair outline pair) := by
  rw [Outline.siblings, pairUp_map outline outline_opposes, List.flatMap_map]

/-- A node without a condition is never under a guard. -/
theorem place_unguarded {node : Node} (hguard : node.guard? = none) (partner : Option Outline) :
    (outline node).place partner = (outline node).bare := by
  rw [Outline.place, outline_guard, hguard]

/-- What runs when the guard of a node does not hold: the children on the other side, and the
partner. -/
def otherSide (node : Node) (partner : Option Node) : Plan :=
  ((node.negating ++ partner.toList).map outline).flatMap Outline.bare

/-- A node with a condition asks for it.  The branch has no other side if nothing would be on it. -/
theorem place_guarded {node : Node} {condition : String} (hguard : node.guard? = some condition)
    (partner : Option Node) :
    (outline node).place (partner.map outline) =
      [.enter node.id,
        if node.negating ++ partner.toList = [] then .guarded condition (outline node).yes
        else .either condition (outline node).yes (otherSide node partner)] := by
  rw [Outline.place, outline_guard, hguard, outline_id, (outline_sides node).2, otherSide]
  by_cases hnegating : node.negating = []
  · cases partner with
    | none => simp [hnegating]
    | some partner => simp [hnegating]
  · cases partner with
    | none => simp [hnegating]
    | some partner => simp [hnegating]

end Hook

end BehaviorTraits
