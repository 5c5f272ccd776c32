import BehaviorTraits.Proofs.LogBlind
import BehaviorTraits.Proofs.LoweredLines
import BehaviorTraits.Proofs.Outline

/-!
# Evaluating a tree

What a tree does at a tick can be said without code.  A node that stands under its own condition
asks for it: if it holds, the node runs its action and then those of its children that do not negate
it; if not, the children that do negate it run, and after them the sibling that was merged with the
node, all of them without asking for their own conditions.  A node without a condition, or one that
does not have to ask, runs its action and then all of its children.  A node with an action never
runs its children.

`evaluate` is this recursion over the tree.  The builder is threaded through it only because the
names of fields depend on the fields that are there already, and the number of tests met so far
because two tests of one text need not give the same verdict.

`flat_code_executes_tree` states that the lines of the update hook are well nested and that
executing them gives the actor the same activities in the same order.
-/

namespace BehaviorTraits

namespace Hook

/-! ## The evaluation -/

/-- What has been met so far. -/
structure Progress where
  builder : Builder
  /-- The number of conditions asked for. -/
  tests : Nat

abbrev Evaluation := StateM Progress

/-- Asks for a condition: the next verdict decides. -/
def ask (lookup : Lookup) (verdicts : Nat → Bool) (condition : String) : Evaluation Bool := do
  let progress ← get
  set { builder := ((testOf lookup condition).run progress.builder).2
        tests := progress.tests + 1 : Progress }
  return verdicts progress.tests

/-- Runs an action: the lines by which it gives the actor something to do. -/
def act (action : String) : Evaluation (List String) := do
  let progress ← get
  let (codes, builder) := (codeOf action).run progress.builder
  set { progress with builder }
  return activityLines codes

/-- Runs the action of a node, if it has one. -/
def runTask (node : Node) : Evaluation (List String) :=
  match node.task? with
  | some action => act action
  | none => return []

section

variable (lookup : Lookup) (verdicts : Nat → Bool)

mutual

/-- The activities of a node at a tick.  `wrapped` says whether the node asks for its condition;
`partner` is the sibling that runs in its place if the condition does not hold. -/
def evaluate (wrapped : Bool) (node : Node) (partner : Option Node) :
    Evaluation (List String) :=
  match if wrapped then node.guard? else none with
  | some condition => do
    let holds ← ask lookup verdicts condition
    let own ← runTask node
    let yes ← evaluatePairs (pairUp Node.opposes node.agreeing)
    let no ← evaluateBare (node.negating ++ partner.toList)
    return if holds then own ++ yes else no
  | none => do
    let own ← runTask node
    let rest ← evaluatePairs (pairUp Node.opposes node.openChildren)
    return own ++ rest
termination_by 2 * Node.countAll (node :: partner.toList)
decreasing_by
  · have := node.countAll_agreeing_lt
    simp only [Node.countAll_pairUp, Node.countAll_cons]
    omega
  · have := node.countAll_negating_lt
    simp only [Node.countAll_append, Node.countAll_cons]
    omega
  · have := node.countAll_openChildren_lt
    simp only [Node.countAll_pairUp, Node.countAll_cons]
    omega

/-- The activities of siblings, each with its partner if it has one. -/
def evaluatePairs (pairs : List (Node × Option Node)) : Evaluation (List String) :=
  match pairs with
  | [] => return []
  | (node, partner) :: rest => do
    let first ← evaluate true node partner
    let others ← evaluatePairs rest
    return first ++ others
termination_by 2 * Node.countAll (members pairs) + 1
decreasing_by
  · simp only [members_cons, Node.countAll_append]
    omega
  · have := node.one_le_count
    simp only [members_cons, Node.countAll_append, Node.countAll_cons]
    omega

/-- The activities of nodes that do not ask for their conditions. -/
def evaluateBare (nodes : List Node) : Evaluation (List String) :=
  match nodes with
  | [] => return []
  | node :: rest => do
    let first ← evaluate false node none
    let others ← evaluateBare rest
    return first ++ others
termination_by 2 * Node.countAll nodes + 1
decreasing_by
  · simp only [Node.countAll_cons, Option.toList_none, Node.countAll_nil]
    omega
  · have := node.one_le_count
    simp only [Node.countAll_cons]
    omega

end

end

/-- The activities of a tree at a tick. -/
def evaluateTree (lookup : Lookup) (verdicts : Nat → Bool) (root : Node) (b : Builder) :
    List String :=
  ((evaluate lookup verdicts true root none).run ⟨b, 0⟩).1

/-! ## The evaluation of a plan -/

section

variable (lookup : Lookup) (verdicts : Nat → Bool)

mutual

/-- The activities of one step. -/
def evaluateStep : Step → Evaluation (List String)
  | .enter _ | .merge _ _ => return []
  | .perform _ action _ => act action
  | .guarded condition yes => do
    let holds ← ask lookup verdicts condition
    let yes ← evaluatePlan yes
    return if holds then yes else []
  | .either condition yes no => do
    let holds ← ask lookup verdicts condition
    let yes ← evaluatePlan yes
    let no ← evaluatePlan no
    return if holds then yes else no

/-- The activities of a plan. -/
def evaluatePlan : Plan → Evaluation (List String)
  | [] => return []
  | step :: rest => do
    let first ← evaluateStep step
    let others ← evaluatePlan rest
    return first ++ others

end

end

section

variable {lookup : Lookup} {verdicts : Nat → Bool}

/-- Plans in a row are evaluated one after the other. -/
theorem evaluatePlan_append (first second : Plan) :
    evaluatePlan lookup verdicts (first ++ second) = do
      let a ← evaluatePlan lookup verdicts first
      let b ← evaluatePlan lookup verdicts second
      return a ++ b := by
  induction first with
  | nil => simp [evaluatePlan]
  | cons step rest ih =>
      simp only [List.cons_append, evaluatePlan, ih, bind_assoc, pure_bind, List.append_assoc]

/-- Evaluating the task of a leaf is running it. -/
theorem evaluatePlan_taskPlan (node : Node) :
    evaluatePlan lookup verdicts (taskPlan node) = runTask node := by
  rw [taskPlan, runTask]
  cases node.task? <;> simp [evaluatePlan, evaluateStep]

/-- Entering a node does nothing. -/
theorem evaluatePlan_enter (id : String) (rest : Plan) :
    evaluatePlan lookup verdicts (.enter id :: rest) = evaluatePlan lookup verdicts rest := by
  simp [evaluatePlan, evaluateStep]

/-- A pair of siblings is evaluated like its head with the partner on the other side. -/
theorem evaluatePlan_placePair (pair : Outline × Option Outline) :
    evaluatePlan lookup verdicts (Outline.placePair pair) =
      evaluatePlan lookup verdicts (pair.1.place pair.2) := by
  obtain ⟨node, partner⟩ := pair
  cases partner with
  | none => rfl
  | some partner => simp [Outline.placePair, evaluatePlan, evaluateStep]

/-- A node with a condition asks for it, then runs one of its two sides. -/
theorem evaluatePlan_guarded {node : Node} {condition : String}
    (hguard : node.guard? = some condition) (partner : Option Node) :
    evaluatePlan lookup verdicts ((outline node).place (partner.map outline)) = do
      let holds ← ask lookup verdicts condition
      let yes ← evaluatePlan lookup verdicts (outline node).yes
      let no ← evaluatePlan lookup verdicts (otherSide node partner)
      return if holds then yes else no := by
  rw [place_guarded hguard, evaluatePlan_enter]
  split
  · rename_i hnone
    simp [otherSide, hnone, evaluatePlan, evaluateStep]
  · simp [evaluatePlan, evaluateStep]

mutual

/-- **Evaluating a node is evaluating its plan**, with its condition or without it. -/
theorem evaluate_eq_plan (wrapped : Bool) (node : Node) (partner : Option Node) :
    evaluate lookup verdicts wrapped node partner =
      evaluatePlan lookup verdicts
        (if wrapped then (outline node).place (partner.map outline)
         else (outline node).bare) := by
  have hbare : evaluatePlan lookup verdicts (outline node).bare = do
      let own ← runTask node
      let rest ← evaluatePairs lookup verdicts (pairUp Node.opposes node.openChildren)
      return own ++ rest := by
    rw [outline_bare, evaluatePlan_enter, evaluatePlan_append, evaluatePlan_taskPlan,
      siblings_outline, evaluatePairs_eq_plan]
  rw [evaluate]
  cases wrapped with
  | false => simp [hbare]
  | true =>
      cases hguard : node.guard? with
      | none => simp [place_unguarded hguard, hbare]
      | some condition =>
          simp only [if_true, evaluatePlan_guarded hguard, (outline_sides node).1, otherSide,
            evaluatePlan_append, evaluatePlan_taskPlan, siblings_outline,
            evaluatePairs_eq_plan (pairUp Node.opposes node.agreeing),
            evaluateBare_eq_plan (node.negating ++ partner.toList), bind_assoc, pure_bind]
termination_by 2 * Node.countAll (node :: partner.toList)
decreasing_by
  · have := node.countAll_openChildren_lt
    simp only [Node.countAll_pairUp, Node.countAll_cons]
    omega
  · have := node.countAll_agreeing_lt
    simp only [Node.countAll_pairUp, Node.countAll_cons]
    omega
  · have := node.countAll_negating_lt
    simp only [Node.countAll_append, Node.countAll_cons]
    omega

/-- Evaluating siblings in pairs is evaluating the plans of the pairs. -/
theorem evaluatePairs_eq_plan (pairs : List (Node × Option Node)) :
    evaluatePairs lookup verdicts pairs =
      evaluatePlan lookup verdicts
        (pairs.flatMap fun pair => Outline.placePair (mapPair outline pair)) := by
  match pairs with
  | [] => simp [evaluatePairs, evaluatePlan]
  | (node, partner) :: rest =>
      rw [evaluatePairs, List.flatMap_cons, evaluatePlan_append, evaluatePlan_placePair,
        evaluate_eq_plan true node partner, evaluatePairs_eq_plan rest]
      rfl
termination_by 2 * Node.countAll (members pairs) + 1
decreasing_by
  · simp only [members_cons, Node.countAll_append]
    omega
  · have := node.one_le_count
    simp only [members_cons, Node.countAll_append, Node.countAll_cons]
    omega

/-- Evaluating nodes without their conditions is evaluating their bare plans. -/
theorem evaluateBare_eq_plan (nodes : List Node) :
    evaluateBare lookup verdicts nodes =
      evaluatePlan lookup verdicts ((nodes.map outline).flatMap Outline.bare) := by
  match nodes with
  | [] => simp [evaluateBare, evaluatePlan]
  | node :: rest =>
      rw [evaluateBare, List.map_cons, List.flatMap_cons, evaluatePlan_append,
        evaluate_eq_plan false node none, evaluateBare_eq_plan rest]
      rfl
termination_by 2 * Node.countAll nodes + 1
decreasing_by
  · simp only [Node.countAll_cons, Option.toList_none, Node.countAll_nil]
    omega
  · have := node.one_le_count
    simp only [Node.countAll_cons]
    omega

end

end

/-! ## Executing the lines of a plan -/

/-- Executing the lines that `m` writes gives the actor what the evaluation `e` gives it, wherever
they stand, and leaves a builder that has gathered the same. -/
def Follows (verdicts : Nat → Bool) (m : Build (List Line)) (e : Evaluation (List String)) : Prop :=
  ∀ (b : Builder) (progress : Progress) (k : Nat), Alike b progress.builder →
    ∃ k' out,
      Effect verdicts (statements (m.run b).1) progress.tests k (e.run progress).2.tests k' out ∧
      (out.map (·.2)).filter isActivity = (e.run progress).1 ∧
      Alike (m.run b).2 (e.run progress).2.builder

section

variable {env : Env} {verdicts : Nat → Bool}

/-- Lines that follow a step can be put in front of lines that follow the steps behind it. -/
theorem Follows.cons {depth : Nat} {step : Step} {rest : Plan}
    (hstep : Follows verdicts (lower env depth step) (evaluateStep env.lookup verdicts step))
    (hrest : Follows verdicts (lowerAll env depth rest)
      (evaluatePlan env.lookup verdicts rest)) :
    Follows verdicts (lowerAll env depth (step :: rest))
      (evaluatePlan env.lookup verdicts (step :: rest)) := by
  intro b progress k halike
  obtain ⟨k₁, out₁, heffect₁, hout₁, halike₁⟩ := hstep b progress k halike
  obtain ⟨k₂, out₂, heffect₂, hout₂, halike₂⟩ := hrest _ _ k₁ halike₁
  refine ⟨k₂, out₁ ++ out₂, ?_, ?_, halike₂⟩
  · rw [run_lowerAll_cons, statements_append]
    exact heffect₁.append heffect₂
  · rw [List.map_append, List.filter_append, hout₁, hout₂]
    rfl

/-- **The lines of a plan do what the plan says.** -/
theorem lowerAll_follows (env : Env) (verdicts : Nat → Bool) (plan : Plan) : ∀ depth : Nat,
    Follows verdicts (lowerAll env depth plan) (evaluatePlan env.lookup verdicts plan) := by
  induction plan using Plan.induct with
  | nil => exact fun depth b progress k halike => ⟨k, [], .nil, rfl, halike⟩
  | enter id rest ih =>
      intro depth
      refine Follows.cons (fun b progress k halike => ?_) (ih depth)
      exact ⟨k, [], effect_nodeMark env depth id, rfl, (alike_log b _).trans halike⟩
  | merge head partner rest ih =>
      intro depth
      refine Follows.cons (fun b progress k halike => ?_) (ih depth)
      exact ⟨k, [], .nil, rfl, (alike_log b _).trans halike⟩
  | perform id action dropped rest ih =>
      intro depth
      refine Follows.cons (fun b progress k halike => ?_) (ih depth)
      obtain ⟨text, heffect, htext⟩ := effect_perform (k := k) env depth id action dropped b
      obtain ⟨hcodes, halike'⟩ := LogBlind.codeOf action b progress.builder halike
      refine ⟨k + 1, [(k, text)], heffect, ?_, (alike_droppedMark id dropped _).trans halike'⟩
      exact htext.trans (congrArg activityLines hcodes)
  | guarded condition yes rest ihyes ih =>
      intro depth
      refine Follows.cons (fun b progress k halike => ?_) (ih depth)
      obtain ⟨_, halike'⟩ := LogBlind.testOf env.lookup condition b progress.builder halike
      obtain ⟨k', out, heffect, hout, halike''⟩ := ihyes (depth + 1) _
        ⟨((testOf env.lookup condition).run progress.builder).2, progress.tests + 1⟩ k halike'
      refine ⟨k', _, effect_guarded heffect, ?_, halike''⟩
      change _ = if verdicts progress.tests then _ else _
      split
      · exact hout
      · rfl
  | either condition yes no rest ihyes ihno ih =>
      intro depth
      refine Follows.cons (fun b progress k halike => ?_) (ih depth)
      obtain ⟨_, halike'⟩ := LogBlind.testOf env.lookup condition b progress.builder halike
      obtain ⟨k₁, out₁, heffect₁, hout₁, halike₁⟩ := ihyes (depth + 1) _
        ⟨((testOf env.lookup condition).run progress.builder).2, progress.tests + 1⟩ k halike'
      obtain ⟨k₂, out₂, heffect₂, hout₂, halike₂⟩ := ihno (depth + 1) _ _ k₁ halike₁
      refine ⟨k₂, _, effect_either heffect₁ heffect₂, ?_, halike₂⟩
      change _ = if verdicts progress.tests then _ else _
      split
      · exact hout₁
      · exact hout₂

end

/-- **Flat code executes the tree.**  For every tree, every way to look up traits and whether or
not nodes are marked by comments, the lines of the update hook are well nested.  Whichever of their
tests hold, executing them gives the actor exactly the activities of the tree, in the same order. -/
theorem flat_code_executes_tree (lookup : Lookup) (comments : Bool) (root : Node) (b : Builder)
    (verdicts : Nat → Bool) :
    let body := statements ((lowerTree ⟨lookup, comments⟩ root).run b).1
    Block 0 body ∧ queued verdicts body = evaluateTree lookup verdicts root b := by
  refine ⟨lowerAll_block _ (plan root) 0 b, ?_⟩
  obtain ⟨k, out, heffect, hout, _⟩ :=
    lowerAll_follows ⟨lookup, comments⟩ verdicts (plan root) 0 b ⟨b, 0⟩ 0 (.refl b)
  have hexecute : execute verdicts (statements ((lowerTree ⟨lookup, comments⟩ root).run b).1) =
      out := heffect.execute_eq
  rw [queued, hexecute, hout, evaluateTree, evaluate_eq_plan]
  rfl

end Hook

end BehaviorTraits
