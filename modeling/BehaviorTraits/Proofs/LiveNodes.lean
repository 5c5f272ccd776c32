import BehaviorTraits.Proofs.LoweredLines
import BehaviorTraits.Proofs.Outline

/-!
# Live nodes

The root of a tree is live, and so are the children of a live node that is no leaf.  A node gets
into the code by many ways: on either side of its parent's branch, among siblings, or as the partner
of a sibling.  Here each way is shown to take up each live node once and no other node.

* `plan_marks`: the places where a plan enters nodes and runs leaves are those of the live nodes.
* `live_nodes_lowered_once`: so the code has one comment for each live node with a name, and one
  copy of the lines of each live leaf.
-/

namespace BehaviorTraits

namespace Node

mutual

/-- The live nodes of a tree: a leaf hides its children. -/
def live : Node → List Node
  | n@⟨_, _, _, children⟩ => n :: if n.isLeaf then [] else liveAll children

def liveAll : List Node → List Node
  | [] => []
  | n :: ns => n.live ++ liveAll ns

end

/-- The live nodes of several trees are those of each. -/
theorem liveAll_eq_flatMap (ns : List Node) : liveAll ns = ns.flatMap live := by
  induction ns with
  | nil => rfl
  | cons n ns ih => rw [liveAll, ih, List.flatMap_cons]

/-- A node is live, and so are the live nodes of the children that count. -/
theorem live_eq (n : Node) : n.live = n :: n.openChildren.flatMap live := by
  obtain ⟨id, condition, action, children⟩ := n
  rw [live, openChildren, liveAll_eq_flatMap]
  split <;> rfl

/-- The root is always live. -/
theorem mem_live (n : Node) : n ∈ n.live := by
  rw [live_eq]
  exact List.mem_cons_self

/-- What is live below a child that counts is live below its parent. -/
theorem mem_live_of_child {n child other : Node} (hchild : child ∈ n.openChildren)
    (hother : other ∈ child.live) : other ∈ n.live := by
  rw [live_eq]
  exact List.mem_cons_of_mem _ (List.mem_flatMap.mpr ⟨child, hchild, hother⟩)

/-- The name of a leaf with its action. -/
def named? (n : Node) : Option (String × String) := n.task?.map fun action => (n.id, action)

end Node

namespace Hook

open Event

/-! ## Marks -/

/-- A place in a plan that belongs to one node. -/
inductive Mark where
  | node (id : String)
  | task (id action : String) (dropped : Nat)

namespace Mark

def node? : Mark → Option String
  | node id => some id
  | task _ _ _ => none

def task? : Mark → Option (String × String)
  | node _ => none
  | task id action _ => some (id, action)

end Mark

def Event.mark? : Event → Option Mark
  | .enter id _ => some (.node id)
  | .perform id action dropped => some (.task id action dropped)
  | .merge _ _ | .decide _ => none

/-- The marks that a node leaves when it is taken up once. -/
def nodeMarks (n : Node) : List Mark :=
  .node n.id :: n.task?.toList.map fun action => .task n.id action n.children.length

/-- The marks of all live nodes of a tree. -/
def liveMarks (n : Node) : List Mark := n.live.flatMap nodeMarks

/-- The marks of a tree are those of its root and of the children that count. -/
theorem liveMarks_eq (n : Node) :
    liveMarks n = nodeMarks n ++ n.openChildren.flatMap liveMarks := by
  rw [liveMarks, Node.live_eq, List.flatMap_cons, List.flatMap_assoc]
  rfl

/-- The marks of a plan. -/
def marks (depth : Nat) (plan : Plan) : List Mark := (eventsOf depth plan).filterMap mark?

/-- Plans in a row have their marks in a row. -/
theorem marks_append (depth : Nat) (first second : Plan) :
    marks depth (first ++ second) = marks depth first ++ marks depth second := by
  rw [marks, eventsOf_append, List.filterMap_append]
  rfl

theorem marks_flatMap {α : Type} (depth : Nat) (f : α → Plan) (items : List α) :
    marks depth (items.flatMap f) = items.flatMap fun item => marks depth (f item) := by
  induction items with
  | nil => rfl
  | cons item items ih => rw [List.flatMap_cons, marks_append, ih, List.flatMap_cons]

theorem marks_enter (depth : Nat) (id : String) (rest : Plan) :
    marks depth (.enter id :: rest) = .node id :: marks depth rest := rfl

/-- A test leaves no mark of its own. -/
theorem marks_guarded (depth : Nat) (condition : String) (yes : Plan) :
    marks depth [.guarded condition yes] = marks (depth + 1) yes := by
  rw [marks, eventsOf, eventsOf, List.append_nil]
  rfl

/-- Of a test with two sides, the marks are those of both sides. -/
theorem marks_either (depth : Nat) (condition : String) (yes no : Plan) :
    marks depth [.either condition yes no] = marks (depth + 1) yes ++ marks (depth + 1) no := by
  rw [marks, eventsOf, eventsOf, List.append_nil]
  exact List.filterMap_append

/-- The task of a leaf is marked with its action and the number of its children. -/
theorem marks_taskPlan (depth : Nat) (node : Node) :
    marks depth (taskPlan node) =
      node.task?.toList.map fun action => .task node.id action node.children.length := by
  rw [taskPlan]
  cases node.task? <;> rfl

/-- **A node with a condition** is marked before what stands on either side of it. -/
theorem marks_place {node : Node} {condition : String} (hguard : node.guard? = some condition)
    (partner : Option Node) (depth : Nat) :
    marks depth ((outline node).place (partner.map outline)) =
      .node node.id :: (marks (depth + 1) (outline node).yes ++
        marks (depth + 1) (otherSide node partner)) := by
  rw [place_guarded hguard, marks_enter]
  split
  · rename_i hnone
    rw [marks_guarded, otherSide, hnone]
    exact congrArg _ (List.append_nil _).symm
  · rw [marks_either]

/-- A partner adds the marks that it leaves without its guard. -/
theorem marks_place_partner {node : Node} {condition : String}
    (hguard : node.guard? = some condition) (partner : Node) (depth : Nat) :
    marks depth ((outline node).place (some (outline partner))) =
      marks depth ((outline node).place none) ++ marks (depth + 1) (outline partner).bare := by
  have hother : otherSide node (some partner) =
      otherSide node none ++ (outline partner).bare := by
    simp [otherSide]
  have hboth := marks_place hguard (some partner) depth
  have halone := marks_place hguard none depth
  rw [Option.map_some] at hboth
  rw [Option.map_none] at halone
  rw [hboth, halone, hother, marks_append, List.cons_append, List.append_assoc]

/-! ## Each live node leaves its marks once -/

/-- Both with and without its guard, the node leaves the marks of its live nodes. -/
def Covers (node : Node) : Prop :=
  ∀ depth : Nat, (marks depth (outline node).bare).Perm (liveMarks node) ∧
    (marks depth ((outline node).place none)).Perm (liveMarks node)

/-- **Pairing loses no sibling and repeats none.** -/
theorem marks_siblings {nodes : List Node} (hnodes : ∀ node ∈ nodes, Covers node) (depth : Nat) :
    (marks depth (Outline.siblings (nodes.map outline))).Perm (nodes.flatMap liveMarks) := by
  have hmembers := members_pairUp Node.opposes nodes
  have hpair : ∀ pair ∈ pairUp Node.opposes nodes,
      (marks depth (Outline.placePair (mapPair outline pair))).Perm
        ((pair.1 :: pair.2.toList).flatMap liveMarks) := by
    rintro ⟨head, partner⟩ hpair
    have hmem : ∀ node ∈ head :: partner.toList, Covers node := by
      intro node hnode
      refine hnodes node (hmembers.mem_iff.mp ?_)
      exact List.mem_flatMap.mpr ⟨_, hpair, hnode⟩
    have hhead := (hmem head List.mem_cons_self depth).2
    cases partner with
    | none => simpa [mapPair, Outline.placePair] using hhead
    | some partner =>
        have hbare := (hmem partner (by simp) (depth + 1)).1
        have hopposes := pairUp_opposes hpair
        rw [Node.opposes] at hopposes
        split at hopposes
        · rename_i hguard _
          change (marks depth ((outline head).place (some (outline partner)))).Perm _
          rw [marks_place_partner hguard]
          simpa using hhead.append hbare
        · cases hopposes
  rw [siblings_outline, marks_flatMap]
  refine (List.Perm.flatMap_left _ hpair).trans ?_
  rw [← List.flatMap_assoc]
  exact hmembers.flatMap_right liveMarks

/-- The children on the two sides of a node are all of its children. -/
theorem agreeing_append_negating (node : Node) :
    (node.agreeing ++ node.negating).Perm node.openChildren :=
  List.perm_append_comm.trans (List.filter_append_perm _ _)

/-- **The induction step.**  A node has the marks of its live nodes, whether it is placed with its
condition or without, if the children that count have theirs. -/
theorem covers_of_openChildren (node : Node)
    (hchildren : ∀ child ∈ node.openChildren, Covers child) : Covers node := by
  intro depth
  have hbare : (marks depth (outline node).bare).Perm (liveMarks node) := by
    rw [outline_bare, marks_enter, marks_append, marks_taskPlan, liveMarks_eq]
    exact ((marks_siblings hchildren depth).append_left _).cons _
  refine ⟨hbare, ?_⟩
  cases hguard : node.guard? with
  | none =>
      rw [place_unguarded hguard]
      exact hbare
  | some condition =>
      have hplace := marks_place hguard none depth
      rw [Option.map_none] at hplace
      have hyes : (marks (depth + 1) (Outline.siblings (node.agreeing.map outline))).Perm
          (node.agreeing.flatMap liveMarks) :=
        marks_siblings (fun child hchild => hchildren child (List.mem_of_mem_filter hchild)) _
      have hno : (marks (depth + 1) (otherSide node none)).Perm
          (node.negating.flatMap liveMarks) := by
        rw [otherSide, Option.toList_none, List.append_nil, List.flatMap_map, marks_flatMap]
        refine List.Perm.flatMap_left _ fun child hchild => ?_
        exact (hchildren child (List.mem_of_mem_filter hchild) (depth + 1)).1
      rw [hplace, (outline_sides node).1, marks_append, marks_taskPlan, liveMarks_eq, nodeMarks,
        List.append_assoc, List.cons_append]
      refine (List.Perm.append_left _ ?_).cons _
      refine (hyes.append hno).trans ?_
      rw [← List.flatMap_append]
      exact (agreeing_append_negating node).flatMap_right liveMarks

/-- **A plan takes up each live node once, and no other node.** -/
theorem plan_marks (root : Node) : (marks 0 (plan root)).Perm (liveMarks root) :=
  (Node.induct_openChildren covers_of_openChildren root 0).2

/-! ## The lines of live nodes -/

/-- Is the line one of those that stand for an action? -/
def Shape.ofAction : Shape → Bool
  | activity | warning | unmapped => true
  | _ => false

/-- All lines of an action stand for it. -/
theorem codeOf_ofAction (action : String) (b : Builder) :
    ∀ code ∈ ((codeOf action).run b).1, code.shape.ofAction = true := by
  rcases codeOf_cases action b with ⟨_, h⟩ | ⟨_, h⟩ | ⟨_, h⟩ <;> rw [h] <;>
    simp [Code.shape, Remark.shape, Shape.ofAction]

/-- The comment about dropped children can be told by its shape. -/
theorem droppedMark_shape (id : String) (dropped : Nat) (b : Builder) :
    ∀ code ∈ ((droppedMark id dropped).run b).1, code.shape = .droppedMark := by
  rw [droppedMark_code]
  split <;> simp [Code.shape, Remark.shape]

/-- Only entering a node leads to the comment of a node. -/
theorem emit_nodeMark (env : Env) (event : Event) (b : Builder) :
    ((event.emit env).run b).1.filter (fun code => code.shape == .nodeMark) =
      (event.mark?.bind Mark.node?).toList.flatMap (nodeMark env.comments) := by
  cases event with
  | enter id depth =>
      change (nodeMark env.comments id).filter _ = nodeMark env.comments id ++ []
      rw [List.append_nil, nodeMark]
      split <;> rfl
  | merge head partner => rfl
  | decide condition => rfl
  | perform id action dropped =>
      rw [run_emit_perform]
      refine List.filter_eq_nil_iff.mpr fun code hcode => ?_
      rcases List.mem_append.mp hcode with hcode | hcode
      · intro hshape
        have haction := codeOf_ofAction action b code hcode
        rw [beq_iff_eq.mp hshape] at haction
        cases haction
      · rw [droppedMark_shape id dropped _ code hcode]
        decide

/-- Only running a leaf leads to lines for an action: those of this action. -/
theorem emit_ofAction (env : Env) (event : Event) (b : Builder) :
    ((event.emit env).run b).1.filter (fun code => code.shape.ofAction) =
      event.task?.toList.flatMap fun task => ((codeOf task.2).run b).1 := by
  cases event with
  | enter id depth =>
      change (nodeMark env.comments id).filter _ = []
      rw [nodeMark]
      split <;> rfl
  | merge head partner => rfl
  | decide condition => rfl
  | perform id action dropped =>
      have hmark : ((droppedMark id dropped).run ((codeOf action).run b).2).1.filter
          (fun code => code.shape.ofAction) = [] := by
        refine List.filter_eq_nil_iff.mpr fun code hcode => ?_
        rw [droppedMark_shape id dropped _ code hcode]
        decide
      rw [run_emit_perform, List.filter_append, hmark,
        List.filter_eq_self.mpr (codeOf_ofAction action b)]
      rfl

/-- What is met are the events, in order. -/
theorem map_fst_met (env : Env) (b : Builder) (events : List Event) :
    (met env b events).map (·.1) = events := by
  induction events generalizing b with
  | nil => rfl
  | cons event events ih => rw [met, List.map_cons, ih]

/-- The leaves that a plan runs, each with the builder as it is then. -/
def calls (env : Env) (plan : Plan) (b : Builder) : List ((String × String) × Builder) :=
  (met env b (eventsOf 0 plan)).filterMap fun m => m.1.task?.map (·, m.2)

/-- The marks tell the names of the live nodes. -/
theorem node_of_liveMarks (n : Node) :
    (liveMarks n).filterMap Mark.node? = n.live.map (·.id) := by
  have hnode : ∀ n : Node, (nodeMarks n).filterMap Mark.node? = [n.id] := by
    intro n
    rw [nodeMarks]
    cases n.task? <;> rfl
  rw [liveMarks, List.filterMap_flatMap]
  simp only [hnode, ← List.map_eq_flatMap]

theorem task_of_liveMarks (n : Node) :
    (liveMarks n).filterMap Mark.task? = n.live.filterMap Node.named? := by
  have hnode : ∀ n : Node, (nodeMarks n).filterMap Mark.task? = n.named?.toList := by
    intro n
    rw [nodeMarks, Node.named?]
    cases n.task? <;> rfl
  rw [liveMarks, List.filterMap_flatMap, List.filterMap_eq_flatMap_toList]
  simp only [hnode]

/-- The comments on nodes stand where nodes are entered. -/
theorem node_texts (env : Env) (plan : Plan) (b : Builder) :
    ((statements ((lowerAll env 0 plan).run b).1).map (·.text)).filter (fun text =>
        shapeOf text == .nodeMark) =
      (((marks 0 plan).filterMap Mark.node?).flatMap (nodeMark env.comments)).map fun code =>
        Text.singleLine code.text := by
  have hmet := texts_of_events env 0 plan b (· == .nodeMark) (by decide)
  simp only [emit_nodeMark] at hmet
  rw [hmet, marks, List.filterMap_filterMap, List.filterMap_eq_flatMap_toList, List.flatMap_assoc,
    List.map_flatMap]
  nth_rewrite 2 [← map_fst_met env b (eventsOf 0 plan)]
  rw [List.flatMap_map]

/-- With comments on, each name gives a comment, unless it is empty. -/
theorem marked_texts (ids : List String) :
    (ids.flatMap (nodeMark true)).map (fun code => Text.singleLine code.text) =
      (ids.filter (· ≠ "")).map fun id => Text.singleLine ("// node: " ++ id) := by
  induction ids with
  | nil => rfl
  | cons id ids ih =>
      rw [List.flatMap_cons, List.map_append, ih, nodeMark]
      by_cases hid : id = ""
      · simp [hid]
      · rw [if_pos (by simp [hid]), List.filter_cons_of_pos (by simp [hid])]
        rfl

/-- The lines that stand for actions are those of the leaves that are run. -/
theorem action_texts (env : Env) (plan : Plan) (b : Builder) :
    ((statements ((lowerAll env 0 plan).run b).1).map (·.text)).filter (fun text =>
        (shapeOf text).ofAction) =
      (calls env plan b).flatMap fun call => (((codeOf call.1.2).run call.2).1).map fun code =>
        Text.singleLine code.text := by
  have hmet := texts_of_events env 0 plan b Shape.ofAction (by decide)
  simp only [emit_ofAction] at hmet
  rw [hmet, calls, List.filterMap_eq_flatMap_toList, List.flatMap_assoc]
  refine List.flatMap_congr fun m _ => ?_
  cases m.1.task? <;> simp

/-- The leaves that are run are those of the events. -/
theorem calls_tasks (env : Env) (plan : Plan) (b : Builder) :
    (calls env plan b).map (·.1) = (eventsOf 0 plan).filterMap Event.task? := by
  rw [calls, List.map_filterMap]
  nth_rewrite 2 [← map_fst_met env b (eventsOf 0 plan)]
  rw [List.filterMap_map]
  refine List.filterMap_congr fun m _ => ?_
  cases htask : m.1.task? <;> simp [htask]

/-- The marks of a plan tell the leaves of its events. -/
theorem task_of_marks (plan : Plan) :
    (marks 0 plan).filterMap Mark.task? = (eventsOf 0 plan).filterMap Event.task? := by
  rw [marks, List.filterMap_filterMap]
  refine List.filterMap_congr fun event _ => ?_
  cases event <;> rfl

/-- **Live nodes are lowered once.**  With comments on, the comments on nodes are those of the live
nodes with a name, one for each.  With comments on or off, the leaves that are run are the live
leaves, each of them once, and the lines that stand for actions are those of these leaves. -/
theorem live_nodes_lowered_once (lookup : Lookup) (root : Node) (b : Builder) :
    let texts := fun comments =>
      (statements ((lowerTree ⟨lookup, comments⟩ root).run b).1).map (·.text)
    ((texts true).filter fun text => shapeOf text == .nodeMark).Perm
      (((root.live.map (·.id)).filter (· ≠ "")).map fun id => Text.singleLine ("// node: " ++ id)) ∧
    ∀ comments,
      let run := calls ⟨lookup, comments⟩ (plan root) b
      (run.map (·.1)).Perm (root.live.filterMap Node.named?) ∧
      (texts comments).filter (fun text => (shapeOf text).ofAction) =
        run.flatMap fun call => (((codeOf call.1.2).run call.2).1).map fun code =>
          Text.singleLine code.text := by
  intro texts
  have hmarks := plan_marks root
  refine ⟨?_, fun comments => ⟨?_, action_texts _ _ b⟩⟩
  · have hids := hmarks.filterMap Mark.node?
    rw [node_of_liveMarks] at hids
    have htexts := node_texts ⟨lookup, true⟩ (plan root) b
    rw [marked_texts] at htexts
    exact (List.Perm.of_eq htexts).trans ((hids.filter _).map _)
  · have htasks := hmarks.filterMap Mark.task?
    rw [task_of_liveMarks, task_of_marks] at htasks
    rw [calls_tasks]
    exact htasks

end Hook

end BehaviorTraits
