import BehaviorTraits.Proofs.LiveNodes
import BehaviorTraits.Proofs.MergedSiblings
import BehaviorTraits.Proofs.WrittenCode

/-!
# The nodes that ask for their conditions

A live node with a condition need not ask for it: on the other side of a node that it opposes it
runs without asking, as that node has asked already.  `asking` lists the nodes of a tree that do
ask, by a recursion over the tree that knows nothing of code.

* `conditionsOf_asking`: these are the conditions of the plan, in order.
* `asking_live`: all these nodes are live.
* `test_lines`: the tests in the code are those of these nodes, one for each.
-/

namespace BehaviorTraits

/-- A pair of siblings counts no more than all siblings. -/
theorem Node.countAll_pair_le {nodes : List Node} {pair : Node × Option Node}
    (hpair : pair ∈ Hook.pairUp Node.opposes nodes) :
    Node.countAll (pair.1 :: pair.2.toList) ≤ Node.countAll nodes := by
  obtain ⟨before, behind, hsplit⟩ := List.append_of_mem hpair
  have hcount := Node.countAll_pairUp nodes
  rw [hsplit, Hook.members, List.flatMap_append, List.flatMap_cons, Node.countAll_append,
    Node.countAll_append] at hcount
  omega

namespace Hook

open Event

/-- The nodes that ask for their conditions, in the order in which they do.  `wrapped` says whether
the node itself stands under its condition; `partner` is the sibling on its other side, which does
not ask. -/
def asking (wrapped : Bool) (node : Node) (partner : Option Node) : List Node :=
  if wrapped = true ∧ node.guard?.isSome then
    node :: (pairUp Node.opposes node.agreeing).attach.flatMap
        (fun ⟨pair, _⟩ => asking true pair.1 pair.2) ++
      (node.negating ++ partner.toList).attach.flatMap fun ⟨other, _⟩ => asking false other none
  else
    (pairUp Node.opposes node.openChildren).attach.flatMap fun ⟨pair, _⟩ =>
      asking true pair.1 pair.2
termination_by Node.countAll (node :: partner.toList)
decreasing_by
  · rename_i hpair
    have hle := Node.countAll_pair_le hpair
    have hlt := node.countAll_agreeing_lt
    simp only [Node.countAll_cons] at hle ⊢
    omega
  · rename_i hother
    have hle := Node.count_le_countAll hother
    have hlt := node.countAll_negating_lt
    rw [Node.countAll_append] at hle
    simp only [Node.countAll_cons, Option.toList_none, Node.countAll_nil]
    omega
  · rename_i hpair
    have hle := Node.countAll_pair_le hpair
    have hlt := node.countAll_openChildren_lt
    simp only [Node.countAll_cons] at hle ⊢
    omega

theorem flatMap_attach {α β : Type} (f : α → List β) (items : List α) :
    (items.attach.flatMap fun item => f item.1) = items.flatMap f := by
  rw [← List.flatMap_map, List.attach_map_subtype_val]

/-- A node with a condition asks, and so do the siblings below it; the other side of the condition
does not ask for it again. -/
theorem asking_wrapped {node : Node} (hguard : node.guard?.isSome) (partner : Option Node) :
    asking true node partner =
      node :: (pairUp Node.opposes node.agreeing).flatMap (fun pair => asking true pair.1 pair.2) ++
        (node.negating ++ partner.toList).flatMap fun other => asking false other none := by
  rw [asking, if_pos ⟨rfl, hguard⟩,
    flatMap_attach (fun pair : Node × Option Node => asking true pair.1 pair.2),
    flatMap_attach (fun other => asking false other none)]

/-- A node without a condition, or whose condition has been asked for, leaves the asking to its
children. -/
theorem asking_open {wrapped : Bool} {node : Node} (h : ¬(wrapped = true ∧ node.guard?.isSome))
    (partner : Option Node) :
    asking wrapped node partner =
      (pairUp Node.opposes node.openChildren).flatMap fun pair => asking true pair.1 pair.2 := by
  rw [asking, if_neg h, flatMap_attach (fun pair : Node × Option Node => asking true pair.1 pair.2)]

/-! ## The conditions of a plan -/

section

variable (depth : Nat)

/-- Plans in a row ask one after the other. -/
theorem conditionsOf_append (first second : Plan) :
    conditionsOf depth (first ++ second) =
      conditionsOf depth first ++ conditionsOf depth second := by
  rw [conditionsOf, eventsOf_append, List.filterMap_append]
  rfl

theorem conditionsOf_enter (id : String) (plan : Plan) :
    conditionsOf depth (.enter id :: plan) = conditionsOf depth plan := rfl

/-- A step asks before the steps behind it. -/
theorem conditionsOf_cons (step : Step) (plan : Plan) :
    conditionsOf depth (step :: plan) =
      (step.events depth).filterMap Event.condition? ++ conditionsOf depth plan := by
  rw [conditionsOf, eventsOf, List.filterMap_append]
  rfl

/-- A last step asks for its own conditions. -/
theorem conditionsOf_singleton (step : Step) :
    conditionsOf depth [step] = (step.events depth).filterMap Event.condition? := by
  rw [conditionsOf_cons]
  exact List.append_nil _

/-- Plans for a list of items ask item by item. -/
theorem conditionsOf_flatMap {α : Type} (f : α → Plan) (items : List α) :
    conditionsOf depth (items.flatMap f) =
      items.flatMap fun item => conditionsOf depth (f item) := by
  induction items with
  | nil => rfl
  | cons item items ih => rw [List.flatMap_cons, conditionsOf_append, ih, List.flatMap_cons]

/-- A task asks for nothing. -/
theorem conditionsOf_taskPlan (node : Node) : conditionsOf depth (taskPlan node) = [] := by
  unfold taskPlan
  cases node.task? <;> rfl

/-- Siblings ask pair by pair. -/
theorem conditionsOf_siblings (nodes : List Node) :
    conditionsOf depth (Outline.siblings (nodes.map outline)) =
      (pairUp Node.opposes nodes).flatMap fun pair =>
        conditionsOf depth ((outline pair.1).place (pair.2.map outline)) := by
  rw [siblings_outline, conditionsOf_flatMap]
  refine List.flatMap_congr fun pair _ => ?_
  obtain ⟨head, partner⟩ := pair
  cases partner <;> rfl

/-- The children of a node that is taken without its condition ask pair by pair. -/
theorem conditionsOf_bare (node : Node) :
    conditionsOf depth (outline node).bare =
      (pairUp Node.opposes node.openChildren).flatMap fun pair =>
        conditionsOf depth ((outline pair.1).place (pair.2.map outline)) := by
  rw [outline_bare, conditionsOf_enter, conditionsOf_append, conditionsOf_taskPlan, List.nil_append,
    conditionsOf_siblings]

/-- A node with a condition asks for it, then its children and its partner have their turn. -/
theorem conditionsOf_place {node : Node} {condition : String}
    (hguard : node.guard? = some condition) (partner : Option Node) :
    conditionsOf depth ((outline node).place (partner.map outline)) =
      condition :: (pairUp Node.opposes node.agreeing).flatMap (fun pair =>
          conditionsOf (depth + 1) ((outline pair.1).place (pair.2.map outline))) ++
        (node.negating ++ partner.toList).flatMap fun other =>
          conditionsOf (depth + 1) (outline other).bare := by
  have hyes : conditionsOf (depth + 1) (outline node).yes =
      (pairUp Node.opposes node.agreeing).flatMap fun pair =>
        conditionsOf (depth + 1) ((outline pair.1).place (pair.2.map outline)) := by
    rw [(outline_sides node).1, conditionsOf_append, conditionsOf_taskPlan, List.nil_append,
      conditionsOf_siblings]
  have hno : conditionsOf (depth + 1) (otherSide node partner) =
      (node.negating ++ partner.toList).flatMap fun other =>
        conditionsOf (depth + 1) (outline other).bare := by
    rw [otherSide, List.flatMap_map, conditionsOf_flatMap]
  rw [place_guarded hguard, ← hyes, ← hno, conditionsOf_enter, conditionsOf_singleton]
  by_cases hnone : node.negating ++ partner.toList = []
  · rw [if_pos hnone, conditions_guarded, otherSide, hnone]
    exact (List.append_nil _).symm
  · rw [if_neg hnone, conditions_either, List.cons_append]

end

/-- **A plan asks for the conditions of the nodes that ask**, in the same order. -/
theorem conditionsOf_asking (wrapped : Bool) (node : Node) (partner : Option Node) :
    ∀ depth : Nat,
      (conditionsOf depth (if wrapped then (outline node).place (partner.map outline)
        else (outline node).bare)).map some = (asking wrapped node partner).map Node.guard? := by
  induction wrapped, node, partner using asking.induct with
  | case1 wrapped node partner h ihpairs ihothers =>
      intro depth
      obtain ⟨rfl, hsome⟩ := h
      obtain ⟨condition, hguard⟩ := Option.isSome_iff_exists.mp hsome
      rw [if_pos rfl, conditionsOf_place depth hguard, asking_wrapped hsome]
      simp only [List.map_cons, List.map_append, List.cons_append, List.map_flatMap, hguard]
      congr 2
      · exact List.flatMap_congr fun pair hpair => ihpairs pair hpair (depth + 1)
      · exact List.flatMap_congr fun other hother => ihothers other hother (depth + 1)
  | case2 wrapped node partner h ihpairs =>
      intro depth
      have hbare : (if wrapped then (outline node).place (partner.map outline)
          else (outline node).bare) = (outline node).bare := by
        by_cases hwrapped : wrapped = true
        · have hguard : node.guard? = none := by
            rw [← Option.not_isSome_iff_eq_none]
            exact fun hsome => h ⟨hwrapped, hsome⟩
          rw [if_pos hwrapped, place_unguarded hguard]
        · rw [if_neg hwrapped]
      rw [hbare, conditionsOf_bare, asking_open h, List.map_flatMap, List.map_flatMap]
      exact List.flatMap_congr fun pair hpair => ihpairs pair hpair depth

/-- The conditions of the plan of a tree are those of the nodes that ask. -/
theorem conditionsOf_plan (root : Node) :
    conditionsOf 0 (plan root) = (asking true root none).filterMap Node.guard? := by
  have hasked : (conditionsOf 0 (plan root)).map some = (asking true root none).map Node.guard? :=
    conditionsOf_asking true root none 0
  rw [← Function.id_comp Node.guard?, ← List.filterMap_map, ← hasked, List.filterMap_map]
  exact List.filterMap_some.symm

/-- **Only live nodes ask.** -/
theorem asking_live (wrapped : Bool) (node : Node) (partner : Option Node) :
    ∀ other ∈ asking wrapped node partner, ∃ top ∈ node :: partner.toList, other ∈ top.live := by
  induction wrapped, node, partner using asking.induct with
  | case1 wrapped node partner h ihpairs ihothers =>
      obtain ⟨rfl, hsome⟩ := h
      intro other hother
      rw [asking_wrapped hsome, List.cons_append, List.mem_cons, List.mem_append] at hother
      rcases hother with rfl | hother | hother
      · exact ⟨other, List.mem_cons_self, other.mem_live⟩
      · obtain ⟨pair, hpair, hother⟩ := List.mem_flatMap.mp hother
        obtain ⟨child, hchild, hlive⟩ := ihpairs pair hpair other hother
        have hmem := List.mem_of_mem_filter (mem_of_mem_pairUp hpair hchild)
        exact ⟨node, List.mem_cons_self, Node.mem_live_of_child hmem hlive⟩
      · obtain ⟨bare, hbare, hother⟩ := List.mem_flatMap.mp hother
        obtain ⟨top, htop, hlive⟩ := ihothers bare hbare other hother
        rw [Option.toList_none, List.mem_singleton] at htop
        subst htop
        rcases List.mem_append.mp hbare with hbare | hbare
        · have hmem := List.mem_of_mem_filter hbare
          exact ⟨node, List.mem_cons_self, Node.mem_live_of_child hmem hlive⟩
        · exact ⟨top, List.mem_cons_of_mem _ hbare, hlive⟩
  | case2 wrapped node partner h ihpairs =>
      intro other hother
      rw [asking_open h] at hother
      obtain ⟨pair, hpair, hother⟩ := List.mem_flatMap.mp hother
      obtain ⟨child, hchild, hlive⟩ := ihpairs pair hpair other hother
      have hmem := mem_of_mem_pairUp hpair hchild
      exact ⟨node, List.mem_cons_self, Node.mem_live_of_child hmem hlive⟩

/-! ## The tests in the code -/

/-- Only a condition leads to a test. -/
theorem emit_test (env : Env) (event : Event) (b : Builder) :
    ((event.emit env).run b).1.filter (fun code => code.shape == .test) =
      event.condition?.toList.map fun condition =>
        .branch ((testOf env.lookup condition).run b).1.1
          ((testOf env.lookup condition).run b).1.2 := by
  cases hcondition : event.condition? with
  | none =>
      refine List.filter_eq_nil_iff.mpr fun code hcode => ?_
      have hplain := emit_isPlain env event hcondition b code hcode
      cases code with
      | remark r => cases r <;> simp [Code.shape, Remark.shape]
      | queue activity => simp [Code.shape]
      | _ => cases hplain
  | some condition =>
      cases event with
      | decide asked => cases hcondition; rfl
      | _ => cases hcondition

/-- What is known about subjects stays right at every event. -/
theorem met_faithful (env : Env) (events : List Event) :
    ∀ b : Builder, b.Faithful env.lookup → ∀ m ∈ met env b events, m.2.Faithful env.lookup := by
  induction events with
  | nil => intro b _ m hm; cases hm
  | cons event events ih =>
      intro b hb m hm
      rcases List.mem_cons.mp hm with rfl | hm
      · exact hb
      · exact ih _ (emit_writes env hb event).2 m hm

/-- The conditions that a plan asks for, each with the builder as it is then. -/
def questions (env : Env) (plan : Plan) (b : Builder) : List (String × Builder) :=
  (met env b (eventsOf 0 plan)).filterMap fun m => m.1.condition?.map (·, m.2)

/-- The line by which a condition is asked for. -/
def testLine (lookup : Lookup) (condition : String) (b : Builder) : String :=
  Text.singleLine (Code.branch ((testOf lookup condition).run b).1.1
    ((testOf lookup condition).run b).1.2).text

/-- The questions are about the conditions of the plan, in order. -/
theorem questions_conditions (env : Env) (plan : Plan) (b : Builder) :
    (questions env plan b).map (·.1) = conditionsOf 0 plan := by
  rw [questions, conditionsOf, List.map_filterMap]
  nth_rewrite 2 [← map_fst_met env b (eventsOf 0 plan)]
  rw [List.filterMap_map]
  refine List.filterMap_congr fun m _ => ?_
  cases hcondition : m.1.condition? <;> simp [hcondition]

/-- Whenever a question comes up, the answers kept so far are those of the lookup. -/
theorem questions_faithful (env : Env) (plan : Plan) {b : Builder} (hb : b.Faithful env.lookup) :
    ∀ question ∈ questions env plan b, question.2.Faithful env.lookup := by
  intro question hquestion
  obtain ⟨m, hm, hquestion⟩ := List.mem_filterMap.mp hquestion
  obtain ⟨condition, -, rfl⟩ := Option.map_eq_some_iff.mp hquestion
  exact met_faithful env _ b hb m hm

/-- The tests are those of the conditions that are asked for. -/
theorem test_texts (env : Env) (plan : Plan) (b : Builder) :
    ((statements ((lowerAll env 0 plan).run b).1).map (·.text)).filter (fun text =>
        shapeOf text == .test) =
      (questions env plan b).map fun question => testLine env.lookup question.1 question.2 := by
  have hmet := texts_of_events env 0 plan b (· == .test) (by decide)
  simp only [emit_test] at hmet
  rw [hmet, questions, List.map_filterMap, List.filterMap_eq_flatMap_toList]
  refine List.flatMap_congr fun m _ => ?_
  cases m.1.condition? <;> rfl

/-- The line asks for the condition of the node. -/
def AsksFor (lookup : Lookup) (node : Node) (line : String) : Prop :=
  ∃ condition b, node.guard? = some condition ∧ Builder.Faithful lookup b ∧
    line = testLine lookup condition b

/-- **The tests in the code are those of the nodes that ask**, one for each and in this order. -/
theorem test_lines (lookup : Lookup) (options : HookOptions) (root : Node) :
    List.Forall₂ (AsksFor lookup) (asking true root none)
      (((statements (lowered lookup options root).1).map (·.text)).filter fun text =>
        shapeOf text == .test) := by
  let env : Env := ⟨lookup, options.nodeComments⟩
  let start : Builder := { fields := initialFields options }
  have htexts : ((statements (lowered lookup options root).1).map (·.text)).filter (fun text =>
      shapeOf text == .test) = (questions env (plan root) start).map fun question =>
        testLine lookup question.1 question.2 :=
    test_texts env (plan root) start
  have hasked : (asking true root none).map Node.guard? =
      (questions env (plan root) start).map fun question => some question.1 := by
    rw [← conditionsOf_asking true root none 0]
    change (conditionsOf 0 (plan root)).map some = _
    rw [← questions_conditions env (plan root) start, List.map_map]
    rfl
  have hstart : start.Faithful lookup := fun entry hentry => by cases hentry
  have hfaithful := questions_faithful env (plan root) hstart
  rw [htexts, List.forall₂_map_right_iff]
  rw [← List.forall₂_eq_eq_eq, List.forall₂_map_left_iff, List.forall₂_map_right_iff] at hasked
  refine ((List.forall₂_and_left _ _).mpr ⟨hfaithful, hasked.flip⟩).flip.imp ?_
  rintro node question ⟨hknown, hguard⟩
  exact ⟨question.1, question.2, hguard, hknown, rfl⟩

end Hook

end BehaviorTraits
