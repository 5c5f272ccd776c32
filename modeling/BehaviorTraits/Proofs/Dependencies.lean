import BehaviorTraits.Proofs.Ascending
import BehaviorTraits.Proofs.AskedConditions
import BehaviorTraits.Proofs.FileAgreement

/-!
# The traits that the code needs

Lowering gathers the traits that an actor must carry on the way, one insertion at a time, from tests
and from activities.  Here they are read off the tree: `conditionNeeds` says what the condition of a
node asks for, `actionNeeds` what the action of a leaf does.

One event adds what its own text needs (`emit_needs`), so a tree needs what its events need
(`lowered_needs`).
-/

namespace BehaviorTraits

namespace Hook

open Build Event Text

/-! ## What texts need -/

/-- The traits that a condition needs: that of the capability its subject names, otherwise that of
health if it is about health. -/
def conditionNeeds (lookup : Lookup) (raw : String) : List String :=
  let subject := (Condition.parse raw).subject
  match lookup subject with
  | some record => [record.dependency]
  | none => if eqIgnoringAsciiCase subject "Health" then ["Health"] else []

/-- The traits that an action needs. -/
def actionNeeds (raw : String) : List String :=
  match (Action.parse raw).kind with
  | .attack => ["Armament", "AttackBase", "AutoTarget"]
  | .move => ["Mobile"]
  | .wait | .unmapped => []

/-- What an event gives, if it is its condition or its action that gives it. -/
def Event.fromText {α : Type} (ofCondition ofAction : String → List α) : Event → List α
  | decide condition => ofCondition condition
  | perform _ action _ => ofAction action
  | enter _ _ | merge _ _ => []

/-- The traits that an event needs. -/
def Event.needs (lookup : Lookup) : Event → List String :=
  fromText (conditionNeeds lookup) actionNeeds

/-! ## What lowering gathers -/

/-- Looking up a subject adds no need; it is the test that does. -/
theorem resolve_needs (lookup : Lookup) (subject : String) (b : Builder) :
    ((resolve lookup subject).run b).2.needs = b.needs := by
  rw [run_resolve]
  cases b.resolved.lookup subject <;> rfl

/-- A condition adds what it needs. -/
theorem testOf_needs {lookup : Lookup} {b : Builder} (hb : b.Faithful lookup) (raw : String) :
    ((testOf lookup raw).run b).2.needs = gather b.needs (conditionNeeds lookup raw) := by
  rw [testOf_eq]
  unfold testAbout conditionNeeds
  generalize Condition.parse raw = condition
  dsimp only
  rw [run_bind, (resolve_faithful hb condition.subject).1,
    ← resolve_needs lookup condition.subject b]
  generalize ((resolve lookup condition.subject).run b).2 = known
  cases lookup condition.subject with
  | some record => rfl
  | none =>
      rw [Subject.ofLookup]
      by_cases hhealth : eqIgnoringAsciiCase condition.subject "Health" = true
      · obtain ⟨fields, hframe⟩ := thresholdOf_frame raw
          (condition.comparison.getD (.less, "")).2
          { known with needs := insertSorted "Health" known.needs }
        rw [if_pos hhealth, if_pos hhealth]
        simp only [run_bind, run_pure, run_need, hframe]
        rfl
      · rw [if_neg hhealth, if_neg hhealth]
        split_ifs <;> rfl

/-- An action adds what it needs. -/
theorem codeOf_needs (raw : String) (b : Builder) :
    ((codeOf raw).run b).2.needs = gather b.needs (actionNeeds raw) := by
  unfold codeOf actionNeeds
  dsimp only
  cases (Action.parse raw).kind with
  | wait =>
      obtain ⟨fields, hframe⟩ := ticksOf_frame (Action.parse raw).args b
      simp only [run_bind, run_pure, hframe]
      rfl
  | attack => rfl
  | move =>
      simp only [run_bind]
      cases Action.target? (Action.parse raw).rawArgs <;> rfl
  | unmapped => rfl

/-- The comment about dropped children needs no trait. -/
theorem droppedMark_needs (id : String) (dropped : Nat) (b : Builder) :
    ((droppedMark id dropped).run b).2.needs = b.needs := by
  unfold droppedMark
  split <;> rfl

/-- **An event adds what its text needs**, and nothing else. -/
theorem emit_needs (env : Env) {b : Builder} (hb : b.Faithful env.lookup) (event : Event) :
    ((event.emit env).run b).2.needs = gather b.needs (event.needs env.lookup) := by
  cases event with
  | enter id depth => rfl
  | merge head partner => rfl
  | decide condition =>
      rw [run_emit_decide]
      exact testOf_needs hb condition
  | perform id action dropped =>
      rw [run_emit_perform, droppedMark_needs]
      exact codeOf_needs action b

/-- Events add what their texts need. -/
theorem emitAll_needs (env : Env) (events : List Event) : ∀ b : Builder, b.Faithful env.lookup →
    ((emitAll env events).run b).2.needs =
      gather b.needs (events.flatMap (Event.needs env.lookup)) := by
  induction events with
  | nil => exact fun b _ => rfl
  | cons event events ih =>
      intro b hb
      rw [run_emitAll_cons, ih _ (emit_writes env hb event).2, emit_needs env hb, List.flatMap_cons,
        gather_append]

/-- A tree needs what the events of its plan need. -/
theorem lowered_needs (lookup : Lookup) (options : HookOptions) (root : Node) :
    (lowered lookup options root).2.needs =
      gather [] ((eventsOf 0 (plan root)).flatMap (Event.needs lookup)) := by
  rw [lowered_builder]
  exact emitAll_needs ⟨lookup, options.nodeComments⟩ (eventsOf 0 (plan root))
    { fields := initialFields options } fun entry hentry => by cases hentry

/-! ## Back to the tree -/

section

variable {α : Type} (ofCondition ofAction : String → List α)

/-- Events give what their conditions and their tasks give. -/
theorem mem_flatMap_fromText (events : List Event) (a : α) :
    a ∈ events.flatMap (fromText ofCondition ofAction) ↔
      (∃ condition ∈ events.filterMap condition?, a ∈ ofCondition condition) ∨
        ∃ task ∈ events.filterMap Event.task?, a ∈ ofAction task.2 := by
  induction events with
  | nil => simp
  | cons event events ih =>
      rw [List.flatMap_cons, List.mem_append, ih]
      cases event with
      | enter id depth => simp [fromText, condition?, Event.task?]
      | merge head partner => simp [fromText, condition?, Event.task?]
      | decide condition =>
          simp only [fromText, condition?, Event.task?, List.filterMap_cons,
            List.exists_mem_cons_iff, or_assoc]
      | perform id action dropped =>
          simp only [fromText, condition?, Event.task?, List.filterMap_cons,
            List.exists_mem_cons_iff, or_left_comm]

end

/-- The conditions of the plan are those of the nodes that ask. -/
theorem mem_conditionsOf_plan (root : Node) (condition : String) :
    condition ∈ conditionsOf 0 (plan root) ↔
      ∃ node ∈ asking true root none, node.guard? = some condition := by
  rw [conditionsOf_plan, List.mem_filterMap]

/-- The tasks of the plan of a tree are those of the live leaves. -/
theorem mem_tasks_plan (root : Node) (task : String × String) :
    task ∈ (eventsOf 0 (plan root)).filterMap Event.task? ↔
      ∃ node ∈ root.live, node.named? = some task := by
  have htasks := (plan_marks root).filterMap Mark.task?
  rw [task_of_liveMarks, task_of_marks] at htasks
  rw [htasks.mem_iff, List.mem_filterMap]

/-- **What a tree gives**, if it is conditions and actions that give it: what the conditions of the
nodes that ask give, and the actions of the live leaves. -/
theorem mem_plan_fromText {α : Type} (ofCondition ofAction : String → List α) (root : Node)
    (a : α) :
    a ∈ (eventsOf 0 (plan root)).flatMap (fromText ofCondition ofAction) ↔
      (∃ node ∈ asking true root none, ∃ condition, node.guard? = some condition ∧
        a ∈ ofCondition condition) ∨
      ∃ node ∈ root.live, ∃ action, node.task? = some action ∧ a ∈ ofAction action := by
  rw [mem_flatMap_fromText]
  apply or_congr
  · constructor
    · rintro ⟨condition, hcondition, ha⟩
      obtain ⟨node, hnode, hguard⟩ := (mem_conditionsOf_plan root condition).mp hcondition
      exact ⟨node, hnode, condition, hguard, ha⟩
    · rintro ⟨node, hnode, condition, hguard, ha⟩
      exact ⟨condition, (mem_conditionsOf_plan root condition).mpr ⟨node, hnode, hguard⟩, ha⟩
  · constructor
    · rintro ⟨task, htask, ha⟩
      obtain ⟨node, hnode, hnamed⟩ := (mem_tasks_plan root task).mp htask
      obtain ⟨action, haction, rfl⟩ := Option.map_eq_some_iff.mp hnamed
      exact ⟨node, hnode, action, haction, ha⟩
    · rintro ⟨node, hnode, action, haction, ha⟩
      refine ⟨(node.id, action), (mem_tasks_plan root _).mpr ⟨node, hnode, ?_⟩, ha⟩
      rw [Node.named?, haction]
      rfl

/-- **A trait needs what its code asks for.**  The tests in the code are those of the nodes that
ask, one for each, and these are live.  The traits needed are those that the conditions of these
nodes and the actions of live leaves need, each of them once and in ascending order. -/
theorem needs_of_code (table : CapabilityTable) {options : HookOptions} {root : Node}
    {name : String} {t : Trait} (ht : synthesize table.getFolded? options root name = .ok t) :
    asking true root none ⊆ root.live ∧
    List.Forall₂ (AsksFor table.getFolded?) (asking true root none)
      (((statements (lowered table.getFolded? options root).1).map (·.text)).filter fun text =>
        shapeOf text == .test) ∧
    t.needs.Pairwise (· < ·) ∧
    ∀ trait, trait ∈ t.needs ↔
      (∃ node ∈ asking true root none, ∃ condition, node.guard? = some condition ∧
        trait ∈ conditionNeeds table.getFolded? condition) ∨
      (∃ node ∈ root.live, ∃ action, node.task? = some action ∧ trait ∈ actionNeeds action) := by
  obtain ⟨-, htrait⟩ := synthesize_eq_ok ht
  have hneeds : t.needs = gather []
      ((eventsOf 0 (plan root)).flatMap (Event.needs table.getFolded?)) := by
    rw [htrait, ← lowered_needs table.getFolded? options root]
    rfl
  refine ⟨?_, test_lines table.getFolded? options root, ?_, fun trait => ?_⟩
  · intro node hnode
    obtain ⟨top, htop, hlive⟩ := asking_live true root none node hnode
    rw [Option.toList_none, List.mem_singleton] at htop
    exact htop ▸ hlive
  · rw [hneeds]
    exact ascending_gather List.Pairwise.nil _
  · rw [hneeds, mem_gather, or_iff_right List.not_mem_nil, Event.needs, mem_plan_fromText]

/-- A leaf under a condition; its child is never reached. -/
def radarPost : Node :=
  { id := "post", condition := some "RADAR", action := some "Attack"
    children := [{ id := "lost", action := some "Move(1, 2)" }] }

theorem needs_of_code_radarPost :
    let table := CapabilityTable.ofRecords [⟨"Radar", "Power"⟩]
    ∃ t, synthesize table.getFolded? {} radarPost "guard" = .ok t ∧
      "Power" ∈ t.needs ∧ "AutoTarget" ∈ t.needs ∧ "Mobile" ∉ t.needs := by
  intro table
  have hname : className "guard" = .ok "Guard" := rfl
  have ht : synthesize table.getFolded? {} radarPost "guard" =
      .ok (traitOf table.getFolded? {} radarPost "Guard") := by
    rw [synthesize_eq, hname]
    rfl
  obtain ⟨hsubset, -, -, hneeds⟩ := needs_of_code table ht
  have hguard : radarPost.guard? = some "RADAR" := by decide
  have htask : radarPost.task? = some "Attack" := by decide
  have hlive : radarPost.live = [radarPost] := rfl
  have hasks : radarPost ∈ asking true radarPost none := by
    rw [asking_wrapped (by decide)]
    exact List.mem_cons_self
  have hcondition : conditionNeeds table.getFolded? "RADAR" = ["Power"] := by decide
  have haction : actionNeeds "Attack" = ["Armament", "AttackBase", "AutoTarget"] := by decide
  refine ⟨_, ht, ?_, ?_, ?_⟩
  · refine (hneeds "Power").mpr (.inl ⟨radarPost, hasks, "RADAR", hguard, ?_⟩)
    rw [hcondition]
    decide
  · refine (hneeds "AutoTarget").mpr (.inr ⟨radarPost, ?_, "Attack", htask, ?_⟩)
    · rw [hlive]
      exact List.mem_cons_self
    · rw [haction]
      decide
  · intro hmobile
    rcases (hneeds "Mobile").mp hmobile with ⟨node, hnode, condition, hnode', hneed⟩ |
      ⟨node, hnode, action, hnode', hneed⟩
    · have hnode := hsubset hnode
      rw [hlive, List.mem_singleton] at hnode
      rw [hnode, hguard, Option.some_inj] at hnode'
      rw [← hnode', hcondition] at hneed
      exact absurd hneed (by decide)
    · rw [hlive, List.mem_singleton] at hnode
      rw [hnode, htask, Option.some_inj] at hnode'
      rw [← hnode', haction] at hneed
      exact absurd hneed (by decide)

end Hook

end BehaviorTraits
