import BehaviorTraits.Proofs.LoweredLines
import BehaviorTraits.Proofs.Outline

/-!
# Merged siblings

Siblings with opposed conditions share one branch.  Here the actions that run are compared with
those of the siblings when each of them is lowered alone.  A truth assignment gives a verdict to
each condition text, and opposite verdicts to opposed texts; it decides the tests of the code.

* `ran_eq_performed`: what executing the code of a plan carries out can be read off the plan.
* `merged_siblings_actions`: each head runs what it runs alone.  A partner runs, if its condition
  holds, all that it runs without its condition.  So nothing changes as long as no partner has a
  child that opposes it.
* `opposed_grandchild_is_lost`: with such a child the actions differ.
-/

namespace BehaviorTraits

namespace Condition

/-! ## Truth assignments -/

/-- The assignment gives opposite verdicts to opposed texts. -/
def Opposing (τ : String → Bool) : Prop := ∀ a b, opposed a b = true → τ b = !τ a

theorem length_trimStartChars_le (cs : List Char) :
    (Text.trimStartChars cs).length ≤ cs.length :=
  (List.dropWhile_sublist _).length_le

/-- Trimming makes no text longer. -/
theorem length_trimChars_le (cs : List Char) : (Text.trimChars cs).length ≤ cs.length := by
  have hend : (Text.trimChars cs).length ≤ (Text.trimStartChars cs).reverse.length := by
    rw [Text.trimChars, Text.trimEndChars, List.length_reverse]
    exact (List.dropWhile_sublist _).length_le
  rw [List.length_reverse] at hend
  exact Nat.le_trans hend (length_trimStartChars_le cs)

/-- Taking a negation mark off makes a text shorter. -/
theorem withoutMark?_length {cs rest : List Char} (h : withoutMark? cs = some rest) :
    rest.length < cs.length := by
  have hstart := length_trimStartChars_le cs
  unfold withoutMark? at h
  split at h
  · rename_i tail htail
    split at h
    · cases h
    · cases h
      have := length_trimChars_le tail
      rw [htail, List.length_cons] at hstart
      omega
  · rename_i tail _ htail
    split at h
    · cases h
      have := length_trimChars_le tail
      rw [htail] at hstart
      simp only [List.length_cons] at hstart
      omega
    · cases h
  · cases h

/-- Facts decide the texts without negation mark, and a mark turns the verdict round. -/
def truth (facts : List Char → Bool) (cs : List Char) : Bool :=
  match _hmark : withoutMark? cs with
  | some rest => !truth facts rest
  | none => facts cs
termination_by cs.length
decreasing_by exact withoutMark?_length _hmark

/-- The assignment that facts give rise to. -/
def assignment (facts : List Char → Bool) (raw : String) : Bool :=
  truth facts (Text.trimChars raw.toList)

/-- A negation mark turns the verdict round. -/
theorem truth_of_mark {facts : List Char → Bool} {cs rest : List Char}
    (h : withoutMark? cs = some rest) : truth facts cs = !truth facts rest := by
  rw [truth]
  split
  · rename_i rest' h'
    rw [h] at h'
    cases h'
    rfl
  · rename_i h'
    rw [h] at h'
    cases h'

/-- Without a mark, the facts decide. -/
theorem truth_of_no_mark {facts : List Char → Bool} {cs : List Char}
    (h : withoutMark? cs = none) : truth facts cs = facts cs := by
  rw [truth]
  split
  · rename_i h'
    rw [h] at h'
    cases h'
  · rfl

/-- **Facts decide opposed conditions in opposite ways**, however many marks there are. -/
theorem assignment_opposing (facts : List Char → Bool) : Opposing (assignment facts) := by
  intro a b h
  simp only [opposed, Bool.and_eq_true, Bool.or_eq_true, beq_iff_eq] at h
  rcases h.2 with h | h
  · rw [assignment, assignment, truth_of_mark h, Bool.not_not]
  · rw [assignment, assignment, truth_of_mark h]

end Condition

namespace Hook

open Event

/-! ## The actions of a plan -/

mutual

/-- The leaves whose actions a step carries out, each with its action. -/
def Step.performed (τ : String → Bool) : Step → List (String × String)
  | .enter _ | .merge _ _ => []
  | .perform id action _ => [(id, action)]
  | .guarded condition yes => if τ condition then performed τ yes else []
  | .either condition yes no => if τ condition then performed τ yes else performed τ no

/-- The leaves whose actions a plan carries out, each with its action. -/
def performed (τ : String → Bool) : Plan → List (String × String)
  | [] => []
  | step :: rest => step.performed τ ++ performed τ rest

end

/-- The conditions of a plan, one for each test in its code. -/
def conditionsOf (depth : Nat) (plan : Plan) : List String :=
  (eventsOf depth plan).filterMap condition?

/-- The leaves of a plan with their actions, one for each line of code that stands for an action. -/
def tasksOf (depth : Nat) (plan : Plan) : List (String × String) :=
  (eventsOf depth plan).filterMap task?

/-- The leaves whose actions are carried out by executing the code of a plan, if the assignment
decides its tests. -/
def ran (τ : String → Bool) (env : Env) (depth : Nat) (plan : Plan) (b : Builder) :
    List (String × String) :=
  let verdicts := fun n => ((conditionsOf depth plan)[n]?.map τ).getD false
  let body := statements ((lowerAll env depth plan).run b).1
  (execute verdicts body).filterMap fun reached => (tasksOf depth plan)[reached.1]?

/-- From `n` on, the values of `f` are those of the list. -/
def Lists {α : Type} (f : Nat → α) (n : Nat) (xs : List α) : Prop :=
  ∀ i x, xs[i]? = some x → f (n + i) = x

/-- The values begin with those of the first part. -/
theorem Lists.left {α : Type} {f : Nat → α} {n : Nat} {xs ys : List α}
    (h : Lists f n (xs ++ ys)) : Lists f n xs := by
  intro i x hx
  refine h i x ?_
  rw [List.getElem?_append_left (List.getElem?_eq_some_iff.mp hx).1, hx]

/-- Past the first part, the values are those of the second. -/
theorem Lists.right {α : Type} {f : Nat → α} {n : Nat} {xs ys : List α}
    (h : Lists f n (xs ++ ys)) : Lists f (n + xs.length) ys := by
  intro i x hx
  rw [Nat.add_assoc]
  refine h (xs.length + i) x ?_
  rw [List.getElem?_append_right (Nat.le_add_right _ _), Nat.add_sub_cancel_left, hx]

/-- The first value is the head of the list. -/
theorem Lists.head {α : Type} {f : Nat → α} {n : Nat} {x : α} {xs : List α}
    (h : Lists f n (x :: xs)) : f n = x :=
  h 0 x rfl

/-- The other values are its tail, one further on. -/
theorem Lists.tail {α : Type} {f : Nat → α} {n : Nat} {x : α} {xs : List α}
    (h : Lists f n (x :: xs)) : Lists f (n + 1) xs :=
  Lists.right (show Lists f n ([x] ++ xs) from h)

/-- Executing the lines that `m` writes carries out `done`, if the assignment decides their tests
and the lines that stand for an action stand for these tasks. -/
def Performs (τ : String → Bool) (m : Build (List Line)) (conditions : List String)
    (tasks done : List (String × String)) : Prop :=
  ∀ (verdicts : Nat → Bool) (labels : Nat → Option (String × String)) (t k : Nat) (b : Builder),
    Lists verdicts t (conditions.map τ) → Lists labels k (tasks.map some) →
    ∃ out,
      Effect verdicts (statements (m.run b).1) t k (t + conditions.length) (k + tasks.length) out ∧
      out.filterMap (fun reached => labels reached.1) = done

section

variable {τ : String → Bool} {env : Env}

/-- What a step performs comes before what the steps behind it perform. -/
theorem Performs.cons {depth : Nat} {step : Step} {rest : Plan}
    (hstep : Performs τ (lower env depth step) ((step.events depth).filterMap condition?)
      ((step.events depth).filterMap task?) (step.performed τ))
    (hrest : Performs τ (lowerAll env depth rest) (conditionsOf depth rest) (tasksOf depth rest)
      (performed τ rest)) :
    Performs τ (lowerAll env depth (step :: rest)) (conditionsOf depth (step :: rest))
      (tasksOf depth (step :: rest)) (performed τ (step :: rest)) := by
  intro verdicts labels t k b hverdicts hlabels
  rw [conditionsOf, eventsOf, List.filterMap_append, ← conditionsOf] at hverdicts ⊢
  rw [tasksOf, eventsOf, List.filterMap_append, ← tasksOf] at hlabels ⊢
  rw [List.map_append] at hverdicts hlabels
  obtain ⟨out, heffect, hout⟩ := hstep verdicts labels t k b hverdicts.left hlabels.left
  have hverdicts' := hverdicts.right
  have hlabels' := hlabels.right
  rw [List.length_map] at hverdicts' hlabels'
  obtain ⟨out', heffect', hout'⟩ := hrest verdicts labels _ _ _ hverdicts' hlabels'
  refine ⟨out ++ out', ?_, ?_⟩
  · rw [run_lowerAll_cons, statements_append, List.length_append, List.length_append,
      ← Nat.add_assoc, ← Nat.add_assoc]
    exact heffect.append heffect'
  · rw [List.filterMap_append, hout, hout', performed]

theorem conditions_guarded (depth : Nat) (condition : String) (yes : Plan) :
    ((Step.guarded condition yes).events depth).filterMap condition? =
      condition :: conditionsOf (depth + 1) yes := rfl

/-- A test with two sides asks before both of them. -/
theorem conditions_either (depth : Nat) (condition : String) (yes no : Plan) :
    ((Step.either condition yes no).events depth).filterMap condition? =
      condition :: (conditionsOf (depth + 1) yes ++ conditionsOf (depth + 1) no) := by
  simp [Step.events, condition?, conditionsOf]

theorem tasks_either (depth : Nat) (condition : String) (yes no : Plan) :
    ((Step.either condition yes no).events depth).filterMap task? =
      tasksOf (depth + 1) yes ++ tasksOf (depth + 1) no :=
  List.filterMap_append

/-- **The code of a plan carries out what the plan says.** -/
theorem lowerAll_performs (τ : String → Bool) (env : Env) (plan : Plan) : ∀ depth : Nat,
    Performs τ (lowerAll env depth plan) (conditionsOf depth plan) (tasksOf depth plan)
      (performed τ plan) := by
  induction plan using Plan.induct with
  | nil => exact fun depth verdicts labels t k b _ _ => ⟨[], .nil, rfl⟩
  | enter id rest ih =>
      intro depth
      refine Performs.cons (fun verdicts labels t k b _ _ => ?_) (ih depth)
      exact ⟨[], effect_nodeMark env depth id, rfl⟩
  | merge head partner rest ih =>
      intro depth
      exact Performs.cons (fun verdicts labels t k b _ _ => ⟨[], .nil, rfl⟩) (ih depth)
  | perform id action dropped rest ih =>
      intro depth
      refine Performs.cons (fun verdicts labels t k b _ hlabels => ?_) (ih depth)
      obtain ⟨text, heffect, _⟩ := effect_perform (t := t) (k := k) env depth id action dropped b
      refine ⟨[(k, text)], heffect, ?_⟩
      have hlabel : labels k = some (id, action) := hlabels.head
      simp [hlabel, Step.performed]
  | guarded condition yes rest ihyes ih =>
      intro depth
      refine Performs.cons (fun verdicts labels t k b hverdicts hlabels => ?_) (ih depth)
      obtain ⟨out, heffect, hout⟩ := ihyes (depth + 1) verdicts labels (t + 1) k
        ((testOf env.lookup condition).run b).2 hverdicts.tail hlabels
      have hverdict : verdicts t = τ condition := hverdicts.head
      refine ⟨if verdicts t then out else [], ?_, ?_⟩
      · rw [conditions_guarded, List.length_cons, Nat.add_comm _ 1, ← Nat.add_assoc]
        exact effect_guarded heffect
      · rw [Step.performed, hverdict]
        split
        · exact hout
        · rfl
  | either condition yes no rest ihyes ihno ih =>
      intro depth
      refine Performs.cons (fun verdicts labels t k b hverdicts hlabels => ?_) (ih depth)
      rw [conditions_either] at hverdicts ⊢
      rw [tasks_either] at hlabels ⊢
      rw [List.map_cons, List.map_append] at hverdicts
      rw [List.map_append] at hlabels
      obtain ⟨out, heffect, hout⟩ := ihyes (depth + 1) verdicts labels (t + 1) k
        ((testOf env.lookup condition).run b).2 hverdicts.tail.left hlabels.left
      have hverdicts' := hverdicts.tail.right
      have hlabels' := hlabels.right
      rw [List.length_map] at hverdicts' hlabels'
      obtain ⟨out', heffect', hout'⟩ := ihno (depth + 1) verdicts labels _ _ _ hverdicts' hlabels'
      have hverdict : verdicts t = τ condition := hverdicts.head
      refine ⟨if verdicts t then out else out', ?_, ?_⟩
      · rw [List.length_cons, List.length_append, List.length_append, Nat.add_comm (_ + _) 1,
          ← Nat.add_assoc, ← Nat.add_assoc, ← Nat.add_assoc]
        exact effect_either heffect heffect'
      · rw [Step.performed, hverdict]
        split
        · exact hout
        · exact hout'

end

/-- **What executing the code of a plan carries out can be read off the plan.** -/
theorem ran_eq_performed (τ : String → Bool) (env : Env) (depth : Nat) (plan : Plan)
    (b : Builder) : ran τ env depth plan b = performed τ plan := by
  let verdicts := fun n : Nat => ((conditionsOf depth plan)[n]?.map τ).getD false
  let labels := fun n : Nat => (tasksOf depth plan)[n]?
  have hverdicts : Lists verdicts 0 ((conditionsOf depth plan).map τ) := by
    intro i v hv
    rw [List.getElem?_map] at hv
    rw [Nat.zero_add]
    exact congrArg (·.getD false) hv
  have hlabels : Lists labels 0 ((tasksOf depth plan).map some) := by
    intro i task htask
    rw [List.getElem?_map, Option.map_eq_some_iff] at htask
    obtain ⟨_, htask, rfl⟩ := htask
    rw [Nat.zero_add]
    exact htask
  obtain ⟨out, heffect, hout⟩ :=
    lowerAll_performs τ env plan depth verdicts labels 0 0 b hverdicts hlabels
  rw [← hout, ← heffect.execute_eq]
  rfl

/-! ## The actions of siblings -/

section

variable {τ : String → Bool}

/-- Plans in a row perform one after the other. -/
theorem performed_append (first second : Plan) :
    performed τ (first ++ second) = performed τ first ++ performed τ second := by
  induction first with
  | nil => rfl
  | cons step rest ih => rw [List.cons_append, performed, ih, performed, List.append_assoc]

theorem performed_flatMap {α : Type} (f : α → Plan) (items : List α) :
    performed τ (items.flatMap f) = items.flatMap fun item => performed τ (f item) := by
  induction items with
  | nil => rfl
  | cons item items ih => rw [List.flatMap_cons, performed_append, ih, List.flatMap_cons]

/-- A node with a condition runs one of its sides. -/
theorem performed_place {node : Node} {condition : String}
    (hguard : node.guard? = some condition) (partner : Option Node) :
    performed τ ((outline node).place (partner.map outline)) =
      if τ condition then performed τ (outline node).yes
      else performed τ (otherSide node partner) := by
  rw [place_guarded hguard]
  split
  · rename_i hnone
    simp [performed, Step.performed, otherSide, hnone]
  · simp [performed, Step.performed]

/-- Does the condition of the node hold? -/
def holds (τ : String → Bool) (node : Node) : Bool := node.guard?.all τ

/-- **A pair of siblings.**  The head runs what it runs alone, and the partner, if its condition
holds, what it runs without it. -/
theorem performed_pair (hτ : Condition.Opposing τ) {head partner : Node}
    (hopposes : head.opposes partner = true) :
    performed τ (Outline.placePair (outline head, some (outline partner))) =
      performed τ (plan head) ++
        if holds τ partner then performed τ (outline partner).bare else [] := by
  rw [Node.opposes] at hopposes
  split at hopposes
  · rename_i c d hhead hpartner
    have hverdict : holds τ partner = !τ c := by
      rw [holds, hpartner]
      exact hτ c d hopposes
    have hother : otherSide head (some partner) =
        otherSide head none ++ (outline partner).bare := by
      simp [otherSide]
    have hmerged := performed_place (τ := τ) hhead (some partner)
    have halone := performed_place (τ := τ) hhead none
    rw [Outline.placePair, performed, Step.performed, List.nil_append, plan]
    rw [Option.map_some] at hmerged
    rw [Option.map_none] at halone
    rw [hmerged, halone, hverdict, hother, performed_append]
    cases τ c <;> simp
  · cases hopposes

/-- A node that none of its children opposes runs, if its condition holds, all it has. -/
theorem performed_plan_of_no_negating {node : Node} (hnegating : node.negating = []) :
    performed τ (plan node) = if holds τ node then performed τ (outline node).bare else [] := by
  cases hguard : node.guard? with
  | none => simp [plan, place_unguarded hguard, holds, hguard]
  | some condition =>
      have hagreeing : node.agreeing = node.openChildren := by
        rw [Node.agreeing, List.filter_eq_self]
        intro child hchild
        rw [Node.negating, List.filter_eq_nil_iff] at hnegating
        simp [hnegating child hchild]
      have halone := performed_place (τ := τ) hguard none
      rw [Option.map_none] at halone
      rw [plan, halone, otherSide, hnegating, holds, hguard, (outline_sides node).1, hagreeing,
        outline_bare, performed, Step.performed]
      rfl

end

/-- **What merged siblings run.**  Each head of a pair, and each sibling without a partner, runs
what it runs when it is lowered alone; a partner runs, if its condition holds, what it runs without
its condition.  As long as no partner has a child that opposes it, the siblings run the same actions
as when each of them is lowered alone. -/
theorem merged_siblings_actions (τ : String → Bool) (hτ : Condition.Opposing τ) (env : Env)
    (depth : Nat) (nodes : List Node) (b : Builder) (start : Node → Builder) :
    let pairs := pairUp Node.opposes nodes
    let merged := ran τ env depth (Outline.siblings (outlines nodes)) b
    let alone := fun node => ran τ env depth (plan node) (start node)
    let bare := fun node => ran τ env (depth + 1) (outline node).bare (start node)
    merged = pairs.flatMap (fun pair => alone pair.1 ++
      pair.2.toList.flatMap fun partner => if holds τ partner then bare partner else []) ∧
    ((∀ head partner, (head, some partner) ∈ pairs → partner.negating = []) →
      merged.Perm (nodes.flatMap alone)) := by
  intro pairs merged alone bare
  have hmerged : merged = pairs.flatMap (fun pair => alone pair.1 ++
      pair.2.toList.flatMap fun partner => if holds τ partner then bare partner else []) := by
    simp only [merged, alone, bare, ran_eq_performed]
    rw [outlines_eq_map, siblings_outline, performed_flatMap]
    refine List.flatMap_congr fun pair hpair => ?_
    obtain ⟨head, partner⟩ := pair
    cases partner with
    | none => simp [mapPair, Outline.placePair, plan]
    | some partner =>
        simpa [mapPair] using performed_pair hτ (pairUp_opposes hpair)
  refine ⟨hmerged, fun hnone => ?_⟩
  have hpairs : merged = (members pairs).flatMap alone := by
    rw [hmerged, members, List.flatMap_assoc]
    refine List.flatMap_congr fun pair hpair => ?_
    obtain ⟨head, partner⟩ := pair
    cases partner with
    | none => simp
    | some partner =>
        have hpartner := performed_plan_of_no_negating (τ := τ) (hnone head partner hpair)
        simp only [alone, bare, ran_eq_performed, Option.toList_some, List.flatMap_cons,
          List.flatMap_nil, List.append_nil, hpartner]
  rw [hpairs]
  exact (members_pairUp Node.opposes nodes).flatMap_right alone

/-- On alarm, attack. -/
def hunt : Node := { id := "hunt", condition := some "Alarm", action := some "Attack" }

def pause : Node := { id := "pause", action := some "Wait(1)" }

/-- Without alarm, do as the child says. -/
def patrol (child : Node) : Node :=
  { id := "patrol", condition := some "!Alarm", children := [child] }

theorem merged_siblings_actions_patrol :
    let τ := Condition.assignment fun _ => false
    let nodes := [hunt, patrol pause]
    (∀ head partner, (head, some partner) ∈ pairUp Node.opposes nodes →
      partner.negating = []) ∧
    (ran τ ⟨fun _ => none, true⟩ 0 (Outline.siblings (outlines nodes)) ⟨[], [], [], []⟩).Perm
      (nodes.flatMap fun node => ran τ ⟨fun _ => none, true⟩ 0 (plan node) ⟨[], [], [], []⟩) := by
  intro τ nodes
  have hpairs : pairUp Node.opposes nodes = [(hunt, some (patrol pause))] := rfl
  have hnone : ∀ head partner, (head, some partner) ∈ pairUp Node.opposes nodes →
      partner.negating = [] := by
    intro head partner hmem
    rw [hpairs, List.mem_singleton] at hmem
    cases hmem
    rfl
  exact ⟨hnone, (merged_siblings_actions τ (Condition.assignment_opposing _) _ 0 nodes _
    fun _ => ⟨[], [], [], []⟩).2 hnone⟩

/-- **A child that opposes a merged partner is lost.**  On alarm, a patrol that pauses on alarm
would pause if it were lowered alone.  Merged with the hunt it does not: its child is asked for the
alarm on the side where there is none. -/
theorem opposed_grandchild_is_lost :
    let τ := Condition.assignment fun _ => true
    let nodes := [hunt, patrol (pause.withCondition "Alarm")]
    Condition.Opposing τ ∧
    ¬ (ran τ ⟨fun _ => none, true⟩ 0 (Outline.siblings (outlines nodes)) ⟨[], [], [], []⟩).Perm
      (nodes.flatMap fun node => ran τ ⟨fun _ => none, true⟩ 0 (plan node) ⟨[], [], [], []⟩) := by
  intro τ nodes
  have hopposing : Condition.Opposing τ := Condition.assignment_opposing _
  have halarm : τ "Alarm" = true := Condition.truth_of_no_mark (by decide)
  have hcalm : τ "!Alarm" = false := by
    rw [hopposing "Alarm" "!Alarm" (by decide), halarm]
    rfl
  refine ⟨hopposing, fun hperm => ?_⟩
  have hmerged : performed τ (Outline.siblings (outlines nodes)) = [("hunt", "Attack")] := by
    change (if τ "Alarm" then [("hunt", "Attack")] else _) ++ [] = _
    rw [if_pos halarm]
    rfl
  have hhunt : performed τ (plan hunt) = [("hunt", "Attack")] := by
    change (if τ "Alarm" then [("hunt", "Attack")] else []) ++ [] = _
    rw [if_pos halarm]
    rfl
  have hpatrol : performed τ (plan (patrol (pause.withCondition "Alarm"))) =
      [("pause", "Wait(1)")] := by
    change (if τ "!Alarm" then [] else [("pause", "Wait(1)")]) ++ [] = _
    rw [if_neg (by simp [hcalm])]
    rfl
  have halone : (nodes.flatMap fun node => performed τ (plan node)) =
      [("hunt", "Attack"), ("pause", "Wait(1)")] := by
    simp [nodes, hhunt, hpatrol]
  simp only [ran_eq_performed] at hperm
  rw [hmerged, halone] at hperm
  exact absurd hperm.length_eq (by decide)

end Hook

end BehaviorTraits
