import BehaviorTraits.Proofs.Findings
import BehaviorTraits.Synthesis

/-!
# Dropped children

The children of a leaf are never lowered; a comment in the code says how many.  Validation knows
nothing of lowering and lists every leaf that has children.  The two agree on the leaves that
lowering reaches:

* `note_lines`: the comments are those of the live leaves with children, one for each;
* `lowered_enters`: lowering logs each live node once.

So when validation finds no leaf with children, nothing is left out of the code.
-/

namespace BehaviorTraits

/-- The children that the finding counts, and the node that they belong to. -/
def Issue.ambiguous? (i : Issue) : Option (Nat × String) :=
  match i.finding with
  | .ambiguousLeaf children => some (children, i.nodeId)
  | _ => none

namespace Node

/-- The number of children of a leaf that has some, and its id. -/
def ambiguous? (n : Node) : Option (Nat × String) :=
  if n.isLeaf && !n.children.isEmpty then some (n.children.length, n.id) else none

/-- Validation finds a leaf with children, and says so once. -/
theorem issues_ambiguous (n : Node) :
    n.issues.filterMap Issue.ambiguous? = n.ambiguous?.toList := by
  have hother : ∀ (p : Prop) [Decidable p] (f : Finding), Issue.ambiguous? ⟨n.id, f⟩ = none →
      ((if p then [f] else []).map (Issue.mk n.id)).filterMap Issue.ambiguous? = [] := by
    intro p _ f hf
    split
    · exact List.filterMap_cons_none hf
    · rfl
  have hleaf : ((if n.isLeaf && !n.children.isEmpty then [Finding.ambiguousLeaf n.children.length]
      else []).map (Issue.mk n.id)).filterMap Issue.ambiguous? = n.ambiguous?.toList := by
    rw [ambiguous?]
    split <;> rfl
  rw [issues, findings]
  cases n.guard? with
  | none =>
      simp only [List.map_append, List.filterMap_append, hleaf, hother _ .missingId rfl,
        hother _ .deadEnd rfl, List.nil_append, List.append_nil]
  | some condition =>
      simp only [List.map_append, List.filterMap_append, hleaf, hother _ .missingId rfl,
        hother _ .deadEnd rfl, hother _ (.unusableCondition condition) rfl, List.nil_append,
        List.append_nil]

/-- The findings of a report, each with whether a leaf stands above its node. -/
def flagged (n : Node) : List (Issue × Bool) :=
  (n.preorder false).flatMap fun place => place.1.issues.map (·, place.2)

/-- Each flagged finding is a finding, and none is left out. -/
theorem map_fst_flagged (n : Node) : n.flagged.map (·.1) = n.validate.issues := by
  rw [validate_eq, flagged, List.map_flatMap, nodes, List.flatMap_map]
  refine List.flatMap_congr fun place _ => ?_
  rw [List.map_map]
  exact List.map_id _

/-- The leaves with children that no leaf stands above are the live ones. -/
theorem flagged_ambiguous (n : Node) :
    (n.flagged.filter (!·.2)).filterMap (·.1.ambiguous?) = n.live.filterMap ambiguous? := by
  have hplace : ∀ place : Node × Bool,
      ((place.1.issues.map (·, place.2)).filter (!·.2)).filterMap (·.1.ambiguous?) =
        if place.2 then [] else place.1.ambiguous?.toList := by
    rintro ⟨m, below⟩
    cases below with
    | false =>
        have hall : ((m.issues.map (·, false)).filter (!·.2)) = m.issues.map (·, false) :=
          List.filter_eq_self.mpr (by simp)
        rw [hall, List.filterMap_map, ← issues_ambiguous]
        rfl
    | true =>
        have hnone : ((m.issues.map (·, true)).filter (!·.2)) = [] :=
          List.filter_eq_nil_iff.mpr (by simp)
        rw [hnone]
        rfl
  rw [← live_preorder, flagged, List.filter_flatMap, List.filterMap_flatMap, List.filterMap_map,
    List.filterMap_filter, List.filterMap_eq_flatMap_toList]
  refine List.flatMap_congr fun place _ => ?_
  rw [hplace]
  cases place.2 <;> rfl

end Node

namespace Hook

open Build Event

/-! ## Comments on dropped children -/

/-- The children that an event leaves out, and the leaf that they belong to. -/
def omitted (id : String) (dropped : Nat) : Option (Nat × String) :=
  if dropped = 0 then none else some (dropped, id)

def Event.omitted? : Event → Option (Nat × String)
  | perform id _ dropped => omitted id dropped
  | _ => none

def Mark.omitted? : Mark → Option (Nat × String)
  | node _ => none
  | task id _ dropped => omitted id dropped

/-- The line about the children of a leaf. -/
def noteLine (dropped : Nat × String) : String :=
  Text.singleLine (Remark.dropped dropped.1 dropped.2).text

/-- Only a leaf with children leads to the comment about them. -/
theorem emit_droppedMark (env : Env) (event : Event) (b : Builder) :
    ((event.emit env).run b).1.filter (fun code => code.shape == .droppedMark) =
      event.omitted?.toList.map fun dropped => .remark (.dropped dropped.1 dropped.2) := by
  cases event with
  | enter id depth =>
      change (nodeMark env.comments id).filter _ = []
      rw [nodeMark]
      split <;> rfl
  | merge head partner => rfl
  | decide condition => rfl
  | perform id action dropped =>
      have haction : ((codeOf action).run b).1.filter (fun code => code.shape == .droppedMark) =
          [] := by
        refine List.filter_eq_nil_iff.mpr fun code hcode hshape => ?_
        have hline := codeOf_ofAction action b code hcode
        rw [beq_iff_eq.mp hshape] at hline
        cases hline
      rw [run_emit_perform, List.filter_append, haction, List.nil_append, droppedMark_code,
        Event.omitted?, omitted]
      split <;> rfl

/-- The comments about children are those of the events that leave some out. -/
theorem note_texts (env : Env) (plan : Plan) (b : Builder) :
    ((statements ((lowerAll env 0 plan).run b).1).map (·.text)).filter (fun text =>
        shapeOf text == .droppedMark) =
      ((eventsOf 0 plan).filterMap Event.omitted?).map noteLine := by
  have hmet := texts_of_events env 0 plan b (· == .droppedMark) (by decide)
  simp only [emit_droppedMark] at hmet
  rw [hmet, List.filterMap_eq_flatMap_toList, List.map_flatMap]
  nth_rewrite 2 [← map_fst_met env b (eventsOf 0 plan)]
  rw [List.flatMap_map]
  refine List.flatMap_congr fun m _ => ?_
  rw [List.map_map]
  rfl

/-- The marks of a plan tell what its events drop. -/
theorem omitted_of_marks (plan : Plan) :
    (marks 0 plan).filterMap Mark.omitted? = (eventsOf 0 plan).filterMap Event.omitted? := by
  rw [marks, List.filterMap_filterMap]
  refine List.filterMap_congr fun event _ => ?_
  cases event <;> rfl

/-- The marks of the live nodes tell which of them are leaves with children. -/
theorem omitted_of_liveMarks (n : Node) :
    (liveMarks n).filterMap Mark.omitted? = n.live.filterMap Node.ambiguous? := by
  have hnode : ∀ n : Node, (nodeMarks n).filterMap Mark.omitted? = n.ambiguous?.toList := by
    intro n
    rw [nodeMarks, Node.ambiguous?, Node.isLeaf]
    cases n.task? with
    | none => rfl
    | some action =>
        cases n.children with
        | nil => rfl
        | cons child children => rfl
  rw [liveMarks, List.filterMap_flatMap, List.filterMap_eq_flatMap_toList]
  simp only [hnode]

/-- **The comments on dropped children are those of live leaves with children.** -/
theorem note_lines (lookup : Lookup) (options : HookOptions) (root : Node) :
    (((statements (lowered lookup options root).1).map (·.text)).filter fun text =>
        shapeOf text == .droppedMark).Perm
      ((root.live.filterMap Node.ambiguous?).map noteLine) := by
  have htexts := note_texts ⟨lookup, options.nodeComments⟩ (plan root)
    { fields := initialFields options }
  have hmarks := (plan_marks root).filterMap Mark.omitted?
  rw [omitted_of_marks, omitted_of_liveMarks] at hmarks
  exact (List.Perm.of_eq htexts).trans (hmarks.map noteLine)

/-! ## Nodes in the log -/

/-- The node that a record says is lowered. -/
def entered? : LogEvent → Option String
  | .lowering id _ => some id
  | _ => none

/-- The nodes that the log says are lowered. -/
def Builder.entered (b : Builder) : List String := b.log.filterMap entered?

/-- A record of anything else enters no node. -/
theorem entered_record {e : LogEvent} (he : entered? e = none) (b : Builder) :
    ((record e).run b).2.entered = b.entered := by
  change (b.log ++ [e]).filterMap entered? = _
  rw [List.filterMap_append, List.filterMap_cons_none he, List.filterMap_nil, List.append_nil]
  rfl

/-- Looking up a subject enters no node. -/
theorem resolve_entered (lookup : Lookup) (subject : String) (b : Builder) :
    ((resolve lookup subject).run b).2.entered = b.entered := by
  rw [run_resolve]
  cases b.resolved.lookup subject with
  | some known => rfl
  | none => exact entered_record rfl b

/-- A note is not about entering a node. -/
theorem entered_note (e : LogEvent) (he : isNote e = true) : entered? e = none := by
  cases e with
  | lowering id depth => cases he
  | _ => rfl

/-- A condition enters no node. -/
theorem testOf_entered (lookup : Lookup) (raw : String) (b : Builder) :
    ((testOf lookup raw).run b).2.entered = b.entered :=
  ((Framed.testOf lookup raw b).filterMap_log entered_note).trans (resolve_entered lookup _ b)

/-- **An event logs the node that it enters**, and no other. -/
theorem emit_entered (env : Env) (event : Event) (b : Builder) :
    ((event.emit env).run b).2.entered = b.entered ++ (event.mark?.bind Mark.node?).toList := by
  cases event with
  | enter id depth => exact List.filterMap_append
  | merge head partner =>
      rw [run_emit_merge]
      exact (entered_record rfl b).trans (List.append_nil _).symm
  | decide condition =>
      rw [run_emit_decide]
      exact (testOf_entered env.lookup condition b).trans (List.append_nil _).symm
  | perform id action dropped =>
      rw [run_emit_perform]
      have hmark := (Framed.droppedMark id dropped ((codeOf action).run b).2).filterMap_log
        entered_note
      have hcode := (Framed.codeOf action b).filterMap_log entered_note
      exact (hmark.trans hcode).trans (List.append_nil _).symm

/-- **Events enter the nodes that they mark**, in order. -/
theorem emitAll_entered (env : Env) (events : List Event) (b : Builder) :
    ((emitAll env events).run b).2.entered =
      b.entered ++ (events.filterMap mark?).filterMap Mark.node? := by
  induction events generalizing b with
  | nil => exact (List.append_nil _).symm
  | cons event events ih =>
      rw [run_emitAll_cons, ih, emit_entered, List.append_assoc, List.filterMap_filterMap,
        List.filterMap_filterMap, List.filterMap_eq_flatMap_toList,
        List.filterMap_eq_flatMap_toList, List.flatMap_cons]

/-- **Lowering logs each live node once.** -/
theorem lowered_enters (lookup : Lookup) (options : HookOptions) (root : Node) :
    (lowered lookup options root).2.entered.Perm (root.live.map (·.id)) := by
  have hentered := emitAll_entered ⟨lookup, options.nodeComments⟩ (eventsOf 0 (plan root))
    { fields := initialFields options }
  rw [← lowered_builder] at hentered
  have hmarks := (plan_marks root).filterMap Mark.node?
  rw [node_of_liveMarks] at hmarks
  exact (List.Perm.of_eq hentered).trans hmarks

/-! ## Validation and lowering -/

/-- Without a finding on them, no leaf has children. -/
theorem ambiguous_eq_none {root : Node}
    (h : ∀ issue ∈ root.validate.issues, issue.ambiguous? = none) :
    ∀ n ∈ root.nodes, n.ambiguous? = none := by
  intro n hn
  have hissues : n.issues.filterMap Issue.ambiguous? = [] := by
    refine List.filterMap_eq_nil_iff.mpr fun issue hissue => h issue ?_
    rw [Node.validate_eq]
    exact List.mem_flatMap.mpr ⟨n, hn, hissue⟩
  rw [Node.issues_ambiguous, Option.toList_eq_nil_iff] at hissues
  exact hissues

/-- **What validation flags is what lowering drops.**  The comments on dropped children correspond
to the findings of leaves with children that no other leaf stands above, one to one.  If there are
no such findings at all, as in a valid tree, there is no such comment, and each of the nodes of the
tree is lowered once. -/
theorem flagged_leaves_drop_children (lookup : Lookup) (options : HookOptions) (root : Node) :
    let env : Env := ⟨lookup, options.nodeComments⟩
    let notes := ((statements (lowered lookup options root).1).map (·.text)).filter fun text =>
      shapeOf text == .droppedMark
    root.flagged.map (·.1) = root.validate.issues ∧
    notes.Perm (((root.flagged.filter (!·.2)).filterMap (·.1.ambiguous?)).map noteLine) ∧
    (root.validate.isValid = true → ∀ issue ∈ root.validate.issues, issue.ambiguous? = none) ∧
    ((∀ issue ∈ root.validate.issues, issue.ambiguous? = none) →
      notes = [] ∧ root.nodes.length = root.count ∧
        (lowered lookup options root).2.entered.Perm (root.nodes.map (·.id)) ∧
        ((calls env (plan root) { fields := initialFields options }).map (·.1)).Perm
          (root.nodes.filterMap Node.named?)) := by
  intro env notes
  have hnotes := note_lines lookup options root
  refine ⟨root.map_fst_flagged, ?_, fun hvalid => ?_, fun hnone => ?_⟩
  · rw [Node.flagged_ambiguous]
    exact hnotes
  · rw [List.isEmpty_iff.mp hvalid]
    intro issue hissue
    cases hissue
  · have hall := ambiguous_eq_none hnone
    have hlive : root.live = root.nodes := by
      refine Node.live_eq_nodes fun n hn hleaf => ?_
      have hn := hall n hn
      rw [Node.ambiguous?, hleaf, Bool.true_and] at hn
      by_contra hchildren
      rw [if_pos (by simpa using hchildren)] at hn
      cases hn
    have hquiet : root.live.filterMap Node.ambiguous? = [] := by
      rw [hlive]
      exact List.filterMap_eq_nil_iff.mpr hall
    have htasks := (plan_marks root).filterMap Mark.task?
    rw [task_of_liveMarks, task_of_marks, hlive] at htasks
    rw [hquiet, List.map_nil] at hnotes
    refine ⟨hnotes.eq_nil, root.length_nodes, ?_, ?_⟩
    · rw [← hlive]
      exact lowered_enters lookup options root
    · rw [calls_tasks]
      exact htasks

/-- A leaf with a leaf below it, both of them with children. -/
def camp : Node :=
  { id := "camp", action := some "Attack"
    children := [{ id := "tent", action := some "Wait"
                   children := [{ id := "bed", action := some "Wait(3)" }] }] }

/-- A tree that validation has nothing to say about. -/
def march : Node :=
  { id := "march"
    children := [{ id := "north", condition := some "Night", action := some "Move(1, 2)" },
      { id := "south", condition := some "!Night", action := some "Wait" }] }

theorem flagged_leaves_drop_children_camp :
    let notes := fun root => ((statements (lowered (fun _ => none) {} root).1).map (·.text)).filter
      fun text => shapeOf text == .droppedMark
    camp.validate.issues = [⟨"camp", .ambiguousLeaf 1⟩, ⟨"tent", .ambiguousLeaf 1⟩] ∧
    notes camp = [noteLine (1, "camp")] ∧
    march.validate.isValid = true ∧ notes march = [] ∧
    (lowered (fun _ => none) {} march).2.entered.Perm ["march", "north", "south"] := by
  intro notes
  have hcamp : (camp.flagged.filter (!·.2)).filterMap (·.1.ambiguous?) = [(1, "camp")] := by decide
  have hvalid : march.validate.isValid = true := by decide
  have hnodes : march.nodes.map (·.id) = ["march", "north", "south"] := by decide
  obtain ⟨-, hnotes, -, -⟩ := flagged_leaves_drop_children (fun _ => none) {} camp
  obtain ⟨-, -, hnone, hclean⟩ := flagged_leaves_drop_children (fun _ => none) {} march
  obtain ⟨hquiet, -, hentered, -⟩ := hclean (hnone hvalid)
  rw [hcamp] at hnotes
  rw [hnodes] at hentered
  exact ⟨by decide, List.perm_singleton.mp hnotes, hvalid, hquiet, hentered⟩

end Hook

end BehaviorTraits
