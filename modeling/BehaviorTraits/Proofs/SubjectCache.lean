import BehaviorTraits.Proofs.AskedConditions
import BehaviorTraits.Proofs.FileAgreement
import BehaviorTraits.Proofs.FirstSeen

/-!
# Subjects are looked up once

The builder keeps the answer to each subject that it has looked up, found or not, and looks there
before it asks again.  This has no effect on what comes out: in every builder that can be reached
the answers kept are those of the lookup (`Reached.faithful`).

It has an effect on what is asked.  An event that asks for a condition adds its subject to those
that have been looked up, unless it is there (`emit_subjects`).  So in the end these are the
subjects of the conditions in the code, each where it is first met, and the log says the same
(`lowered_subjects`).

The calls themselves are counted with a lookup that notes each subject it is asked for (`noting`).
The program that asks it is the one that runs without notes, and what it has noted is what the
builder has come to keep (`Counts`), step by step and so for a whole synthesis
(`synthesizeM_counts`).  What the lookup answers to anything else does not matter
(`lowered_congr`).
-/

namespace BehaviorTraits

namespace Hook

open Build Event

/-! ## Builders that are reached -/

/-- The builders that its operations lead to, from one that a synthesis starts with. -/
inductive Reached (lookup : Lookup) : Builder → Prop
  | start (options : HookOptions) : Reached lookup { fields := initialFields options }
  | record (e : LogEvent) {b : Builder} (hb : Reached lookup b) :
      Reached lookup ((record e).run b).2
  | need (traitName : String) {b : Builder} (hb : Reached lookup b) :
      Reached lookup ((need traitName).run b).2
  | field (raw type default description : String) {b : Builder} (hb : Reached lookup b) :
      Reached lookup ((field raw type default description).run b).2
  | resolve (subject : String) {b : Builder} (hb : Reached lookup b) :
      Reached lookup ((resolve lookup subject).run b).2

/-- **The answers kept are those of the lookup.** -/
theorem Reached.faithful {lookup : Lookup} {b : Builder} (h : Reached lookup b) :
    b.Faithful lookup := by
  induction h with
  | start options =>
      intro entry hentry
      cases hentry
  | record e _ ih => exact ih
  | need traitName _ ih => exact ih
  | field raw type default description _ ih => exact ih
  | resolve subject _ ih => exact (resolve_faithful ih subject).2.2

/-- The computation leads from builders that are reached to such builders. -/
def Stays (lookup : Lookup) {α : Type} (m : Build α) : Prop :=
  ∀ b : Builder, Reached lookup b → Reached lookup (m.run b).2

/-- The operations of the builder lead to builders that are reached, lookups apart. -/
theorem Stays.composed (lookup : Lookup) : Composed (@Stays lookup) where
  pure _ _ hb := hb
  bind hm hf b hb := hf _ _ (hm b hb)
  record e _ hb := .record e hb
  need traitName _ hb := .need traitName hb
  field raw type default description _ hb := .field raw type default description hb

/-- **An event leads to a builder that is reached**, lookups included. -/
theorem Stays.emit (env : Env) (event : Event) : Stays env.lookup (event.emit env) := by
  have hcomposed := Stays.composed env.lookup
  cases event with
  | enter id depth => exact hcomposed.bind (hcomposed.record _) fun _ => hcomposed.pure _
  | merge head partner => exact hcomposed.bind (hcomposed.record _) fun _ => hcomposed.pure _
  | decide condition =>
      refine hcomposed.bind (hcomposed.testOf condition ?_) fun _ => hcomposed.pure _
      exact fun _ hb => .resolve _ hb
  | perform id action dropped =>
      exact hcomposed.bind (hcomposed.codeOf action) fun _ =>
        hcomposed.bind (hcomposed.droppedMark id dropped) fun _ => hcomposed.pure _

/-- The builders that lowering a tree goes through: one before each event of its plan, and the one
that it leaves. -/
def passed (lookup : Lookup) (options : HookOptions) (root : Node) : List Builder :=
  (met ⟨lookup, options.nodeComments⟩ { fields := initialFields options }
    (eventsOf 0 (plan root))).map (·.2) ++ [(lowered lookup options root).2]

/-- Events lead to builders that are reached, and each of them meets one. -/
theorem reached_met (env : Env) (events : List Event) : ∀ b : Builder, Reached env.lookup b →
    (∀ m ∈ met env b events, Reached env.lookup m.2) ∧
      Reached env.lookup ((emitAll env events).run b).2 := by
  induction events with
  | nil =>
      intro b hb
      exact ⟨by simp [met], hb⟩
  | cons event events ih =>
      intro b hb
      have hnext := Stays.emit env event b hb
      obtain ⟨hmet, hlast⟩ := ih _ hnext
      exact ⟨List.forall_mem_cons.mpr ⟨hb, hmet⟩, hlast⟩

/-- **Lowering goes through builders that are reached.** -/
theorem passed_reached (lookup : Lookup) (options : HookOptions) (root : Node) :
    ∀ b ∈ passed lookup options root, Reached lookup b := by
  obtain ⟨hmet, hlast⟩ := reached_met ⟨lookup, options.nodeComments⟩ (eventsOf 0 (plan root)) _
    (.start options)
  intro b hb
  rcases List.mem_append.mp hb with hb | hb
  · obtain ⟨m, hm, rfl⟩ := List.mem_map.mp hb
    exact hmet m hm
  · rw [List.mem_singleton.mp hb, lowered_builder]
    exact hlast

/-! ## What is looked up -/

/-- The subject that a record says is looked up. -/
def resolving? : LogEvent → Option String
  | .resolving subject => some subject
  | _ => none

/-- The subjects that the log says have been looked up. -/
def Builder.lookedUp (b : Builder) : List String := b.log.filterMap resolving?

/-- The subjects whose answers are kept. -/
def Builder.subjects (b : Builder) : List String := b.resolved.map (·.1)

/-- A note is not about a lookup. -/
theorem resolving_note (e : LogEvent) (he : isNote e = true) : resolving? e = none := by
  cases e with
  | resolving subject => cases he
  | _ => rfl

/-- Notes say nothing of lookups. -/
theorem Framed.lookups {b after : Builder} (h : Framed b after) :
    after.subjects = b.subjects ∧ after.lookedUp = b.lookedUp := by
  rw [Builder.subjects, h.resolved]
  exact ⟨rfl, h.filterMap_log resolving_note⟩

/-- A subject is known just if an answer to it is kept. -/
theorem mem_subjects (b : Builder) (subject : String) :
    subject ∈ b.subjects ↔ (b.resolved.lookup subject).isSome = true := by
  simp only [List.lookup_isSome_iff, Builder.subjects, List.mem_map, beq_iff_eq]
  exact exists_congr fun _ => and_congr_right' eq_comm

/-- A subject is added if it has not been looked up, and then the log says so. -/
theorem resolve_subjects (lookup : Lookup) (subject : String) (b : Builder) :
    ((resolve lookup subject).run b).2.subjects = addNew id b.subjects subject ∧
      (b.lookedUp = b.subjects → ((resolve lookup subject).run b).2.lookedUp =
        ((resolve lookup subject).run b).2.subjects) := by
  have hmem := mem_subjects b subject
  rw [run_resolve, addNew_id]
  cases hknown : b.resolved.lookup subject with
  | some known =>
      rw [hknown] at hmem
      rw [if_pos (hmem.mpr rfl)]
      exact ⟨rfl, fun h => h⟩
  | none =>
      rw [hknown] at hmem
      rw [if_neg fun h => Bool.false_ne_true (hmem.mp h)]
      refine ⟨List.map_append, fun h => ?_⟩
      unfold Builder.lookedUp Builder.subjects at h ⊢
      rw [List.filterMap_append, List.map_append, h]
      rfl

/-- The subject that an event asks for. -/
def Event.subject? (event : Event) : Option String :=
  event.condition?.map fun condition => (Condition.parse condition).subject

/-- **An event looks up the subject that it asks for**, unless that has been done. -/
theorem emit_subjects (env : Env) (event : Event) (b : Builder) :
    ((event.emit env).run b).2.subjects = event.subject?.toList.foldl (addNew id) b.subjects ∧
      (b.lookedUp = b.subjects →
        ((event.emit env).run b).2.lookedUp = ((event.emit env).run b).2.subjects) := by
  cases event with
  | enter id depth =>
      refine ⟨rfl, fun h => ?_⟩
      rw [Builder.lookedUp, run_emit_enter, List.filterMap_append]
      exact (List.append_nil _).trans h
  | merge head partner =>
      refine ⟨rfl, fun h => ?_⟩
      rw [Builder.lookedUp, run_emit_merge, List.filterMap_append]
      exact (List.append_nil _).trans h
  | decide condition =>
      obtain ⟨hsubjects, hlookedUp⟩ := (Framed.testOf env.lookup condition b).lookups
      rw [run_emit_decide, hsubjects, hlookedUp]
      exact resolve_subjects env.lookup (Condition.parse condition).subject b
  | perform id action dropped =>
      obtain ⟨hcode, hcode'⟩ := (Framed.codeOf action b).lookups
      obtain ⟨hmark, hmark'⟩ := (Framed.droppedMark id dropped ((codeOf action).run b).2).lookups
      rw [run_emit_perform, hmark, hmark', hcode, hcode']
      exact ⟨rfl, fun h => h⟩

/-- Events look up their subjects one after the other. -/
theorem emitAll_subjects (env : Env) (events : List Event) : ∀ b : Builder,
    ((emitAll env events).run b).2.subjects =
        (events.filterMap Event.subject?).foldl (addNew id) b.subjects ∧
      (b.lookedUp = b.subjects →
        ((emitAll env events).run b).2.lookedUp = ((emitAll env events).run b).2.subjects) := by
  induction events with
  | nil =>
      intro b
      exact ⟨rfl, fun h => h⟩
  | cons event events ih =>
      intro b
      obtain ⟨hsubjects, hlookedUp⟩ := emit_subjects env event b
      obtain ⟨hrest, hrest'⟩ := ih ((event.emit env).run b).2
      rw [run_emitAll_cons]
      refine ⟨?_, fun h => hrest' (hlookedUp h)⟩
      rw [hrest, hsubjects, ← List.foldl_append]
      cases hevent : event.subject? with
      | none => rw [List.filterMap_cons_none hevent]; rfl
      | some subject => rw [List.filterMap_cons_some hevent]; rfl

/-- The subjects of the conditions that a tree asks for, in the order in which it does. -/
def askedSubjects (root : Node) : List String :=
  ((asking true root none).filterMap Node.guard?).map fun condition =>
    (Condition.parse condition).subject

/-- What a tree asks for are the subjects of the conditions in its plan. -/
theorem askedSubjects_eq (root : Node) :
    askedSubjects root = (conditionsOf 0 (plan root)).map fun condition =>
      (Condition.parse condition).subject := by
  rw [askedSubjects, conditionsOf_plan]

/-- The events of the plan ask for them in the same order. -/
theorem filterMap_subject? (root : Node) :
    (eventsOf 0 (plan root)).filterMap Event.subject? = askedSubjects root := by
  rw [askedSubjects_eq, conditionsOf, List.map_filterMap]
  rfl

/-- **What a tree has looked up** are the subjects that it asks for, each where it is first met; and
the log says so. -/
theorem lowered_subjects (lookup : Lookup) (options : HookOptions) (root : Node) :
    (lowered lookup options root).2.subjects = (askedSubjects root).eraseDups ∧
      (lowered lookup options root).2.lookedUp = (askedSubjects root).eraseDups := by
  obtain ⟨hsubjects, hlookedUp⟩ := emitAll_subjects ⟨lookup, options.nodeComments⟩
    (eventsOf 0 (plan root)) { fields := initialFields options }
  rw [← lowered_builder] at hsubjects hlookedUp
  have hfirst : (lowered lookup options root).2.subjects = (askedSubjects root).eraseDups := by
    have hkeys := keys_foldl_addNew id (askedSubjects root) []
    rw [hsubjects, filterMap_subject?]
    simpa [Builder.subjects] using hkeys
  exact ⟨hfirst, (hlookedUp rfl).trans hfirst⟩

/-! ## What the lookup is asked for -/

/-- The lookup, which notes what it is asked for. -/
def noting (lookup : Lookup) : LookupM (StateM (List String)) := fun subject => do
  modify (· ++ [subject])
  return lookup subject

/-- A computation that asks the noting lookup does what the other one does; and what it asks for are
the subjects whose answers are added to those kept, in this order. -/
def Counts {α : Type} (x : BuildT (StateM (List String)) α) (y : Build α) : Prop :=
  ∀ b : Builder, (x.run b).run b.subjects = (y.run b, (y.run b).2.subjects)

namespace Counts

variable {α β : Type}

theorem pure (a : α) : Counts (pure a) (pure a) := fun _ => rfl

/-- What is asked for adds up when computations run one after the other. -/
theorem bind {x : BuildT (StateM (List String)) α} {y : Build α}
    {f : α → BuildT (StateM (List String)) β} {g : α → Build β} (hx : Counts x y)
    (hf : ∀ a, Counts (f a) (g a)) : Counts (x >>= f) (y >>= g) := by
  intro b
  rw [StateT.run_bind, StateT.run_bind, hx b, run_bind]
  exact hf (y.run b).1 (y.run b).2

/-- What looks nothing up asks for nothing. -/
theorem lift {y : Build α} (hy : ∀ b, (y.run b).2.subjects = b.subjects) :
    Counts (liftM y) y := by
  intro b
  rw [hy b]
  rfl

theorem record (e : LogEvent) : Counts (liftM (record e)) (record e) := lift fun _ => rfl

/-- An action asks for nothing. -/
theorem codeOf (action : String) : Counts (liftM (codeOf action)) (codeOf action) :=
  lift fun b => (Framed.codeOf action b).lookups.1

theorem droppedMark (id : String) (dropped : Nat) :
    Counts (liftM (droppedMark id dropped)) (droppedMark id dropped) :=
  lift fun b => (Framed.droppedMark id dropped b).lookups.1

/-- **The lookup is asked when a subject is first met**, and then once. -/
theorem resolve (lookup : Lookup) (subject : String) :
    Counts (resolveM (noting lookup) subject) (resolve lookup subject) := by
  intro b
  rw [run_resolveM, run_resolve]
  cases b.resolved.lookup subject with
  | some known => rfl
  | none =>
      -- what is noted here is the key of the answer that is kept
      have hadded : (b.resolved ++ [(subject, lookup subject)]).map (·.1) =
          b.subjects ++ [subject] := List.map_append
      exact congrArg (Prod.mk _) hadded.symm

/-- A condition asks for its subject, if that is not known. -/
theorem testOf (lookup : Lookup) (raw : String) :
    Counts (testOfM (noting lookup) raw) (testOf lookup raw) :=
  (resolve lookup (Condition.parse raw).subject).bind fun found =>
    lift fun b => (Framed.testAbout raw found b).lookups.1

end Counts

/-- **A plan asks for what it adds to the answers kept**, and for nothing twice. -/
theorem lowerAll_counts (lookup : Lookup) (comments : Bool) (plan : Plan) : ∀ depth : Nat,
    Counts (lowerAllM (noting lookup) comments depth plan)
      (lowerAll ⟨lookup, comments⟩ depth plan) := by
  -- one `bind` for each step of lowering an item, then those for the rest of the plan
  induction plan using Plan.induct with
  | nil => exact fun depth => .pure []
  | enter id rest ih =>
      exact fun depth => ((Counts.record _).bind fun _ => .pure _).bind fun _ =>
        (ih depth).bind fun _ => .pure _
  | merge head partner rest ih =>
      exact fun depth => ((Counts.record _).bind fun _ => .pure _).bind fun _ =>
        (ih depth).bind fun _ => .pure _
  | perform id action dropped rest ih =>
      exact fun depth => ((Counts.codeOf action).bind fun _ =>
        (Counts.droppedMark id dropped).bind fun _ => .pure _).bind fun _ =>
          (ih depth).bind fun _ => .pure _
  | guarded condition yes rest ihyes ih =>
      intro depth
      refine Counts.bind ((Counts.testOf lookup condition).bind fun _ => ?_) fun _ =>
        (ih depth).bind fun _ => .pure _
      exact (ihyes (depth + 1)).bind fun _ => .pure _
  | either condition yes no rest ihyes ihno ih =>
      intro depth
      refine Counts.bind ((Counts.testOf lookup condition).bind fun _ => ?_) fun _ =>
        (ih depth).bind fun _ => .pure _
      exact (ihyes (depth + 1)).bind fun _ => (ihno (depth + 1)).bind fun _ => .pure _

/-! ## What else the lookup answers -/

section

variable {m : Type → Type} [Monad m] {lookup other : LookupM m}

/-- A condition asks for nothing but its subject. -/
theorem testOfM_congr {raw : String}
    (h : other (Condition.parse raw).subject = lookup (Condition.parse raw).subject) :
    testOfM other raw = testOfM lookup raw := by
  unfold testOfM resolveM
  rw [h]

/-- A plan asks for nothing but the subjects of its conditions. -/
theorem lowerAllM_congr (comments : Bool) (plan : Plan) :
    ∀ depth : Nat, (∀ condition ∈ conditionsOf depth plan,
        other (Condition.parse condition).subject = lookup (Condition.parse condition).subject) →
      lowerAllM other comments depth plan = lowerAllM lookup comments depth plan := by
  induction plan using Plan.induct with
  | nil =>
      intro depth _
      rw [lowerAllM, lowerAllM]
  | enter id rest ih =>
      intro depth h
      rw [lowerAllM, lowerAllM, lowerM, lowerM, ih depth h]
  | merge head partner rest ih =>
      intro depth h
      rw [lowerAllM, lowerAllM, lowerM, lowerM, ih depth h]
  | perform id action dropped rest ih =>
      intro depth h
      rw [lowerAllM, lowerAllM, lowerM, lowerM, ih depth h]
  | guarded condition yes rest ihyes ihrest =>
      intro depth h
      rw [conditionsOf_cons, conditions_guarded, List.cons_append, List.forall_mem_cons,
        List.forall_mem_append] at h
      obtain ⟨hcondition, hyes, hrest⟩ := h
      rw [lowerAllM, lowerAllM, lowerM, lowerM, testOfM_congr hcondition, ihyes _ hyes,
        ihrest _ hrest]
  | either condition yes no rest ihyes ihno ihrest =>
      intro depth h
      rw [conditionsOf_cons, conditions_either, List.cons_append, List.forall_mem_cons,
        List.forall_mem_append, List.forall_mem_append] at h
      obtain ⟨hcondition, ⟨hyes, hno⟩, hrest⟩ := h
      rw [lowerAllM, lowerAllM, lowerM, lowerM, testOfM_congr hcondition, ihyes _ hyes, ihno _ hno,
        ihrest _ hrest]

end

/-- **Nothing else is asked.**  Lookups that agree on the subjects that a tree asks for lead to the
same lines, and the same builder. -/
theorem lowered_congr {lookup other : Lookup} {root : Node}
    (h : ∀ subject ∈ askedSubjects root, other subject = lookup subject) (options : HookOptions) :
    lowered other options root = lowered lookup options root := by
  rw [askedSubjects_eq, List.forall_mem_map] at h
  have hlines := lowerAllM_congr (m := Id) options.nodeComments (plan root) 0 h
  exact congrArg (fun lines => StateT.run lines { fields := initialFields options }) hlines

end Hook

open Hook

/-- The log of a synthesis says of lookups what that of lowering says. -/
theorem synthesisLog_lookups {lookup : Lookup} {options : HookOptions} {root : Node} {name : String}
    {t : Trait} (ht : synthesize lookup options root name = .ok t) :
    (synthesisLog lookup options root name).filterMap resolving? =
      (lowered lookup options root).2.lookedUp := by
  rw [synthesize_eq] at ht
  unfold synthesisLog
  cases hname : className name with
  | error e =>
      rw [hname] at ht
      cases ht
  | ok letters =>
      dsimp only
      rw [Builder.lookedUp, List.cons_append, List.filterMap_cons_none rfl, List.filterMap_append]
      exact List.append_nil _

/-- **What the lookup is asked for** over a whole synthesis are the subjects whose answers are kept
in the end. -/
theorem synthesizeM_counts {lookup : Lookup} {options : HookOptions} {root : Node} {name : String}
    {t : Trait} (ht : synthesize lookup options root name = .ok t) :
    (synthesizeM (noting lookup) options root name).run [] =
      (.ok t, (lowered lookup options root).2.subjects) := by
  have hlowered : ((lowerTreeM (noting lookup) options.nodeComments root).run
      { fields := initialFields options }).run [] =
        (lowered lookup options root, (lowered lookup options root).2.subjects) :=
    lowerAll_counts lookup options.nodeComments (plan root) 0 { fields := initialFields options }
  rw [synthesize_eq] at ht
  unfold synthesizeM
  cases hname : className name with
  | error e =>
      rw [hname] at ht
      cases ht
  | ok letters =>
      rw [hname] at ht
      rw [← Except.ok.inj ht]
      dsimp only
      rw [StateT.run_bind, hlowered]
      rfl

/-- **Each subject is looked up once, and what is kept of it is the answer.**  Lowering goes through
builders that are reached, and there each answer kept is that of the lookup, so a subject refers to
the same with and without it; and where an answer is kept, no lookup is asked.  The tests in the
code are those of the nodes that ask.  Over a whole synthesis the lookup is asked for the subjects
of their conditions, each one once, in the order in which they are first met, and for nothing else;
the log says the same; and what the lookup answers to other texts has no effect. -/
theorem subjects_looked_up_once {lookup : Lookup} {options : HookOptions} {root : Node}
    {name : String} {t : Trait} (ht : synthesize lookup options root name = .ok t) :
    (∀ b ∈ passed lookup options root, Reached lookup b) ∧
    (∀ b, Reached lookup b →
      (∀ entry ∈ b.resolved, entry.2 = lookup entry.1) ∧
      (∀ subject, Subject.ofLookup subject ((Build.resolve lookup subject).run b).1 =
        Subject.ofLookup subject (lookup subject)) ∧
      ∀ subject known, b.resolved.lookup subject = some known →
        ∀ other : Lookup, (Build.resolve other subject).run b = (known, b)) ∧
    List.Forall₂ (AsksFor lookup) (asking true root none)
      (((statements (lowered lookup options root).1).map (·.text)).filter fun text =>
        shapeOf text == .test) ∧
    (lowered lookup options root).2.resolved =
      (askedSubjects root).eraseDups.map (fun subject => (subject, lookup subject)) ∧
    (synthesizeM (noting lookup) options root name).run [] =
      (.ok t, (askedSubjects root).eraseDups) ∧
    (synthesisLog lookup options root name).filterMap resolving? =
      (askedSubjects root).eraseDups ∧
    ∀ other : Lookup, (∀ subject ∈ askedSubjects root, other subject = lookup subject) →
      lowered other options root = lowered lookup options root := by
  obtain ⟨hsubjects, hlookedUp⟩ := lowered_subjects lookup options root
  have hpassed := passed_reached lookup options root
  refine ⟨hpassed, fun b hb => ⟨hb.faithful, fun subject => ?_, fun subject known h other => ?_⟩,
    test_lines lookup options root, ?_, ?_, ?_, fun other h => lowered_congr h options⟩
  · rw [(resolve_faithful hb.faithful subject).1]
  · rw [Build.run_resolve, h]
  · have hlast : Reached lookup (lowered lookup options root).2 :=
      hpassed _ (List.mem_append_right _ List.mem_cons_self)
    rw [← hsubjects, Builder.subjects, List.map_map]
    refine (List.map_id _).symm.trans (List.map_congr_left fun entry hentry => ?_)
    exact Prod.ext rfl (hlast.faithful entry hentry)
  · rw [synthesizeM_counts ht, hsubjects]
  · rw [synthesisLog_lookups ht, hlookedUp]

/-- A prowler that asks for one trait by two spellings.  Its second leaf does not ask, as it stands
on the other side of the first. -/
def prowler : Node :=
  { id := "prowler"
    children :=
      [{ id := "hide", condition := some "Cloak", action := some "Wait(5)" },
        { id := "flee", condition := some "!Cloak", action := some "Move(1, 2)" },
        { id := "creep", condition := some "not cloak", action := some "Wait(9)" },
        { id := "strike", condition := some "Cloak", action := some "Attack" }] }

/-- The prowler asks for its trait three times, in two spellings. -/
theorem askedSubjects_prowler : askedSubjects prowler = ["Cloak", "cloak", "Cloak"] := by
  rw [askedSubjects_eq]
  decide +kernel

/-- The lookup is asked twice, once for each spelling. -/
theorem subjects_looked_up_once_prowler :
    ∃ t, synthesize CapabilityTable.builtin.getFolded? {} prowler "prowler" = .ok t ∧
      (synthesizeM (noting CapabilityTable.builtin.getFolded?) {} prowler "prowler").run [] =
        (.ok t, ["Cloak", "cloak"]) ∧
      (synthesisLog CapabilityTable.builtin.getFolded? {} prowler "prowler").filterMap resolving? =
        ["Cloak", "cloak"] := by
  have ht : synthesize CapabilityTable.builtin.getFolded? {} prowler "prowler" =
      .ok (traitOf CapabilityTable.builtin.getFolded? {} prowler "Prowler") :=
    synthesize_of_className rfl
  obtain ⟨-, -, -, -, hasked, hlog, -⟩ := subjects_looked_up_once ht
  have hfirst : (askedSubjects prowler).eraseDups = ["Cloak", "cloak"] := by
    rw [askedSubjects_prowler]
    decide
  rw [hfirst] at hasked hlog
  exact ⟨_, ht, hasked, hlog⟩

end BehaviorTraits
