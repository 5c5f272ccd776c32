import BehaviorTraits.Synthesis
import Mathlib.Data.List.Basic

/-!
# The events of a plan

Lowering goes through a plan once.  What it meets on the way, in this order, is a plain list of
events: a node begins, two siblings are merged, a condition becomes a test, an action is carried
out.  Each event leads to some code and changes the builder; the nesting of the plan only adds
`else` and braces between the codes.

`lowerAll_emits` says just this.  So whatever each event keeps true of the code so far and of the
builder is true after the whole plan (`lowerAll_gathers`), and each line of the code was made by one
event from the builder as it was then (`emitAll_eq_met`).
-/

namespace BehaviorTraits.Hook

open Build

namespace Build

variable {α β : Type}

/-- Computations run one after the other, the second from the builder that the first leaves. -/
theorem run_bind (m : Build α) (f : α → Build β) (b : Builder) :
    (m >>= f).run b = (f (m.run b).1).run (m.run b).2 := rfl

theorem run_pure (a : α) (b : Builder) : (pure a : Build α).run b = (a, b) := rfl

/-- **A subject is looked up when it is not known yet**, and then its answer is kept. -/
theorem run_resolveM {m : Type → Type} [Monad m] [LawfulMonad m] (lookup : LookupM m)
    (subject : String) (b : Builder) :
    (resolveM lookup subject).run b =
      match b.resolved.lookup subject with
      | some known => pure (known, b)
      | none => lookup subject >>= fun found =>
        pure (found,
          { b with
            log := b.log ++ [.resolving subject]
            resolved := b.resolved ++ [(subject, found)] }) := by
  have hrecord : (liftM (record (.resolving subject)) : BuildT m Unit).run b =
      pure ((), { b with log := b.log ++ [.resolving subject] }) := rfl
  unfold resolveM
  rw [StateT.run_bind, StateT.run_get, pure_bind]
  cases b.resolved.lookup subject with
  | some known => rfl
  | none => simp [hrecord]

/-- Without effects, the answer is there at once. -/
theorem run_resolve (lookup : Lookup) (subject : String) (b : Builder) :
    (resolve lookup subject).run b =
      match b.resolved.lookup subject with
      | some known => (known, b)
      | none =>
        (lookup subject,
          { b with
            log := b.log ++ [.resolving subject]
            resolved := b.resolved ++ [(subject, lookup subject)] }) :=
  run_resolveM (m := Id) lookup subject b

end Build

/-- A condition becomes a test once its subject has been looked up. -/
theorem testOf_eq (lookup : Lookup) (raw : String) :
    testOf lookup raw = resolve lookup (Condition.parse raw).subject >>= testAbout raw := rfl

/-- A property of computations that the operations of the builder have, lookups apart, and that
goes through their composition. -/
structure Composed (P : ∀ {α : Type}, Build α → Prop) : Prop where
  pure : ∀ {α : Type} (a : α), P (pure a : Build α)
  bind : ∀ {α β : Type} {m : Build α} {f : α → Build β}, P m → (∀ a, P (f a)) → P (m >>= f)
  record : ∀ e, P (record e)
  need : ∀ traitName, P (need traitName)
  field : ∀ raw type default description, P (field raw type default description)

namespace Composed

variable {P : ∀ {α : Type}, Build α → Prop} (h : Composed P)

include h

/-- A threshold is made of fields only. -/
theorem thresholdOf (raw literal : String) : P (thresholdOf raw literal) := by
  unfold Hook.thresholdOf
  split
  · exact h.pure _
  · exact h.bind (h.field _ _ _ _) fun _ => h.pure _

/-- A test is made of needs, fields and notes, once its subject has been looked up. -/
theorem testAbout (raw : String) (found : Option Capability) : P (testAbout raw found) := by
  unfold Hook.testAbout
  dsimp only
  split
  · exact h.bind (h.need _) fun _ => h.pure _
  · exact h.bind (h.need _) fun _ => h.bind (h.thresholdOf _ _) fun _ => h.pure _
  · exact h.pure _
  · exact h.bind (h.field _ _ _ _) fun _ => h.bind (h.record _) fun _ => h.pure _

/-- A condition is made of needs, fields and notes, its lookup apart. -/
theorem testOf {lookup : Lookup} (raw : String)
    (hresolve : P (resolve lookup (Condition.parse raw).subject)) : P (testOf lookup raw) := by
  rw [testOf_eq]
  exact h.bind hresolve fun found => h.testAbout raw found

/-- Ticks are made of fields only. -/
theorem ticksOf (args : List String) : P (ticksOf args) := by
  unfold Hook.ticksOf
  split
  · exact h.bind (h.field _ _ _ _) fun _ => h.pure _
  · split
    · exact h.pure _
    · exact h.bind (h.field _ _ _ _) fun _ => h.pure _

/-- An action is made of needs, fields and notes. -/
theorem codeOf (raw : String) : P (codeOf raw) := by
  unfold Hook.codeOf
  dsimp only
  split
  · exact h.bind (h.ticksOf _) fun _ => h.pure _
  · exact h.bind (h.need _) fun _ => h.bind (h.need _) fun _ => h.bind (h.need _) fun _ => h.pure _
  · refine h.bind (h.need _) fun _ => ?_
    split
    · exact h.pure _
    · exact h.bind (h.record _) fun _ => h.pure _
  · exact h.bind (h.record _) fun _ => h.pure _

theorem droppedMark (id : String) (dropped : Nat) : P (droppedMark id dropped) := by
  unfold Hook.droppedMark
  split
  · exact h.pure _
  · exact h.bind (h.record _) fun _ => h.pure _

end Composed

/-- A threshold changes nothing but the fields. -/
theorem thresholdOf_frame (raw literal : String) (b : Builder) :
    ∃ fields, ((thresholdOf raw literal).run b).2 = { b with fields } := by
  unfold thresholdOf
  cases Number.percentFraction? literal with
  | some fraction => exact ⟨b.fields, rfl⟩
  | none => exact ⟨_, rfl⟩

/-- Ticks change nothing but the fields. -/
theorem ticksOf_frame (args : List String) (b : Builder) :
    ∃ fields, ((ticksOf args).run b).2 = { b with fields } := by
  cases args with
  | nil => exact ⟨_, rfl⟩
  | cons arg rest =>
      rw [ticksOf]
      split
      · exact ⟨b.fields, rfl⟩
      · exact ⟨_, rfl⟩

/-- Is the record a note on the code of one text? -/
def isNote : LogEvent → Bool
  | .backedByField .. | .notACell .. | .unmappedAction .. | .leafChildren .. => true
  | _ => false

/-- From the first builder to the second, nothing has been looked up, and nothing but notes has been
logged. -/
structure Framed (b after : Builder) : Prop where
  resolved : after.resolved = b.resolved
  log : ∃ notes, (∀ e ∈ notes, isNote e = true) ∧ after.log = b.log ++ notes

namespace Framed

/-- Nothing has been logged. -/
theorem quiet {b after : Builder} (hresolved : after.resolved = b.resolved)
    (hlog : after.log = b.log) : Framed b after :=
  ⟨hresolved, [], by simp, by rw [hlog, List.append_nil]⟩

/-- One note has been logged. -/
theorem noted {b after : Builder} {e : LogEvent} (he : isNote e = true)
    (hresolved : after.resolved = b.resolved) (hlog : after.log = b.log ++ [e]) :
    Framed b after :=
  ⟨hresolved, [e], by simpa using he, hlog⟩

/-- The test for a condition looks nothing up. -/
theorem testAbout (raw : String) (found : Option Capability) (b : Builder) :
    Framed b ((testAbout raw found).run b).2 := by
  unfold Hook.testAbout
  generalize Condition.parse raw = condition
  dsimp only
  cases Subject.ofLookup condition.subject found with
  | capability record => exact quiet rfl rfl
  | health =>
      obtain ⟨fields, hframe⟩ := thresholdOf_frame raw (condition.comparison.getD (.less, "")).2
        ((need "Health").run b).2
      simp only [run_bind, run_pure, hframe]
      exact quiet rfl rfl
  | enemy => exact quiet rfl rfl
  | flag => exact noted rfl rfl rfl

/-- A condition does its work when its subject has been looked up. -/
theorem testOf (lookup : Lookup) (raw : String) (b : Builder) :
    Framed ((resolve lookup (Condition.parse raw).subject).run b).2
      ((testOf lookup raw).run b).2 := by
  rw [testOf_eq, run_bind]
  exact testAbout raw _ _

/-- An action looks nothing up. -/
theorem codeOf (raw : String) (b : Builder) : Framed b ((codeOf raw).run b).2 := by
  unfold Hook.codeOf
  dsimp only
  cases (Action.parse raw).kind with
  | wait =>
      obtain ⟨fields, hframe⟩ := ticksOf_frame (Action.parse raw).args b
      simp only [run_bind, run_pure, hframe]
      exact quiet rfl rfl
  | attack => exact quiet rfl rfl
  | move =>
      simp only [run_bind]
      cases Action.target? (Action.parse raw).rawArgs with
      | some cell => exact quiet rfl rfl
      | none => exact noted rfl rfl rfl
  | unmapped => exact noted rfl rfl rfl

theorem droppedMark (id : String) (dropped : Nat) (b : Builder) :
    Framed b ((droppedMark id dropped).run b).2 := by
  unfold Hook.droppedMark
  split
  · exact quiet rfl rfl
  · exact noted rfl rfl rfl

/-- What notes do not tell stays as it was. -/
theorem filterMap_log {α : Type} {tells : LogEvent → Option α}
    (hnotes : ∀ e, isNote e = true → tells e = none) {b after : Builder} (h : Framed b after) :
    after.log.filterMap tells = b.log.filterMap tells := by
  obtain ⟨notes, hall, hlog⟩ := h.log
  have hnone : notes.filterMap tells = [] := by
    apply List.filterMap_eq_nil_iff.mpr
    intro e he
    exact hnotes e (hall e he)
  rw [hlog, List.filterMap_append, hnone, List.append_nil]

end Framed

/-- Induction over a plan and all plans inside it. -/
theorem Plan.induct {P : Plan → Prop} (nil : P [])
    (enter : ∀ id rest, P rest → P (.enter id :: rest))
    (merge : ∀ head partner rest, P rest → P (.merge head partner :: rest))
    (perform : ∀ id action dropped rest, P rest → P (.perform id action dropped :: rest))
    (guarded : ∀ condition yes rest, P yes → P rest → P (.guarded condition yes :: rest))
    (either : ∀ condition yes no rest, P yes → P no → P rest →
      P (.either condition yes no :: rest)) :
    ∀ plan, P plan
  | [] => nil
  | .enter id :: rest => enter id rest (induct nil enter merge perform guarded either rest)
  | .merge head partner :: rest =>
      merge head partner rest (induct nil enter merge perform guarded either rest)
  | .perform id action dropped :: rest =>
      perform id action dropped rest (induct nil enter merge perform guarded either rest)
  | .guarded condition yes :: rest =>
      guarded condition yes rest (induct nil enter merge perform guarded either yes)
        (induct nil enter merge perform guarded either rest)
  | .either condition yes no :: rest =>
      either condition yes no rest (induct nil enter merge perform guarded either yes)
        (induct nil enter merge perform guarded either no)
        (induct nil enter merge perform guarded either rest)

/-- What lowering meets in a plan. -/
inductive Event where
  | enter (id : String) (depth : Nat)
  | merge (head partner : String)
  | decide (condition : String)
  | perform (id action : String) (dropped : Nat)
  deriving DecidableEq, Repr

namespace Event

def condition? : Event → Option String
  | decide condition => some condition
  | _ => none

/-- The leaf and the action that an event carries out. -/
def task? : Event → Option (String × String)
  | perform id action _ => some (id, action)
  | _ => none

/-- The code that an event leads to. -/
def emit (env : Env) : Event → Build (List Code)
  | enter id depth => do
    record (.lowering id depth)
    return nodeMark env.comments id
  | merge head partner => do
    record (.pairing head partner)
    return []
  | decide condition => do
    let (negated, test) ← testOf env.lookup condition
    return [.branch negated test]
  | perform id action dropped => do
    let codes ← codeOf action
    return codes ++ (← droppedMark id dropped)

/-- The code of events, one after the other. -/
def emitAll (env : Env) : List Event → Build (List Code)
  | [] => return []
  | event :: events => do
    let first ← event.emit env
    let rest ← emitAll env events
    return first ++ rest

/-- The events, each with the builder as it is when the event comes up. -/
def met (env : Env) (b : Builder) : List Event → List (Event × Builder)
  | [] => []
  | event :: events => (event, b) :: met env ((event.emit env).run b).2 events

end Event

open Event

mutual

/-- The events of a step at a depth. -/
def Step.events (depth : Nat) : Step → List Event
  | .enter id => [.enter id depth]
  | .merge head partner => [.merge head partner]
  | .perform id action dropped => [.perform id action dropped]
  | .guarded condition yes => .decide condition :: eventsOf (depth + 1) yes
  | .either condition yes no =>
    .decide condition :: (eventsOf (depth + 1) yes ++ eventsOf (depth + 1) no)

/-- The events of a plan at a depth. -/
def eventsOf (depth : Nat) : Plan → List Event
  | [] => []
  | step :: rest => step.events depth ++ eventsOf depth rest

end

/-- Plans in a row have their events in a row. -/
theorem eventsOf_append (depth : Nat) (first second : Plan) :
    eventsOf depth (first ++ second) = eventsOf depth first ++ eventsOf depth second := by
  induction first with
  | nil => rfl
  | cons step rest ih => simp [eventsOf, ih]

/-- Events can be met in two goes, the second from the builder that the first leaves. -/
theorem run_emitAll_append (env : Env) (first second : List Event) (b : Builder) :
    (emitAll env (first ++ second)).run b =
      (((emitAll env first).run b).1 ++
          ((emitAll env second).run ((emitAll env first).run b).2).1,
        ((emitAll env second).run ((emitAll env first).run b).2).2) := by
  induction first generalizing b with
  | nil => rfl
  | cons event first ih =>
      simp only [List.cons_append, emitAll, run_bind, run_pure, ih, List.append_assoc]

/-- Is the code one that only nesting asks for? -/
def Code.isFrame : Code → Bool
  | otherwise | opening | closing => true
  | _ => false

/-- The codes of lines that do not only serve the nesting. -/
def carried (lines : List Line) : List Code := (lines.map (·.code)).filter (!·.isFrame)

theorem carried_append (first second : List Line) :
    carried (first ++ second) = carried first ++ carried second := by
  simp [carried]

/-- A test is code in its own right. -/
theorem carried_branch (depth : Nat) (negated : Bool) (test : Test) (rest : List Line) :
    carried (⟨depth, .branch negated test⟩ :: rest) = .branch negated test :: carried rest := rfl

/-- An `else` only serves the nesting. -/
theorem carried_otherwise (depth : Nat) (rest : List Line) :
    carried (⟨depth, .otherwise⟩ :: rest) = carried rest := rfl

theorem carried_braced (depth : Nat) (inner : List Line) :
    carried (braced depth inner) = carried inner := by
  simp [carried, braced, Code.isFrame]

/-- On which depth code is put does not matter for what is carried. -/
theorem carried_linesAt (depth : Nat) {codes : List Code}
    (hcodes : ∀ code ∈ codes, code.isFrame = false) : carried (linesAt depth codes) = codes := by
  have hmap : (linesAt depth codes).map (·.code) = codes := by
    simp [linesAt, Function.comp_def]
  rw [carried, hmap, List.filter_eq_self]
  intro code hcode
  simp [hcodes code hcode]

/-! ## The code of one event -/

/-- **What an action becomes.**  An action becomes one line that stands for it: an activity, or a
comment if it is not known.  A move without a proper target has a warning before it. -/
theorem codeOf_cases (raw : String) (b : Builder) :
    (∃ activity, ((codeOf raw).run b).1 = [.queue activity]) ∨
    (∃ rawArgs, ((codeOf raw).run b).1 = [.remark (.notACell rawArgs), .queue .stay]) ∨
    (∃ action, ((codeOf raw).run b).1 = [.remark (.unmapped action)]) := by
  unfold codeOf
  dsimp only
  cases (Action.parse raw).kind with
  | wait => exact .inl ⟨_, rfl⟩
  | attack => exact .inl ⟨_, rfl⟩
  | move =>
      simp only [run_bind]
      cases Action.target? (Action.parse raw).rawArgs with
      | some cell => exact .inl ⟨_, rfl⟩
      | none => exact .inr (.inl ⟨_, rfl⟩)
  | unmapped => exact .inr (.inr ⟨_, rfl⟩)

/-- There is a comment about dropped children just if there are any. -/
theorem droppedMark_code (id : String) (dropped : Nat) (b : Builder) :
    ((droppedMark id dropped).run b).1 =
      if dropped = 0 then [] else [.remark (.dropped dropped id)] := by
  unfold droppedMark
  split <;> rfl

/-- Entering a node is logged, and marked by a comment if that is asked for. -/
theorem run_emit_enter (env : Env) (id : String) (depth : Nat) (b : Builder) :
    ((Event.enter id depth).emit env).run b =
      (nodeMark env.comments id, { b with log := b.log ++ [.lowering id depth] }) := rfl

/-- Merging two siblings is logged and leaves no code. -/
theorem run_emit_merge (env : Env) (head partner : String) (b : Builder) :
    ((Event.merge head partner).emit env).run b =
      ([], { b with log := b.log ++ [.pairing head partner] }) := rfl

/-- A condition leaves the test that it becomes. -/
theorem run_emit_decide (env : Env) (condition : String) (b : Builder) :
    ((Event.decide condition).emit env).run b =
      ([.branch ((testOf env.lookup condition).run b).1.1
          ((testOf env.lookup condition).run b).1.2],
        ((testOf env.lookup condition).run b).2) := rfl

/-- An action leaves its code, and then the comment about the children of its leaf. -/
theorem run_emit_perform (env : Env) (id action : String) (dropped : Nat) (b : Builder) :
    ((Event.perform id action dropped).emit env).run b =
      (((codeOf action).run b).1 ++
          ((droppedMark id dropped).run ((codeOf action).run b).2).1,
        ((droppedMark id dropped).run ((codeOf action).run b).2).2) := rfl

theorem run_emitAll_cons (env : Env) (event : Event) (events : List Event) (b : Builder) :
    (emitAll env (event :: events)).run b =
      (((event.emit env).run b).1 ++ ((emitAll env events).run ((event.emit env).run b).2).1,
        ((emitAll env events).run ((event.emit env).run b).2).2) := rfl

/-- Is the code a statement of its own? -/
def Code.isPlain : Code → Bool
  | remark _ | queue _ => true
  | _ => false

/-- The code of an action has no test and no brace in it. -/
theorem codeOf_isPlain (raw : String) (b : Builder) :
    ∀ code ∈ ((codeOf raw).run b).1, code.isPlain = true := by
  rcases codeOf_cases raw b with ⟨_, h⟩ | ⟨_, h⟩ | ⟨_, h⟩ <;> rw [h] <;> simp [Code.isPlain]

/-- Apart from the test of a condition, all code of events is made of plain statements. -/
theorem emit_isPlain (env : Env) (event : Event) (hevent : event.condition? = none)
    (b : Builder) :
    ∀ code ∈ ((event.emit env).run b).1, code.isPlain = true := by
  cases event with
  | enter id depth =>
      rw [run_emit_enter, nodeMark]
      split <;> simp [Code.isPlain]
  | merge head partner => simp [run_emit_merge]
  | decide condition => cases hevent
  | perform id action dropped =>
      rw [run_emit_perform, droppedMark_code]
      intro code hcode
      rcases List.mem_append.mp hcode with hcode | hcode
      · exact codeOf_isPlain action b code hcode
      · split at hcode
        · cases hcode
        · rw [List.mem_singleton.mp hcode]; rfl

/-- No event asks for an `else` or a brace. -/
theorem emit_isFrame (env : Env) (event : Event) (b : Builder) :
    ∀ code ∈ ((event.emit env).run b).1, code.isFrame = false := by
  have hplain : ∀ code : Code, code.isPlain = true → code.isFrame = false := by
    intro code hcode
    cases code <;> first | rfl | cases hcode
  cases hevent : event.condition? with
  | none => exact fun code hcode => hplain code (emit_isPlain env event hevent b code hcode)
  | some condition =>
      cases event with
      | decide condition => simp [run_emit_decide, Code.isFrame]
      | enter id depth => cases hevent
      | merge head partner => cases hevent
      | perform id action dropped => cases hevent

/-! ## Lowering a plan is meeting its events -/

/-- The lines that `m` gives carry the code of the events, and it leaves the builder as they do. -/
def Emits (env : Env) (m : Build (List Line)) (events : List Event) : Prop :=
  ∀ b : Builder, carried (m.run b).1 = ((emitAll env events).run b).1 ∧
    (m.run b).2 = ((emitAll env events).run b).2

/-- The lines of a plan are those of its first step and then those of the others. -/
theorem run_lowerAll_cons (env : Env) (depth : Nat) (step : Step) (rest : Plan) (b : Builder) :
    (lowerAll env depth (step :: rest)).run b =
      (((lower env depth step).run b).1 ++
          ((lowerAll env depth rest).run ((lower env depth step).run b).2).1,
        ((lowerAll env depth rest).run ((lower env depth step).run b).2).2) := rfl

/-- A step whose lines carry its events can be put in front of a plan whose lines do. -/
theorem Emits.cons {env : Env} {depth : Nat} {step : Step} {rest : Plan}
    (hstep : Emits env (lower env depth step) (step.events depth))
    (hrest : Emits env (lowerAll env depth rest) (eventsOf depth rest)) :
    Emits env (lowerAll env depth (step :: rest)) (eventsOf depth (step :: rest)) := by
  intro b
  obtain ⟨hcode, hb⟩ := hstep b
  obtain ⟨hcode', hb'⟩ := hrest ((lower env depth step).run b).2
  rw [run_lowerAll_cons, eventsOf, run_emitAll_append, carried_append, hcode, hcode', ← hb]
  exact ⟨rfl, hb'⟩

/-- A step that puts the code of one event on lines of its depth. -/
theorem Emits.of_event {env : Env} {m : Build (List Line)} {event : Event} (depth : Nat)
    (hm : ∀ b, m.run b =
      (linesAt depth ((event.emit env).run b).1, ((event.emit env).run b).2)) :
    Emits env m [event] := by
  intro b
  rw [run_emitAll_cons, hm b, carried_linesAt depth (emit_isFrame env event b)]
  exact ⟨(List.append_nil _).symm, rfl⟩

/-- A guarded plan is a test and the plan in braces. -/
theorem run_lower_guarded (env : Env) (depth : Nat) (condition : String) (yes : Plan)
    (b : Builder) :
    (lower env depth (.guarded condition yes)).run b =
      let tested := (testOf env.lookup condition).run b
      let inner := (lowerAll env (depth + 1) yes).run tested.2
      (⟨depth, .branch tested.1.1 tested.1.2⟩ :: braced depth inner.1, inner.2) := rfl

/-- A plan with two sides is a test, one side in braces, `else`, and the other side in braces. -/
theorem run_lower_either (env : Env) (depth : Nat) (condition : String) (yes no : Plan)
    (b : Builder) :
    (lower env depth (.either condition yes no)).run b =
      let tested := (testOf env.lookup condition).run b
      let inner := (lowerAll env (depth + 1) yes).run tested.2
      let inner' := (lowerAll env (depth + 1) no).run inner.2
      (⟨depth, .branch tested.1.1 tested.1.2⟩ :: braced depth inner.1 ++
        ⟨depth, .otherwise⟩ :: braced depth inner'.1, inner'.2) := rfl

/-- **Lowering meets the events in order.**  It leaves the builder as the events do, and apart
from `else` and braces its lines carry the code of the events. -/
theorem lowerAll_emits (env : Env) (plan : Plan) : ∀ depth : Nat,
    Emits env (lowerAll env depth plan) (eventsOf depth plan) := by
  induction plan using Plan.induct with
  | nil => exact fun depth b => ⟨rfl, rfl⟩
  | enter id rest ih =>
      exact fun depth => Emits.cons (.of_event depth fun b => rfl) (ih depth)
  | merge head partner rest ih =>
      exact fun depth => Emits.cons (.of_event depth fun b => rfl) (ih depth)
  | perform id action dropped rest ih =>
      exact fun depth => Emits.cons (.of_event depth fun b => rfl) (ih depth)
  | guarded condition yes rest ihyes ih =>
      intro depth
      refine Emits.cons (fun b => ?_) (ih depth)
      obtain ⟨hcode, hb⟩ := ihyes (depth + 1) ((testOf env.lookup condition).run b).2
      rw [run_lower_guarded, Step.events, run_emitAll_cons, run_emit_decide]
      refine ⟨?_, hb⟩
      dsimp only
      rw [carried_branch, carried_braced, hcode]
      rfl
  | either condition yes no rest ihyes ihno ih =>
      intro depth
      refine Emits.cons (fun b => ?_) (ih depth)
      obtain ⟨hcode, hb⟩ := ihyes (depth + 1) ((testOf env.lookup condition).run b).2
      obtain ⟨hcode', hb'⟩ := ihno (depth + 1)
        ((lowerAll env (depth + 1) yes).run ((testOf env.lookup condition).run b).2).2
      rw [run_lower_either, Step.events, run_emitAll_cons, run_emit_decide, run_emitAll_append]
      dsimp only
      rw [← hb]
      refine ⟨?_, hb'⟩
      rw [carried_append, carried_branch, carried_otherwise, carried_braced, carried_braced, hcode,
        hcode']
      rfl

/-- Lowering a tree leaves the builder that the events of its plan lead to. -/
theorem lowered_builder (lookup : Lookup) (options : HookOptions) (root : Node) :
    (lowered lookup options root).2 =
      ((emitAll ⟨lookup, options.nodeComments⟩ (eventsOf 0 (plan root))).run
        { fields := initialFields options }).2 :=
  (lowerAll_emits ⟨lookup, options.nodeComments⟩ (plan root) 0
    { fields := initialFields options }).2

/-- What every event keeps true of the code so far and of the builder is true of all the code of a
plan and of the builder behind it. -/
theorem lowerAll_gathers (env : Env) (inv : List Code → Builder → Prop) (depth : Nat) (plan : Plan)
    (hevent : ∀ event ∈ eventsOf depth plan, ∀ codes b, inv codes b →
      inv (codes ++ ((event.emit env).run b).1) ((event.emit env).run b).2)
    {b : Builder} (hb : inv [] b) :
    inv (carried ((lowerAll env depth plan).run b).1) ((lowerAll env depth plan).run b).2 := by
  have hall : ∀ events ⊆ eventsOf depth plan, ∀ (codes : List Code) (b : Builder), inv codes b →
      inv (codes ++ ((emitAll env events).run b).1) ((emitAll env events).run b).2 := by
    intro events
    induction events with
    | nil =>
        intro _ codes b hb
        rw [show ((emitAll env []).run b).1 = [] from rfl, List.append_nil]
        exact hb
    | cons event events ih =>
        intro hsubset codes b hb
        obtain ⟨hmem, hrest⟩ := List.cons_subset.mp hsubset
        rw [run_emitAll_cons, ← List.append_assoc]
        exact ih hrest _ _ (hevent event hmem codes b hb)
  obtain ⟨hcode, hbuilder⟩ := lowerAll_emits env plan depth b
  rw [hcode, hbuilder]
  exact hall _ (fun _ h => h) [] b hb

/-- Each piece of code was made by one event from the builder as it was then. -/
theorem emitAll_eq_met (env : Env) (events : List Event) (b : Builder) :
    ((emitAll env events).run b).1 =
      (met env b events).flatMap fun m => ((m.1.emit env).run m.2).1 := by
  induction events generalizing b with
  | nil => rfl
  | cons event events ih => rw [run_emitAll_cons, met, List.flatMap_cons, ih]

end BehaviorTraits.Hook
