import BehaviorTraits.Proofs.Dependencies

/-!
# The fields that a tree asks for

A condition asks for a field if its subject is a flag, or if it compares health with something that
is no percentage.  An action asks for one if it waits and does not say how long in numbers.  Here
these requests are read off the tree, as the needed traits are.

* `lowered_fields_demanded`: the fields of the Info class are those that every trait has and, behind
  them, what the requests of the tree add one after the other.
* `mem_names_ensureAll_iff`: a name that is not just a number is there if and only if it was there
  before or is the name for a text that was asked for.
-/

namespace BehaviorTraits

open Text

namespace FieldDecl

/-! ## The names that demands lead to -/

/-- The fields that are asked for have the names that the demands get. -/
theorem names_asked (demands : List Demand) : ∀ fields : List FieldDecl,
    (asked fields demands).map (·.name) = (ensureAll fields demands).1 := by
  induction demands with
  | nil => exact fun fields => rfl
  | cons d demands ih =>
      intro fields
      rw [asked_cons, List.map_cons, ih, ensureAll_cons]
      rfl

/-- A name is there behind a run of demands if it was there before, or is one that a demand got. -/
theorem mem_names_ensureAll (fields : List FieldDecl) (demands : List Demand) (name : String) :
    name ∈ (ensureAll fields demands).2.map (·.name) ↔
      name ∈ fields.map (·.name) ∨ name ∈ (ensureAll fields demands).1 := by
  have hnames := keys_foldl_addNew FieldDecl.name (asked fields demands) fields
  rw [← ensureAll_fields, names_asked] at hnames
  rw [hnames, List.mem_append, List.mem_eraseDups, List.mem_filter]
  by_cases hknown : name ∈ fields.map (·.name) <;> simp [hknown]

/-- A demand gets the name for its text. -/
theorem meet_name (d : Demand) (fields : List FieldDecl) :
    (d.meet fields).1 = nameFor fields.length d.raw := by
  rw [d.meet_eq]

/-- **Names other than numbers come from the texts alone**, whatever fields there are. -/
theorem nameFor_eq_of_not_numbered {name : String} (hname : ∀ n, name ≠ numbered n) (count : Nat)
    (raw : String) : nameFor count raw = name ↔ nameFor 0 raw = name := by
  cases hraw : isNameable raw with
  | true => rw [nameFor_of_nameable hraw count 0]
  | false =>
      rw [nameFor_of_nameless hraw, nameFor_of_nameless hraw]
      exact iff_of_false (hname count).symm (hname 0).symm

/-- **Which demands get a name**, if it is no number: those whose text is made into it, whatever
fields there are. -/
theorem mem_ensureAll_iff {name : String} (hname : ∀ n, name ≠ numbered n)
    (demands : List Demand) : ∀ fields : List FieldDecl,
    name ∈ (ensureAll fields demands).1 ↔ ∃ d ∈ demands, nameFor 0 d.raw = name := by
  induction demands with
  | nil =>
      intro fields
      simp [ensureAll]
  | cons d demands ih =>
      intro fields
      rw [ensureAll_cons, List.mem_cons, ih, meet_name, eq_comm,
        nameFor_eq_of_not_numbered hname, List.exists_mem_cons_iff]

/-- **When a name is there**, if it is not just a number. -/
theorem mem_names_ensureAll_iff {name : String} (hname : ∀ n, name ≠ numbered n)
    (fields : List FieldDecl) (demands : List Demand) :
    name ∈ (ensureAll fields demands).2.map (·.name) ↔
      name ∈ fields.map (·.name) ∨ ∃ d ∈ demands, nameFor 0 d.raw = name := by
  rw [mem_names_ensureAll, mem_ensureAll_iff hname]

end FieldDecl

namespace Hook

open Build Event FieldDecl

/-! ## What texts ask for -/

/-- The field that a condition asks for. -/
def conditionRequest? (lookup : Lookup) (raw : String) : Option FieldRequest :=
  let condition := Condition.parse raw
  match Subject.ofLookup condition.subject (lookup condition.subject) with
  | .flag => some (.flag condition.subject)
  | .health =>
    let literal := (condition.comparison.getD (.less, "")).2
    match Number.percentFraction? literal with
    | some _ => none
    | none => some (.threshold (if literal = "" then "HealthThreshold" else literal) raw)
  | .capability _ | .enemy => none

/-- The field that an action asks for. -/
def actionRequest? (raw : String) : Option FieldRequest :=
  let action := Action.parse raw
  match action.kind with
  | .wait =>
    match action.args with
    | [] => some (.ticks "WaitTicks")
    | arg :: _ => if Action.isTickCount arg then none else some (.ticks arg)
  | .attack | .move | .unmapped => none

/-- The fields that an event asks for. -/
def Event.requests (lookup : Lookup) : Event → List FieldRequest :=
  fromText (fun condition => (conditionRequest? lookup condition).toList)
    fun action => (actionRequest? action).toList

/-- The requests of a tree, in the order in which lowering meets them. -/
def treeRequests (lookup : Lookup) (root : Node) : List FieldRequest :=
  (eventsOf 0 (plan root)).flatMap (Event.requests lookup)

/-- The node asks for the field, by its condition or by its action. -/
inductive AsksField (lookup : Lookup) (root : Node) (r : FieldRequest) : Prop
  | condition {node : Node} {condition : String} (hnode : node ∈ asking true root none)
      (hguard : node.guard? = some condition) (hr : conditionRequest? lookup condition = some r)
  | action {node : Node} {action : String} (hnode : node ∈ root.live)
      (htask : node.task? = some action) (hr : actionRequest? action = some r)

/-- **The requests of a tree** are those of the conditions that are asked for and of the actions of
the live leaves. -/
theorem mem_treeRequests (lookup : Lookup) (root : Node) (r : FieldRequest) :
    r ∈ treeRequests lookup root ↔ AsksField lookup root r := by
  rw [treeRequests, Event.requests, mem_plan_fromText]
  constructor
  · rintro (⟨node, hnode, condition, hguard, hr⟩ | ⟨node, hnode, action, htask, hr⟩)
    · exact .condition hnode hguard (Option.mem_toList.mp hr)
    · exact .action hnode htask (Option.mem_toList.mp hr)
  · rintro (⟨hnode, hguard, hr⟩ | ⟨hnode, htask, hr⟩)
    · exact .inl ⟨_, hnode, _, hguard, Option.mem_toList.mpr hr⟩
    · exact .inr ⟨_, hnode, _, htask, Option.mem_toList.mpr hr⟩

/-! ## What lowering adds -/

/-- The fields when requests have been met one after the other. -/
def metRequests (fields : List FieldDecl) (requests : List FieldRequest) : List FieldDecl :=
  (ensureAll fields (requests.map FieldRequest.demand)).2

/-- Requests can be met in two goes. -/
theorem metRequests_append (fields : List FieldDecl) (first second : List FieldRequest) :
    metRequests fields (first ++ second) = metRequests (metRequests fields first) second := by
  rw [metRequests, List.map_append, ensureAll_append]
  rfl

/-- **A condition leaves the fields that its request leads to**, and no others. -/
theorem testOf_demanded {lookup : Lookup} {b : Builder} (hb : b.Faithful lookup) (raw : String) :
    ((testOf lookup raw).run b).2.fields =
      metRequests b.fields (conditionRequest? lookup raw).toList := by
  rw [testOf_eq]
  unfold testAbout conditionRequest?
  generalize Condition.parse raw = condition
  obtain ⟨hfound, hfields, -⟩ := resolve_faithful hb condition.subject
  dsimp only
  rw [run_bind, hfound, ← hfields]
  generalize ((resolve lookup condition.subject).run b).2 = known
  cases Subject.ofLookup condition.subject (lookup condition.subject) with
  | capability record => rfl
  | health =>
      simp only [run_bind, run_pure, run_need, thresholdOf]
      cases Number.percentFraction? (condition.comparison.getD (.less, "")).2 with
      | some fraction => rfl
      | none =>
          simp only [run_bind, run_pure, run_threshold]
          rfl
  | enemy => rfl
  | flag =>
      simp only [run_bind, run_pure, run_flag]
      rfl

/-- An action leaves the fields that its request leads to. -/
theorem codeOf_demanded (raw : String) (b : Builder) :
    ((codeOf raw).run b).2.fields = metRequests b.fields (actionRequest? raw).toList := by
  unfold codeOf actionRequest?
  dsimp only
  cases (Action.parse raw).kind with
  | wait =>
      simp only [run_bind, run_pure]
      cases (Action.parse raw).args with
      | nil =>
          rw [ticksOf, run_bind, run_ticks, run_pure]
          rfl
      | cons arg rest =>
          rw [ticksOf]
          by_cases hcount : Action.isTickCount arg = true
          · simp only [if_pos hcount]
            rfl
          · simp only [if_neg hcount]
            rw [run_bind, run_ticks, run_pure]
            rfl
  | attack => rfl
  | move =>
      simp only [run_bind]
      cases Action.target? (Action.parse raw).rawArgs <;> rfl
  | unmapped => rfl

/-- **An event adds what its text asks for**, and nothing else. -/
theorem emit_demanded (env : Env) {b : Builder} (hb : b.Faithful env.lookup) (event : Event) :
    ((event.emit env).run b).2.fields = metRequests b.fields (event.requests env.lookup) := by
  cases event with
  | enter id depth => rfl
  | merge head partner => rfl
  | decide condition =>
      rw [run_emit_decide]
      exact testOf_demanded hb condition
  | perform id action dropped =>
      have hmark : ∀ b : Builder, ((droppedMark id dropped).run b).2.fields = b.fields := by
        intro b
        unfold droppedMark
        split <;> rfl
      rw [run_emit_perform, hmark]
      exact codeOf_demanded action b

/-- Events leave the fields that their requests lead to, one after the other. -/
theorem emitAll_demanded (env : Env) (events : List Event) : ∀ b : Builder, b.Faithful env.lookup →
    ((emitAll env events).run b).2.fields =
      metRequests b.fields (events.flatMap (Event.requests env.lookup)) := by
  induction events with
  | nil => exact fun b _ => rfl
  | cons event events ih =>
      intro b hb
      rw [run_emitAll_cons, ih _ (emit_writes env hb event).2, emit_demanded env hb,
        List.flatMap_cons, metRequests_append]

/-- The demands that a tree makes, in order. -/
def treeDemands (lookup : Lookup) (root : Node) : List Demand :=
  (treeRequests lookup root).map FieldRequest.demand

/-- **The fields are those that the tree asks for**, behind the ones that every trait has. -/
theorem lowered_fields_demanded (lookup : Lookup) (options : HookOptions) (root : Node) :
    (lowered lookup options root).2.fields =
      (ensureAll (initialFields options) (treeDemands lookup root)).2 := by
  rw [lowered_builder]
  exact emitAll_demanded ⟨lookup, options.nodeComments⟩ (eventsOf 0 (plan root))
    { fields := initialFields options } fun entry hentry => by cases hentry

end Hook

end BehaviorTraits
