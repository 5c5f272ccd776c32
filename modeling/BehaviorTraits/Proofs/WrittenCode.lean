import BehaviorTraits.Proofs.Events
import BehaviorTraits.Proofs.FieldDemands
import BehaviorTraits.Synthesis

/-!
# What lowering writes

Code and fields come about together.  `Written` says once what one line of code can be when there
are certain fields, and which fields there are behind it: a line that names a field asks for this
field first, and no other line changes the fields.

Lowering a tree is a run of such lines (`lowered_writes`), so whatever each line keeps true of the
fields is true of those that lowering leaves (`lowered_fields_keep`).
-/

namespace BehaviorTraits.Hook

open Build Text

/-! ## Requests for fields -/

/-- A field that code needs. -/
structure FieldRequest where
  raw : String
  type : String
  value : String
  description : String

namespace FieldRequest

/-- The switch that a flag becomes. -/
def flag (subject : String) : FieldRequest :=
  ⟨subject, "bool", "false", s!"Enables behavior guarded by '{subject}'."⟩

/-- The threshold of a health test. -/
def threshold (name raw : String) : FieldRequest :=
  ⟨name, "int", "50", s!"Health percentage threshold for '{trim raw}'."⟩

/-- The ticks of a wait. -/
def ticks (name : String) : FieldRequest := ⟨name, "int", "25", "Ticks to wait."⟩

/-- The name that the field has or gets. -/
def name (r : FieldRequest) (fields : List FieldDecl) : String :=
  FieldDecl.nameFor fields.length r.raw

/-- The fields when a request has been met. -/
def ensured (r : FieldRequest) (fields : List FieldDecl) : List FieldDecl :=
  (FieldDecl.ensure fields r.raw r.type (some r.value) r.description).2

/-- The request as a demand for a field. -/
def demand (r : FieldRequest) : FieldDecl.Demand := ⟨r.raw, r.type, some r.value, r.description⟩

/-- **A request is met as a demand is.** -/
theorem meet_demand (r : FieldRequest) (fields : List FieldDecl) :
    r.demand.meet fields = (r.name fields, r.ensured fields) := by
  apply Prod.ext
  · rw [r.demand.meet_eq]
    rfl
  · rfl

/-- The field is there then. -/
theorem exists_ensured (r : FieldRequest) (fields : List FieldDecl) :
    ∃ f ∈ r.ensured fields, f.name = r.name fields := by
  have hmeet := r.demand.exists_meet fields
  rw [r.meet_demand] at hmeet
  exact hmeet

/-- Meeting a request loses no field. -/
theorem subset_ensured (r : FieldRequest) (fields : List FieldDecl) :
    fields ⊆ r.ensured fields := by
  have hmeet := r.demand.subset_meet fields
  rw [r.meet_demand] at hmeet
  exact hmeet

/-- What is true of all fields, and of the one that may be made, is true of the fields then. -/
theorem forall_ensured {p : FieldDecl → Prop} {r : FieldRequest} {fields : List FieldDecl}
    (hfields : ∀ f ∈ fields, p f)
    (hnew : p (.ofDocument (r.name fields) r.type (some r.value) (singleLine r.description))) :
    ∀ f ∈ r.ensured fields, p f := by
  rw [ensured, FieldDecl.ensure]
  split
  · exact hfields
  · intro f hf
    rcases List.mem_append.mp hf with hf | hf
    · exact hfields f hf
    · rw [List.mem_singleton.mp hf]
      exact hnew

end FieldRequest

/-- The requests that lowering makes. -/
inductive Requested : FieldRequest → Prop
  | flag (subject : String) : Requested (.flag subject)
  | threshold (name raw : String) : Requested (.threshold name raw)
  | ticks (name : String) : Requested (.ticks name)

/-! ## One line of code -/

/-- **One line of code.**  When the fields are `before`, lowering may write the code, and the fields
are `after` then. -/
inductive Written (lookup : Lookup) (before : List FieldDecl) : Code → List FieldDecl → Prop
  | remark (r : Remark) : Written lookup before (.remark r) before
  | carries (negated : Bool) {subject : String} {record : Capability}
      (hrecord : lookup subject = some record) :
      Written lookup before (.branch negated (.carries record.name)) before
  | enemyInCell (negated : Bool) : Written lookup before (.branch negated .enemyInCell) before
  | fraction (negated : Bool) (comparison : Comparison) {literal text : String}
      (htext : Number.percentFraction? literal = some text) :
      Written lookup before (.branch negated (.health comparison (.fraction text))) before
  | threshold (negated : Bool) (comparison : Comparison) (name raw : String) :
      Written lookup before
        (.branch negated (.health comparison (.field ((FieldRequest.threshold name raw).name before))))
        ((FieldRequest.threshold name raw).ensured before)
  | flag (negated : Bool) (subject : String) :
      Written lookup before (.branch negated (.flag ((FieldRequest.flag subject).name before)))
        ((FieldRequest.flag subject).ensured before)
  | count {text : String} (htext : Action.isTickCount text = true) :
      Written lookup before (.queue (.wait (.count text))) before
  | ticks (name : String) :
      Written lookup before (.queue (.wait (.field ((FieldRequest.ticks name).name before))))
        ((FieldRequest.ticks name).ensured before)
  | hunt : Written lookup before (.queue .hunt) before
  | move {rawArgs x y : String} (htarget : Action.target? rawArgs = some (x, y)) :
      Written lookup before (.queue (.move x y)) before
  | stay : Written lookup before (.queue .stay) before

/-- A line leaves the fields alone or asks for one. -/
theorem Written.fields {lookup : Lookup} {before after : List FieldDecl} {code : Code}
    (h : Written lookup before code after) :
    after = before ∨ ∃ r, Requested r ∧ after = r.ensured before := by
  cases h with
  | threshold negated comparison name raw => exact .inr ⟨_, .threshold name raw, rfl⟩
  | flag negated subject => exact .inr ⟨_, .flag subject, rfl⟩
  | ticks name => exact .inr ⟨_, .ticks name, rfl⟩
  | _ => exact .inl rfl

/-- A run of lines. -/
inductive Writes (lookup : Lookup) : List FieldDecl → List Code → List FieldDecl → Prop
  | nil (fields : List FieldDecl) : Writes lookup fields [] fields
  | cons {before between after : List FieldDecl} {code : Code} {codes : List Code}
      (hcode : Written lookup before code between) (hcodes : Writes lookup between codes after) :
      Writes lookup before (code :: codes) after

namespace Writes

variable {lookup : Lookup} {before between after : List FieldDecl} {code : Code}
  {codes more : List Code}

/-- One piece of code is written by itself. -/
theorem single (hcode : Written lookup before code after) : Writes lookup before [code] after :=
  .cons hcode (.nil after)

/-- Code is written piece by piece. -/
theorem append (hcodes : Writes lookup before codes between)
    (hmore : Writes lookup between more after) : Writes lookup before (codes ++ more) after := by
  induction hcodes with
  | nil => exact hmore
  | cons hcode _ ih => exact .cons hcode (ih hmore)

/-- What every request keeps true of the fields is true of them behind a run. -/
theorem keeps (inv : List FieldDecl → Prop)
    (hrequest : ∀ r, Requested r → ∀ fields, inv fields → inv (r.ensured fields))
    (hcodes : Writes lookup before codes after) (hbefore : inv before) : inv after := by
  induction hcodes with
  | nil => exact hbefore
  | cons hcode _ ih =>
      rcases hcode.fields with rfl | ⟨r, hr, rfl⟩
      · exact ih hbefore
      · exact ih (hrequest r hr _ hbefore)

/-- No field is ever lost. -/
theorem subset (hcodes : Writes lookup before codes after) : before ⊆ after :=
  keeps (before ⊆ ·) (fun r _ fields h => List.Subset.trans h (r.subset_ensured fields)) hcodes
    fun _ h => h

/-- What is true of every line that leaves fields which are there in the end is true of all lines of
a run. -/
theorem forall_code {p : Code → Prop} (hcodes : Writes lookup before codes after)
    (hp : ∀ {first code next}, Written lookup first code next → next ⊆ after → p code) :
    ∀ code ∈ codes, p code := by
  induction hcodes with
  | nil => simp
  | cons hcode hrest ih => exact List.forall_mem_cons.mpr ⟨hp hcode hrest.subset, ih hp⟩

end Writes

/-! ## The code of one event -/

/-- The answers kept so far are those of the lookup. -/
def Builder.Faithful (lookup : Lookup) (b : Builder) : Prop :=
  ∀ entry ∈ b.resolved, entry.2 = lookup entry.1

theorem run_need (traitName : String) (b : Builder) :
    (need traitName).run b = ((), { b with needs := insertSorted traitName b.needs }) := rfl

/-- Asking for a field gives its name and makes it. -/
theorem run_request (r : FieldRequest) (b : Builder) :
    (field r.raw r.type r.value r.description).run b =
      (r.name b.fields, { b with fields := r.ensured b.fields }) := by
  have hname : (r.demand.meet b.fields).1 = r.name b.fields := by rw [r.meet_demand]
  rw [← hname]
  rfl

/-- The field of a flag is made by its request. -/
theorem run_flag (subject : String) (b : Builder) :
    (field subject "bool" "false" s!"Enables behavior guarded by '{subject}'.").run b =
      ((FieldRequest.flag subject).name b.fields,
        { b with fields := (FieldRequest.flag subject).ensured b.fields }) :=
  run_request (.flag subject) b

/-- The field of a threshold is made by its request. -/
theorem run_threshold (name raw : String) (b : Builder) :
    (field name "int" "50" s!"Health percentage threshold for '{trim raw}'.").run b =
      ((FieldRequest.threshold name raw).name b.fields,
        { b with fields := (FieldRequest.threshold name raw).ensured b.fields }) :=
  run_request (.threshold name raw) b

/-- The field of a wait is made by its request. -/
theorem run_ticks (name : String) (b : Builder) :
    (field name "int" "25" "Ticks to wait.").run b =
      ((FieldRequest.ticks name).name b.fields,
        { b with fields := (FieldRequest.ticks name).ensured b.fields }) :=
  run_request (.ticks name) b

/-- The name of a field depends on the text and on the number of fields. -/
theorem field_name (raw type default description : String) (b : Builder) :
    ((field raw type default description).run b).1 = FieldDecl.nameFor b.fields.length raw :=
  congrArg Prod.fst (FieldDecl.Demand.meet_eq ⟨raw, type, some default, description⟩ b.fields)

/-- Looking up a subject answers what the lookup says, and keeps the answer. -/
theorem resolve_faithful {lookup : Lookup} {b : Builder} (hb : b.Faithful lookup)
    (subject : String) :
    ((resolve lookup subject).run b).1 = lookup subject ∧
      ((resolve lookup subject).run b).2.fields = b.fields ∧
      ((resolve lookup subject).run b).2.Faithful lookup := by
  rw [run_resolve]
  cases hknown : b.resolved.lookup subject with
  | some known =>
      obtain ⟨key, hkey, hmem⟩ : ∃ key, key = subject ∧ (key, known) ∈ b.resolved := by
        obtain ⟨l, r, hl, -⟩ := List.lookup_eq_some_iff.mp hknown
        exact ⟨subject, rfl, by simp [hl]⟩
      refine ⟨?_, rfl, hb⟩
      rw [← hkey]
      exact hb _ hmem
  | none =>
      refine ⟨rfl, rfl, fun entry hentry => ?_⟩
      rcases List.mem_append.mp hentry with hentry | hentry
      · exact hb entry hentry
      · rw [List.mem_singleton.mp hentry]

/-- The threshold for a literal when there are so many fields. -/
def thresholdFor (count : Nat) (literal : String) : Threshold :=
  match Number.percentFraction? literal with
  | some fraction => .fraction fraction
  | none => .field (FieldDecl.nameFor count (if literal = "" then "HealthThreshold" else literal))

/-- **What a threshold becomes** depends on the number of fields only. -/
theorem thresholdOf_result (raw literal : String) (b : Builder) :
    ((thresholdOf raw literal).run b).1 = thresholdFor b.fields.length literal := by
  unfold thresholdOf thresholdFor
  cases Number.percentFraction? literal with
  | some fraction => rfl
  | none =>
      rw [run_bind, field_name]
      rfl

/-- A threshold is a number, or a field made for it; and it looks nothing up. -/
theorem thresholdOf_written (lookup : Lookup) (raw literal : String) (negated : Bool)
    (comparison : Comparison) (b : Builder) :
    Written lookup b.fields
        (.branch negated (.health comparison ((thresholdOf raw literal).run b).1))
        ((thresholdOf raw literal).run b).2.fields ∧
      ((thresholdOf raw literal).run b).2.resolved = b.resolved := by
  cases htext : Number.percentFraction? literal with
  | some text =>
      simp only [thresholdOf, htext, run_pure, and_true]
      exact .fraction negated comparison htext
  | none =>
      simp only [thresholdOf, htext, run_bind, run_pure, run_threshold, and_true]
      exact .threshold negated comparison _ raw

/-- Only a subject that was found refers to a trait. -/
theorem ofLookup_capability {subject : String} {found : Option Capability} {record : Capability}
    (h : Subject.ofLookup subject found = .capability record) : found = some record := by
  cases found with
  | some other => cases h; rfl
  | none =>
      simp only [Subject.ofLookup] at h
      split at h
      · cases h
      · split at h <;> cases h

/-- A condition becomes one test. -/
theorem testOf_written {lookup : Lookup} {b : Builder} (hb : b.Faithful lookup) (raw : String) :
    Written lookup b.fields
        (.branch ((testOf lookup raw).run b).1.1 ((testOf lookup raw).run b).1.2)
        ((testOf lookup raw).run b).2.fields ∧
      ((testOf lookup raw).run b).2.Faithful lookup := by
  rw [testOf_eq]
  unfold testAbout
  generalize Condition.parse raw = condition
  obtain ⟨hfound, hfields, hfaithful⟩ := resolve_faithful hb condition.subject
  dsimp only
  rw [run_bind, ← hfields, hfound]
  generalize ((resolve lookup condition.subject).run b).2 = known at hfaithful ⊢
  cases hsubject : Subject.ofLookup condition.subject (lookup condition.subject) with
  | capability record =>
      simp only [run_bind, run_pure, run_need]
      exact ⟨.carries condition.negated (ofLookup_capability hsubject), hfaithful⟩
  | health =>
      obtain ⟨hwritten, hresolved⟩ := thresholdOf_written lookup raw
        (condition.comparison.getD (.less, "")).2 condition.negated
        (condition.comparison.getD (.less, "")).1
        { known with needs := insertSorted "Health" known.needs }
      simp only [run_bind, run_pure, run_need]
      refine ⟨hwritten, fun entry hentry => hfaithful entry ?_⟩
      rw [hresolved] at hentry
      exact hentry
  | enemy => exact ⟨.enemyInCell condition.negated, hfaithful⟩
  | flag =>
      simp only [run_bind, run_pure, run_flag]
      exact ⟨.flag condition.negated condition.subject, hfaithful⟩

/-- Ticks are a number, or a field made for them; and they look nothing up. -/
theorem ticksOf_written (lookup : Lookup) (args : List String) (b : Builder) :
    Written lookup b.fields (.queue (.wait ((ticksOf args).run b).1))
        ((ticksOf args).run b).2.fields ∧
      ((ticksOf args).run b).2.resolved = b.resolved := by
  cases args with
  | nil =>
      rw [ticksOf, run_bind, run_ticks, run_pure]
      exact ⟨.ticks "WaitTicks", rfl⟩
  | cons arg rest =>
      rw [ticksOf]
      split
      · rename_i hcount
        exact ⟨.count hcount, rfl⟩
      · rw [run_bind, run_ticks, run_pure]
        exact ⟨.ticks arg, rfl⟩

/-- An action becomes an activity or a remark, or both. -/
theorem codeOf_writes (lookup : Lookup) (raw : String) (b : Builder) :
    Writes lookup b.fields ((codeOf raw).run b).1 ((codeOf raw).run b).2.fields ∧
      ((codeOf raw).run b).2.resolved = b.resolved := by
  unfold codeOf
  dsimp only
  cases (Action.parse raw).kind with
  | wait =>
      obtain ⟨hwritten, hresolved⟩ := ticksOf_written lookup (Action.parse raw).args b
      exact ⟨.single hwritten, hresolved⟩
  | attack =>
      simp only [run_bind, run_pure, run_need, and_true]
      exact .single .hunt
  | move =>
      simp only [run_bind, run_need]
      cases htarget : Action.target? (Action.parse raw).rawArgs with
      | some cell => exact ⟨.single (.move htarget), rfl⟩
      | none => exact ⟨.cons (.remark _) (.single .stay), rfl⟩
  | unmapped => exact ⟨.single (.remark _), rfl⟩

/-- The comment about dropped children is a remark, and makes no field. -/
theorem droppedMark_writes (lookup : Lookup) (id : String) (dropped : Nat) (b : Builder) :
    Writes lookup b.fields ((droppedMark id dropped).run b).1
        ((droppedMark id dropped).run b).2.fields ∧
      ((droppedMark id dropped).run b).2.resolved = b.resolved := by
  unfold droppedMark
  split
  · exact ⟨.nil _, rfl⟩
  · exact ⟨.single (.remark _), rfl⟩

/-- **The code of an event is a run of lines.** -/
theorem emit_writes (env : Env) {b : Builder} (hb : b.Faithful env.lookup) (event : Event) :
    Writes env.lookup b.fields ((event.emit env).run b).1 ((event.emit env).run b).2.fields ∧
      ((event.emit env).run b).2.Faithful env.lookup := by
  cases event with
  | enter id depth =>
      rw [run_emit_enter, nodeMark]
      split
      · exact ⟨.single (.remark _), hb⟩
      · exact ⟨.nil _, hb⟩
  | merge head partner => exact ⟨.nil _, hb⟩
  | decide condition =>
      rw [run_emit_decide]
      obtain ⟨hwritten, hfaithful⟩ := testOf_written hb condition
      exact ⟨.single hwritten, hfaithful⟩
  | perform id action dropped =>
      rw [run_emit_perform]
      obtain ⟨hwrites, hresolved⟩ := codeOf_writes env.lookup action b
      obtain ⟨hmark, hresolved'⟩ :=
        droppedMark_writes env.lookup id dropped ((codeOf action).run b).2
      refine ⟨hwrites.append hmark, fun entry hentry => hb entry ?_⟩
      rw [hresolved', hresolved] at hentry
      exact hentry

/-! ## The code of a tree -/

/-- **Lowering a tree is a run of lines**, from the fields that every trait has to those of the Info
class. -/
theorem lowered_writes (lookup : Lookup) (options : HookOptions) (root : Node) :
    Writes lookup (initialFields options) (carried (lowered lookup options root).1)
      (lowered lookup options root).2.fields := by
  let env : Env := ⟨lookup, options.nodeComments⟩
  let inv (codes : List Code) (b : Builder) : Prop :=
    Writes lookup (initialFields options) codes b.fields ∧ b.Faithful lookup
  have hinitial : inv [] { fields := initialFields options } :=
    ⟨.nil _, fun entry hentry => by cases hentry⟩
  refine (lowerAll_gathers env inv 0 (plan root) ?_ hinitial).1
  rintro event - codes b ⟨hwrites, hfaithful⟩
  obtain ⟨hmore, hfaithful'⟩ := emit_writes env hfaithful event
  exact ⟨hwrites.append hmore, hfaithful'⟩

/-- What every request keeps true of the fields is true of those that lowering leaves. -/
theorem lowered_fields_keep (inv : List FieldDecl → Prop)
    (hrequest : ∀ r, Requested r → ∀ fields, inv fields → inv (r.ensured fields))
    (lookup : Lookup) (options : HookOptions) (root : Node)
    (hinitial : inv (initialFields options)) :
    inv (lowered lookup options root).2.fields :=
  (lowered_writes lookup options root).keeps inv hrequest hinitial

end BehaviorTraits.Hook
