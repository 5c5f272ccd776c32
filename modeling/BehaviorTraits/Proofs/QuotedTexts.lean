import BehaviorTraits.Generation
import BehaviorTraits.Proofs.EventSources
import BehaviorTraits.Proofs.FileAgreement
import BehaviorTraits.Proofs.LineEnds

/-!
# Texts that are handed through

Most of a generated file is made of fixed texts, words and numbers.  The rest is quoted from
outside: names of nodes, actions and arguments in comments, conditions in descriptions of fields,
and names of capabilities in tests.

`texts_stay_on_one_line_iff` says that no generated text has a line break in it, and that some have
another character that ends a line if and only if a quoted text has one.  What is quoted goes back
to the live nodes of the tree and to the names of capabilities.
-/

namespace BehaviorTraits

open Text

/-- The texts of a node that lowering works with: its name, and its condition and action without the
blanks around them. -/
def Node.texts (n : Node) : List String := n.id :: (n.guard?.toList ++ n.task?.toList)

namespace Hook

open Build

/-! ## What a line quotes -/

/-- The text that a remark is about. -/
def Remark.topic : Remark → String
  | node id => id
  | dropped _ id => id
  | notACell rawArgs => rawArgs
  | unmapped action => action

/-- The text from outside that code quotes as it is, if it quotes any. -/
def Code.quoted? : Code → Option String
  | remark r => some r.topic
  | branch _ (.carries traitName) => some traitName
  | _ => none

/-- A remark is tame just if what it is about is. -/
theorem Remark.tame_text (r : Remark) : Tame r.text ↔ Tame r.topic := by
  cases r with
  | node id =>
      have hfront : Tame "// node: " := tame_ofList (by decide)
      exact tame_append.trans (and_iff_right hfront)
  | dropped children id =>
      have hfront : Tame ("// NOTE: " ++ toString children ++ " child node(s) of leaf '") :=
        (tame_framed (by decide) (by decide)).mpr (word_repr children).tame
      exact tame_between hfront (tame_ofList (by decide))
  | notACell rawArgs => exact tame_framed (by decide) (by decide)
  | unmapped action =>
      have hfront : Tame "// Unmapped action: " := tame_ofList (by decide)
      exact tame_append.trans (and_iff_right hfront)

/-- A test is tame in its `if` just if it is tame. -/
theorem tame_branch (negated : Bool) (test : Test) :
    Tame (Code.branch negated test).text ↔ Tame test.text := by
  cases negated with
  | false => exact tame_framed (by decide) (by decide)
  | true => exact tame_framed (by decide) (by decide)

/-- A test for a trait is tame just if the name of the trait is. -/
theorem tame_carries (traitName : String) : Tame (Test.carries traitName).text ↔ Tame traitName :=
  tame_framed (by decide) (by decide)

/-- A health test is tame if its threshold is. -/
theorem tame_health (comparison : Comparison) {threshold : Threshold}
    (h : Tame threshold.text) : Tame (Test.health comparison threshold).text := by
  have hsymbol : Tame comparison.symbol := by
    cases comparison <;> decide
  have hfront : Tame ("self.Trait<Health>().HP " ++ comparison.symbol ++
      " self.Trait<Health>().MaxHP * ") := (tame_framed (by decide) (by decide)).mpr hsymbol
  exact tame_append.mpr ⟨hfront, h⟩

/-- A reference to a field is tame. -/
theorem tame_field (r : FieldRequest) (fields : List FieldDecl) :
    Tame (s!"Info.{r.name fields}") :=
  tame_append.mpr ⟨by decide, (r.word_name fields).tame⟩

/-- **What a line quotes.**  A line that is written hands through what it quotes, and is tame
otherwise. -/
theorem Written.tame_iff {lookup : Lookup} {before after : List FieldDecl} {code : Code}
    (h : Written lookup before code after) :
    Tame code.text ↔ ∀ text ∈ code.quoted?, Tame text := by
  -- Only remarks and tests for a trait quote something.
  have hplain : code.quoted? = none → Tame code.text →
      (Tame code.text ↔ ∀ text ∈ code.quoted?, Tame text) := by
    intro hnone htame
    rw [hnone]
    exact iff_of_true htame fun _ htext => by cases htext
  cases h with
  | remark r => simpa [Code.quoted?, Code.text] using r.tame_text
  | carries negated _ => simpa [Code.quoted?] using (tame_branch _ _).trans (tame_carries _)
  | enemyInCell negated =>
      refine hplain rfl ((tame_branch _ _).mpr (tame_append.mpr ⟨?_, ?_⟩))
      · exact tame_ofList (by decide)
      · exact tame_ofList (by decide)
  | fraction negated comparison htext =>
      refine hplain rfl ((tame_branch _ _).mpr (tame_health comparison ?_))
      exact free_of_forall Number.isNumeralChar (by decide)
        (List.all_eq_true.mp (Number.percentFraction?_plain htext))
  | threshold negated comparison name raw =>
      refine hplain rfl ((tame_branch _ _).mpr (tame_health comparison ?_))
      exact (tame_framed (by decide) (by decide)).mpr (FieldRequest.word_name _ _).tame
  | flag negated subject => exact hplain rfl ((tame_branch _ _).mpr (tame_field _ _))
  | count htext =>
      have hcount := (Action.isTickCount_signed htext).tame (by decide) (by decide)
      exact hplain rfl ((tame_framed (by decide) (by decide)).mpr hcount)
  | ticks name => exact hplain rfl ((tame_framed (by decide) (by decide)).mpr (tame_field _ _))
  | hunt => exact hplain rfl (tame_ofList (by decide))
  | @move rawArgs x y htarget =>
      obtain ⟨hx, hy⟩ := Action.target?_signed htarget
      have hfront : Tame ("self.QueueActivity(new Move(self, new CPos(" ++ x ++ ", ") :=
        (tame_framed (by decide) (by decide)).mpr (hx.tame (by decide) (by decide))
      exact hplain rfl
        ((tame_between hfront (tame_ofList (by decide))).mpr (hy.tame (by decide) (by decide)))
  | stay => exact hplain rfl (tame_ofList (by decide))

/-- What only serves the nesting is tame. -/
theorem tame_frame {code : Code} (h : code.isFrame = true) : Tame code.text := by
  cases code with
  | otherwise | opening | closing => decide
  | remark | queue | branch => cases h

/-- The lines of a tree are tame if and only if all texts that they quote are. -/
theorem lowered_tame_iff (lookup : Lookup) (options : HookOptions) (root : Node) :
    (∀ line ∈ (lowered lookup options root).1, Tame line.code.text) ↔
      ∀ code ∈ carried (lowered lookup options root).1, ∀ text ∈ code.quoted?, Tame text := by
  have hcarried : ∀ code ∈ carried (lowered lookup options root).1,
      (Tame code.text ↔ ∀ text ∈ code.quoted?, Tame text) :=
    (lowered_writes lookup options root).forall_code fun hcode _ => hcode.tame_iff
  constructor
  · intro hlines code hcode
    obtain ⟨line, hline, rfl⟩ := List.mem_map.mp (List.mem_of_mem_filter hcode)
    exact (hcarried _ hcode).mp (hlines line hline)
  · intro hcodes line hline
    cases hframe : line.code.isFrame with
    | true => exact tame_frame hframe
    | false =>
        have hcode : line.code ∈ carried (lowered lookup options root).1 :=
          List.mem_filter.mpr ⟨List.mem_map_of_mem hline, by simp [hframe]⟩
        exact (hcarried _ hcode).mpr (hcodes _ hcode)

/-! ## Where quoted texts come from -/

/-- All texts from outside that lowering has kept so far are tame. -/
structure TameSoFar (lookup : Lookup) (codes : List Code) (b : Builder) : Prop where
  quoted : ∀ code ∈ codes, ∀ text ∈ code.quoted?, Tame text
  described : ∀ f ∈ b.fields, Tame f.description
  faithful : b.Faithful lookup

/-- Meeting a request with a tame description keeps all descriptions tame. -/
theorem FieldRequest.tame_ensured {r : FieldRequest} (hr : Tame r.description)
    {fields : List FieldDecl} (hfields : ∀ f ∈ fields, Tame f.description) :
    ∀ f ∈ r.ensured fields, Tame f.description :=
  r.forall_ensured hfields (tame_singleLine.mpr hr)

/-- The description of a flag quotes its subject only. -/
theorem tame_flag {subject : String} (h : Tame subject) :
    Tame (FieldRequest.flag subject).description :=
  (tame_framed (by decide) (by decide)).mpr h

/-- The description of a threshold quotes its condition only. -/
theorem tame_threshold (name : String) {raw : String} (h : Tame raw) :
    Tame (FieldRequest.threshold name raw).description :=
  (tame_framed (by decide) (by decide)).mpr h.trim

/-- The fields that are there at first have tame descriptions. -/
theorem tame_initialFields (options : HookOptions) :
    ∀ f ∈ initialFields options, Tame f.description := by
  have hgate : ∀ f ∈ [gateField], Tame f.description :=
    List.forall_mem_singleton.mpr (tame_ofList (by decide))
  rw [initialFields]
  cases options.scanInterval with
  | none => exact hgate
  | some interval =>
      let request : FieldRequest := ⟨"ScanInterval", "int", toString interval,
        "Ticks between evaluations of the behavior tree."⟩
      have hrequest : Tame request.description :=
        tame_ofList (by decide)
      exact request.tame_ensured hrequest hgate

/-- A condition asks for no field, for the one of its subject, or for one that tells all of it. -/
theorem testOf_fields (lookup : Lookup) (raw : String) (b : Builder) :
    ((testOf lookup raw).run b).2.fields = b.fields ∨
      ((testOf lookup raw).run b).2.fields =
        (FieldRequest.flag (Condition.parse raw).subject).ensured b.fields ∨
      ∃ name, ((testOf lookup raw).run b).2.fields =
        (FieldRequest.threshold name raw).ensured b.fields := by
  rw [testOf_eq]
  unfold testAbout
  generalize Condition.parse raw = condition
  dsimp only
  have hfields : ((resolve lookup condition.subject).run b).2.fields = b.fields := by
    rw [run_resolve]
    split <;> rfl
  rw [run_bind, ← hfields]
  generalize (resolve lookup condition.subject).run b = found
  cases Subject.ofLookup condition.subject found.1 with
  | capability record => exact .inl rfl
  | health =>
      cases htext : Number.percentFraction? (condition.comparison.getD (.less, "")).2 with
      | some text =>
          simp only [thresholdOf, htext, run_bind, run_pure, run_need, true_or]
      | none =>
          simp only [thresholdOf, htext, run_bind, run_pure, run_need, run_threshold]
          exact .inr (.inr ⟨_, rfl⟩)
  | enemy => exact .inl rfl
  | flag =>
      simp only [run_bind, run_pure, run_flag]
      exact .inr (.inl rfl)

/-- The descriptions of fields quote conditions only. -/
theorem testOf_described (lookup : Lookup) {raw : String} (hraw : Tame raw) {b : Builder}
    (hb : ∀ f ∈ b.fields, Tame f.description) :
    ∀ f ∈ ((testOf lookup raw).run b).2.fields, Tame f.description := by
  rcases testOf_fields lookup raw b with hfields | hfields | ⟨name, hfields⟩
  · rw [hfields]
    exact hb
  · rw [hfields]
    exact FieldRequest.tame_ensured (tame_flag (hraw.of_subset (Condition.subject_subset raw))) hb
  · rw [hfields]
    exact FieldRequest.tame_ensured (tame_threshold name hraw) hb

/-- The description of a wait quotes nothing. -/
theorem ticksOf_described (args : List String) {b : Builder}
    (hb : ∀ f ∈ b.fields, Tame f.description) :
    ∀ f ∈ ((ticksOf args).run b).2.fields, Tame f.description := by
  have hticks : ∀ name, Tame (FieldRequest.ticks name).description :=
    fun _ => tame_ofList (by decide)
  cases args with
  | nil =>
      rw [ticksOf, run_bind, run_ticks, run_pure]
      exact FieldRequest.tame_ensured (hticks "WaitTicks") hb
  | cons arg rest =>
      rw [ticksOf]
      split
      · exact hb
      · rw [run_bind, run_ticks, run_pure]
        exact FieldRequest.tame_ensured (hticks arg) hb

/-- The code of an action quotes the action only. -/
theorem codeOf_tame {raw : String} (hraw : Tame raw) {b : Builder}
    (hb : ∀ f ∈ b.fields, Tame f.description) :
    (∀ code ∈ ((codeOf raw).run b).1, ∀ text ∈ code.quoted?, Tame text) ∧
      ∀ f ∈ ((codeOf raw).run b).2.fields, Tame f.description := by
  have hargs : Tame (Action.parse raw).rawArgs := hraw.of_subset (Action.rawArgs_subset raw)
  unfold codeOf
  dsimp only
  cases (Action.parse raw).kind with
  | wait =>
      simp only [run_bind, run_pure]
      exact ⟨by simp [Code.quoted?], ticksOf_described _ hb⟩
  | attack =>
      simp only [run_bind, run_pure, run_need]
      exact ⟨by simp [Code.quoted?], hb⟩
  | move =>
      simp only [run_bind, run_need]
      cases Action.target? (Action.parse raw).rawArgs with
      | some cell =>
          simp only [run_pure]
          exact ⟨by simp [Code.quoted?], hb⟩
      | none =>
          simp only [run_bind, run_pure]
          exact ⟨by simpa [Code.quoted?, Remark.topic] using hargs, hb⟩
  | unmapped =>
      simp only [run_bind, run_pure]
      exact ⟨by simpa [Code.quoted?, Remark.topic] using hraw.trim, hb⟩

/-- The comment about dropped children quotes the name of the leaf, and makes no field. -/
theorem droppedMark_tame {id : String} (hid : Tame id) (dropped : Nat) (b : Builder) :
    (∀ code ∈ ((droppedMark id dropped).run b).1, ∀ text ∈ code.quoted?, Tame text) ∧
      ((droppedMark id dropped).run b).2.fields = b.fields := by
  unfold droppedMark
  split
  · refine ⟨fun code hcode => ?_, rfl⟩
    cases hcode
  · simp only [run_bind, run_pure]
    exact ⟨by simpa [Code.quoted?, Remark.topic] using hid, rfl⟩

/-- Code that quotes tame texts only can be added. -/
theorem TameSoFar.add {lookup : Lookup} {codes more : List Code} {b b' : Builder}
    (h : TameSoFar lookup codes b)
    (hquoted : ∀ code ∈ more, ∀ text ∈ code.quoted?, Tame text)
    (hdescribed : ∀ f ∈ b'.fields, Tame f.description) (hfaithful : b'.Faithful lookup) :
    TameSoFar lookup (codes ++ more) b' :=
  ⟨List.forall_mem_append.mpr ⟨h.quoted, hquoted⟩, hdescribed, hfaithful⟩

/-- A test quotes nothing but the name of a trait that the lookup gave. -/
theorem tame_test {lookup : Lookup}
    (hlookup : ∀ subject record, lookup subject = some record → Tame record.name)
    {before after : List FieldDecl} {negated : Bool} {test : Test}
    (h : Written lookup before (.branch negated test) after) :
    ∀ text ∈ (Code.branch negated test).quoted?, Tame text := by
  cases h with
  | carries negated hrecord => simpa [Code.quoted?] using hlookup _ _ hrecord
  | _ => simp [Code.quoted?]

/-- **One event.**  If the texts of the node that an event comes from are tame, nothing else gets in
with the event. -/
theorem emit_tame (env : Env)
    (hlookup : ∀ subject record, env.lookup subject = some record → Tame record.name)
    {node : Node} (hnode : ∀ text ∈ node.texts, Tame text) {event : Event}
    (hevent : event.ComesFrom node) {codes : List Code} {b : Builder}
    (h : TameSoFar env.lookup codes b) :
    TameSoFar env.lookup (codes ++ ((event.emit env).run b).1) ((event.emit env).run b).2 := by
  have hid : Tame node.id := hnode _ List.mem_cons_self
  have hfaithful := (emit_writes env h.faithful event).2
  cases event with
  | enter id depth =>
      rw [run_emit_enter] at hfaithful ⊢
      refine h.add ?_ h.described hfaithful
      rw [nodeMark]
      split
      · simpa [Code.quoted?, Remark.topic, show id = node.id from hevent] using hid
      · simp
  | merge head partner => exact h.add (by simp [run_emit_merge]) h.described hfaithful
  | decide condition =>
      have hcondition : Tame condition := by
        refine hnode _ (List.mem_cons_of_mem _ (List.mem_append_left _ ?_))
        exact Option.mem_toList.mpr hevent
      rw [run_emit_decide] at hfaithful ⊢
      refine h.add ?_ (testOf_described env.lookup hcondition h.described) hfaithful
      exact List.forall_mem_singleton.mpr
        (tame_test hlookup (testOf_written h.faithful condition).1)
  | perform id action dropped =>
      obtain ⟨hname, htask, -⟩ := hevent
      have haction : Tame action := by
        refine hnode _ (List.mem_cons_of_mem _ (List.mem_append_right _ ?_))
        exact Option.mem_toList.mpr htask
      obtain ⟨hquoted, hdescribed⟩ := codeOf_tame haction h.described
      obtain ⟨hmark, hfields⟩ :=
        droppedMark_tame (hname ▸ hid : Tame id) dropped ((codeOf action).run b).2
      rw [run_emit_perform] at hfaithful ⊢
      refine h.add (List.forall_mem_append.mpr ⟨hquoted, hmark⟩) ?_ hfaithful
      rw [hfields]
      exact hdescribed

/-- **Where quoted texts come from.**  If the texts of live nodes and the names of capabilities are
tame, then so is all that lines quote and that fields say. -/
theorem lowered_tame {lookup : Lookup} {root : Node}
    (hlookup : ∀ subject record, lookup subject = some record → Tame record.name)
    (hlive : ∀ node ∈ root.live, ∀ text ∈ node.texts, Tame text) (options : HookOptions) :
    TameSoFar lookup (carried (lowered lookup options root).1) (lowered lookup options root).2 := by
  have hinitial : TameSoFar lookup [] { fields := initialFields options } :=
    ⟨by simp, tame_initialFields options, fun entry hentry => by cases hentry⟩
  -- Each event of the plan comes from a live node, and only its texts get in with it.
  refine lowerAll_gathers ⟨lookup, options.nodeComments⟩ (TameSoFar lookup) 0 (plan root) ?_
    hinitial
  intro event hevent codes b h
  obtain ⟨node, hnode, hfrom⟩ := events_from_live root 0 event hevent
  exact emit_tame ⟨lookup, options.nodeComments⟩ hlookup (hlive node hnode) hfrom h

end Hook

/-! ## The texts of a trait -/

open Hook CSharp

/-- The lines of all method bodies of the class. -/
def ClassDecl.bodyTexts (c : ClassDecl) : List String :=
  c.methods.flatMap fun m => m.body.map (·.text)

/-- The texts of a trait that each have to stay on one line of the source: the lines of the method
bodies, the literals of field descriptions and the comments at the top. -/
def Trait.lineTexts (t : Trait) : List String :=
  t.logic.bodyTexts ++ t.info.bodyTexts ++ t.info.fields.map (fun f => escaped f.description) ++
    (⟨t.sourceId, t.sourceHash⟩ : Provenance).header

/-- The texts from outside that get into the texts of a trait: the name of the root, what the lines
of the tree quote, and the descriptions of fields. -/
def quotedTexts (lookup : Lookup) (options : HookOptions) (root : Node) : List String :=
  root.id :: ((carried (lowered lookup options root).1).filterMap Code.quoted? ++
    (lowered lookup options root).2.fields.map (·.description))

/-- The bodies of legible methods break no line. -/
theorem unbroken_bodyTexts {c : ClassDecl} (h : ∀ m ∈ c.methods, LegibleMethod m) :
    ∀ text ∈ c.bodyTexts, Unbroken text.toList := by
  intro text htext
  obtain ⟨m, hm, htext⟩ := List.mem_flatMap.mp htext
  obtain ⟨line, hline, rfl⟩ := List.mem_map.mp htext
  exact ((h m hm).body line hline).2

/-- The header quotes the name of the tree and its digest. -/
theorem header_eq (p : Provenance) :
    p.header = ["// GENERATED FROM behavior tree '" ++ singleLine p.sourceId ++ "'",
      "// TREE HASH: " ++ p.sourceHash, "// DO NOT EDIT - regenerate from tree"] := rfl

/-- **The header breaks no line**, whatever the name of the tree. -/
theorem unbroken_header {p : Provenance} (hhash : OneLine p.sourceHash) :
    ∀ text ∈ p.header, Unbroken text.toList := by
  have hid : Unbroken (singleLine p.sourceId).toList := by
    rw [toList_singleLine]
    exact unbroken_singleLineChars _
  rw [header_eq, List.forall_mem_cons, List.forall_mem_cons, List.forall_mem_singleton]
  simp only [String.toList_append, unbroken_append]
  exact ⟨⟨⟨by decide, hid⟩, by decide⟩, ⟨by decide, (oneLine_iff.mp hhash).1⟩, by decide⟩

/-- The header is tame just if the name of the tree is. -/
theorem tame_header_iff {p : Provenance} (hhash : OneLine p.sourceHash) :
    (∀ text ∈ p.header, Tame text) ↔ Tame p.sourceId := by
  have hrest : Tame ("// TREE HASH: " ++ p.sourceHash) ∧
      Tame "// DO NOT EDIT - regenerate from tree" :=
    ⟨tame_append.mpr ⟨tame_ofList (by decide), (oneLine_iff.mp hhash).2⟩, tame_ofList (by decide)⟩
  rw [header_eq, List.forall_mem_cons, List.forall_mem_cons, List.forall_mem_singleton,
    and_iff_left hrest, tame_framed (by decide) (by decide), tame_singleLine]

section

variable (lookup : Lookup) (options : HookOptions) (root : Node) {name : String}

/-- The lines before those of the tree are tame. -/
theorem tame_hookPreamble : ∀ line ∈ hookPreamble options, Tame line.text := by
  have hall : ∀ idle : Bool, (∀ line ∈ hookPreamble { idleGuard := idle }, Tame line.text) ∧
      ∀ line ∈ hookPreamble { idleGuard := idle, scanInterval := some 1 }, Tame line.text := by
    decide
  rw [hookPreamble]
  cases options.scanInterval with
  | none => exact (hall options.idleGuard).1
  | some interval => exact (hall options.idleGuard).2

/-- The lines of the logic class are fixed ones and those of the tree. -/
theorem bodyTexts_logic : (traitOf lookup options root name).logic.bodyTexts =
    createdMethod.body.map (·.text) ++ ((hookPreamble options).map (·.text) ++
      (lowered lookup options root).1.map fun line => singleLine line.code.text) := by
  simp [ClassDecl.bodyTexts, traitOf, traitWith, constructorMethod, tickMethod, Line.statement]

/-- The lines of the logic class are tame just if those of the tree are. -/
theorem tame_logic_iff :
    (∀ text ∈ (traitOf lookup options root name).logic.bodyTexts, Tame text) ↔
      ∀ line ∈ (lowered lookup options root).1, Tame line.code.text := by
  have hcreated : ∀ line ∈ createdMethod.body, Tame line.text :=
    List.forall_mem_singleton.mpr (tame_ofList (by decide))
  rw [bodyTexts_logic, List.forall_mem_append, List.forall_mem_append, List.forall_mem_map,
    List.forall_mem_map, List.forall_mem_map, and_iff_right hcreated,
    and_iff_right (tame_hookPreamble options)]
  exact forall₂_congr fun _ _ => tame_singleLine

/-- The lines of the Info class are tame. -/
theorem tame_info (hname : Word name) :
    ∀ text ∈ (traitOf lookup options root name).info.bodyTexts, Tame text :=
  List.forall_mem_singleton.mpr ((tame_framed (by decide) (by decide)).mpr hname.tame)

/-- **No line of a trait is broken.** -/
theorem lineTexts_unbroken (hname : Word name) :
    ∀ text ∈ (traitOf lookup options root name).lineTexts, Unbroken text.toList := by
  have hlogic : ∀ text ∈ (traitOf lookup options root name).logic.bodyTexts,
      Unbroken text.toList :=
    unbroken_bodyTexts (legible_classes lookup options root hname).methods
  have hinfo := unbroken_bodyTexts (legible_info lookup options root hname).methods
  rw [Trait.lineTexts]
  simp only [List.forall_mem_append, List.forall_mem_map]
  refine ⟨⟨⟨hlogic, hinfo⟩, fun f _ => ?_⟩, unbroken_header root.oneLine_hash⟩
  rw [escaped, String.toList_ofList]
  exact unbroken_escapedChars _

/-- **Which texts are handed through.** -/
theorem lineTexts_tame_iff (hname : Word name) :
    (∀ text ∈ (traitOf lookup options root name).lineTexts, Tame text) ↔
      ∀ text ∈ quotedTexts lookup options root, Tame text := by
  have hinfo := tame_info lookup options root hname
  have hheader : (∀ text ∈ (⟨root.id, root.hash⟩ : Provenance).header, Tame text) ↔ Tame root.id :=
    tame_header_iff root.oneLine_hash
  have hdescribed : (∀ text ∈ (lowered lookup options root).2.fields.map
        (fun f => escaped f.description), Tame text) ↔
      ∀ text ∈ (lowered lookup options root).2.fields.map (·.description), Tame text := by
    rw [List.forall_mem_map, List.forall_mem_map]
    exact forall₂_congr fun _ _ => tame_escaped
  have hquoted : (∀ text ∈ (carried (lowered lookup options root).1).filterMap Code.quoted?,
        Tame text) ↔
      ∀ text ∈ (traitOf lookup options root name).logic.bodyTexts, Tame text := by
    rw [tame_logic_iff, lowered_tame_iff]
    simp only [List.mem_filterMap]
    exact ⟨fun h code hcode text htext => h text ⟨code, hcode, htext⟩,
      fun h text ⟨code, hcode, htext⟩ => h code hcode text htext⟩
  rw [quotedTexts, List.forall_mem_cons, List.forall_mem_append, hquoted, ← hdescribed, ← hheader,
    Trait.lineTexts, List.forall_mem_append, List.forall_mem_append, List.forall_mem_append,
    and_iff_left hinfo]
  exact and_comm

end

/-- **What may end a line.**  Whatever the tree, the capabilities, the options and the name: no text
of the trait has a line break in it.  None has any character that ends a line if and only if this
holds of the texts that are handed through.  These are harmless when the texts of live nodes and the
names of capabilities are. -/
theorem texts_stay_on_one_line_iff {lookup : Lookup} {options : HookOptions} {root : Node}
    {name : String} {t : Trait} (ht : synthesize lookup options root name = .ok t) :
    (∀ text ∈ t.lineTexts, '\r' ∉ text.toList ∧ '\n' ∉ text.toList) ∧
      ((∀ text ∈ t.lineTexts, OneLine text) ↔
        ∀ text ∈ quotedTexts lookup options root, Tame text) ∧
      ((∀ node ∈ root.live, ∀ text ∈ node.texts, Tame text) →
        (∀ subject record, lookup subject = some record → Tame record.name) →
        ∀ text ∈ t.lineTexts, OneLine text) := by
  obtain ⟨hname, htrait⟩ := synthesize_eq_ok ht
  have hunbroken := lineTexts_unbroken lookup options root hname
  have htame := lineTexts_tame_iff lookup options root hname
  rw [← htrait] at hunbroken htame
  have honeLine : (∀ text ∈ t.lineTexts, OneLine text) ↔
      ∀ text ∈ quotedTexts lookup options root, Tame text := by
    rw [← htame]
    refine forall₂_congr fun text htext => ?_
    rw [oneLine_iff, and_iff_right (hunbroken text htext)]
  refine ⟨fun text htext => unbroken_iff.mp (hunbroken text htext), honeLine, ?_⟩
  intro hlive hlookup
  have hsources := lowered_tame hlookup hlive options
  have hroot : root ∈ root.live := by
    rw [Node.live_eq]
    exact List.mem_cons_self
  have hid : Tame root.id := hlive root hroot root.id List.mem_cons_self
  rw [honeLine, quotedTexts, List.forall_mem_cons, List.forall_mem_append, List.forall_mem_map]
  refine ⟨hid, fun text htext => ?_, hsources.described⟩
  obtain ⟨code, hcode, hquoted⟩ := List.mem_filterMap.mp htext
  exact hsources.quoted code hcode text hquoted

/-- A tree with line breaks in its texts. -/
def brokenTexts : Node :=
  { id := "gate\r\nself.Kill();"
    children :=
      [{ id := "hide\rme", condition := some "Cloak" },
        { id := "fly", condition := some "Low\nFuel", action := some "Fly\n(Home)" }] }

theorem texts_stay_on_one_line_iff_brokenTexts :
    let lookup : Lookup := fun subject =>
      if subject = "Cloak" then some (.standalone subject) else none
    ∃ t, synthesize lookup {} brokenTexts "gate" = .ok t ∧
      (∀ node ∈ brokenTexts.live, ∀ text ∈ node.texts, Tame text) ∧
      (∀ subject record, lookup subject = some record → Tame record.name) ∧
      ∀ text ∈ t.lineTexts, OneLine text := by
  intro lookup
  have hlive : ∀ node ∈ brokenTexts.live, ∀ text ∈ node.texts, Tame text := by decide +kernel
  have hlookup : ∀ subject record, lookup subject = some record → Tame record.name := by
    intro subject record hrecord
    obtain ⟨rfl, rfl⟩ : subject = "Cloak" ∧ .standalone subject = record := by
      simpa [lookup] using hrecord
    decide
  have ht : synthesize lookup {} brokenTexts "gate" = .ok (traitOf lookup {} brokenTexts "Gate") :=
    synthesize_of_className rfl
  exact ⟨_, ht, hlive, hlookup, (texts_stay_on_one_line_iff ht).2.2 hlive hlookup⟩

/-- A leaf with a line separator in its name. -/
def separatedName : Node := { id := "x\u2028self.Kill();", action := some "Attack" }

/-- **A line separator gets through.**  The comment on the leaf ends at it, so what stands behind it
in the name is read as code. -/
theorem separator_gets_through :
    ∃ t, synthesize (fun _ => none) {} separatedName "Guard" = .ok t ∧
      "// node: x\u2028self.Kill();" ∈ t.lineTexts ∧ ¬ ∀ text ∈ t.lineTexts, OneLine text := by
  have hline : "// node: x\u2028self.Kill();" ∈
      (lowered (fun _ => none) {} separatedName).1.map fun line => singleLine line.code.text := by
    decide +kernel
  have hmem : "// node: x\u2028self.Kill();" ∈
      (traitOf (fun _ => none) {} separatedName "Guard").lineTexts := by
    rw [Trait.lineTexts, bodyTexts_logic]
    simp only [List.mem_append]
    exact .inl (.inl (.inl (.inr (.inr hline))))
  refine ⟨_, synthesize_of_className rfl, hmem, fun h => ?_⟩
  exact absurd (h _ hmem) (by decide)

end BehaviorTraits
