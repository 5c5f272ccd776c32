import BehaviorTraits.Proofs.FieldUses
import BehaviorTraits.Proofs.FileAgreement
import BehaviorTraits.Proofs.FirstSeen

/-!
# Declared and used fields

The lines of an update hook determine the fields of the Info class.  Going through the references
in order and declaring each field that is not there yet (`declare`) gives the names and types of
all fields (`lowered_declares`).  Two results come from this.

* `info_fields_in_order_of_use`: behind the fixed fields stand the names that the lines refer to,
  each once, in the order of their first use.
* `field_uses_well_typed_iff`: the first use of a name decides its type, so the uses agree with the
  declared types unless a name is used in two ways or is that of a fixed field.  Both do happen
  (`gate_name_as_flag`).
-/

namespace BehaviorTraits.Hook

open Text

/-! ## Declaring what is used -/

/-- What a declared field can be used as. -/
def signature (f : FieldDecl) : FieldUse := ⟨f.name, f.type⟩

/-- Declares a field for a use, unless there is one of its name. -/
def declare (known : List FieldUse) (use : FieldUse) : List FieldUse :=
  if known.any (·.name == use.name) then known else known ++ [use]

/-- Meeting a request is declaring a field. -/
theorem signatures_ensured (r : FieldRequest) (fields : List FieldDecl) :
    (r.ensured fields).map signature = declare (fields.map signature) ⟨r.name fields, r.type⟩ := by
  have hany : (fields.map signature).any (·.name == r.name fields) =
      fields.any (·.name == r.name fields) := by
    rw [List.any_map]
    rfl
  rw [declare, hany, FieldRequest.ensured, FieldDecl.ensure]
  rw [← FieldRequest.name]
  split
  · rfl
  · rw [List.map_append]
    rfl

/-- A line declares the field that it names, and no other. -/
theorem Written.declares {lookup : Lookup} {before after : List FieldDecl} {code : Code}
    (h : Written lookup before code after) :
    after.map signature = code.use?.toList.foldl declare (before.map signature) := by
  cases h with
  | threshold negated comparison name raw => exact signatures_ensured _ _
  | flag negated subject => exact signatures_ensured _ _
  | ticks name => exact signatures_ensured _ _
  | _ => rfl

theorem filterMap_cons_toList {α β : Type} (f : α → Option β) (a : α) (as : List α) :
    (a :: as).filterMap f = (f a).toList ++ as.filterMap f := by
  rw [List.filterMap_eq_flatMap_toList, List.filterMap_eq_flatMap_toList, List.flatMap_cons]

/-- **Lines declare the fields that they name**, one after the other. -/
theorem Writes.declares {lookup : Lookup} {before after : List FieldDecl} {codes : List Code}
    (h : Writes lookup before codes after) :
    after.map signature = (codes.filterMap Code.use?).foldl declare (before.map signature) := by
  induction h with
  | nil => rfl
  | cons hcode _ ih =>
      rw [ih, hcode.declares, filterMap_cons_toList, List.foldl_append]

/-- What only serves the nesting refers to no field. -/
theorem fieldUse?_frame {code : Code} (h : code.isFrame = true) :
    fieldUse? (singleLine code.text) = none := by
  cases code with
  | otherwise =>
      exact Form.fieldUse?_of_opens (by decide) (by decide) (by decide : Opens "e" "else")
  | opening =>
      exact Form.fieldUse?_of_opens (by decide) (by decide) (by decide : Opens "\x7b" "\x7b")
  | closing =>
      exact Form.fieldUse?_of_opens (by decide) (by decide) (by decide : Opens "\x7d" "\x7d")
  | remark r => cases h
  | queue activity => cases h
  | branch negated test => cases h

/-- The lines refer to what their code names. -/
theorem fieldUses_statements {lines : List Line}
    (h : ∀ code ∈ carried lines, fieldUse? (singleLine code.text) = code.use?) :
    fieldUses (statements lines) = (carried lines).filterMap Code.use? := by
  induction lines with
  | nil => rfl
  | cons line lines ih =>
      have hcarried : carried (line :: lines) =
          if line.code.isFrame then carried lines else line.code :: carried lines := by
        cases hframe : line.code.isFrame <;> simp [carried, hframe]
      have htext : line.statement.text = singleLine line.code.text := rfl
      rw [hcarried] at h ⊢
      rw [statements, List.map_cons, fieldUses, filterMap_cons_toList, htext]
      split at h
      · rename_i hframe
        rw [if_pos hframe, fieldUse?_frame hframe]
        exact ih h
      · rename_i hframe
        obtain ⟨hline, hlines⟩ := List.forall_mem_cons.mp h
        rw [if_neg hframe, hline, filterMap_cons_toList, ← ih hlines, statements,
          fieldUses]

/-- The references in the lines of a tree are those that its code names. -/
theorem lowered_fieldUses (lookup : Lookup) (options : HookOptions) (root : Node) :
    fieldUses (statements (lowered lookup options root).1) =
      (carried (lowered lookup options root).1).filterMap Code.use? :=
  fieldUses_statements ((lowered_writes lookup options root).forall_code fun hcode _ =>
    hcode.fieldUse?_text)

/-- **The fields are the declared uses.**  Names and types of the fields come from those that are
there at first and from the lines alone. -/
theorem lowered_declares (lookup : Lookup) (options : HookOptions) (root : Node) :
    (lowered lookup options root).2.fields.map signature =
      (fieldUses (statements (lowered lookup options root).1)).foldl declare
        ((initialFields options).map signature) := by
  rw [lowered_fieldUses]
  exact (lowered_writes lookup options root).declares

/-! ## Names and types of what is declared -/

/-- Declaring is gathering by name. -/
theorem declare_eq_addNew : declare = addNew FieldUse.name := by
  funext known use
  have hany : known.any (·.name == use.name) = true ↔ use.name ∈ known.map (·.name) := by
    simp
  unfold declare addNew
  by_cases hknown : use.name ∈ known.map (·.name)
  · rw [if_pos hknown, if_pos (hany.mpr hknown)]
  · rw [if_neg hknown, if_neg (mt hany.mp hknown)]

/-- Behind the known names stand the new ones, each once, in the order of their first use. -/
theorem names_foldl_declare (uses known : List FieldUse) :
    (uses.foldl declare known).map (·.name) = known.map (·.name) ++
      ((uses.map (·.name)).filter (· ∉ known.map (·.name))).eraseDups := by
  rw [declare_eq_addNew]
  exact keys_foldl_addNew FieldUse.name uses known

/-- The first field of a name is the first that is known or used. -/
theorem find?_foldl_declare (name : String) (uses : List FieldUse) : ∀ known : List FieldUse,
    (uses.foldl declare known).find? (·.name == name) =
      (known ++ uses).find? (·.name == name) := by
  induction uses with
  | nil => intro known; simp
  | cons use uses ih =>
      intro known
      rw [List.foldl_cons, ih, declare]
      split
      · rename_i hknown
        rw [List.find?_append, List.find?_append, List.find?_cons]
        cases hname : use.name == name with
        | false => rfl
        | true =>
            rw [beq_iff_eq.mp hname] at hknown
            obtain ⟨found, hfound⟩ := Option.isSome_iff_exists.mp (List.isSome_find?.trans hknown)
            rw [hfound]
            rfl
      · rw [List.append_assoc]
        rfl

/-- No two fields have the same name. -/
theorem nodup_foldl_declare (uses : List FieldUse) {known : List FieldUse}
    (hknown : (known.map (·.name)).Nodup) : ((uses.foldl declare known).map (·.name)).Nodup := by
  rw [declare_eq_addNew]
  exact nodup_foldl_addNew FieldUse.name uses hknown

/-- A name that is used is found. -/
theorem exists_find?_name {uses : List FieldUse} {use : FieldUse} {name : String}
    (huse : use ∈ uses) (hname : use.name = name) :
    ∃ found, uses.find? (·.name == name) = some found :=
  Option.isSome_iff_exists.mp (List.find?_isSome.mpr ⟨use, huse, beq_iff_eq.mpr hname⟩)

/-- **When all uses agree with what is declared.**  Every use is declared just as it is used if and
only if uses of the same name are the same, and the same as what has been known before. -/
theorem uses_declared_iff {uses known : List FieldUse} (hknown : (known.map (·.name)).Nodup) :
    (∀ use ∈ uses, (uses.foldl declare known).find? (·.name == use.name) = some use) ↔
      ∀ use ∈ uses, ∀ other ∈ known ++ uses, other.name = use.name → other = use := by
  constructor
  · intro hdeclared use huse other hother hname
    have hfirst := hdeclared use huse
    rcases List.mem_append.mp hother with hother | hother
    · -- what is known comes first, and only once
      obtain ⟨found, hfound⟩ := exists_find?_name hother hname
      rw [find?_foldl_declare, List.find?_append, hfound] at hfirst
      cases hfirst
      exact List.inj_on_of_nodup_map hknown hother (List.mem_of_find?_eq_some hfound) hname
    · have hfirst' := hdeclared other hother
      rw [hname, hfirst] at hfirst'
      exact (Option.some.inj hfirst').symm
  · intro hsame use huse
    rw [find?_foldl_declare]
    obtain ⟨found, hfound⟩ := exists_find?_name (List.mem_append_right known huse) rfl
    have hname : found.name = use.name := by simpa using List.find?_some hfound
    rw [hfound, hsame use huse found (List.mem_of_find?_eq_some hfound) hname]

/-! ## The fields of a trait -/

/-- The fields that every tree gets. -/
def fixedFields (options : HookOptions) : List FieldUse :=
  ⟨"RequiresCondition", "BooleanExpression"⟩ ::
    match options.scanInterval with
    | none => []
    | some _ => [⟨"ScanInterval", "int"⟩]

/-- The fields that are there before lowering are the fixed ones. -/
theorem signatures_initialFields (options : HookOptions) :
    (initialFields options).map signature = fixedFields options := by
  rw [initialFields, fixedFields]
  cases options.scanInterval with
  | none => rfl
  | some interval => rfl

/-- There is always a switch, and a scan interval only if the options give one. -/
theorem mem_fixedFields {options : HookOptions} {use : FieldUse} :
    use ∈ fixedFields options ↔ use = ⟨"RequiresCondition", "BooleanExpression"⟩ ∨
      options.scanInterval ≠ none ∧ use = ⟨"ScanInterval", "int"⟩ := by
  rw [fixedFields]
  cases options.scanInterval <;> simp

/-- The fixed fields have different names. -/
theorem nodup_fixedFields (options : HookOptions) :
    ((fixedFields options).map (·.name)).Nodup := by
  rw [fixedFields]
  cases options.scanInterval with
  | none => decide
  | some interval => exact (by decide : ["RequiresCondition", "ScanInterval"].Nodup)

variable {lookup : Lookup} {options : HookOptions} {root : Node} {name : String} {t : Trait}

/-- The update hook ends with the lines of the tree, and its Info class has the fields they use. -/
theorem synthesized_parts (ht : synthesize lookup options root name = .ok t) :
    t.logic.methods.getLast? =
        some (tickMethod (hookPreamble options ++ statements (lowered lookup options root).1)) ∧
      t.info.fields = (lowered lookup options root).2.fields := by
  rw [(synthesize_eq_ok ht).2]
  exact ⟨rfl, rfl⟩

/-- **Names and types of the fields** come from the fixed fields and the lines alone. -/
theorem synthesized_signatures (ht : synthesize lookup options root name = .ok t) :
    t.info.fields.map signature =
      (fieldUses (statements (lowered lookup options root).1)).foldl declare
        (fixedFields options) := by
  rw [(synthesized_parts ht).2, lowered_declares, signatures_initialFields]

/-- The signature of a field tells its name. -/
theorem names_eq_signatures (fields : List FieldDecl) :
    fields.map (·.name) = (fields.map signature).map (·.name) := by
  rw [List.map_map]
  rfl

/-- No two fields of an Info class have the same name. -/
theorem nodup_synthesized_fields (ht : synthesize lookup options root name = .ok t) :
    (t.info.fields.map (·.name)).Nodup := by
  rw [names_eq_signatures, synthesized_signatures ht]
  exact nodup_foldl_declare _ (nodup_fixedFields options)

/-- **The fields are those that the lines refer to, in the order of their first use.**  The names
begin with those of the fixed fields; then each other name follows that a flag, a threshold or a
wait refers to, once.  So each reference has one field, which actor documents show, and no field
that was made for the tree is without a reference. -/
theorem info_fields_in_order_of_use (ht : synthesize lookup options root name = .ok t) :
    let body := statements (lowered lookup options root).1
    let fixed := (fixedFields options).map (·.name)
    let references := (fieldUses body).map (·.name)
    t.logic.methods.getLast? = some (tickMethod (hookPreamble options ++ body)) ∧
    t.info.fields.map (·.name) = fixed ++ (references.filter (· ∉ fixed)).eraseDups ∧
    (∀ F ∈ references, (t.exposedFields.map (·.name)).count F = 1) ∧
    ∀ f ∈ t.info.fields, f.name ∈ fixed ∨ f.name ∈ references := by
  intro body fixed references
  have hnames : t.info.fields.map (·.name) =
      fixed ++ (references.filter (· ∉ fixed)).eraseDups := by
    rw [names_eq_signatures, synthesized_signatures ht, names_foldl_declare]
  have hmem : ∀ F, F ∈ t.info.fields.map (·.name) ↔ F ∈ fixed ∨ F ∈ references := by
    intro F
    rw [hnames, List.mem_append, List.mem_eraseDups, List.mem_filter]
    by_cases hfixed : F ∈ fixed <;> simp [hfixed]
  have hexposed : t.exposedFields = t.info.fields := by
    refine List.filter_eq_self.mpr fun f hf => ?_
    rw [(synthesized_parts ht).2] at hf
    exact ((lowered_fields_proper lookup options root).2 f hf).exposed
  refine ⟨(synthesized_parts ht).1, hnames, fun F hF => ?_, fun f hf => ?_⟩
  · rw [hexposed]
    exact List.count_eq_one_of_mem (nodup_synthesized_fields ht) ((hmem F).mpr (.inr hF))
  · exact (hmem f.name).mp (List.mem_map_of_mem hf)

/-- A sentry that looks at a flag, and takes a threshold and a time from one field. -/
def sentry : Node :=
  { id := "sentry", condition := some "Alarm"
    children :=
      [{ id := "hold", condition := some "Health < Limit", action := some "Wait(Limit)" }] }

/-- It does so at every tenth tick. -/
def sentryOptions : HookOptions := { scanInterval := some 10 }

theorem synthesize_sentry : synthesize (fun _ => none) sentryOptions sentry "sentry" =
    .ok (traitOf (fun _ => none) sentryOptions sentry "Sentry") :=
  synthesize_of_className rfl

/-- The sentry refers to the flag once, and to the limit twice. -/
theorem fieldUses_sentry :
    fieldUses (statements (lowered (fun _ => none) sentryOptions sentry).1) =
      [⟨"Alarm", "bool"⟩, ⟨"Limit", "int"⟩, ⟨"Limit", "int"⟩] := by
  rw [lowered_fieldUses]
  decide +kernel

theorem info_fields_in_order_of_use_sentry :
    ∃ t, synthesize (fun _ => none) sentryOptions sentry "sentry" = .ok t ∧
      t.info.fields.map (·.name) = ["RequiresCondition", "ScanInterval", "Alarm", "Limit"] := by
  have hnames := (info_fields_in_order_of_use synthesize_sentry).2.1
  rw [fieldUses_sentry] at hnames
  exact ⟨_, synthesize_sentry, hnames.trans (by decide)⟩

/-- A tree with a flag of the name that the scan interval has. -/
def scanFlag : Node := { id := "root", condition := some "ScanInterval", action := some "Attack" }

/-- **Only a scan interval that is set keeps its name for itself.**  Without one, a flag of this
name gets a field as any other. -/
theorem scan_interval_as_flag :
    let body := statements (lowered (fun _ => none) {} scanFlag).1
    fieldUses body = [⟨"ScanInterval", "bool"⟩] ∧
    ∃ t, synthesize (fun _ => none) {} scanFlag "Guard" = .ok t ∧
      t.info.fields.map (·.name) = ["RequiresCondition", "ScanInterval"] ∧
      t.info.fields.map (·.name) ≠ "RequiresCondition" :: (((fieldUses body).map (·.name)).filter
        (· ∉ ["RequiresCondition", "ScanInterval"])).eraseDups := by
  intro body
  have huses : fieldUses body = [⟨"ScanInterval", "bool"⟩] := by
    rw [lowered_fieldUses]
    decide +kernel
  obtain ⟨t, ht⟩ : ∃ t, synthesize (fun _ => none) {} scanFlag "Guard" = .ok t :=
    ⟨_, synthesize_of_className rfl⟩
  have hfields : t.info.fields.map (·.name) = ["RequiresCondition", "ScanInterval"] := by
    rw [(synthesized_parts ht).2]
    decide +kernel
  refine ⟨huses, t, ht, hfields, ?_⟩
  rw [hfields, huses]
  decide

/-! ## The types of used fields -/

/-- A reference is to a flag or to a number. -/
theorem fieldUse?_type {text : String} {use : FieldUse} (h : fieldUse? text = some use) :
    use.type = "bool" ∨ use.type = "int" := by
  obtain ⟨form, _, hread⟩ := List.exists_of_findSome?_eq_some h
  have htype : use.type = form.type := by
    unfold Form.read? at hread
    split at hread
    · dsimp only at hread
      split at hread
      · cases hread
        rfl
      · cases hread
    · cases hread
  rw [htype]
  cases form with
  | wait => exact .inr rfl
  | flag negated => exact .inl rfl
  | threshold negated comparison => exact .inr rfl

theorem fieldUses_type {body : List Statement} {use : FieldUse} (h : use ∈ fieldUses body) :
    use.type = "bool" ∨ use.type = "int" := by
  obtain ⟨line, _, huse⟩ := List.mem_filterMap.mp h
  exact fieldUse?_type huse

/-- A field of a class has the type of a use just if it is declared as it is used. -/
theorem field?_type_iff (c : ClassDecl) (use : FieldUse) :
    (c.field? use.name).map (·.type) = some use.type ↔
      (c.fields.map signature).find? (·.name == use.name) = some use := by
  have hfind : (c.fields.map signature).find? (·.name == use.name) =
      (c.field? use.name).map signature := List.find?_map
  rw [hfind]
  cases hfield : c.field? use.name with
  | none => simp
  | some f =>
      have hname : f.name = use.name := by simpa using List.find?_some hfield
      simp [signature, hname, FieldUse.ext_iff]

/-- Uses of one name are the same, if each is of a flag or a number, unless it has to do with the
fixed fields or is used in both ways. -/
theorem uses_same_iff {options : HookOptions} {uses : List FieldUse}
    (htypes : ∀ use ∈ uses, use.type = "bool" ∨ use.type = "int") :
    (∀ use ∈ uses, ∀ other ∈ fixedFields options ++ uses, other.name = use.name → other = use) ↔
      (∀ use ∈ uses, use.name ≠ "RequiresCondition") ∧
      (options.scanInterval ≠ none → ⟨"ScanInterval", "bool"⟩ ∉ uses) ∧
      ∀ F, ¬ (⟨F, "bool"⟩ ∈ uses ∧ ⟨F, "int"⟩ ∈ uses) := by
  constructor
  · intro hsame
    refine ⟨fun use huse hname => ?_, fun hscan hflag => ?_, fun F hboth => ?_⟩
    · have hgate := hsame use huse _ (List.mem_append_left _ (mem_fixedFields.mpr (.inl rfl)))
        hname.symm
      have htype := htypes use huse
      rw [← hgate] at htype
      exact absurd htype (by decide)
    · have hint := hsame _ hflag _
        (List.mem_append_left _ (mem_fixedFields.mpr (.inr ⟨hscan, rfl⟩))) rfl
      exact absurd (congrArg FieldUse.type hint) (by decide)
    · have hint := hsame _ hboth.1 _ (List.mem_append_right _ hboth.2) rfl
      exact absurd (congrArg FieldUse.type hint) (by decide : "int" ≠ "bool")
  · rintro ⟨hgate, hscan, hboth⟩ use huse other hother hname
    rcases List.mem_append.mp hother with hother | hother
    · rcases mem_fixedFields.mp hother with rfl | ⟨hsome, rfl⟩
      · exact absurd hname.symm (hgate use huse)
      · rcases htypes use huse with htype | htype
        · have hflag : use = ⟨"ScanInterval", "bool"⟩ := FieldUse.ext hname.symm htype
          exact absurd (hflag ▸ huse) (hscan hsome)
        · exact FieldUse.ext hname htype.symm
    · have hpair : ∀ a ∈ uses, ∀ b ∈ uses, a.name = b.name → a.type = "bool" → b.type = "int" →
          False := by
        intro a ha b hb hnames hbool hint
        have ha' : a = ⟨b.name, "bool"⟩ := FieldUse.ext hnames hbool
        have hb' : b = ⟨b.name, "int"⟩ := FieldUse.ext rfl hint
        exact hboth b.name ⟨ha' ▸ ha, hb' ▸ hb⟩
      rcases htypes use huse with htype | htype <;>
        rcases htypes other hother with htype' | htype'
      · exact FieldUse.ext hname (htype'.trans htype.symm)
      · exact (hpair use huse other hother hname.symm htype htype').elim
      · exact (hpair other hother use huse hname htype' htype).elim
      · exact FieldUse.ext hname (htype'.trans htype.symm)

/-- **When the types of the fields fit their uses.**  They do if and only if no line uses the switch
of the trait, none tests the scan interval as a flag when there is one, and none uses as a number
what another line tests as a flag. -/
theorem field_uses_well_typed_iff (ht : synthesize lookup options root name = .ok t) :
    let uses := fieldUses (statements (lowered lookup options root).1)
    (∀ use ∈ uses, (t.info.field? use.name).map (·.type) = some use.type) ↔
      (∀ use ∈ uses, use.name ≠ "RequiresCondition") ∧
      (options.scanInterval ≠ none → ⟨"ScanInterval", "bool"⟩ ∉ uses) ∧
      ∀ F, ¬ (⟨F, "bool"⟩ ∈ uses ∧ ⟨F, "int"⟩ ∈ uses) := by
  intro uses
  have htypes : ∀ use ∈ uses, use.type = "bool" ∨ use.type = "int" := fun _ => fieldUses_type
  have hdeclared : (∀ use ∈ uses, (t.info.field? use.name).map (·.type) = some use.type) ↔
      ∀ use ∈ uses, ∀ other ∈ fixedFields options ++ uses, other.name = use.name → other = use := by
    rw [← uses_declared_iff (nodup_fixedFields options), ← synthesized_signatures ht]
    exact forall₂_congr fun use _ => field?_type_iff t.info use
  rw [hdeclared, uses_same_iff htypes]

theorem field_uses_well_typed_iff_sentry :
    ∃ t, synthesize (fun _ => none) sentryOptions sentry "sentry" = .ok t ∧
      ∀ use ∈ fieldUses (statements (lowered (fun _ => none) sentryOptions sentry).1),
        (t.info.field? use.name).map (·.type) = some use.type := by
  refine ⟨_, synthesize_sentry, (field_uses_well_typed_iff synthesize_sentry).mpr ?_⟩
  rw [fieldUses_sentry]
  refine ⟨by decide, fun _ => by decide, fun F => ?_⟩
  have hdifferent : F = "Alarm" → F ≠ "Limit" := by
    rintro rfl
    decide
  simpa using hdifferent

/-- A tree with a flag of the name that the switch of the trait has. -/
def gateFlag : Node :=
  { id := "root", condition := some "RequiresCondition", action := some "Attack" }

/-- **The name of a fixed field as a flag.**  The line tests the switch of the trait, which is not
of the type of flags. -/
theorem gate_name_as_flag :
    fieldUses (statements (lowered (fun _ => none) {} gateFlag).1) =
      [⟨"RequiresCondition", "bool"⟩] ∧
    ∃ t, synthesize (fun _ => none) {} gateFlag "Guard" = .ok t ∧
      (t.info.field? "RequiresCondition").map (·.type) = some "BooleanExpression" := by
  obtain ⟨t, ht⟩ : ∃ t, synthesize (fun _ => none) {} gateFlag "Guard" = .ok t :=
    ⟨_, synthesize_of_className rfl⟩
  refine ⟨?_, t, ht, ?_⟩
  · rw [lowered_fieldUses]
    decide +kernel
  · rw [ClassDecl.field?, (synthesized_parts ht).2]
    decide +kernel

end BehaviorTraits.Hook
