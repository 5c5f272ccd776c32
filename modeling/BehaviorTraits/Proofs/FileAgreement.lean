import BehaviorTraits.Generation
import BehaviorTraits.Proofs.Execution
import BehaviorTraits.Proofs.MiniYamlReading
import BehaviorTraits.Proofs.SourceReading

/-!
# The two files of a trait agree

A generation makes a source file and an actor definition.  The engine takes both in and matches the
entries of the definition with the fields of the Info class by name, so they must tell the same
fields with the same values.

`files_agree` says that they do, as they are read: the field declarations of the source and the
entries of the definition are those of the Info class, in order.
-/

namespace BehaviorTraits

open Text Hook CSharp Layout

/-! ## The classes of a trait -/

/-- A class name is a word. -/
theorem word_className {name letters : String} (h : className name = .ok letters) :
    Word letters := by
  rw [className] at h
  split at h
  · cases h
  · rename_i hne
    split at h
    · cases h
    · rw [← Except.ok.inj h]
      exact word_alphanumerics hne

/-- A name that becomes a class name gives a trait under it. -/
theorem synthesize_of_className {lookup : Lookup} {options : HookOptions} {root : Node}
    {name letters : String} (h : className name = .ok letters) :
    synthesize lookup options root name = .ok (traitOf lookup options root letters) := by
  rw [synthesize_eq, h]
  rfl

/-- An accepted name becomes the name of the logic class. -/
theorem synthesize_eq_ok {lookup : Lookup} {options : HookOptions} {root : Node} {name : String}
    {t : Trait} (h : synthesize lookup options root name = .ok t) :
    Word t.name ∧ t = traitOf lookup options root t.name := by
  rw [synthesize_eq] at h
  cases hname : className name with
  | error e =>
      rw [hname] at h
      cases h
  | ok letters =>
      rw [hname] at h
      rw [← Except.ok.inj h]
      exact ⟨word_className hname, rfl⟩

namespace Hook

/-- No code is a line of unknown shape. -/
theorem Code.shape_ne_other (code : Code) : code.shape ≠ .other := by
  intro hshape
  cases code with
  | remark r => cases r <;> cases hshape
  | queue | branch | otherwise | opening | closing => cases hshape

/-- A line is never empty, and never broken. -/
theorem Line.statement_text (line : Line) :
    line.statement.text ≠ "" ∧ Unbroken line.statement.text.toList := by
  refine ⟨fun hempty => ?_, ?_⟩
  · have hshape := shapeOf_statement line
    rw [hempty] at hshape
    exact line.code.shape_ne_other (hshape.symm.trans (by decide))
  · rw [Line.statement, toList_singleLine]
    exact unbroken_singleLineChars _

end Hook

/-- The lines before those of the tree can be read. -/
theorem legible_hookPreamble (options : HookOptions) : LegibleBody (hookPreamble options) := by
  have hall : ∀ idle : Bool, LegibleBody (hookPreamble { idleGuard := idle }) ∧
      LegibleBody (hookPreamble { idleGuard := idle, scanInterval := some 1 }) := by decide
  rw [hookPreamble]
  cases options.scanInterval with
  | none => exact (hall options.idleGuard).1
  | some interval => exact (hall options.idleGuard).2

/-- **The lines of the update hook can be read**, whatever the tree. -/
theorem legible_tick (options : HookOptions) (lines : List Line) :
    LegibleBody (hookPreamble options ++ lines.map Line.statement) := by
  intro line hline
  rcases List.mem_append.mp hline with hline | hline
  · exact legible_hookPreamble options line hline
  · obtain ⟨l, _, rfl⟩ := List.mem_map.mp hline
    exact l.statement_text

/-- The line that makes the logic class can be read. -/
theorem legible_create {name : String} (hname : Word name) :
    LegibleBody (createMethod name).body := by
  intro line hline
  rw [createMethod, List.mem_singleton] at hline
  subst hline
  have htext : s!"return new {name}(init.Self, this);" =
      "return new " ++ (name ++ "(init.Self, this);") := by
    simp [ToString.toString, String.append_assoc]
  dsimp only
  rw [htext, String.toList_append, String.toList_append, unbroken_append, unbroken_append]
  refine ⟨?_, by decide, hname.unbroken, by decide⟩
  intro hempty
  rw [String.append_eq_empty_iff] at hempty
  exact absurd hempty.1 (by decide)

/-- The signature of a constructor stays on one line. -/
theorem unbroken_constructor {name : String} (hname : Word name) :
    Unbroken (signature (constructorMethod name (name ++ "Info"))).toList := by
  have hword := hname.unbroken
  have hparameters : String.intercalate ", " ["Actor self", name ++ "Info" ++ " " ++ "info"] =
      "Actor self, " ++ (name ++ "Info info") := by
    simp [String.intercalate_cons_cons, String.append_assoc]
  have htext : signature (constructorMethod name (name ++ "Info")) =
      "public " ++ name ++ "(" ++ ("Actor self, " ++ (name ++ "Info info")) ++ ")" := by
    rw [← hparameters]
    rfl
  rw [htext]
  simp only [String.toList_append, unbroken_append]
  exact ⟨⟨⟨⟨by decide, hword⟩, by decide⟩, by decide, hword, by decide⟩, by decide⟩

theorem legible_createMethod {name : String} (hname : Word name) :
    LegibleMethod (createMethod name) where
  signature := (by decide : Unbroken "public override object Create(ActorInitializer init)".toList)
  call _ hcall := by cases hcall
  body := legible_create hname

theorem legible_createdMethod : LegibleMethod createdMethod where
  signature := by decide
  call _ hcall := by cases hcall
  body := by decide

theorem legible_constructorMethod {name : String} (hname : Word name) :
    LegibleMethod (constructorMethod name (name ++ "Info")) where
  signature := unbroken_constructor hname
  call call hcall := by
    cases hcall
    decide
  body _ hline := by cases hline

theorem legible_tickMethod (options : HookOptions) (lines : List Line) :
    LegibleMethod (tickMethod (hookPreamble options ++ lines.map Line.statement)) where
  signature := (by decide : Unbroken "void ITick.Tick(Actor self)".toList)
  call _ hcall := by cases hcall
  body := legible_tick options lines

/-- The declaration of a proper field stays on one line. -/
theorem FieldDecl.Proper.unbroken_declaration {f : FieldDecl} (hf : f.Proper) :
    Unbroken (declarationText f).toList := by
  have hclosing : Unbroken (closing f) := by
    rw [closing_eq hf]
    cases hdefault : f.default? with
    | none => decide
    | some v =>
        have hvalue := (hf.value v hdefault).unbroken
        exact unbroken_append.mpr
          ⟨(by decide : Unbroken [' ', '=', ' ']), unbroken_append.mpr ⟨hvalue, by decide⟩⟩
  rw [declarationText_eq hf, unbroken_append, unbroken_append]
  refine ⟨by decide, hf.type.unbroken, ?_⟩
  exact unbroken_append.mpr ⟨(by decide : Unbroken [' ']),
    unbroken_append.mpr ⟨hf.name.unbroken, hclosing⟩⟩

section

variable (lookup : Lookup) (options : HookOptions) (root : Node) {name : String}

/-- **The Info class can be read**, whatever the tree. -/
theorem legible_info (hname : Word name) :
    LegibleClass (traitOf lookup options root name).info where
  name := by
    intro hempty
    exact hname.1 (String.append_eq_empty_iff.mp hempty).1
  bases := (by decide : String.intercalate ", " ["ConditionalTraitInfo"] ≠ "")
  fields f hf := by
    have hproper := (lowered_fields_proper lookup options root).2 f hf
    exact ⟨hproper.type.1, hproper.name.1, hproper.unbroken_declaration⟩
  nonempty := List.cons_ne_nil _ _
  methods m hm := by
    rw [List.mem_singleton.mp hm]
    exact legible_createMethod hname

/-- The logic class names its Info class among its bases. -/
theorem basesText_classes : basesText (traitOf lookup options root name).classes =
    "ConditionalTrait<" ++ (name ++ "Info>, ITick, INotifyCreated") := by
  have hbases : basesText (traitOf lookup options root name).classes =
      String.intercalate ", "
        ["ConditionalTrait<" ++ (name ++ "Info") ++ ">", "ITick", "INotifyCreated"] := rfl
  rw [hbases]
  simp [String.intercalate_cons_cons, String.append_assoc]

/-- **The logic class can be read**, whatever the tree. -/
theorem legible_classes (hname : Word name) :
    LegibleClass (traitOf lookup options root name).classes where
  name := hname.1
  bases := by
    intro hempty
    rw [basesText_classes, String.append_eq_empty_iff] at hempty
    exact absurd hempty.1 (by decide)
  fields f hf := by
    have hcounter : cooldownCounter.type ≠ "" ∧ cooldownCounter.name ≠ "" ∧
        Unbroken (declarationText cooldownCounter).toList := by decide
    cases hscan : options.scanInterval with
    | none => simp [Trait.classes, traitOf, traitWith, hscan] at hf
    | some interval =>
        have hf : f = cooldownCounter := by
          simpa [Trait.classes, traitOf, traitWith, hscan] using hf
        rw [hf]
        exact hcounter
  nonempty := List.cons_ne_nil _ _
  methods m hm := by
    have hcases : m ∈ [constructorMethod name (name ++ "Info"), createdMethod,
        tickMethod (hookPreamble options ++
          (lowered lookup options root).1.map Line.statement)] := hm
    simp only [List.mem_cons, List.not_mem_nil, or_false] at hcases
    rcases hcases with rfl | rfl | rfl
    · exact legible_constructorMethod hname
    · exact legible_createdMethod
    · exact legible_tickMethod options _

/-- The head of the logic class is not that of an Info class. -/
theorem clear_logicHead (hname : Word name) :
    Clear (infoHead name)
      ⟨true, 1, (classHead (traitOf lookup options root name).classes).toList⟩ := by
  have hhead : (classHead (traitOf lookup options root name).classes).toList =
      "public class ".toList ++
        (name.toList ++ " : ConditionalTrait<".toList ++
          (name.toList ++ "Info>, ITick, INotifyCreated".toList)) := by
    unfold classHead
    rw [basesText_classes]
    simp [Trait.classes, traitOf, traitWith]
  have hword := hname.unbroken
  refine ⟨Unbroken.newLine_not_mem ?_, fun hline => ?_⟩
  · rw [hhead]
    simp only [unbroken_append]
    exact ⟨by decide, ⟨hword, by decide⟩, hword, by decide⟩
  · rw [Row.line, hhead] at hline
    simp [infoHead, margin] at hline

/-- A trait imports the default namespaces and no others. -/
theorem usedNamespaces_classes :
    usedNamespaces (traitOf lookup options root name).classes = defaultUsings :=
  (by decide : distinct (defaultUsings ++ (defaultUsings ++ [])) = defaultUsings)

/-- The source of a trait, row by row. -/
theorem csharp_eq_rows (hname : Word name) (provenance : Bool) :
    let t := traitOf lookup options root name
    t.csharp provenance = String.ofList (rowsChars (fileRows t.classes
      (if provenance then some ⟨t.sourceId, t.sourceHash⟩ else none))) := by
  intro t
  have hclasses : classesOf t.classes = [t.info, t.classes] := rfl
  rw [Trait.csharp]
  refine render_eq_rows _ ?_ ?_ ?_
  · rw [usedNamespaces_classes]
    decide
  · rw [usedNamespaces_classes]
    decide
  · intro c hc
    simp only [hclasses, List.mem_cons, List.not_mem_nil, or_false] at hc
    rcases hc with rfl | rfl
    · exact (legible_info lookup options root hname).printable
    · exact (legible_classes lookup options root hname).printable

/-- **The fields of the Info class are read back from the source.** -/
theorem readInfo_csharp (hname : Word name) (provenance : Bool) :
    readInfo name ((traitOf lookup options root name).csharp provenance) =
      some ((traitOf lookup options root name).info.fields.map declarationOf) := by
  let t := traitOf lookup options root name
  let header : Option Provenance := if provenance then some ⟨t.sourceId, t.sourceHash⟩ else none
  have hinfo : LegibleClass t.info := legible_info lookup options root hname
  have hlogic : LegibleClass t.classes := legible_classes lookup options root hname
  obtain ⟨hgate, hfields⟩ := lowered_fields_proper lookup options root
  have hrows : fileRows t.classes header = frontRows t.classes header ++
      (classRows 1 false t.info ++ (classRows 1 true t.classes ++ [⟨false, 0, ['\x7d']⟩])) := by
    rw [fileRows, show classesOf t.classes = [t.info, t.classes] from rfl]
    simp [joinedRows]
  rw [csharp_eq_rows lookup options root hname provenance]
  change readInfo name (String.ofList (rowsChars (fileRows t.classes header))) = _
  rw [hrows]
  refine readInfo_class ?_ ?_ hinfo hfields ?_ ?_
  · simp [classHead, basesText, infoHead, margin, t, traitOf, traitWith]
  · have hword := hname.unbroken
    refine Unbroken.newLine_not_mem ?_
    simp only [infoHead, String.toList_append, unbroken_append]
    exact ⟨⟨by decide, hword⟩, by decide⟩
  · exact List.ne_nil_of_mem hgate
  · intro r hr
    rw [classRows_eq, List.mem_append, List.mem_cons, List.mem_singleton] at hr
    rcases hr with (rfl | hr) | rfl
    · exact clear_logicHead lookup options root hname
    · exact clear_innerRows hlogic r hr
    · exact clear_of_short (by decide) (by decide)

/-- **The fields of the Info class are read back from the actor definition.** -/
theorem lastBlock_traitOf (hname : Word name) (entity : String) (defaults : ActorDefaults) :
    MiniYaml.lastBlock
        (actorDocument (traitOf lookup options root name) entity defaults).render =
      (traitOf lookup options root name).info.fields.map FieldDecl.entry := by
  have hfields := (lowered_fields_proper lookup options root).2
  have hexposed : (traitOf lookup options root name).exposedFields =
      (traitOf lookup options root name).info.fields :=
    List.filter_eq_self.mpr fun f hf => (hfields f hf).exposed
  have hread := lastBlock_actorDocument (t := traitOf lookup options root name) hname
    (fun f hf => hfields f (List.mem_of_mem_filter hf)) entity defaults
  rw [hread, hexposed]

end

/-! ## What the files say about a field -/

/-- The declaration of a field in the source and its entry in the actor definition say the same. -/
structure Agree (f : FieldDecl) (d : Declaration) (e : MiniYaml.Entry) : Prop where
  declared : d.name = f.name
  listed : e.key = d.name
  /-- A value that is written in the source is written in the definition. -/
  initial : ∀ v, d.initial? = some v → e.value = v
  /-- Otherwise the definition shows the value that the type has by itself. -/
  unset : d.initial? = none → e.value = f.documentValue
  /-- This happens for the switch of the trait only, which is left empty. -/
  switch : d.initial? = none ↔ d.name = "RequiresCondition"
  empty : d.name = "RequiresCondition" → e.value = ""
  described : d.description? = some f.description ∧ e.comment = d.description?

/-- What is declared for a proper field and what is shown of it agree. -/
theorem FieldDecl.Proper.agree {f : FieldDecl} (hf : f.Proper) :
    Agree f (declarationOf f) f.entry where
  declared := rfl
  listed := rfl
  initial v hv := by
    have hdefault : f.default? = some v := hv
    rw [FieldDecl.entry, FieldDecl.documentValue, hdefault]
    rfl
  unset _ := rfl
  switch := by
    refine ⟨fun hnone => ?_, fun hname => ?_⟩
    · rw [hf.gate (.inl hnone)]
      rfl
    · rw [hf.gate (.inr hname)]
      rfl
  empty hname := by
    rw [hf.gate (.inr hname)]
    decide
  described := ⟨rfl, rfl⟩

/-- **The two files of a trait agree.**  Whatever the tree, the options and the names: the source
declares the fields of the Info class, the actor definition lists them, both in order, and what they
say about each field agrees. -/
theorem files_agree {lookup : Lookup} {options : HookOptions} {root : Node} {name : String}
    {t : Trait} (ht : synthesize lookup options root name = .ok t) (provenance : Bool)
    (entity : String) (defaults : ActorDefaults) :
    ∃ declarations, readInfo t.name (t.csharp provenance) = some declarations ∧
      let entries := MiniYaml.lastBlock (actorDocument t entity defaults).render
      declarations.length = t.info.fields.length ∧ entries.length = t.info.fields.length ∧
        ∀ (i : Nat) (f : FieldDecl) (d : Declaration) (e : MiniYaml.Entry),
          t.info.fields[i]? = some f → declarations[i]? = some d → entries[i]? = some e →
            Agree f d e := by
  obtain ⟨hname, htrait⟩ := synthesize_eq_ok ht
  have hdeclarations := readInfo_csharp lookup options root hname provenance
  have hentries := lastBlock_traitOf lookup options root hname entity defaults
  rw [← htrait] at hdeclarations hentries
  refine ⟨_, hdeclarations, ?_⟩
  dsimp only
  rw [hentries, List.length_map, List.length_map]
  refine ⟨rfl, rfl, fun i f d e hf hd he => ?_⟩
  rw [List.getElem?_map, hf] at hd he
  cases hd
  cases he
  have hproper := (lowered_fields_proper lookup options root).2 f
  rw [htrait] at hf
  exact (hproper (List.mem_of_getElem? hf)).agree

/-- A post whose condition has quotes in it, which only the source escapes. -/
def guardPost : Node :=
  { id := "post", condition := some "Low \"Ammo\""
    children := [{ id := "rest", condition := some "Night" }] }

theorem files_agree_guardPost :
    let options : HookOptions := { scanInterval := some 10 }
    let t := traitOf (fun _ => none) options guardPost "Guard"
    synthesize (fun _ => none) options guardPost "guard" = .ok t ∧
    t.info.fields.map (·.name) = ["RequiresCondition", "ScanInterval", "LowAmmo", "Night"] ∧
    ∃ declarations, readInfo t.name (t.csharp true) = some declarations ∧
      let entries := MiniYaml.lastBlock (actorDocument t "e7" {}).render
      declarations.length = t.info.fields.length ∧ entries.length = t.info.fields.length ∧
        ∀ (i : Nat) (f : FieldDecl) (d : Declaration) (e : MiniYaml.Entry),
          t.info.fields[i]? = some f → declarations[i]? = some d → entries[i]? = some e →
            Agree f d e := by
  intro options t
  have hname : className "guard" = .ok "Guard" := rfl
  have ht : synthesize (fun _ => none) options guardPost "guard" = .ok t := by
    rw [synthesize_eq, hname]
    rfl
  have hfields : (lowered (fun _ => none) { scanInterval := some 10 } guardPost).2.fields.map
      (·.name) = ["RequiresCondition", "ScanInterval", "LowAmmo", "Night"] := by
    decide
  exact ⟨ht, hfields, files_agree ht true "e7" {}⟩

end BehaviorTraits
