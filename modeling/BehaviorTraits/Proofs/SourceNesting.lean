import BehaviorTraits.Proofs.LoweredLines
import BehaviorTraits.Proofs.Nesting
import BehaviorTraits.Proofs.QuotedTexts

/-!
# Nesting of the generated source

In the body of the update hook depths are counted by the lowering and braces are plain lines that it
writes; all other margins come from the layout of methods, classes and files.  The rows of each part
follow the grammar of nested rows:

* `nested_body`: well-nested code, wherever it stands;
* `nested_method`, `nested_class`: a method and a class, from those of their parts;
* `nested_file`: the whole file of a trait.

So in the text of a file each margin shows how many braces are open around the line.
-/

namespace BehaviorTraits.CSharp

open Layout Text Hook

/-! ## Plain texts -/

/-- Can the characters begin a plain text?  Two of them rule out a brace. -/
def isFront : List Char → Bool
  | first :: _ :: _ => first ≠ ' ' && first ≠ ':'
  | _ => false

/-- A text that begins plainly is plain, whatever it goes on with. -/
theorem plain_of_front {front text : List Char} (hfront : isFront front = true)
    (hbegins : front <+: text) (htext : '\n' ∉ text) : Plain text := by
  obtain ⟨rest, rfl⟩ := hbegins
  rcases front with _ | ⟨first, _ | ⟨second, more⟩⟩
  · cases hfront
  · cases hfront
  · simp only [isFront, Bool.and_eq_true, decide_eq_true_eq] at hfront
    exact
      { unbroken := htext
        solid := ⟨first, second :: more ++ rest, rfl, hfront.1⟩
        notOpening := by simp
        notClosing := by simp
        notCall := fun hcall => hfront.2 (List.cons.inj hcall).1 }

/-- How the shape of a line shows in its text. -/
theorem shapeOf_cases (text : String) :
    (shapeOf text = .otherwise ∧ text.toList = "else".toList) ∨
    (shapeOf text = .opening ∧ text.toList = ['\x7b']) ∨
    (shapeOf text = .closing ∧ text.toList = ['\x7d']) ∨
    (∃ opening ∈ Shape.openings, shapeOf text = opening.2 ∧ opening.1.toList <+: text.toList) ∨
    shapeOf text = .other := by
  rw [shapeOf]
  by_cases helse : text.toList = "else".toList
  · rw [if_pos helse]
    exact .inl ⟨rfl, helse⟩
  · rw [if_neg helse]
    by_cases hopening : text.toList = "\x7b".toList
    · rw [if_pos hopening]
      exact .inr (.inl ⟨rfl, hopening⟩)
    · rw [if_neg hopening]
      by_cases hclosing : text.toList = "\x7d".toList
      · rw [if_pos hclosing]
        exact .inr (.inr (.inl ⟨rfl, hclosing⟩))
      · rw [if_neg hclosing]
        cases hfind : Shape.openings.find? fun opening =>
            opening.1.toList.isPrefixOf text.toList with
        | none => exact .inr (.inr (.inr (.inr rfl)))
        | some opening =>
            have hfound := List.find?_some hfind
            exact .inr (.inr (.inr (.inl ⟨opening, List.mem_of_find?_eq_some hfind, rfl,
              List.isPrefixOf_iff_prefix.mp hfound⟩)))

/-- Only the braces have the shapes of braces. -/
theorem text_of_brace (text : String) :
    (shapeOf text = .opening → text.toList = ['\x7b']) ∧
      (shapeOf text = .closing → text.toList = ['\x7d']) := by
  have hopenings : ∀ opening ∈ Shape.openings,
      opening.2 ≠ .opening ∧ opening.2 ≠ .closing := by decide
  rcases shapeOf_cases text with ⟨h, -⟩ | ⟨h, htext⟩ | ⟨h, htext⟩ | ⟨o, ho, h, -⟩ | h <;> rw [h]
  · exact ⟨nofun, nofun⟩
  · exact ⟨fun _ => htext, nofun⟩
  · exact ⟨nofun, fun _ => htext⟩
  · exact ⟨fun hshape => absurd hshape (hopenings o ho).1,
      fun hshape => absurd hshape (hopenings o ho).2⟩
  · exact ⟨nofun, nofun⟩

/-- **A line of known shape is plain**, unless it is a brace. -/
theorem plain_of_shape {text : String} (hunbroken : Unbroken text.toList)
    (hshape : shapeOf text ≠ .opening ∧ shapeOf text ≠ .closing ∧ shapeOf text ≠ .other) :
    Plain text.toList := by
  have hfronts : ∀ opening ∈ Shape.openings, isFront opening.1.toList = true := by decide
  have htext := hunbroken.newLine_not_mem
  rcases shapeOf_cases text with ⟨-, helse⟩ | ⟨h, -⟩ | ⟨h, -⟩ | ⟨o, ho, -, hbegins⟩ | h
  · rw [helse] at htext ⊢
    exact plain_of_front (by decide) (List.prefix_refl _) htext
  · exact absurd h hshape.1
  · exact absurd h hshape.2.1
  · exact plain_of_front (hfronts o ho) hbegins htext
  · exact absurd h hshape.2.2

/-! ## Bodies -/

theorem bodyRows_append (k : Int) (first second : List Statement) :
    bodyRows k (first ++ second) = bodyRows k first ++ bodyRows k second :=
  List.map_append

theorem bodyRows_cons (k : Int) (line : Statement) (body : List Statement) :
    bodyRows k (line :: body) = ⟨false, k + line.depth, line.text.toList⟩ :: bodyRows k body := rfl

/-- Plain statements one below the other. -/
theorem nested_flat {body : List Statement}
    (hbody : ∀ line ∈ body, line.depth = 0 ∧ Plain line.text.toList) (k : Int) :
    Nested k (bodyRows k body) k 0 := by
  induction body with
  | nil => exact .nil k
  | cons line body ih =>
      rw [List.forall_mem_cons] at hbody
      rw [bodyRows_cons, hbody.1.1, Int.natCast_zero, Int.add_zero]
      exact .plain hbody.1.2 (ih hbody.2)

section

variable {k : Int} {depth : Nat} {line : Statement} {shape : Shape}

/-- A line of code that is no brace. -/
theorem nested_stands (h : Stands line depth shape)
    (hshape : shape ≠ .opening ∧ shape ≠ .closing ∧ shape ≠ .other)
    (htext : Unbroken line.text.toList) {rows : List Row} {k' : Int} {n : Nat}
    (hrows : Nested (k + depth) rows k' n) :
    Nested (k + depth) (⟨false, k + line.depth, line.text.toList⟩ :: rows) k' n := by
  obtain ⟨rfl, rfl⟩ := h
  exact .plain (plain_of_shape htext hshape) hrows

/-- Well-nested code between braces. -/
theorem nested_braces {opening closing : Statement} {inner : List Statement}
    (hopening : Stands opening depth .opening) (hclosing : Stands closing depth .closing)
    (hk : 0 ≤ k) (hinner : Nested (k + (depth + 1 : Nat)) (bodyRows k inner)
      (k + (depth + 1 : Nat)) 0) {rows : List Row} {k' : Int} {n : Nat}
    (hrows : Nested (k + depth) rows k' n) :
    Nested (k + depth) (⟨false, k + opening.depth, opening.text.toList⟩ :: bodyRows k inner ++
      ⟨false, k + closing.depth, closing.text.toList⟩ :: rows) k' n := by
  have hdepth : k + ((depth + 1 : Nat) : Int) = k + depth + 1 := by omega
  rw [hdepth] at hinner
  rw [hopening.1, hclosing.1, (text_of_brace _).1 hopening.2, (text_of_brace _).2 hclosing.2]
  have hall := Nested.opening (hinner.append (.closing (by omega) hrows))
  rw [Nat.zero_add] at hall
  exact hall

end

/-- **Well-nested code follows the grammar of rows.** -/
theorem nested_body {k : Int} (hk : 0 ≤ k) {depth : Nat} {body : List Statement}
    (h : Block depth body) (hbody : LegibleBody body) :
    Nested (k + depth) (bodyRows k body) (k + depth) 0 := by
  induction h with
  | nil depth => exact .nil _
  | @plain depth line rest hdepth hshape _ ih =>
      obtain ⟨hline, hrest⟩ := List.forall_mem_cons.mp hbody
      refine nested_stands ⟨hdepth, rfl⟩ ?_ hline.2 (ih hrest)
      rcases hshape with hshape | hshape
      · rw [hshape]
        decide
      · refine ⟨?_, ?_, ?_⟩ <;> intro h <;> rw [h] at hshape <;> cases hshape
  | @branch depth test opening closing yes rest htest hopening _ hclosing _ ihyes ih =>
      simp only [LegibleBody, List.forall_mem_cons, List.forall_mem_append, List.cons_append]
        at hbody
      obtain ⟨hline, -, hyes, -, hrest⟩ := hbody
      simp only [List.cons_append, bodyRows_cons, bodyRows_append]
      exact nested_stands htest (by decide) hline.2
        (nested_braces hopening hclosing hk (ihyes hyes) (ih hrest))
  | @branchElse depth test opening closing otherwise opening' closing' yes no rest htest hopening _
      hclosing hotherwise hopening' _ hclosing' _ ihyes ihno ih =>
      simp only [LegibleBody, List.forall_mem_cons, List.forall_mem_append, List.cons_append]
        at hbody
      obtain ⟨hline, -, ⟨hyes, -, hother, -, hno⟩, -, hrest⟩ := hbody
      simp only [List.cons_append, List.append_assoc, bodyRows_cons, bodyRows_append]
      exact nested_stands htest (by decide) hline.2
        (nested_braces hopening hclosing hk (ihyes hyes)
          (nested_stands hotherwise (by decide) hother.2
            (nested_braces hopening' hclosing' hk (ihno hno) (ih hrest))))

/-! ## Methods and classes -/

/-- The calls of base classes in a method. -/
def baseCalls (m : MethodDecl) : Nat := m.chainedCall.toList.length

/-- A body that nests does so in braces, one level in. -/
theorem nested_block {k : Int} (hk : 0 ≤ k) {body : List Statement}
    (hbody : Nested (k + 1) (bodyRows (k + 1) body) (k + 1) 0) :
    Nested k (blockRows k body) k 0 := by
  have hbraces : Plain "\x7b\x7d".toList :=
    plain_of_front (by decide) (List.prefix_refl _) (by decide)
  rw [blockRows]
  by_cases hempty : body = []
  · rw [if_pos hempty]
    exact .plain hbraces (.nil k)
  · rw [if_neg hempty]
    exact hbody.block hk

/-- **A method nests**: its signature, its base call if it has one, and its body. -/
theorem nested_method {k : Int} (hk : 0 ≤ k) {m : MethodDecl}
    (hsignature : Plain (signature m).toList) (hcall : ∀ call ∈ m.chainedCall, call = "base(info)")
    (hbody : Nested (k + 1) (bodyRows (k + 1) m.body) (k + 1) 0) (blank : Bool) :
    Nested k (methodRows k blank m) k (baseCalls m) := by
  have hblock := nested_block hk hbody
  rw [methodRows, baseCalls]
  refine .plain hsignature ?_
  cases hchained : m.chainedCall with
  | none =>
      rw [chainedRows, hchained]
      exact hblock
  | some call =>
      have htext : (": " ++ "base(info)").toList = baseCall := by decide
      rw [chainedRows, hchained, hcall call hchained, Option.toList_some, List.map_singleton, htext]
      exact .call hblock

/-- A field opens no block. -/
theorem nested_field {k : Int} {f : FieldDecl} (hf : Plain (declarationText f).toList)
    (blank : Bool) : Nested k (fieldRows k blank f) k 0 := by
  have hdescription : Plain (descriptionText f).toList := by
    refine plain_of_front (by decide : isFront "[Desc(".toList = true) ?_
      (unbroken_descriptionText f).newLine_not_mem
    rw [descriptionText, String.append_assoc, String.toList_append]
    exact List.prefix_append _ _
  rw [fieldRows]
  split
  · exact .plain hdescription (.plain hf (.nil k))
  · exact .plain hf (.nil k)

/-- **A class nests** if its fields are plain and its methods nest. -/
theorem nested_class {k : Int} (hk : 0 ≤ k) {c : ClassDecl} (hhead : Plain (classHead c).toList)
    (hfields : ∀ f ∈ c.fields, Plain (declarationText f).toList)
    (hmethods : ∀ m ∈ c.methods, ∀ blank,
      Nested (k + 1) (methodRows (k + 1) blank m) (k + 1) (baseCalls m)) (blank : Bool) :
    Nested k (classRows k blank c) k (c.methods.map baseCalls).sum := by
  have hrows : Nested (k + 1) (joinedRows (fieldRows (k + 1)) false false c.fields) (k + 1)
      (c.fields.map fun _ => 0).sum :=
    Nested.joined (fun f hf blank => nested_field (hfields f hf) blank) false false
  have hnone : (c.fields.map fun _ => 0).sum = 0 := by simp
  rw [hnone] at hrows
  have hinner := hrows.append (Nested.joined hmethods true (!c.fields.isEmpty))
  rw [Nat.zero_add] at hinner
  rw [classRows, List.cons_append, List.cons_append, List.cons_append, List.cons_append]
  exact .plain hhead (hinner.block hk)

end BehaviorTraits.CSharp

namespace BehaviorTraits

open Layout Text Hook CSharp

/-! ## The parts of a trait -/

/-- The declaration of a proper field is plain. -/
theorem FieldDecl.Proper.plain {f : FieldDecl} (hf : f.Proper) :
    Plain (declarationText f).toList := by
  refine plain_of_front (by decide : isFront "public readonly ".toList = true) ?_
    hf.unbroken_declaration.newLine_not_mem
  rw [declarationText_eq hf]
  exact List.prefix_append _ _

/-- The head of a class is plain, if no name in it breaks the line. -/
theorem plain_classHead {c : ClassDecl} (hhead : '\n' ∉ (classHead c).toList) :
    Plain (classHead c).toList := by
  have hopens : Opens "public class " "public class " := by decide
  exact plain_of_front (by decide) (((hopens.append _).append _).append _) hhead

/-- The lines before those of the tree open no block. -/
theorem nested_hookPreamble (options : HookOptions) (k : Int) :
    Nested k (bodyRows k (hookPreamble options)) k 0 := by
  have hall : ∀ idle : Bool,
      (∀ line ∈ hookPreamble { idleGuard := idle }, line.depth = 0 ∧ isFront line.text.toList) ∧
      ∀ line ∈ hookPreamble { idleGuard := idle, scanInterval := some 1 },
        line.depth = 0 ∧ isFront line.text.toList := by decide
  have hfront : ∀ line ∈ hookPreamble options, line.depth = 0 ∧ isFront line.text.toList := by
    rw [hookPreamble]
    cases options.scanInterval with
    | none => exact (hall options.idleGuard).1
    | some interval => exact (hall options.idleGuard).2
  refine nested_flat (fun line hline => ⟨(hfront line hline).1, ?_⟩) k
  have htext := (legible_hookPreamble options line hline).2
  exact plain_of_front (hfront line hline).2 (List.prefix_refl _) htext.newLine_not_mem

section

variable {k : Int} {name : String}

/-- The method by which the engine makes the logic class nests. -/
theorem nested_createMethod (hk : 0 ≤ k) (hname : Word name) (blank : Bool) :
    Nested k (methodRows k blank (createMethod name)) k 0 := by
  have hsignature : Plain "public override object Create(ActorInitializer init)".toList :=
    plain_of_front (by decide) (List.prefix_refl _) (by decide)
  have hopens : Opens "return new " "return new " := by decide
  refine nested_method (m := createMethod name) hk hsignature (by rintro _ ⟨⟩) ?_ blank
  refine nested_flat (fun line hline => ?_) (k + 1)
  have htext := (legible_create hname line hline).2
  rw [createMethod, List.mem_singleton] at hline
  subst hline
  exact ⟨rfl, plain_of_front (by decide) ((hopens.append _).append _) htext.newLine_not_mem⟩

theorem nested_createdMethod (hk : 0 ≤ k) (blank : Bool) :
    Nested k (methodRows k blank createdMethod) k 0 := by
  have hsignature : Plain "void INotifyCreated.Created(Actor self)".toList :=
    plain_of_front (by decide) (List.prefix_refl _) (by decide)
  have hbody : Plain "// Resolve trait references here.".toList :=
    plain_of_front (by decide) (List.prefix_refl _) (by decide)
  refine nested_method (m := createdMethod) hk hsignature (by rintro _ ⟨⟩)
    (nested_flat (fun line hline => ?_) _) blank
  rw [List.mem_singleton.mp hline]
  exact ⟨rfl, hbody⟩

/-- **The constructor nests**, and it has the one base call. -/
theorem nested_constructorMethod (hk : 0 ≤ k) (hname : Word name) (blank : Bool) :
    Nested k (methodRows k blank (constructorMethod name (name ++ "Info"))) k 1 := by
  have hopens : Opens "public " "public " := by decide
  have hsignature : Plain (signature (constructorMethod name (name ++ "Info"))).toList :=
    plain_of_front (by decide) ((((hopens.append _).append _).append _).append _)
      (unbroken_constructor hname).newLine_not_mem
  exact nested_method hk hsignature (by rintro _ ⟨⟩; rfl) (.nil _) blank

/-- **The update hook nests**, whatever the tree. -/
theorem nested_tickMethod (hk : 0 ≤ k) (lookup : Lookup) (options : HookOptions) (root : Node)
    (blank : Bool) :
    Nested k (methodRows k blank (tickMethod (hookPreamble options ++
      (lowered lookup options root).1.map Line.statement))) k 0 := by
  have hsignature : Plain "void ITick.Tick(Actor self)".toList :=
    plain_of_front (by decide) (List.prefix_refl _) (by decide)
  refine nested_method (m := tickMethod _) hk hsignature (by rintro _ ⟨⟩) ?_ blank
  have hlegible : LegibleBody (statements (lowered lookup options root).1) := by
    intro line hline
    obtain ⟨l, -, rfl⟩ := List.mem_map.mp hline
    exact l.statement_text
  have hlines := nested_body (Int.le_add_one hk)
    (lowerAll_block ⟨lookup, options.nodeComments⟩ (plan root) 0
      { fields := initialFields options }) hlegible
  have hbody := (nested_hookPreamble options (k + 1)).append (by simpa using hlines)
  rw [← bodyRows_append] at hbody
  exact hbody

end

section

variable (lookup : Lookup) (options : HookOptions) (root : Node) {name : String}

/-- The Info class nests and calls no base class. -/
theorem nested_info (hname : Word name) (blank : Bool) :
    Nested 1 (classRows 1 blank (traitOf lookup options root name).info) 1 0 := by
  have hhead : Unbroken (classHead (traitOf lookup options root name).info).toList := by
    have hbases : Unbroken (basesText (traitOf lookup options root name).info).toList :=
      (by decide : Unbroken (String.intercalate ", " ["ConditionalTraitInfo"]).toList)
    have hinfo : Unbroken (name ++ "Info").toList := by
      rw [String.toList_append, unbroken_append]
      exact ⟨hname.unbroken, by decide⟩
    unfold classHead
    rw [String.toList_append, String.toList_append, String.toList_append, unbroken_append,
      unbroken_append, unbroken_append]
    exact ⟨⟨⟨by decide, hinfo⟩, by decide⟩, hbases⟩
  refine nested_class (by decide) (plain_classHead hhead.newLine_not_mem) (fun f hf => ?_)
    (fun m hm blank => ?_) blank
  · exact ((lowered_fields_proper lookup options root).2 f hf).plain
  · rw [List.mem_singleton.mp hm]
    exact nested_createMethod (by decide) hname blank

/-- The logic class nests and calls its base class once. -/
theorem nested_logic (hname : Word name) (blank : Bool) :
    Nested 1 (classRows 1 blank (traitOf lookup options root name).classes) 1 1 := by
  have hcounter : Plain (declarationText cooldownCounter).toList :=
    plain_of_front (by decide) (List.prefix_refl _) (by decide)
  have hhead := plain_classHead (clear_logicHead lookup options root hname).1
  refine nested_class (by decide) hhead (fun f hf => ?_) (fun m hm blank => ?_) blank
  · cases hscan : options.scanInterval with
    | none => simp [Trait.classes, traitOf, traitWith, hscan] at hf
    | some interval =>
        have hf : f = cooldownCounter := by
          simpa [Trait.classes, traitOf, traitWith, hscan] using hf
        rw [hf]
        exact hcounter
  · have hcases : m ∈ [constructorMethod name (name ++ "Info"), createdMethod,
        tickMethod (hookPreamble options ++
          (lowered lookup options root).1.map Line.statement)] := hm
    simp only [List.mem_cons, List.not_mem_nil, or_false] at hcases
    rcases hcases with rfl | rfl | rfl
    · exact nested_constructorMethod (by decide) hname blank
    · exact nested_createdMethod (by decide) blank
    · exact nested_tickMethod (by decide) lookup options root blank

/-! ## The file of a trait -/

/-- Imports open no block. -/
theorem nested_usings (blank : Bool) :
    Nested 0 (joinedRows usingRows false blank defaultUsings) 0 0 := by
  have hunbroken : ∀ used ∈ defaultUsings, Unbroken (usingText used).toList := by decide
  have hopens : Opens "using " "using " := by decide
  have hitems : ∀ used ∈ defaultUsings, ∀ blank, Nested 0 (usingRows blank used) 0 0 := by
    intro used hused blank
    refine .plain ?_ (.nil 0)
    exact plain_of_front (by decide) ((hopens.append _).append _)
      (hunbroken used hused).newLine_not_mem
  exact Nested.joined hitems false blank

theorem nested_header {p : Provenance} (hhash : OneLine p.sourceHash) :
    Nested 0 (joinedRows headerRows false false p.header) 0 0 := by
  have hcomments : ∀ line ∈ p.header, Opens "//" line := by
    have hsource : Opens "//" "// GENERATED FROM behavior tree '" := by decide
    have hhash : Opens "//" "// TREE HASH: " := by decide
    rw [header_eq, List.forall_mem_cons, List.forall_mem_cons, List.forall_mem_singleton]
    exact ⟨(hsource.append _).append _, hhash.append _, by decide⟩
  have hitems : ∀ line ∈ p.header, ∀ blank, Nested 0 (headerRows blank line) 0 0 := by
    intro line hline blank
    refine .plain ?_ (.nil 0)
    exact plain_of_front (by decide) (hcomments line hline)
      (unbroken_header hhash line hline).newLine_not_mem
  exact Nested.joined hitems false false

/-- The line of the namespace is plain, if the name does not break it. -/
theorem plain_namespace {name : String} (hname : '\n' ∉ name.toList) :
    Plain (namespaceText name).toList := by
  refine plain_of_front (by decide : isFront "namespace".toList = true) ?_ ?_
  · rw [namespaceText, String.toList_append]
    exact List.prefix_append _ _
  · rw [namespaceText]
    split
    · decide
    · rw [String.toList_append, String.toList_append, List.mem_append, List.mem_append]
      exact not_or.mpr ⟨by decide, not_or.mpr ⟨by decide, hname⟩⟩

/-- **The rows of a file are nested.** -/
theorem nested_file (hname : Word name) (hnamespace : '\n' ∉ options.namespaceName.toList)
    {header : Option Provenance} (hheader : ∀ p ∈ header, OneLine p.sourceHash) :
    Nested 0 (fileRows (traitOf lookup options root name).classes header) 0 1 := by
  have hintro : Nested 0 (introRows (traitOf lookup options root name).classes header) 0 0 := by
    cases header with
    | none =>
        rw [introRows, usedNamespaces_classes]
        exact nested_usings false
    | some p =>
        rw [introRows, usedNamespaces_classes]
        exact (nested_header (hheader p rfl)).append (nested_usings true)
  have hclasses : Nested 1 (joinedRows (classRows 1) true false
      (classesOf (traitOf lookup options root name).classes)) 1 1 :=
    (nested_info lookup options root hname false).append
      ((nested_logic lookup options root hname true).append (.nil 1))
  rw [fileRows, frontRows, List.append_assoc, List.append_assoc]
  exact hintro.append (.plain (plain_namespace hnamespace) (hclasses.block (Int.le_refl 0)))

end

/-- **Margins show the nesting of braces.**  Whatever the tree, the traits known and the options, if
the namespace has no line break in it: the lines that are a brace balance and are never short of an
opening one, and each line that is not blank starts with four blanks for each block around it.  Only
the call of the base class, on one line of the file, stands one level deeper. -/
theorem source_margins_nest {lookup : Lookup} {options : HookOptions} {root : Node} {name : String}
    {t : Trait} (ht : synthesize lookup options root name = .ok t)
    (hnamespace : '\n' ∉ options.namespaceName.toList) (provenance : Bool) :
    let lines := splitAtChar '\n' (t.csharp provenance).toList
    level lines = 0 ∧ lines.countP (unindented · = baseCall) = 1 ∧
      ∀ before line after, lines = before ++ line :: after →
        0 ≤ level before ∧
          (unindented line ≠ [] → (indentation line : Int) = 4 * (level before + offset line)) := by
  obtain ⟨hname, htrait⟩ := synthesize_eq_ok ht
  have htext := csharp_eq_rows lookup options root hname provenance
  rw [← htrait] at htext
  have hhash : t.sourceHash = root.hash := by rw [htrait]; rfl
  have hheader : ∀ p ∈ (if provenance then some ⟨t.sourceId, t.sourceHash⟩ else none :
      Option Provenance), OneLine p.sourceHash := by
    intro p hp
    cases provenance with
    | false => cases hp
    | true =>
        cases hp
        rw [hhash]
        exact root.oneLine_hash
  have hnested := nested_file lookup options root hname hnamespace hheader
  rw [← htrait] at hnested
  obtain ⟨hends, hcalls, hplaced⟩ := hnested.spans_lines
  have hlines : splitAtChar '\n' (t.csharp provenance).toList = splitAtChar '\n' (rowsChars
      (fileRows t.classes (if provenance then some ⟨t.sourceId, t.sourceHash⟩ else none))) := by
    rw [htext, String.toList_ofList]
  rw [← hlines] at hends hcalls hplaced
  simp only [Int.zero_add] at hends hplaced
  exact ⟨hends, hcalls, hplaced⟩

/-- Two siblings that become the two sides of one test, one of them with a test inside. -/
def outpost : Node :=
  { id := "outpost"
    children := [
      { id := "flee", condition := some "Health < 30%", action := some "Move(1, 2)" },
      { id := "hold", condition := some "Not Health < 30%"
        children := [{ id := "rest", condition := some "Night", action := some "Wait" }] }] }

theorem source_margins_nest_outpost :
    '\n' ∉ ({} : HookOptions).namespaceName.toList ∧
    ∃ t, synthesize (fun _ => none) {} outpost "guard" = .ok t ∧
      let lines := splitAtChar '\n' (t.csharp true).toList
      level lines = 0 ∧ lines.countP (unindented · = baseCall) = 1 ∧
        ∀ before line after, lines = before ++ line :: after →
          0 ≤ level before ∧
            (unindented line ≠ [] →
              (indentation line : Int) = 4 * (level before + offset line)) := by
  have hname : className "guard" = .ok "Guard" := rfl
  have ht : synthesize (fun _ => none) {} outpost "guard" =
      .ok (traitOf (fun _ => none) {} outpost "Guard") := by
    rw [synthesize_eq, hname]
    rfl
  have hnamespace : '\n' ∉ ({} : HookOptions).namespaceName.toList := by decide
  exact ⟨hnamespace, _, ht, source_margins_nest ht hnamespace true⟩

end BehaviorTraits
