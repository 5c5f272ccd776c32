import BehaviorTraits.Proofs.ClassRows
import BehaviorTraits.Proofs.InfoFields
import BehaviorTraits.Proofs.Lines
import BehaviorTraits.Proofs.Literals
import Mathlib.Data.List.Basic

/-!
# Reading generated source

`readInfo` finds the Info class of a trait in the text of a file and reads its fields, line by line:
the literal of a description, then the declaration with its name and the initial value as it is
written.  An empty line ends the fields.

The namespace of a file is free text, so it could hold lines that look like the head of a class; the
last such line is the one that counts.

* `readFields_fields`: the lines of proper fields are read back.
* `clear_innerRows`: no row inside a class looks like the head of an Info class.
* `readInfo_class`: so the fields of the Info class are read back from the whole file.
-/

namespace BehaviorTraits.CSharp

open Layout Text

/-! ## Reading lines -/

/-- A field as it is read from its lines. -/
structure Declaration where
  type : String
  name : String
  /-- The initial value as it is written. -/
  initial? : Option String
  description? : Option String
  deriving DecidableEq, Repr

/-- The line without its margin. -/
def unindented (line : List Char) : List Char := line.dropWhile (· = ' ')

/-- Reads the attribute with the description of a field. -/
def readDescription (line : List Char) : Option String := do
  let inner ← (unindented line).dropPrefix? "[Desc(\"".toList
  let (text, rest) ← readLiteral inner
  if rest = ")]".toList then some (String.ofList text) else none

/-- Reads what follows the name of a field. -/
def readInitial : List Char → Option (Option String)
  | [';'] => some none
  | ' ' :: '=' :: ' ' :: rest =>
    if rest.dropWhile (· ≠ ';') = [';'] then some (String.ofList (rest.takeWhile (· ≠ ';')))
    else none
  | _ => none

/-- Reads the declaration of a field whose description was read before. -/
def readDeclaration (description? : Option String) (line : List Char) : Option Declaration := do
  let inner ← (unindented line).dropPrefix? "public readonly ".toList
  let rest := (inner.dropWhile (· ≠ ' ')).drop 1
  let initial? ← readInitial (rest.dropWhile (·.isAlphanum))
  return {
    type := String.ofList (inner.takeWhile (· ≠ ' '))
    name := String.ofList (rest.takeWhile (·.isAlphanum))
    initial?, description? }

/-- Reads fields up to an empty line. -/
def readFields (description? : Option String) : List (List Char) → Option (List Declaration)
  | [] => none
  | [] :: _ => some []
  | line :: rest =>
    match readDescription line with
    | some description => readFields (some description) rest
    | none => do
      let declaration ← readDeclaration description? line
      return declaration :: (← readFields none rest)

/-- The lines behind the last one that is the given one. -/
def behindLast? (head : List Char) : List (List Char) → Option (List (List Char))
  | [] => none
  | line :: lines => (behindLast? head lines).or (if line = head then some lines else none)

/-- The line that the Info class of a trait begins with. -/
def infoHead (traitName : String) : List Char :=
  ("    public class " ++ traitName ++ "Info : ConditionalTraitInfo").toList

/-- Reads the fields of the Info class of a trait. -/
def readInfo (traitName source : String) : Option (List Declaration) := do
  match ← behindLast? (infoHead traitName) (splitAtChar '\n' source.toList) with
  | [' ', ' ', ' ', ' ', '\x7b'] :: lines => readFields none lines
  | _ => none

/-! ## Reading fields back -/

/-- Margins are taken off. -/
theorem unindented_margin (depth : Int) (text : List Char) :
    unindented (margin depth ++ text) = unindented text := by
  have hblank : ∀ c ∈ margin depth, decide (c = ' ') = true := fun c hc =>
    decide_eq_true (List.eq_of_mem_replicate hc)
  rw [unindented, List.dropWhile_append_of_pos hblank, unindented]

/-- What stands behind a beginning is found. -/
theorem dropPrefix_append (front rest : List Char) :
    (front ++ rest).dropPrefix? front = some rest :=
  List.dropPrefix?_append_of_beq rest (beq_self_eq_true front)

/-- **The description of a field is read back**, whatever is in it. -/
theorem readDescription_line (depth : Int) (f : FieldDecl) :
    readDescription (margin depth ++ (descriptionText f).toList) = some f.description := by
  have htext : (descriptionText f).toList =
      "[Desc(\"".toList ++ (escapedChars f.description.toList ++ '"' :: ")]".toList) := by
    simp [descriptionText, quoted, escaped]
  have hfront : unindented ("[Desc(\"".toList ++
      (escapedChars f.description.toList ++ '"' :: ")]".toList)) = "[Desc(\"".toList ++
        (escapedChars f.description.toList ++ '"' :: ")]".toList) := rfl
  rw [readDescription, unindented_margin, htext, hfront, dropPrefix_append]
  simp [readLiteral_escapedChars]

/-- What a declaration has behind the name. -/
def closing (f : FieldDecl) : List Char := (initializer f).toList ++ [';']

/-- A proper field ends with its initial value, if it has one, and a semicolon. -/
theorem closing_eq {f : FieldDecl} (hf : f.Proper) :
    closing f = match f.default? with
      | some v => ' ' :: '=' :: ' ' :: (v.toList ++ [';'])
      | none => [';'] := by
  rw [closing, initializer]
  cases f.default? with
  | none => rfl
  | some v => simp [initialValue, hf.notText]

/-- **The initial value is read back.** -/
theorem readInitial_closing {f : FieldDecl} (hf : f.Proper) :
    readInitial (closing f) = some f.default? := by
  rw [closing_eq hf]
  cases hdefault : f.default? with
  | none => rfl
  | some v =>
      have hsemicolon : ';' ∉ v.toList := (hf.value v hdefault).not_mem (by decide)
      dsimp only
      rw [readInitial, takeWhile_ne_append hsemicolon, dropWhile_ne_append hsemicolon, if_pos rfl,
        String.ofList_toList]

/-- The declaration of a proper field is its modifiers, its type, its name and its end. -/
theorem declarationText_eq {f : FieldDecl} (hf : f.Proper) :
    (declarationText f).toList =
      "public readonly ".toList ++ (f.type.toList ++ ' ' :: (f.name.toList ++ closing f)) := by
  have hmodifiers : modifiers f = "public readonly " := by
    rw [modifiers, hf.access, hf.readonly]
    rfl
  simp [declarationText, hmodifiers, closing]

/-- A name ends where the closing part of a declaration begins. -/
theorem span_name {f : FieldDecl} (hf : f.Proper) :
    (f.name.toList ++ closing f).takeWhile (·.isAlphanum) = f.name.toList ∧
      (f.name.toList ++ closing f).dropWhile (·.isAlphanum) = closing f := by
  have hclosing : (closing f).takeWhile (·.isAlphanum) = [] ∧
      (closing f).dropWhile (·.isAlphanum) = closing f := by
    rw [closing_eq hf]
    cases f.default? with
    | none => decide
    | some v => exact ⟨rfl, rfl⟩
  rw [List.takeWhile_append_of_pos hf.name.2, List.dropWhile_append_of_pos hf.name.2, hclosing.1,
    hclosing.2, List.append_nil]
  exact ⟨rfl, rfl⟩

/-- The declaration that a field gives. -/
def declarationOf (f : FieldDecl) : Declaration := ⟨f.type, f.name, f.default?, some f.description⟩

/-- **A declaration is read back**: name, type and initial value. -/
theorem readDeclaration_line (depth : Int) {f : FieldDecl} (hf : f.Proper) :
    readDeclaration (some f.description) (margin depth ++ (declarationText f).toList) =
      some (declarationOf f) := by
  have hspace : ' ' ∉ f.type.toList := hf.type.not_mem (by decide)
  have hfront : unindented (declarationText f).toList = (declarationText f).toList := by
    rw [declarationText_eq hf]
    rfl
  rw [readDeclaration, unindented_margin, hfront, declarationText_eq hf, dropPrefix_append]
  simp only [Option.bind_eq_bind, Option.bind_some, takeWhile_ne_append hspace,
    dropWhile_ne_append hspace, List.drop_one, List.tail_cons, span_name hf, readInitial_closing hf,
    String.ofList_toList]
  rfl

/-- A declaration is not taken for a description. -/
theorem readDescription_declaration (depth : Int) {f : FieldDecl} (hf : f.Proper) :
    readDescription (margin depth ++ (declarationText f).toList) = none := by
  rw [readDescription, unindented_margin, declarationText_eq hf]
  rfl

/-- The lines of a field. -/
def fieldLines (depth : Int) (f : FieldDecl) : List (List Char) :=
  [margin depth ++ (descriptionText f).toList, margin depth ++ (declarationText f).toList]

/-- **Fields are read back** from their lines, up to the empty line behind them. -/
theorem readFields_fields (depth : Int) {fields : List FieldDecl}
    (hfields : ∀ f ∈ fields, f.Proper) (rest : List (List Char)) :
    readFields none (fields.flatMap (fieldLines depth) ++ [] :: rest) =
      some (fields.map declarationOf) := by
  induction fields with
  | nil => rfl
  | cons f fields ih =>
      have hf := hfields f List.mem_cons_self
      have hrest := ih fun other hother => hfields other (List.mem_cons_of_mem _ hother)
      have hlines : (f :: fields).flatMap (fieldLines depth) ++ [] :: rest =
          (margin depth ++ (descriptionText f).toList) ::
            (margin depth ++ (declarationText f).toList) ::
              (fields.flatMap (fieldLines depth) ++ [] :: rest) := by
        simp [fieldLines]
      have hfirst : margin depth ++ (descriptionText f).toList ≠ [] := by
        simp [descriptionText]
      have hsecond : margin depth ++ (declarationText f).toList ≠ [] := by
        simp [declarationText_eq hf]
      rw [hlines, readFields, readDescription_line]
      dsimp only
      rw [readFields, readDescription_declaration depth hf, readDeclaration_line depth hf, hrest]
      · rfl
      · exact hsecond
      · exact hfirst

/-! ## Finding the Info class -/

/-- Nothing stands behind a line that is not there. -/
theorem behindLast_of_not_mem {head : List Char} {lines : List (List Char)} (h : head ∉ lines) :
    behindLast? head lines = none := by
  induction lines with
  | nil => rfl
  | cons line lines ih =>
      rw [List.mem_cons, not_or] at h
      rw [behindLast?, ih h.2, if_neg (Ne.symm h.1)]
      rfl

/-- What stands before the last place of a line does not matter. -/
theorem behindLast_append {head : List Char} (before : List (List Char)) {after : List (List Char)}
    (h : head ∉ after) : behindLast? head (before ++ head :: after) = some after := by
  induction before with
  | nil =>
      rw [List.nil_append, behindLast?, behindLast_of_not_mem h, if_pos rfl]
      rfl
  | cons line before ih =>
      rw [List.cons_append, behindLast?, ih]
      rfl

/-- The row is on one line, which is not the one looked for. -/
def Clear (head : List Char) (r : Row) : Prop := '\n' ∉ r.text ∧ r.line ≠ head

/-- Rows that are clear of a line do not have it among their lines. -/
theorem Clear.not_mem_lines {head : List Char} (hhead : head ≠ []) {rows : List Row}
    (hrows : ∀ r ∈ rows, Clear head r) : head ∉ rows.flatMap Row.lines := by
  intro hmem
  obtain ⟨r, hr, hline⟩ := List.mem_flatMap.mp hmem
  have hne := (hrows r hr).2
  rw [Row.lines] at hline
  split at hline
  · rcases List.mem_cons.mp hline with heq | hline
    · exact hhead heq
    · exact hne (List.mem_singleton.mp hline).symm
  · exact hne (List.mem_singleton.mp hline).symm

/-- The head of an Info class is no empty line. -/
theorem infoHead_ne_nil (name : String) : infoHead name ≠ [] := by
  simp [infoHead]

/-! ## The rows inside a class -/

section

variable {name : String} {r : Row} {depth : Int}

/-- A row inside a class begins further to the right than the head of a class does. -/
theorem clear_of_deep (hdepth : 2 ≤ r.depth) (hbreak : '\n' ∉ r.text) :
    Clear (infoHead name) r := by
  refine ⟨hbreak, fun hline => ?_⟩
  have hmargin : margin r.depth = List.replicate 8 ' ' ++
      List.replicate (4 * r.depth.toNat - 8) ' ' := by
    rw [margin, List.replicate_append_replicate]
    congr 1
    omega
  have hfifth : r.line.take 5 = (infoHead name).take 5 := congrArg _ hline
  rw [Row.line, hmargin, infoHead, String.toList_append, String.toList_append] at hfifth
  exact absurd hfifth (by simp)

/-- A row of a few characters is too short for the head of a class. -/
theorem clear_of_short (hlength : r.line.length ≤ 5) (hbreak : '\n' ∉ r.text) :
    Clear (infoHead name) r := by
  refine ⟨hbreak, fun hline => ?_⟩
  have hlong : 17 ≤ (infoHead name).length := by
    rw [infoHead, String.toList_append, String.toList_append, List.length_append,
      List.length_append]
    have hfront : "    public class ".toList.length = 17 := rfl
    omega
  rw [hline] at hlength
  omega

/-- A row of joined items is a row of one of them. -/
theorem mem_joinedRows {α : Type} {itemRows : Bool → α → List Row} {apart blank : Bool}
    {items : List α} (h : r ∈ joinedRows itemRows apart blank items) :
    ∃ item ∈ items, ∃ blank', r ∈ itemRows blank' item := by
  induction items generalizing blank with
  | nil => cases h
  | cons item items ih =>
      rcases List.mem_append.mp h with h | h
      · exact ⟨item, List.mem_cons_self, blank, h⟩
      · obtain ⟨other, hother, hrow⟩ := ih h
        exact ⟨other, List.mem_cons_of_mem _ hother, hrow⟩

/-- The text of every statement is there, on one line. -/
def LegibleBody (body : List Statement) : Prop :=
  ∀ line ∈ body, line.text ≠ "" ∧ Unbroken line.text.toList

instance (body : List Statement) : Decidable (LegibleBody body) :=
  inferInstanceAs (Decidable (∀ line ∈ body, line.text ≠ "" ∧ Unbroken line.text.toList))

/-- No part of the method breaks a line. -/
structure LegibleMethod (m : MethodDecl) : Prop where
  signature : Unbroken (signature m).toList
  call : ∀ call ∈ m.chainedCall, Unbroken call.toList
  body : LegibleBody m.body

/-- No part of the class breaks a line, and none that must be printed is empty. -/
structure LegibleClass (c : ClassDecl) : Prop where
  name : c.name ≠ ""
  bases : basesText c ≠ ""
  fields : ∀ f ∈ c.fields, f.type ≠ "" ∧ f.name ≠ "" ∧ Unbroken (declarationText f).toList
  nonempty : c.methods ≠ []
  methods : ∀ m ∈ c.methods, LegibleMethod m

/-- A class that can be read can be printed. -/
theorem LegibleClass.printable {c : ClassDecl} (hc : LegibleClass c) : Printable c where
  name := hc.name
  bases := hc.bases
  fields f hf := ⟨(hc.fields f hf).1, (hc.fields f hf).2.1⟩
  methods := hc.nonempty
  bodies m hm line hline := ((hc.methods m hm).body line hline).1

/-- The description of a field never breaks a line. -/
theorem unbroken_descriptionText (f : FieldDecl) : Unbroken (descriptionText f).toList := by
  have htext : (descriptionText f).toList =
      "[Desc(\"".toList ++ (escapedChars f.description.toList ++ "\")]".toList) := by
    simp [descriptionText, quoted, escaped]
  rw [htext, unbroken_append, unbroken_append]
  exact ⟨by decide, unbroken_escapedChars _, by decide⟩

/-- The rows of a field stand at its depth and break no line. -/
theorem mem_fieldRows {f : FieldDecl} {blank : Bool}
    (hf : Unbroken (declarationText f).toList) (hr : r ∈ fieldRows depth blank f) :
    r.depth = depth ∧ Unbroken r.text := by
  have htext : r.depth = depth ∧
      (r.text = (descriptionText f).toList ∨ r.text = (declarationText f).toList) := by
    rw [fieldRows] at hr
    split at hr
    · rcases List.mem_cons.mp hr with rfl | hr
      · simp
      · simp [List.mem_singleton.mp hr]
    · simp [List.mem_singleton.mp hr]
  refine ⟨htext.1, ?_⟩
  rcases htext.2 with h | h <;> rw [h]
  · exact unbroken_descriptionText f
  · exact hf

/-- The rows of a block stand at least as far in as the block. -/
theorem mem_blockRows {body : List Statement} (hbody : LegibleBody body)
    (hr : r ∈ blockRows depth body) : depth ≤ r.depth ∧ Unbroken r.text := by
  have hbraces : Unbroken ['\x7b'] ∧ Unbroken ['\x7d'] ∧ Unbroken "\x7b\x7d".toList := by decide
  rw [blockRows] at hr
  split at hr
  · rw [List.mem_singleton.mp hr]
    exact ⟨Int.le_refl depth, hbraces.2.2⟩
  · rcases List.mem_append.mp hr with hr | hr
    · rcases List.mem_cons.mp hr with rfl | hr
      · exact ⟨Int.le_refl depth, hbraces.1⟩
      · obtain ⟨line, hline, rfl⟩ := List.mem_map.mp hr
        exact ⟨by dsimp only; omega, (hbody line hline).2⟩
    · rw [List.mem_singleton.mp hr]
      exact ⟨Int.le_refl depth, hbraces.2.1⟩

/-- The rows of a method stand at least as far in as the method. -/
theorem mem_methodRows {m : MethodDecl} (hm : LegibleMethod m) {blank : Bool}
    (hr : r ∈ methodRows depth blank m) : depth ≤ r.depth ∧ Unbroken r.text := by
  rw [methodRows, List.cons_append] at hr
  rcases List.mem_cons.mp hr with rfl | hr
  · exact ⟨Int.le_refl depth, hm.signature⟩
  · rcases List.mem_append.mp hr with hr | hr
    · obtain ⟨call, hcall, rfl⟩ := List.mem_map.mp hr
      refine ⟨by dsimp only; omega, ?_⟩
      dsimp only
      rw [String.toList_append, unbroken_append]
      exact ⟨by decide, hm.call call (Option.mem_toList.mp hcall)⟩
    · exact mem_blockRows hm.body hr

/-- The rows of a class behind its head. -/
def innerRows (c : ClassDecl) : List Row :=
  ⟨false, 1, ['\x7b']⟩ :: joinedRows (fieldRows 2) false false c.fields ++
    joinedRows (methodRows 2) true (!c.fields.isEmpty) c.methods ++ [⟨false, 1, ['\x7d']⟩]

theorem classRows_eq (blank : Bool) (c : ClassDecl) :
    classRows 1 blank c = ⟨blank, 1, (classHead c).toList⟩ :: innerRows c := rfl

/-- **Inside a class nothing looks like the head of an Info class.** -/
theorem clear_innerRows {c : ClassDecl} (hc : LegibleClass c) :
    ∀ r ∈ innerRows c, Clear (infoHead name) r := by
  intro r hr
  rw [innerRows, List.mem_append, List.mem_append, List.mem_cons] at hr
  rcases hr with ((rfl | hr) | hr) | hr
  · exact clear_of_short (by decide) (by decide)
  · obtain ⟨f, hf, blank, hr⟩ := mem_joinedRows hr
    obtain ⟨hdepth, htext⟩ := mem_fieldRows (hc.fields f hf).2.2 hr
    exact clear_of_deep (Int.le_of_eq hdepth.symm) htext.newLine_not_mem
  · obtain ⟨m, hm, blank, hr⟩ := mem_joinedRows hr
    obtain ⟨hdepth, htext⟩ := mem_methodRows (hc.methods m hm) hr
    exact clear_of_deep hdepth htext.newLine_not_mem
  · rw [List.mem_singleton.mp hr]
    exact clear_of_short (by decide) (by decide)

/-! ## The fields of the Info class -/

/-- The rows of proper fields, as lines. -/
theorem lines_fieldRows (depth : Int) {fields : List FieldDecl} (hfields : ∀ f ∈ fields, f.Proper) :
    (joinedRows (fieldRows depth) false false fields).flatMap Row.lines =
      fields.flatMap (fieldLines depth) := by
  induction fields with
  | nil => rfl
  | cons f fields ih =>
      have hf := hfields f List.mem_cons_self
      have hdescribed : isDescribed f = true := by
        simp [isDescribed, hf.exposed, hf.described]
      have hlines : (fieldRows depth false f).flatMap Row.lines = fieldLines depth f := by
        rw [fieldRows, if_pos hdescribed]
        simp [Row.lines, Row.line, fieldLines]
      rw [joinedRows, List.flatMap_append, hlines,
        ih fun other hother => hfields other (List.mem_cons_of_mem _ hother), List.flatMap_cons]

/-- Behind its fields a class has an empty line. -/
theorem lines_innerRows {c : ClassDecl} (hfields : ∀ f ∈ c.fields, f.Proper) (hsome : c.fields ≠ [])
    (hmethods : c.methods ≠ []) :
    ∃ behind, (innerRows c).flatMap Row.lines =
      (margin 1 ++ ['\x7b']) :: (c.fields.flatMap (fieldLines 2) ++ [] :: behind) := by
  obtain ⟨m, ms, hcons⟩ := List.exists_cons_of_ne_nil hmethods
  have hblank : (!c.fields.isEmpty) = true := by simpa using hsome
  obtain ⟨rest, hrest⟩ : ∃ rest, joinedRows (methodRows 2) true (!c.fields.isEmpty) c.methods =
      ⟨true, 2, (signature m).toList⟩ :: rest := by
    rw [hblank, hcons]
    exact ⟨_, rfl⟩
  refine ⟨(margin 2 ++ (signature m).toList) ::
    (rest ++ [(⟨false, 1, ['\x7d']⟩ : Row)]).flatMap Row.lines, ?_⟩
  rw [innerRows, hrest, List.flatMap_append, List.flatMap_append, List.flatMap_cons,
    lines_fieldRows 2 hfields]
  simp [Row.lines, Row.line]

/-- **The fields of an Info class are read back** from a file in which no second head of such a
class follows. -/
theorem readInfo_class {before rest : List Row} {c : ClassDecl}
    (hhead : margin 1 ++ (classHead c).toList = infoHead name) (hbreak : '\n' ∉ infoHead name)
    (hc : LegibleClass c) (hfields : ∀ f ∈ c.fields, f.Proper) (hsome : c.fields ≠ [])
    (hrest : ∀ r ∈ rest, Clear (infoHead name) r) :
    readInfo name (String.ofList (rowsChars (before ++ (classRows 1 false c ++ rest)))) =
      some (c.fields.map declarationOf) := by
  have hclear : ∀ r ∈ innerRows c ++ rest, Clear (infoHead name) r := by
    intro r hr
    rcases List.mem_append.mp hr with hr | hr
    · exact clear_innerRows hc r hr
    · exact hrest r hr
  have hunbroken : ∀ r ∈ classRows 1 false c ++ rest, '\n' ∉ r.text := by
    intro r hr
    rw [classRows_eq, List.cons_append] at hr
    rcases List.mem_cons.mp hr with rfl | hr
    · rw [← hhead, List.mem_append, not_or] at hbreak
      exact hbreak.2
    · exact (hclear r hr).1
  have hlines := lines_rowsChars_append before (rowsChars (classRows 1 false c ++ rest))
  obtain ⟨behind, hbehind⟩ := lines_innerRows hfields hsome hc.nonempty
  have hnone : infoHead name ∉ (innerRows c ++ rest).flatMap Row.lines ++ [[]] := by
    rw [List.mem_append, not_or]
    exact ⟨Clear.not_mem_lines (infoHead_ne_nil name) hclear,
      by simpa using infoHead_ne_nil name⟩
  have hheadLines : (classRows 1 false c ++ rest).flatMap Row.lines =
      infoHead name :: (innerRows c ++ rest).flatMap Row.lines := by
    rw [classRows_eq, List.cons_append, List.flatMap_cons, ← hhead]
    rfl
  rw [← rowsChars_append, lines_rowsChars hunbroken, hheadLines, List.cons_append] at hlines
  rw [readInfo, String.toList_ofList, hlines, behindLast_append _ hnone, List.flatMap_append,
    hbehind, List.append_assoc, List.cons_append, List.append_assoc]
  have hbrace : margin 1 ++ ['\x7b'] = [' ', ' ', ' ', ' ', '\x7b'] := by decide
  rw [hbrace, Option.bind_eq_bind, Option.bind_some, List.cons_append]
  exact readFields_fields 2 hfields _

end

end BehaviorTraits.CSharp
