import BehaviorTraits.CSharp.File
import BehaviorTraits.Proofs.Rows
import Mathlib.Tactic.Ring

/-!
# Rows of generated source

The rows of a field, a method, a class and a whole file.  Only empty texts are a trouble, as they
print nothing: the statements below ask for those parts that must not be empty.

* `awaits_field`, `awaits_method`, `awaits_class` say which rows the stream of a part lays out,
  wherever it begins.
* In a method body the depth of a statement is counted from the body, whatever the depths before it
  (`awaits_body`).
-/

namespace BehaviorTraits.CSharp

open Layout

/-! ## Fields -/

/-- Is the field printed below its description? -/
def isDescribed (f : FieldDecl) : Bool := f.exposed && f.description ≠ ""

def descriptionText (f : FieldDecl) : String := "[Desc(" ++ quoted f.description ++ ")]"

def declarationText (f : FieldDecl) : String :=
  modifiers f ++ f.type ++ " " ++ f.name ++ initializer f ++ ";"

def fieldRows (depth : Int) (blank : Bool) (f : FieldDecl) : List Row :=
  if isDescribed f then
    [⟨blank, depth, (descriptionText f).toList⟩, ⟨false, depth, (declarationText f).toList⟩]
  else [⟨blank, depth, (declarationText f).toList⟩]

def declarationTokens (f : FieldDecl) : List Token :=
  [.literal (modifiers f), .literal f.type, .space, .literal f.name, .literal (initializer f),
    .literal ";"]

/-- A declaration is written on one line, with one space before the name. -/
theorem writes_declaration {f : FieldDecl} (htype : f.type ≠ "") (hname : f.name ≠ "") :
    Writes (declarationTokens f) (declarationText f).toList 0 := by
  have hfront : Writes [.literal (modifiers f), .literal f.type]
      ((modifiers f).toList ++ f.type.toList) 0 := by
    by_cases hmodifiers : modifiers f = ""
    · rw [hmodifiers]
      exact (Writes.literal htype).unmarked
    · exact (Writes.literal hmodifiers).more f.type
  have hname' := hfront.spaced f.name
  rw [if_neg hname, if_neg hname] at hname'
  have hall := (hname'.more (initializer f)).more ";"
  have htext : (declarationText f).toList =
      (modifiers f).toList ++ f.type.toList ++ ' ' :: f.name.toList ++ (initializer f).toList ++
        ";".toList := by
    simp [declarationText]
  rw [htext]
  exact hall

/-- A description is written on one line. -/
theorem writes_description (f : FieldDecl) :
    Writes [.literal "[Desc(", .literal (quoted f.description), .literal ")]"]
      (descriptionText f).toList 0 := by
  have hall := ((Writes.literal (show "[Desc(" ≠ "" by decide)).more (quoted f.description)).more
    ")]"
  simpa [descriptionText] using hall

/-- The tokens of a field, when their white space has collapsed. -/
theorem fieldStream_eq (f : FieldDecl) :
    fieldStream f = List.reverse
      (if isDescribed f then
        [.literal "[Desc(", .literal (quoted f.description), .literal ")]"] ++ .newLine ::
          declarationTokens f
      else .newLine :: declarationTokens f) := by
  rw [fieldStream, isDescribed]
  by_cases h : f.exposed && f.description ≠ ""
  · simp only [h, if_true]
    rfl
  · simp only [h]
    rfl

variable {s : Stream} {rows : List Row} {last depth : Int} {blank : Bool}

/-- **The rows of a field.** -/
theorem awaits_field {f : FieldDecl} (htype : f.type ≠ "") (hname : f.name ≠ "")
    (h : Awaits s rows last depth blank) :
    Lays (s.append (fieldStream f)) (rows ++ fieldRows depth blank f) depth := by
  have hdeclaration := writes_declaration htype hname
  rw [fieldStream_eq, Stream.append, List.reverse_reverse, fieldRows]
  cases isDescribed f with
  | false => exact h.add_newLine.write hdeclaration
  | true =>
      have hdescription := h.write (writes_description f)
      have hboth := hdescription.add_newLine.write hdeclaration
      rw [List.append_assoc] at hboth
      rw [if_pos rfl, if_pos rfl, Stream.addAll_append]
      exact hboth

/-! ## Method bodies -/

/-- Indenting several times comes to one change of the indentation. -/
theorem addAll_replicate_indent (s : Stream) (n : Nat) (levels : Int) :
    s.addAll (List.replicate (n + 1) (.indent levels)) =
      s.add (.indent ((n + 1 : Nat) * levels)) := by
  induction n generalizing s with
  | zero => simp [Stream.addAll]
  | succ n ih =>
      rw [List.replicate_succ, Stream.addAll_cons, ih, Stream.add, Stream.add, Stream.add,
        Stream.addIndent_addIndent]
      congr 1
      push_cast
      ring

/-- Going from one depth to another is one change of the indentation. -/
theorem addAll_shift (s : Stream) (old new : Nat) :
    s.addAll (shift old new) = if old = new then s else s.add (.indent ((new : Int) - old)) := by
  rw [shift]
  rcases Nat.lt_trichotomy old new with h | h | h
  · obtain ⟨k, rfl⟩ := Nat.exists_eq_add_of_lt h
    rw [if_neg (by omega), show old + k + 1 - old = k + 1 by omega,
      show old - (old + k + 1) = 0 by omega, List.replicate_zero, List.append_nil,
      addAll_replicate_indent]
    congr 2
    push_cast
    ring
  · rw [if_pos h, h]
    simp [Stream.addAll]
  · obtain ⟨k, rfl⟩ := Nat.exists_eq_add_of_lt h
    rw [if_neg (by omega), show new + k + 1 - new = k + 1 by omega,
      show new - (new + k + 1) = 0 by omega, List.replicate_zero, List.nil_append,
      addAll_replicate_indent]
    congr 2
    push_cast
    ring

/-- Going to another depth between two statements, or before the first one. -/
theorem awaits_shift {old : Nat} (hlast : last = depth + old ∨ last < depth)
    (h : Awaits s rows last (depth + old) false) (new : Nat) :
    Awaits (s.addAll (shift old new)) rows last (depth + new) false := by
  rw [addAll_shift]
  by_cases hnew : old = new
  · rw [if_pos hnew, ← hnew]
    exact h
  · have hdepth : depth + old + ((new : Int) - old) = depth + new := by omega
    have hshift := h.add_indent ((new : Int) - old) (by omega)
    rw [hdepth] at hshift
    rw [if_neg hnew]
    exact hshift

/-- The rows of statements, the outermost ones at `depth`. -/
def bodyRows (depth : Int) (body : List Statement) : List Row :=
  body.map fun line => ⟨false, depth + line.depth, line.text.toList⟩

/-- **The rows of a method body.**  Depths may jump as they like: after the last statement the next
row is again at the depth of the body. -/
theorem awaits_body {body : List Statement} (htexts : ∀ line ∈ body, line.text ≠ "")
    (hne : body ≠ []) {old : Nat} (hlast : last = depth + old ∨ last < depth)
    (h : Awaits s rows last (depth + old) false) :
    ∃ last', depth ≤ last' ∧
      Awaits (s.addAll (bodyTokens old body)) (rows ++ bodyRows depth body) last' depth false := by
  induction body generalizing s rows last old with
  | nil => exact absurd rfl hne
  | cons line rest ih =>
      have htext := Writes.literal (htexts line List.mem_cons_self)
      have hnext := ((awaits_shift hlast h line.depth).write htext).add_newLine
      rw [bodyTokens, Stream.addAll_append, Stream.addAll_cons, Stream.addAll_cons]
      cases rest with
      | nil =>
          refine ⟨depth + line.depth, by omega, ?_⟩
          have hend := awaits_shift (.inl rfl) hnext 0
          rw [Int.natCast_zero, Int.add_zero] at hend
          exact hend
      | cons other rest =>
          obtain ⟨last', hlast', hrest⟩ := ih
            (fun line hline => htexts line (List.mem_cons_of_mem _ hline)) (List.cons_ne_nil _ _)
            (.inl rfl) hnext
          rw [List.append_assoc] at hrest
          exact ⟨last', hlast', hrest⟩

/-- The statements of a body can be gathered before they are added. -/
theorem append_bodyStream (s : Stream) {body : List Statement} (hne : body ≠ []) :
    s.append (bodyStream body) = s.addAll (bodyTokens 0 body) := by
  obtain ⟨line, rest, rfl⟩ := List.exists_cons_of_ne_nil hne
  rw [bodyStream, bodyTokens, Stream.addAll_append, Stream.addAll_append, addAll_shift,
    addAll_shift]
  by_cases hdepth : 0 = line.depth
  · rw [if_pos hdepth, if_pos hdepth]
    exact Stream.append_gathered s _ _
  · rw [if_neg hdepth, if_neg hdepth]
    let levels : Int := (line.depth : Int) - (0 : Nat)
    let tail := Token.newLine :: bodyTokens line.depth rest
    have hlevels : levels ≠ 0 := by omega
    -- the change of the indentation stays at the bottom, below the first literal
    have hbottom : Stream.addAll (Stream.add [] (.indent levels)) (.literal line.text :: tail) =
        Stream.addAll [] (.literal line.text :: tail) ++ [.indent levels] := by
      have habove := (Stream.adds_addAll tail).above (Stream.solid_literal line.text [])
        [.indent levels]
      rw [show Stream.add [] (.indent levels) = [.indent levels] by
        simp [Stream.add, Stream.addIndent, hlevels]]
      exact habove
    have hsplit : s.append (Stream.addAll [] (.literal line.text :: tail) ++ [.indent levels]) =
        (s.add (.indent levels)).append (Stream.addAll [] (.literal line.text :: tail)) := by
      rw [Stream.append, List.reverse_append]
      rfl
    exact (congrArg s.append hbottom).trans (hsplit.trans (Stream.append_gathered _ _ _))

/-! ## Methods -/

theorem append_ne_empty {s : String} (hs : s ≠ "") (t : String) : s ++ t ≠ "" := fun h =>
  hs (String.append_eq_empty_iff.mp h).1

/-- A signature ends with a parenthesis. -/
theorem signature_ne_empty (m : MethodDecl) : signature m ≠ "" := by
  have hclosing : ∀ s : String, s ++ toString ")" ≠ "" := fun s h =>
    absurd (String.append_eq_empty_iff.mp h).2 (by decide)
  rw [signature]
  split
  · exact hclosing _
  · exact hclosing _

/-- The rows of the call that a constructor makes first. -/
def chainedRows (depth : Int) (m : MethodDecl) : List Row :=
  m.chainedCall.toList.map fun call => ⟨false, depth + 1, (": " ++ call).toList⟩

/-- The rows from the brace before a body to the brace behind it. -/
def blockRows (depth : Int) (body : List Statement) : List Row :=
  if body = [] then [⟨false, depth, "\x7b\x7d".toList⟩]
  else ⟨false, depth, ['\x7b']⟩ :: bodyRows (depth + 1) body ++ [⟨false, depth, ['\x7d']⟩]

def methodRows (depth : Int) (blank : Bool) (m : MethodDecl) : List Row :=
  ⟨blank, depth, (signature m).toList⟩ :: chainedRows depth m ++ blockRows depth m.body

/-- Behind its signature and a chained call, a method waits for its block. -/
theorem awaits_chained (m : MethodDecl) (h : Awaits s rows depth depth false) :
    ∃ last', Awaits (s.append (chainedCallStream m)) (rows ++ chainedRows depth m) last' depth
      false := by
  rw [chainedCallStream, chainedRows]
  cases m.chainedCall with
  | none => exact ⟨depth, by simpa [Stream.append, Stream.addAll] using h⟩
  | some call =>
      have hcall : ": " ++ call ≠ "" := append_ne_empty (by decide) call
      have hback := ((h.add_indent 1 (by omega)).write (.literal hcall)).add_indent (-1) (by omega)
      rw [Int.add_neg_cancel_right] at hback
      exact ⟨depth + 1, hback⟩

/-- The parts of a method, added one after the other. -/
theorem append_methodStream (s : Stream) (m : MethodDecl) :
    s.append (methodStream m) =
      (((((s.addAll [.literal (signature m), .newLine]).append (chainedCallStream m)).addAll
        [.newLine, .literal "\x7b", .indent 1]).append (bodyStream m.body)).addAll
          [.indent (-1), .literal "\x7d"]) := by
  have hhead : Stream.Normal (Stream.addAll [] [.literal (signature m), .newLine]) :=
    Stream.Normal.addAll (.literal _) [.newLine]
  have hopened := (hhead.append (chainedCallStream m)).addAll
    [.newLine, .literal "\x7b", .indent 1]
  rw [methodStream, Stream.append_addAll (hopened.append _), Stream.append_append hopened,
    Stream.append_addAll (hhead.append _), Stream.append_append hhead, Stream.append_gathered]

/-- **The rows of a method.** -/
theorem awaits_method {m : MethodDecl} (htexts : ∀ line ∈ m.body, line.text ≠ "")
    (h : Awaits s rows last depth blank) :
    Lays (s.append (methodStream m)) (rows ++ methodRows depth blank m) depth := by
  have hsignature := (h.write (.literal (signature_ne_empty m))).add_newLine
  obtain ⟨last', hchained⟩ := awaits_chained m hsignature
  rw [append_methodStream, methodRows, blockRows]
  by_cases hbody : m.body = []
  · have hbraces : Writes [.literal "\x7b", .literal "\x7d"] "\x7b\x7d".toList 0 :=
      (Writes.literal (by decide)).more _
    have hblock := hchained.add_newLine.write hbraces
    -- in an empty body the two changes of the indentation cancel out
    rw [List.append_assoc, List.append_assoc] at hblock
    rw [hbody, if_pos rfl]
    exact hblock
  · have hopened := (hchained.add_newLine.write (.literal (by decide : "\x7b" ≠ ""))).add_indent 1
      (by decide)
    rw [← Int.add_zero (depth + 1)] at hopened
    obtain ⟨last'', hlast'', hrows⟩ :=
      awaits_body htexts hbody (.inr (Int.lt_add_one_iff.mpr (Int.le_refl depth))) hopened
    have hclosed := (hrows.add_indent (-1) (by omega)).write (.literal (by decide : "\x7d" ≠ ""))
    rw [Int.add_neg_cancel_right] at hclosed
    rw [append_bodyStream _ hbody, if_neg hbody]
    simp only [List.append_assoc] at hclosed
    exact hclosed

/-! ## Classes -/

/-- The types that a class is derived from. -/
def basesText (c : ClassDecl) : String := String.intercalate ", " (c.baseType :: c.interfaces)

def classHead (c : ClassDecl) : String := "public class " ++ c.name ++ " : " ++ basesText c

def classHeadTokens (c : ClassDecl) : List Token :=
  [.literal "public", .space, .literal "class", .space, .literal c.name, .space, .literal ":",
    .space, .literal (basesText c)]

def classRows (depth : Int) (blank : Bool) (c : ClassDecl) : List Row :=
  ⟨blank, depth, (classHead c).toList⟩ :: ⟨false, depth, ['\x7b']⟩ ::
    joinedRows (fieldRows (depth + 1)) false false c.fields ++
    joinedRows (methodRows (depth + 1)) true (!c.fields.isEmpty) c.methods ++
    [⟨false, depth, ['\x7d']⟩]

/-- The head of a class is written on one line. -/
theorem writes_classHead {c : ClassDecl} (hname : c.name ≠ "") (hbases : basesText c ≠ "") :
    Writes (classHeadTokens c) (classHead c).toList 0 := by
  have hclass := (Writes.literal (by decide : "public" ≠ "")).spaced "class"
  have hnamed := hclass.spaced c.name
  rw [if_neg hname, if_neg hname] at hnamed
  have hcolon := hnamed.spaced ":"
  have hall := hcolon.spaced (basesText c)
  rw [if_neg hbases, if_neg hbases] at hall
  have htext : (classHead c).toList =
      "public".toList ++ ' ' :: "class".toList ++ ' ' :: c.name.toList ++ ' ' :: ":".toList ++
        ' ' :: (basesText c).toList := by
    have hfront : "public class ".toList = "public".toList ++ ' ' :: "class".toList ++ [' '] := by
      decide
    have hcolon : " : ".toList = ' ' :: ":".toList ++ [' '] := by decide
    unfold classHead
    rw [String.toList_append, String.toList_append, String.toList_append, hfront, hcolon]
    simp only [List.append_assoc, List.cons_append, List.nil_append]
  rw [htext]
  exact hall

/-- Adds the head of a class and its fields. -/
def addFields (s : Stream) (c : ClassDecl) : Stream :=
  ((s.addAll (classHeadTokens c ++ [.newLine, .literal "\x7b", .indent 1])).appendJoined .newLine
    (c.fields.map fieldStream)).add .newLine

/-- Adds the methods of a class and its end. -/
def addMethods (s : Stream) (c : ClassDecl) : Stream :=
  ((s.add .newLine).appendJoined .emptyLine (c.methods.map methodStream)).addAll
    [.indent (-1), .literal "\x7d"]

/-- A class is its head, its fields, an empty line if there are any, and its methods. -/
theorem classStream_eq {c : ClassDecl} (hmethods : c.methods ≠ []) :
    classStream c =
      addMethods (if c.fields = [] then addFields [] c else (addFields [] c).add .emptyLine) c := by
  have hcondition : (c.fields.isEmpty || c.methods.isEmpty) = true ↔ c.fields = [] := by
    simp [hmethods]
  simp only [← hcondition]
  rfl

/-- The parts of a class, added one after the other. -/
theorem append_classStream (s : Stream) {c : ClassDecl} (hmethods : c.methods ≠ []) :
    s.append (classStream c) =
      addMethods (if c.fields = [] then addFields s c else (addFields s c).add .emptyLine) c := by
  have hopened : Stream.Normal (Stream.addAll []
      (classHeadTokens c ++ [.newLine, .literal "\x7b", .indent 1])) :=
    Stream.Normal.addAll (.literal "public") _
  have hfields : Stream.Normal (addFields [] c) := (hopened.appendJoined _ _).add _
  have hgathered : s.append (addFields [] c) = addFields s c := by
    rw [addFields, Stream.append_add (hopened.appendJoined _ _),
      Stream.append_appendJoined hopened]
    exact congrArg (fun u => (Stream.appendJoined u _ _).add _) (Stream.append_gathered s _ _)
  have hrest : ∀ u : Stream, u.Normal → s.append (addMethods u c) = addMethods (s.append u) c := by
    intro u hu
    rw [addMethods, Stream.append_addAll ((hu.add _).appendJoined _ _),
      Stream.append_appendJoined (hu.add _), Stream.append_add hu]
    rfl
  rw [classStream_eq hmethods]
  by_cases hnone : c.fields = []
  · rw [if_pos hnone, if_pos hnone, hrest _ hfields, hgathered]
  · rw [if_neg hnone, if_neg hnone, hrest _ (hfields.add _), Stream.append_add hfields, hgathered]

/-- No part of the class that must be printed is empty. -/
structure Printable (c : ClassDecl) : Prop where
  name : c.name ≠ ""
  bases : basesText c ≠ ""
  fields : ∀ f ∈ c.fields, f.type ≠ "" ∧ f.name ≠ ""
  methods : c.methods ≠ []
  bodies : ∀ m ∈ c.methods, ∀ line ∈ m.body, line.text ≠ ""

/-- Behind its fields a class waits for its methods. -/
theorem awaits_addFields {c : ClassDecl} (hc : Printable c) (h : Awaits s rows last depth blank) :
    ∃ last', (c.fields ≠ [] → last' = depth + 1) ∧
      Awaits (addFields s c)
        (rows ++ ⟨blank, depth, (classHead c).toList⟩ :: ⟨false, depth, ['\x7b']⟩ ::
          joinedRows (fieldRows (depth + 1)) false false c.fields) last' (depth + 1) false := by
  have hhead := (h.write (writes_classHead hc.name hc.bases)).add_newLine
  have hopened := (hhead.write (.literal (by decide : "\x7b" ≠ ""))).add_indent 1 (by decide)
  rw [addFields, Stream.addAll_append]
  by_cases hnone : c.fields = []
  · refine ⟨depth, fun hsome => absurd hnone hsome, ?_⟩
    rw [hnone]
    simpa [Stream.addAll, Stream.appendJoined, joinedRows] using hopened.add_newLine
  · have hjoined := (hopened.appendJoined (fun f hf s rows last blank h =>
      awaits_field (hc.fields f hf).1 (hc.fields f hf).2 h) hnone false).add_newLine
    simp only [List.append_assoc] at hjoined
    exact ⟨depth + 1, fun _ => rfl, hjoined⟩

/-- Behind its methods a class is at its end. -/
theorem awaits_addMethods {c : ClassDecl} (hc : Printable c)
    (h : Awaits s rows last (depth + 1) blank) :
    Lays (addMethods s c)
      (rows ++ joinedRows (methodRows (depth + 1)) true blank c.methods ++
        [⟨false, depth, ['\x7d']⟩]) depth := by
  have hjoined := h.add_newLine.appendJoined (fun m hm s rows last blank h =>
    awaits_method (hc.bodies m hm) h) hc.methods true
  have hclosed := (hjoined.add_indent (-1) (by decide)).write
    (.literal (by decide : "\x7d" ≠ ""))
  rw [Int.add_neg_cancel_right] at hclosed
  exact hclosed

/-- **The rows of a class.** -/
theorem awaits_class {c : ClassDecl} (hc : Printable c) (h : Awaits s rows last depth blank) :
    Lays (s.append (classStream c)) (rows ++ classRows depth blank c) depth := by
  obtain ⟨last', hlast', hfields⟩ := awaits_addFields hc h
  rw [append_classStream s hc.methods, classRows]
  by_cases hnone : c.fields = []
  · have hall := awaits_addMethods hc hfields
    rw [if_pos hnone]
    simpa [hnone] using hall
  · have hall := awaits_addMethods hc (hfields.add_emptyLine (hlast' hnone).symm)
    have hsome : (!c.fields.isEmpty) = true := by simpa using hnone
    rw [if_neg hnone, hsome]
    simpa using hall

/-! ## Files -/

def usingText (name : String) : String := "using " ++ name ++ ";"

def usingRows (blank : Bool) (name : String) : List Row := [⟨blank, 0, (usingText name).toList⟩]

def headerRows (blank : Bool) (line : String) : List Row := [⟨blank, 0, line.toList⟩]

/-- The namespaces that a file uses. -/
def usedNamespaces (logic : ClassDecl) : List String :=
  distinct ((classesOf logic).flatMap (·.usings))

def namespaceText (name : String) : String :=
  "namespace" ++ if name = "" then "" else " " ++ name

/-- The rows on where a file comes from and what it uses. -/
def introRows (logic : ClassDecl) : Option Provenance → List Row
  | some p =>
    joinedRows headerRows false false p.header ++
      joinedRows usingRows false true (usedNamespaces logic)
  | none => joinedRows usingRows false false (usedNamespaces logic)

/-- The rows before the classes of a file. -/
def frontRows (logic : ClassDecl) (provenance : Option Provenance) : List Row :=
  introRows logic provenance ++
    [⟨true, 0, (namespaceText logic.namespaceName).toList⟩, ⟨false, 0, ['\x7b']⟩]

def fileRows (logic : ClassDecl) (provenance : Option Provenance) : List Row :=
  frontRows logic provenance ++ joinedRows (classRows 1) true false (classesOf logic) ++
    [⟨false, 0, ['\x7d']⟩]

/-- An import is written on one line. -/
theorem writes_using {name : String} (hname : name ≠ "") :
    Writes [.literal "using", .space, .literal name, .literal ";"] (usingText name).toList 0 := by
  have hspaced := (Writes.literal (by decide : "using" ≠ "")).spaced name
  rw [if_neg hname, if_neg hname] at hspaced
  have hall := hspaced.more ";"
  simpa [usingText] using hall

/-- An import makes up a row of its own. -/
theorem laysOut_using {name : String} (hname : name ≠ "") :
    LaysOut (usingStream name) (usingRows · name) 0 := by
  intro s rows last blank h
  rw [usingStream, Stream.append_gathered]
  exact h.write (writes_using hname)

theorem laysOut_header {line : String} (hline : line ≠ "") :
    LaysOut [.literal line] (headerRows · line) 0 :=
  fun _ _ _ _ h => h.write (.literal hline)

/-- No line of the header is empty. -/
theorem header_ne_empty (p : Provenance) : ∀ line ∈ p.header, line ≠ "" := by
  rw [Provenance.header, List.forall_mem_cons, List.forall_mem_cons, List.forall_mem_singleton]
  exact ⟨append_ne_empty (append_ne_empty (by decide) _) _, append_ne_empty (by decide) _,
    by decide⟩

/-- The comments at the top of a file. -/
def headerStream : Option Provenance → Stream
  | some p =>
    (Stream.appendJoined [] .newLine (p.header.map fun line => [.literal line])).addAll
      [.newLine, .emptyLine]
  | none => []

/-- **The lines above the namespace**: the header, if there is one, and the imports. -/
theorem lays_intro {logic : ClassDecl} (provenance : Option Provenance)
    (hne : usedNamespaces logic ≠ []) (hnames : ∀ name ∈ usedNamespaces logic, name ≠ "") :
    Lays (((headerStream provenance).add .newLine).appendJoined .newLine
      ((usedNamespaces logic).map usingStream)) (introRows logic provenance) 0 := by
  cases provenance with
  | none =>
      obtain ⟨name, names, hcons⟩ := List.exists_cons_of_ne_nil hne
      rw [introRows, hcons]
      rw [hcons] at hnames
      have hfirst := (writes_using (hnames name List.mem_cons_self)).first.2
      exact Lays.appendJoined (fun other hother =>
        laysOut_using (hnames other (List.mem_cons_of_mem _ hother))) false hfirst
  | some p =>
      have hsome : p.header ≠ [] := List.cons_ne_nil _ _
      obtain ⟨line, lines, hcons⟩ := List.exists_cons_of_ne_nil hsome
      have hheader := header_ne_empty p
      rw [introRows, headerStream, hcons]
      rw [hcons] at hheader
      have hfirst := (Writes.literal (hheader line List.mem_cons_self)).first.1
      have hlines := Lays.appendJoined (fun other hother =>
        laysOut_header (hheader other (List.mem_cons_of_mem _ hother))) false hfirst
      have hwaits := (hlines.add_newLine.add_emptyLine rfl).add_newLine
      exact hwaits.appendJoined (fun name hname => laysOut_using (hnames name hname)) hne false

/-- A file from its front to its end: header, imports, and the classes inside the namespace. -/
theorem fileStream_eq (logic : ClassDecl) (provenance : Option Provenance) :
    fileStream logic provenance =
      (((((headerStream provenance).add .newLine).appendJoined .newLine
        ((usedNamespaces logic).map usingStream)).addAll
          [.newLine, .emptyLine, .newLine, .literal "namespace", .space,
            .literal logic.namespaceName, .newLine, .literal "\x7b", .indent 1]).appendJoined
              .emptyLine ((classesOf logic).map classStream)).addAll
                [.indent (-1), .literal "\x7d"] := by
  cases provenance <;> rfl

/-- **The rows of a file.** -/
theorem lays_file {logic : ClassDecl} (provenance : Option Provenance)
    (hne : usedNamespaces logic ≠ []) (hnames : ∀ name ∈ usedNamespaces logic, name ≠ "")
    (hclasses : ∀ c ∈ classesOf logic, Printable c) :
    Lays (fileStream logic provenance) (fileRows logic provenance) 0 := by
  have hnamespace : Writes [.literal "namespace", .space, .literal logic.namespaceName]
      (namespaceText logic.namespaceName).toList (if logic.namespaceName = "" then 1 else 0) := by
    have hspaced := (Writes.literal (by decide : "namespace" ≠ "")).spaced logic.namespaceName
    have htext : (namespaceText logic.namespaceName).toList = "namespace".toList ++
        if logic.namespaceName = "" then [] else ' ' :: logic.namespaceName.toList := by
      rw [namespaceText]
      split <;> simp
    rw [htext]
    exact hspaced
  have hintro := (lays_intro provenance hne hnames).add_newLine.add_emptyLine rfl
  have hopened := ((hintro.add_newLine.write hnamespace).add_newLine.write
    (.literal (by decide : "\x7b" ≠ ""))).add_indent 1 (by decide)
  have hall := hopened.appendJoined (fun c hc s rows last blank h =>
    awaits_class (hclasses c hc) h) (List.concat_ne_nil _ _) true
  have hclosed := (hall.add_indent (-1) (by decide)).write (.literal (by decide : "\x7d" ≠ ""))
  rw [fileStream_eq, fileRows, frontRows]
  simp only [List.append_assoc] at hclosed ⊢
  exact hclosed

/-- **The text of a file.** -/
theorem render_eq_rows {logic : ClassDecl} (provenance : Option Provenance)
    (hne : usedNamespaces logic ≠ []) (hnames : ∀ name ∈ usedNamespaces logic, name ≠ "")
    (hclasses : ∀ c ∈ classesOf logic, Printable c) :
    render logic provenance = String.ofList (rowsChars (fileRows logic provenance)) :=
  (lays_file provenance hne hnames hclasses).print

end BehaviorTraits.CSharp
