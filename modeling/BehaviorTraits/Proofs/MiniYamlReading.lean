import BehaviorTraits.Actor
import BehaviorTraits.Proofs.InfoFields
import BehaviorTraits.Proofs.Lines
import BehaviorTraits.Proofs.Trimmed

/-!
# Reading actor documents

A rendered document has one line for each entry, in the order of the document
(`lines_renderChars`).  `lastBlock` reads the entries two levels deep at its end the way the engine
does: the key goes up to the first colon, the value up to the first `#`, and the comment from there
to the end of the line.

`lastBlock_actorDocument` says that these are the fields of the trait.
-/

namespace BehaviorTraits.MiniYaml

open Text

/-! ## The lines of a document -/

/-- The line of one entry without its line break. -/
def entryLine (depth : Nat) (key : String) (value comment : Option String) : List Char :=
  List.replicate depth '\t' ++ singleLineChars key.toList ++ ':' :: partChars [' '] value ++
    partChars [' ', '#', ' '] comment

mutual

/-- The lines of an entry and of all below it. -/
def linesOf (depth : Nat) : MiniYaml → List (List Char)
  | ⟨key, value, children, comment⟩ =>
    entryLine depth key value comment :: linesOfAll (depth + 1) children

def linesOfAll (depth : Nat) : List MiniYaml → List (List Char)
  | [] => []
  | d :: ds => linesOf depth d ++ linesOfAll depth ds

end

/-- A value or comment breaks no line. -/
theorem unbroken_partChars {before : List Char} (hbefore : Unbroken before)
    (part : Option String) : Unbroken (partChars before part) := by
  cases part with
  | none => simp [partChars, Unbroken]
  | some s =>
      rw [partChars]
      split
      · simp [Unbroken]
      · exact unbroken_append.mpr ⟨hbefore, unbroken_singleLineChars _⟩

/-- **An entry stays on one line**, whatever texts it has. -/
theorem unbroken_entryLine (depth : Nat) (key : String) (value comment : Option String) :
    Unbroken (entryLine depth key value comment) := by
  have htabs : Unbroken (List.replicate depth '\t') := by
    intro c hc
    rw [List.eq_of_mem_replicate hc]
    decide
  have hcolon : Unbroken (':' :: partChars [' '] value) :=
    (unbroken_append : Unbroken ([':'] ++ _) ↔ _).mpr
      ⟨by decide, unbroken_partChars (by decide) value⟩
  rw [entryLine, unbroken_append, unbroken_append, unbroken_append]
  exact ⟨⟨⟨htabs, unbroken_singleLineChars _⟩, hcolon⟩, unbroken_partChars (by decide) comment⟩

mutual

/-- **One line for each entry.** -/
theorem lines_renderChars (depth : Nat) (d : MiniYaml) (rest : List Char) :
    splitAtChar '\n' (renderChars depth d ++ rest) =
      linesOf depth d ++ splitAtChar '\n' rest := by
  obtain ⟨key, value, children, comment⟩ := d
  have hline := (unbroken_entryLine depth key value comment).newLine_not_mem
  have hchars : renderChars depth ⟨key, value, children, comment⟩ ++ rest =
      entryLine depth key value comment ++
        '\n' :: (renderAllChars (depth + 1) children ++ rest) := by
    simp [renderChars, lineChars, entryLine]
  rw [hchars, splitAtChar_line hline, lines_renderAllChars (depth + 1) children, linesOf]
  rfl

theorem lines_renderAllChars (depth : Nat) (ds : List MiniYaml) (rest : List Char) :
    splitAtChar '\n' (renderAllChars depth ds ++ rest) =
      linesOfAll depth ds ++ splitAtChar '\n' rest := by
  match ds with
  | [] => rfl
  | d :: ds =>
      rw [renderAllChars, List.append_assoc, lines_renderChars depth d,
        lines_renderAllChars depth ds, linesOfAll, List.append_assoc]

end

/-! ## Reading an entry -/

/-- An entry as it is read from a line. -/
structure Entry where
  key : String
  value : String
  comment : Option String
  deriving DecidableEq, Repr

/-- Reads what stands on a line behind its tabs. -/
def readEntry (line : List Char) : Entry :=
  let rest := (line.dropWhile (· ≠ ':')).drop 1
  { key := String.ofList (line.takeWhile (· ≠ ':'))
    value := String.ofList (trimChars (rest.takeWhile (· ≠ '#')))
    comment := match rest.dropWhile (· ≠ '#') with
      | '#' :: ' ' :: comment => some (String.ofList comment)
      | _ => none }

/-- Trimming takes away the spaces around a text without blanks. -/
theorem trimChars_pad {cs : List Char} (hcs : ∀ c ∈ cs, isBlank c = false) :
    trimChars (' ' :: cs ++ [' ']) = cs := by
  have hspace : ∀ c ∈ [' '], isBlank c = true := by
    intro c hc
    obtain rfl := List.mem_singleton.mp hc
    decide
  have htrimmed : Trimmed cs :=
    { head := fun c hc => hcs c (List.mem_of_mem_head? hc)
      last := fun c hc => hcs c (List.mem_of_getLast? hc) }
  exact (trimChars_surrounded hspace hspace cs).trans htrimmed.trimChars_eq

/-- What stands between the colon of an entry and the sign before its comment. -/
def paddedValue (value : String) : List Char :=
  if value = "" then [' '] else ' ' :: value.toList ++ [' ']

/-- Trimming takes the padding off a value. -/
theorem trimChars_paddedValue {value : String}
    (hvalue : ∀ c ∈ value.toList, c.isAlphanum = true) :
    trimChars (paddedValue value) = value.toList := by
  rw [paddedValue]
  split
  · rename_i hempty
    rw [hempty]
    decide
  · exact trimChars_pad fun c hc => not_isBlank_of_isAlphanum (hvalue c hc)

/-- **Reading back.**  The key is a word, and the value is one or nothing. -/
theorem readEntry_entryLine {key value comment : String} (hkey : Word key)
    (hvalue : ∀ c ∈ value.toList, c.isAlphanum = true) (hcomment : comment ≠ "")
    (hunbroken : Unbroken comment.toList) :
    readEntry (entryLine 0 key (some value) (some comment)) = ⟨key, value, some comment⟩ := by
  have hline : entryLine 0 key (some value) (some comment) =
      key.toList ++ ':' :: (paddedValue value ++ '#' :: ' ' :: comment.toList) := by
    rw [entryLine, partChars, partChars, if_neg hcomment, paddedValue,
      singleLineChars_of_unbroken hkey.unbroken,
      singleLineChars_of_unbroken (unbroken_of_isAlphanum hvalue),
      singleLineChars_of_unbroken hunbroken]
    split <;> simp
  have hcolon : ':' ∉ key.toList := hkey.not_mem (by decide)
  have hsign : '#' ∉ paddedValue value := by
    rw [paddedValue]
    split
    · decide
    · intro hmem
      have halphanum := hvalue '#' (by simpa using hmem)
      exact absurd halphanum (by decide)
  rw [hline, readEntry, takeWhile_ne_append hcolon, dropWhile_ne_append hcolon, List.drop_one,
    List.tail_cons, takeWhile_ne_append hsign, dropWhile_ne_append hsign,
    trimChars_paddedValue hvalue]
  simp

/-! ## The block of a trait -/

/-- Reads the lines at the end of a document that begin with two tabs. -/
def lastBlock (document : String) : List Entry :=
  let lines := (splitAtChar '\n' document.toList).dropLast
  let block := (lines.reverse.takeWhile (['\t', '\t'].isPrefixOf ·)).reverse
  block.map fun line => readEntry (line.drop 2)

/-- The lines of entries that have none below them. -/
theorem linesOfAll_leaves (depth : Nat) {ds : List MiniYaml} (h : ∀ d ∈ ds, d.children = []) :
    linesOfAll depth ds = ds.map fun d => entryLine depth d.key d.value d.comment := by
  induction ds with
  | nil => rfl
  | cons d ds ih =>
      obtain ⟨key, value, children, comment⟩ := d
      have hnone : children = [] := h _ List.mem_cons_self
      subst hnone
      rw [linesOfAll, linesOf, ih fun other hother => h other (List.mem_cons_of_mem _ hother)]
      rfl

/-- Entries in a row have their lines in a row. -/
theorem linesOfAll_append (depth : Nat) (ds es : List MiniYaml) :
    linesOfAll depth (ds ++ es) = linesOfAll depth ds ++ linesOfAll depth es := by
  induction ds with
  | nil => rfl
  | cons d ds ih => rw [List.cons_append, linesOfAll, ih, linesOfAll, List.append_assoc]

/-- The lines of the last child come last. -/
theorem linesOf_concat (depth : Nat) (key : String) (value comment : Option String)
    (first : List MiniYaml) (last : MiniYaml) :
    linesOf depth ⟨key, value, first ++ [last], comment⟩ =
      entryLine depth key value comment :: linesOfAll (depth + 1) first ++
        linesOf (depth + 1) last := by
  have hlast : linesOfAll (depth + 1) [last] = linesOf (depth + 1) last := by
    rw [linesOfAll, linesOfAll, List.append_nil]
  rw [linesOf, linesOfAll_append, hlast, List.cons_append]

/-- The block begins behind the last line that does not begin with two tabs. -/
theorem lastBlock_lines {document : String} {before block : List (List Char)} {heading : List Char}
    (hlines : splitAtChar '\n' document.toList = before ++ heading :: block ++ [[]])
    (hheading : ['\t', '\t'].isPrefixOf heading = false)
    (hblock : ∀ line ∈ block, ['\t', '\t'].isPrefixOf line = true) :
    lastBlock document = block.map fun line => readEntry (line.drop 2) := by
  have hreverse : ∀ line ∈ block.reverse, ['\t', '\t'].isPrefixOf line = true :=
    fun line hline => hblock line (List.mem_reverse.mp hline)
  have htake : (before ++ heading :: block).reverse.takeWhile (['\t', '\t'].isPrefixOf ·) =
      block.reverse := by
    rw [List.reverse_append, List.reverse_cons, List.append_assoc,
      List.takeWhile_append_of_pos hreverse]
    simp [hheading]
  rw [lastBlock, hlines, List.dropLast_concat, htake, List.reverse_reverse]

/-- Two levels in, a line has two tabs in front and is the same otherwise. -/
theorem entryLine_two (key : String) (value comment : Option String) :
    entryLine 2 key value comment = '\t' :: '\t' :: entryLine 0 key value comment := by
  simp [entryLine]

end BehaviorTraits.MiniYaml

namespace BehaviorTraits

open Text MiniYaml

/-- The entry that a field gives. -/
def FieldDecl.entry (f : FieldDecl) : Entry := ⟨f.name, f.documentValue, some f.description⟩

/-- **The line of a proper field is read back**: its name, its value and its description. -/
theorem FieldDecl.Proper.readEntry_fieldEntry {f : FieldDecl} (h : f.Proper) :
    readEntry (entryLine 0 (fieldEntry f).key (fieldEntry f).value (fieldEntry f).comment) =
      f.entry := by
  have hvalue : ∀ c ∈ f.documentValue.toList, c.isAlphanum = true := by
    rw [FieldDecl.documentValue]
    cases hdefault : f.default? with
    | none =>
        have hempty : FieldDecl.zeroOf gateField.type = "" := by decide
        rw [h.gate (.inl hdefault), Option.getD_none, hempty]
        exact fun c hc => absurd hc List.not_mem_nil
    | some v => exact (h.value v hdefault).2
  rw [fieldEntry, if_neg h.described]
  exact readEntry_entryLine h.name hvalue h.described h.unbroken

/-- The line of a field in the block of its trait. -/
def fieldLine (f : FieldDecl) : List Char :=
  entryLine 2 (fieldEntry f).key (fieldEntry f).value (fieldEntry f).comment

/-- The block of a trait is its name and then its fields, one a line. -/
theorem linesOf_traitBlock (t : Trait) :
    linesOf 1 (traitBlock t) = entryLine 1 t.name none none :: t.exposedFields.map fieldLine := by
  have hleaves : ∀ d ∈ t.exposedFields.map fieldEntry, d.children = [] := by
    intro d hd
    obtain ⟨f, _, rfl⟩ := List.mem_map.mp hd
    rw [fieldEntry]
    split <;> rfl
  rw [traitBlock, linesOf, linesOfAll_leaves 2 hleaves, List.map_map]
  rfl

/-- A line that begins with one tab and a word is outside the block. -/
theorem isPrefixOf_entryLine_one {key : String} (hkey : Word key) (value comment : Option String) :
    ['\t', '\t'].isPrefixOf (entryLine 1 key value comment) = false := by
  have htab : '\t' ∉ key.toList := hkey.not_mem (by decide)
  rw [entryLine, singleLineChars_of_unbroken hkey.unbroken]
  cases hcs : key.toList with
  | nil => exact absurd (String.toList_eq_nil_iff.mp hcs) hkey.1
  | cons c cs =>
      have hc : '\t' ≠ c := fun heq => htab (hcs ▸ heq ▸ List.mem_cons_self)
      simp [List.isPrefixOf, hc]

/-- **The fields of a trait are read back from its block.**  The line before the block names the
trait and has one tab only. -/
theorem lastBlock_actorDocument {t : Trait} (hname : Word t.name)
    (hfields : ∀ f ∈ t.exposedFields, f.Proper) (entity : String) (defaults : ActorDefaults) :
    lastBlock (actorDocument t entity defaults).render = t.exposedFields.map FieldDecl.entry := by
  obtain ⟨before, hlinesOf⟩ : ∃ before, linesOf 0 (actorDocument t entity defaults) =
      before ++ entryLine 1 t.name none none :: t.exposedFields.map fieldLine := by
    rw [← linesOf_traitBlock]
    exact ⟨_, linesOf_concat 0 _ _ _ [_, _, _] _⟩
  have hlines : splitAtChar '\n' (actorDocument t entity defaults).render.toList =
      before ++ entryLine 1 t.name none none :: t.exposedFields.map fieldLine ++ [[]] := by
    have hrender := lines_renderChars 0 (actorDocument t entity defaults) []
    rw [List.append_nil, hlinesOf] at hrender
    rw [render, String.toList_ofList, hrender]
    rfl
  rw [lastBlock_lines hlines (isPrefixOf_entryLine_one hname none none), List.map_map]
  · refine List.map_congr_left fun f hf => ?_
    rw [Function.comp, fieldLine, entryLine_two]
    exact (hfields f hf).readEntry_fieldEntry
  · intro line hline
    obtain ⟨f, _, rfl⟩ := List.mem_map.mp hline
    rw [fieldLine, entryLine_two]
    rfl

end BehaviorTraits
