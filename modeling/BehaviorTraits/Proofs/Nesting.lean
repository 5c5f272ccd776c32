import BehaviorTraits.Proofs.SourceReading

/-!
# Nesting of printed lines

A brace on a line of its own opens or closes a block, and the margin of a line should show how many
blocks are open around it.  Two things say so of the lines of a text:

* `Spans` counts braces in the lines themselves: what stands before a line tells how many blocks are
  open there, and this gives the margin of the line;
* `Nested` is a grammar of rows: it goes from row to row and from one number of open blocks to the
  next.

Rows that follow the grammar give lines with the right margins, whatever comes behind them
(`Nested.spans`).  The call that a constructor makes first is the only line that stands deeper than
the blocks around it.
-/

namespace BehaviorTraits.CSharp

open Layout Text

/-! ## Levels of lines -/

/-- The number of blanks that a line starts with. -/
def indentation (line : List Char) : Nat := (line.takeWhile (· = ' ')).length

/-- The text of the line on which a constructor calls that of its base class. -/
def baseCall : List Char := ": base(info)".toList

/-- The blocks that a line opens, less those that it closes. -/
def opened (line : List Char) : Int :=
  if unindented line = ['\x7b'] then 1 else if unindented line = ['\x7d'] then -1 else 0

/-- The blocks that are open behind the lines. -/
def level (lines : List (List Char)) : Int := (lines.map opened).sum

/-- How many levels deeper than the blocks that are open before it a line stands. -/
def offset (line : List Char) : Int :=
  if unindented line = ['\x7d'] then -1 else if unindented line = baseCall then 1 else 0

theorem level_nil : level [] = 0 := rfl

/-- Blocks are counted line by line. -/
theorem level_cons (line : List Char) (lines : List (List Char)) :
    level (line :: lines) = opened line + level lines := rfl

/-- When `k` blocks are open before the lines, `k'` are open behind them, there are never less than
none, and the margins of lines that are not blank show their number; `n` lines call a base class. -/
structure Spans (k : Int) (lines : List (List Char)) (k' : Int) (n : Nat) : Prop where
  ends : k + level lines = k'
  calls : lines.countP (unindented · = baseCall) = n
  placed : ∀ before line after, lines = before ++ line :: after →
    0 ≤ k + level before ∧
      (unindented line ≠ [] → (indentation line : Int) = 4 * (k + level before + offset line))

theorem spans_nil (k : Int) : Spans k [] k 0 where
  ends := Int.add_zero k
  calls := rfl
  placed before line after hsplit := by simp at hsplit

/-- One line more in front. -/
theorem Spans.cons {k k' : Int} {n : Nat} {line : List Char} {lines : List (List Char)}
    (hk : 0 ≤ k)
    (hline : unindented line ≠ [] → (indentation line : Int) = 4 * (k + offset line))
    (hlines : Spans (k + opened line) lines k' n) :
    Spans k (line :: lines) k' (n + if unindented line = baseCall then 1 else 0) where
  ends := by
    rw [level_cons, ← Int.add_assoc]
    exact hlines.ends
  calls := by
    rw [List.countP_cons, hlines.calls]
    simp
  placed before other after hsplit := by
    cases before with
    | nil =>
        obtain ⟨rfl, rfl⟩ := List.cons.inj hsplit
        rw [level_nil, Int.add_zero]
        exact ⟨hk, hline⟩
    | cons first before =>
        obtain ⟨rfl, hrest⟩ := List.cons.inj hsplit
        rw [level_cons, ← Int.add_assoc]
        exact hlines.placed before other after hrest

/-- An empty line changes nothing. -/
theorem Spans.empty {k k' : Int} {n : Nat} {lines : List (List Char)} (hk : 0 ≤ k)
    (hlines : Spans k lines k' n) : Spans k ([] :: lines) k' n := by
  have hopened : k + opened [] = k := Int.add_zero k
  rw [← hopened] at hlines
  exact Spans.cons hk (fun h => absurd rfl h) hlines

/-! ## Margins -/

/-- A line that does not begin with a blank has no margin to take off. -/
theorem unindented_cons {c : Char} (hc : c ≠ ' ') (rest : List Char) :
    unindented (c :: rest) = c :: rest := by
  rw [unindented, List.dropWhile_cons_of_neg (by simpa using hc)]

/-- A line at a depth shows it. -/
theorem indentation_margin {depth : Int} (hdepth : 0 ≤ depth) {c : Char} (hc : c ≠ ' ')
    (rest : List Char) : (indentation (margin depth ++ c :: rest) : Int) = 4 * depth := by
  have hblank : ∀ d ∈ margin depth, decide (d = ' ') = true := fun d hd =>
    decide_eq_true (List.eq_of_mem_replicate hd)
  rw [indentation, List.takeWhile_append_of_pos hblank,
    List.takeWhile_cons_of_neg (by simpa using hc), List.append_nil, margin, List.length_replicate]
  omega

/-- A row at the right depth, before lines. -/
theorem Spans.row {k k' : Int} {n : Nat} {lines : List (List Char)} {r : Row} {c : Char}
    {rest : List Char} (hk : 0 ≤ k) (htext : r.text = c :: rest) (hc : c ≠ ' ')
    (hdepth : 0 ≤ r.depth ∧ r.depth = k + offset r.text)
    (hlines : Spans (k + opened r.text) lines k' n) :
    Spans k (r.lines ++ lines) k' (n + if r.text = baseCall then 1 else 0) := by
  have hunindented : unindented r.line = r.text := by
    rw [Row.line, unindented_margin, htext, unindented_cons hc]
  have hsame : unindented r.text = r.text := by rw [htext, unindented_cons hc]
  have hindentation : (indentation r.line : Int) = 4 * (k + offset r.line) := by
    rw [offset, hunindented, ← hsame, ← offset, ← hdepth.2, Row.line, htext,
      indentation_margin hdepth.1 hc]
  have hopened : opened r.line = opened r.text := by
    rw [opened, hunindented, opened, hsame]
  have hline : Spans k (r.line :: lines) k' (n + if r.text = baseCall then 1 else 0) := by
    rw [← hunindented]
    refine Spans.cons hk (fun _ => hindentation) ?_
    rw [hopened]
    exact hlines
  rw [Row.lines]
  split
  · exact hline.empty hk
  · exact hline

/-! ## A grammar of rows -/

/-- The text stands on one line, starts with no blank and is neither a brace nor the call of a base
class. -/
structure Plain (text : List Char) : Prop where
  unbroken : '\n' ∉ text
  solid : ∃ c rest, text = c :: rest ∧ c ≠ ' '
  notOpening : text ≠ ['\x7b']
  notClosing : text ≠ ['\x7d']
  notCall : text ≠ baseCall

/-- The rows lead from `k` open blocks to `k'` of them, and `n` of the rows call a base class. -/
inductive Nested : Int → List Row → Int → Nat → Prop
  | nil (k : Int) : Nested k [] k 0
  | plain {k k' : Int} {n : Nat} {blank : Bool} {text : List Char} {rows : List Row}
      (htext : Plain text) (hrows : Nested k rows k' n) : Nested k (⟨blank, k, text⟩ :: rows) k' n
  | call {k k' : Int} {n : Nat} {rows : List Row} (hrows : Nested k rows k' n) :
      Nested k (⟨false, k + 1, baseCall⟩ :: rows) k' (n + 1)
  | opening {k k' : Int} {n : Nat} {rows : List Row} (hrows : Nested (k + 1) rows k' n) :
      Nested k (⟨false, k, ['\x7b']⟩ :: rows) k' n
  | closing {k k' : Int} {n : Nat} {rows : List Row} (hk : 0 ≤ k) (hrows : Nested k rows k' n) :
      Nested (k + 1) (⟨false, k, ['\x7d']⟩ :: rows) k' n

namespace Nested

variable {k between k' : Int} {n m : Nat} {rows more : List Row}

/-- Rows that nest can be put below each other, where the first ones end. -/
theorem append (h : Nested k rows between n) (hmore : Nested between more k' m) :
    Nested k (rows ++ more) k' (n + m) := by
  induction h with
  | nil k =>
      rw [Nat.zero_add]
      exact hmore
  | plain htext _ ih => exact .plain htext (ih hmore)
  | @call _ _ n rows _ ih =>
      rw [Nat.add_right_comm]
      exact .call (ih hmore)
  | opening _ ih => exact .opening (ih hmore)
  | closing hk _ ih => exact .closing hk (ih hmore)

/-- A block in braces. -/
theorem block (hk : 0 ≤ k) (h : Nested (k + 1) rows (k + 1) n) :
    Nested k (⟨false, k, ['\x7b']⟩ :: rows ++ [⟨false, k, ['\x7d']⟩]) k n :=
  .opening (h.append (.closing hk (.nil k)))

/-- Items one after the other. -/
theorem joined {α : Type} {itemRows : Bool → α → List Row} {calls : α → Nat} {items : List α}
    (hitems : ∀ item ∈ items, ∀ blank, Nested k (itemRows blank item) k (calls item))
    (apart blank : Bool) :
    Nested k (joinedRows itemRows apart blank items) k (items.map calls).sum := by
  induction items generalizing blank with
  | nil => exact .nil k
  | cons item items ih =>
      rw [joinedRows, List.map_cons, List.sum_cons]
      exact (hitems item List.mem_cons_self blank).append
        (ih (fun other hother => hitems other (List.mem_cons_of_mem _ hother)) apart)

/-- No row breaks a line. -/
theorem unbroken (h : Nested k rows k' n) : ∀ r ∈ rows, '\n' ∉ r.text := by
  have hfixed : '\n' ∉ baseCall ∧ '\n' ∉ ['\x7b'] ∧ '\n' ∉ ['\x7d'] := by decide
  induction h with
  | nil k => simp
  | plain htext _ ih => exact List.forall_mem_cons.mpr ⟨htext.unbroken, ih⟩
  | call _ ih => exact List.forall_mem_cons.mpr ⟨hfixed.1, ih⟩
  | opening _ ih => exact List.forall_mem_cons.mpr ⟨hfixed.2.1, ih⟩
  | closing _ _ ih => exact List.forall_mem_cons.mpr ⟨hfixed.2.2, ih⟩

/-- **Rows of the grammar have the right margins**, before any lines that go on from there. -/
theorem spans {lines : List (List Char)} {last : Int} (h : Nested k rows k' n) (hk : 0 ≤ k)
    (hlines : Spans k' lines last m) : Spans k (rows.flatMap Row.lines ++ lines) last (m + n) := by
  induction h with
  | nil k => exact hlines
  | @plain k k' n blank text rows htext _ ih =>
      obtain ⟨c, rest, hcons, hc⟩ := htext.solid
      have hsame : unindented text = text := by rw [hcons, unindented_cons hc]
      have hopened : opened text = 0 := by
        rw [opened, hsame, if_neg htext.notOpening, if_neg htext.notClosing]
      have hoffset : offset text = 0 := by
        rw [offset, hsame, if_neg htext.notClosing, if_neg htext.notCall]
      have hrow := Spans.row (r := ⟨blank, k, text⟩) hk hcons hc
        ⟨hk, by rw [hoffset, Int.add_zero]⟩ (by rw [hopened, Int.add_zero]; exact ih hk hlines)
      rw [if_neg htext.notCall] at hrow
      rw [List.flatMap_cons, List.append_assoc]
      exact hrow
  | @call k k' n rows _ ih =>
      have hopened : k + opened baseCall = k := Int.add_zero k
      have hrest := ih hk hlines
      rw [← hopened] at hrest
      have hrow := Spans.row (r := ⟨false, k + 1, baseCall⟩) hk rfl (by decide)
        ⟨Int.le_add_one hk, rfl⟩ hrest
      rw [List.flatMap_cons, List.append_assoc, ← Nat.add_assoc]
      exact hrow
  | @opening k k' n rows _ ih =>
      have hrow := Spans.row (r := ⟨false, k, ['\x7b']⟩) hk rfl (by decide)
        ⟨hk, (Int.add_zero k).symm⟩ (ih (by omega) hlines)
      rw [List.flatMap_cons, List.append_assoc]
      exact hrow
  | @closing k k' n rows hk' _ ih =>
      have hback : k + 1 + -1 = k := Int.add_neg_cancel_right k 1
      have hrest := ih hk' hlines
      rw [← hback] at hrest
      have hrow := Spans.row (r := ⟨false, k, ['\x7d']⟩) hk rfl (by decide) ⟨hk', hback.symm⟩ hrest
      rw [List.flatMap_cons, List.append_assoc]
      exact hrow

/-- The lines of a text whose rows follow the grammar from the first to the last. -/
theorem spans_lines (h : Nested 0 rows 0 n) : Spans 0 (splitAtChar '\n' (rowsChars rows)) 0 n := by
  have hspans := h.spans (Int.le_refl 0) ((spans_nil 0).empty (Int.le_refl 0))
  rw [Nat.zero_add] at hspans
  rw [lines_rowsChars h.unbroken]
  exact hspans

end Nested

end BehaviorTraits.CSharp
