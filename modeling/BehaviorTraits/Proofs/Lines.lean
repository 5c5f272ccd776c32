import BehaviorTraits.Proofs.Rows
import BehaviorTraits.Text.Split

/-!
# Lines of a text

Both kinds of generated files are read line by line.  A text is split at its line breaks; what
stands before a line break does not change how the rest is split (`splitAtChar_append`).  So the
lines of rows stand one below the other (`lines_rowsChars_append`).  A row without line break gives
one line, with an empty one before it where it asks for one (`lines_row`).
-/

namespace BehaviorTraits

namespace Text

/-- There is always a piece, an empty one at least. -/
theorem splitAtChar_ne_nil (separator : Char) (cs : List Char) :
    splitAtChar separator cs ≠ [] := by
  cases cs with
  | nil => simp [splitAtChar]
  | cons c cs =>
      rw [splitAtChar]
      split
      · simp
      · split <;> simp

/-- A separator closes a piece, whatever follows. -/
theorem splitAtChar_append (separator : Char) (cs rest : List Char) :
    splitAtChar separator (cs ++ separator :: rest) =
      splitAtChar separator cs ++ splitAtChar separator rest := by
  induction cs with
  | nil =>
      obtain ⟨piece, pieces, hrest⟩ :=
        List.exists_cons_of_ne_nil (splitAtChar_ne_nil separator rest)
      simp [splitAtChar, hrest]
  | cons c cs ih =>
      obtain ⟨piece, pieces, hcs⟩ := List.exists_cons_of_ne_nil (splitAtChar_ne_nil separator cs)
      rw [List.cons_append, splitAtChar, ih, splitAtChar, hcs]
      by_cases hc : c = separator <;> simp [hc]

/-- A text without separator is one piece. -/
theorem splitAtChar_of_not_mem {separator : Char} {cs : List Char} (h : separator ∉ cs) :
    splitAtChar separator cs = [cs] := by
  induction cs with
  | nil => rfl
  | cons c cs ih =>
      rw [List.mem_cons, not_or] at h
      rw [splitAtChar, ih h.2]
      simp [Ne.symm h.1]

/-- The pieces of a text between its separators: there is at least one, none has a separator in it,
and with separators between them they make up the text. -/
structure Pieces (separator : Char) (cs : List Char) (pieces : List (List Char)) : Prop where
  present : pieces ≠ []
  free : ∀ piece ∈ pieces, separator ∉ piece
  joined : [separator].intercalate pieces = cs

/-- Splitting a text gives pieces of it. -/
theorem pieces_splitAtChar (separator : Char) (cs : List Char) :
    Pieces separator cs (splitAtChar separator cs) := by
  induction cs with
  | nil => exact ⟨by simp [splitAtChar], by simp [splitAtChar], rfl⟩
  | cons c cs ih =>
      obtain ⟨piece, pieces, hcs⟩ := List.exists_cons_of_ne_nil (splitAtChar_ne_nil separator cs)
      rw [hcs] at ih
      have hfree := List.forall_mem_cons.mp ih.free
      rw [splitAtChar, hcs]
      dsimp only
      by_cases hc : c = separator
      · rw [if_pos hc]
        refine ⟨by simp, List.forall_mem_cons.mpr ⟨List.not_mem_nil, ih.free⟩, ?_⟩
        rw [List.intercalate_cons_of_ne_nil ih.present, ih.joined, hc]
        rfl
      · rw [if_neg hc]
        refine ⟨by simp, List.forall_mem_cons.mpr ⟨?_, hfree.2⟩, ?_⟩
        · rw [List.mem_cons, not_or]
          exact ⟨Ne.symm hc, hfree.1⟩
        · rw [← ih.joined]
          cases pieces with
          | nil => simp
          | cons next pieces => simp

/-- **Splitting finds the pieces of a text**, and there is one way only to take a text apart. -/
theorem splitAtChar_eq_iff {separator : Char} {cs : List Char} {pieces : List (List Char)} :
    splitAtChar separator cs = pieces ↔ Pieces separator cs pieces := by
  constructor
  · rintro rfl
    exact pieces_splitAtChar separator cs
  · rintro ⟨hpresent, hfree, rfl⟩
    induction pieces with
    | nil => exact absurd rfl hpresent
    | cons piece pieces ih =>
        have hpiece := splitAtChar_of_not_mem (hfree piece List.mem_cons_self)
        cases pieces with
        | nil => rw [List.intercalate_singleton, hpiece]
        | cons next pieces =>
            rw [List.intercalate_cons_cons, List.append_assoc, List.singleton_append,
              splitAtChar_append, hpiece,
              ih (by simp) fun other hother => hfree other (List.mem_cons_of_mem _ hother)]
            rfl

/-- A text with one separator has one way to be put together with one. -/
theorem eq_of_append_separator {separator : Char} {left right left' right' : List Char}
    (hleft : separator ∉ left) (hright : separator ∉ right)
    (h : left ++ separator :: right = left' ++ separator :: right') :
    left = left' ∧ right = right' := by
  have hsplit := congrArg (splitAtChar separator) h
  rw [splitAtChar_append, splitAtChar_of_not_mem hleft, splitAtChar_of_not_mem hright,
    splitAtChar_append] at hsplit
  obtain ⟨p, ps, hp⟩ := List.exists_cons_of_ne_nil (splitAtChar_ne_nil separator left')
  obtain ⟨q, qs, hq⟩ := List.exists_cons_of_ne_nil (splitAtChar_ne_nil separator right')
  rw [hp, hq] at hsplit
  have hlength := congrArg List.length hsplit
  rw [List.length_append, List.length_append, List.length_cons, List.length_cons,
    List.length_cons, List.length_cons, List.length_nil] at hlength
  have hps : ps = [] := List.length_eq_zero_iff.mp (by omega)
  have hqs : qs = [] := List.length_eq_zero_iff.mp (by omega)
  rw [hps, splitAtChar_eq_iff] at hp
  rw [hqs, splitAtChar_eq_iff] at hq
  rw [hps, hqs] at hsplit
  have hparts := List.cons.inj hsplit
  refine ⟨?_, ?_⟩
  · rw [hparts.1, ← hp.joined, List.intercalate_singleton]
  · rw [List.singleton_inj.mp hparts.2, ← hq.joined, List.intercalate_singleton]

/-- A line and its break come before the lines of the rest. -/
theorem splitAtChar_line {line : List Char} (h : '\n' ∉ line) (rest : List Char) :
    splitAtChar '\n' (line ++ '\n' :: rest) = line :: splitAtChar '\n' rest := by
  rw [splitAtChar_append, splitAtChar_of_not_mem h]
  rfl

/-! ## Up to a character -/

/-- Up to a character, the text before it is taken. -/
theorem takeWhile_ne_append {c : Char} {cs : List Char} (h : c ∉ cs) (rest : List Char) :
    (cs ++ c :: rest).takeWhile (· ≠ c) = cs := by
  have hcs : ∀ d ∈ cs, decide (d ≠ c) = true := fun d hd =>
    decide_eq_true fun heq => h (heq ▸ hd)
  rw [List.takeWhile_append_of_pos hcs]
  simp

/-- What is left begins with that character. -/
theorem dropWhile_ne_append {c : Char} {cs : List Char} (h : c ∉ cs) (rest : List Char) :
    (cs ++ c :: rest).dropWhile (· ≠ c) = c :: rest := by
  have hcs : ∀ d ∈ cs, decide (d ≠ c) = true := fun d hd =>
    decide_eq_true fun heq => h (heq ▸ hd)
  rw [List.dropWhile_append_of_pos hcs]
  simp

end Text

namespace Layout

open Text

/-! ## Rows as lines -/

/-- The row as a line. -/
def Row.line (r : Row) : List Char := margin r.depth ++ r.text

/-- The lines that a row takes up. -/
def Row.lines (r : Row) : List (List Char) := if r.blank then [[], r.line] else [r.line]

/-- A margin has no line break. -/
theorem not_mem_margin (depth : Int) : '\n' ∉ margin depth := by
  simp [margin, List.mem_replicate]

/-- A row without line break is one line, below an empty one where it asks for it. -/
theorem lines_row {r : Row} (htext : '\n' ∉ r.text) : splitAtChar '\n' r.chars = r.lines := by
  have hline : '\n' ∉ r.line := by
    rw [Row.line, List.mem_append, not_or]
    exact ⟨not_mem_margin r.depth, htext⟩
  have hchars : r.chars = (if r.blank then ['\n'] else []) ++ r.line := by
    simp [Row.chars, Row.line]
  rw [hchars, Row.lines]
  cases r.blank with
  | false => exact splitAtChar_of_not_mem hline
  | true =>
      have hempty := splitAtChar_line (List.not_mem_nil : '\n' ∉ []) r.line
      rw [splitAtChar_of_not_mem hline] at hempty
      exact hempty

/-- **The lines of rows** stand one below the other, whatever is in them and whatever follows. -/
theorem lines_rowsChars_append (rows : List Row) (rest : List Char) :
    splitAtChar '\n' (rowsChars rows ++ rest) =
      rows.flatMap (fun r => splitAtChar '\n' r.chars) ++ splitAtChar '\n' rest := by
  induction rows with
  | nil => rfl
  | cons r rows ih =>
      have hchars : rowsChars (r :: rows) ++ rest = r.chars ++ '\n' :: (rowsChars rows ++ rest) := by
        simp [rowsChars]
      rw [hchars, splitAtChar_append, ih, List.flatMap_cons, List.append_assoc]

/-- Rows without line breaks give one line each, below an empty one where they ask for it. -/
theorem flatMap_lines {rows : List Row} (hrows : ∀ r ∈ rows, '\n' ∉ r.text) :
    rows.flatMap (fun r => splitAtChar '\n' r.chars) = rows.flatMap Row.lines := by
  rw [List.flatMap_def, List.map_congr_left fun r hr => lines_row (hrows r hr), ← List.flatMap_def]

/-- The last row ends its line, so that an empty piece is left behind it. -/
theorem lines_rowsChars {rows : List Row} (hrows : ∀ r ∈ rows, '\n' ∉ r.text) :
    splitAtChar '\n' (rowsChars rows) = rows.flatMap Row.lines ++ [[]] := by
  have hall := lines_rowsChars_append rows []
  rw [List.append_nil, flatMap_lines hrows] at hall
  exact hall

end Layout

end BehaviorTraits
