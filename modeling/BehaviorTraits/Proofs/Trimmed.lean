import BehaviorTraits.Text.Blank
import Mathlib.Data.List.DropRight

/-!
# Trimmed texts

A text is trimmed when neither of its ends is blank.  Trimming gives such a text
(`trimmed_trimChars`) and leaves one as it is (`Trimmed.trimChars_eq`), and blanks put around a text
do not change what trimming makes of it (`trimChars_surrounded`).
-/

namespace BehaviorTraits.Text

/-- There is no blank at either end of the text. -/
structure Trimmed (cs : List Char) : Prop where
  head : ∀ c ∈ cs.head?, isBlank c = false
  last : ∀ c ∈ cs.getLast?, isBlank c = false

/-- A text that begins with no blank has nothing to be taken off in front. -/
theorem trimStartChars_eq_self {cs : List Char} (h : ∀ c ∈ cs.head?, isBlank c = false) :
    trimStartChars cs = cs := by
  cases cs with
  | nil => rfl
  | cons c cs =>
      have hc : isBlank c = false := h c rfl
      exact List.dropWhile_cons_of_neg (by simp [hc])

/-- A text that ends with no blank has nothing to be taken off behind. -/
theorem trimEndChars_eq_self {cs : List Char} (h : ∀ c ∈ cs.getLast?, isBlank c = false) :
    trimEndChars cs = cs := by
  have hreverse : ∀ c ∈ cs.reverse.head?, isBlank c = false := by
    rw [List.head?_reverse]
    exact h
  have hkeep : cs.reverse.dropWhile isBlank = cs.reverse := trimStartChars_eq_self hreverse
  rw [trimEndChars, hkeep, List.reverse_reverse]

/-- No blank is left in front. -/
theorem head_trimStartChars (cs : List Char) :
    ∀ c ∈ (trimStartChars cs).head?, isBlank c = false := by
  intro c hc
  have hnot := List.head?_dropWhile_not isBlank cs
  rw [trimStartChars] at hc
  rw [Option.mem_def.mp hc] at hnot
  simpa using hnot

/-- **Trimming leaves no blank at either end.** -/
theorem trimmed_trimChars (cs : List Char) : Trimmed (trimChars cs) := by
  constructor
  · intro c hc
    -- What is left begins as the text did when only its front had been trimmed.
    obtain ⟨rest, hrest⟩ : trimChars cs <+: trimStartChars cs := List.rdropWhile_prefix isBlank _
    have hhead : (trimStartChars cs).head? = some c := by
      rw [← hrest, List.head?_append, Option.mem_def.mp hc]
      rfl
    exact head_trimStartChars cs c hhead
  · intro c hc
    have hlast : (trimChars cs).getLast? =
        ((trimStartChars cs).reverse.dropWhile isBlank).head? := by
      rw [trimChars, trimEndChars, List.getLast?_reverse]
    rw [hlast] at hc
    exact head_trimStartChars _ c hc

/-- Blanks in front are taken off. -/
theorem trimStartChars_append {w : List Char} (hw : ∀ c ∈ w, isBlank c = true) (cs : List Char) :
    trimStartChars (w ++ cs) = trimStartChars cs :=
  List.dropWhile_append_of_pos hw

/-- Blanks before a text are trimmed away. -/
theorem trimChars_append {w : List Char} (hw : ∀ c ∈ w, isBlank c = true) (cs : List Char) :
    trimChars (w ++ cs) = trimChars cs := by
  rw [trimChars, trimStartChars_append hw, trimChars]

/-- Blanks around a text are trimmed away. -/
theorem trimChars_surrounded {v w : List Char} (hv : ∀ c ∈ v, isBlank c = true)
    (hw : ∀ c ∈ w, isBlank c = true) (cs : List Char) :
    trimChars (v ++ (cs ++ w)) = trimChars cs := by
  have hreverse : ∀ c ∈ w.reverse, isBlank c = true := fun c hc => hw c (List.mem_reverse.mp hc)
  have hend : ∀ ds : List Char, trimEndChars (ds ++ w) = trimEndChars ds := by
    intro ds
    rw [trimEndChars, List.reverse_append, List.dropWhile_append_of_pos hreverse, trimEndChars]
  rw [trimChars_append hv, trimChars, trimChars, trimStartChars, List.dropWhile_append]
  split
  · -- the text itself is blank, and so is all of it
    rename_i hblank
    have hnone : w.dropWhile isBlank = [] := by simpa using hw
    rw [hnone, trimStartChars, List.isEmpty_iff.mp hblank]
  · exact hend _

/-- A trimmed text stays as it is. -/
theorem Trimmed.trimChars_eq {cs : List Char} (h : Trimmed cs) : trimChars cs = cs := by
  rw [trimChars, trimStartChars_eq_self h.head, trimEndChars_eq_self h.last]

/-- What trimming takes off the front is blank. -/
theorem exists_blanks (cs : List Char) :
    ∃ w, (∀ c ∈ w, isBlank c = true) ∧ cs = w ++ trimStartChars cs := by
  refine ⟨cs.takeWhile isBlank, ?_, List.takeWhile_append_dropWhile.symm⟩
  intro c hc
  exact List.mem_takeWhile_imp hc

/-- **What trimming takes off is blank**, on both sides. -/
theorem exists_surrounding (cs : List Char) :
    ∃ v w, (∀ c ∈ v, isBlank c = true) ∧ (∀ c ∈ w, isBlank c = true) ∧
      cs = v ++ (trimChars cs ++ w) := by
  obtain ⟨v, hv, hcs⟩ := exists_blanks cs
  obtain ⟨w, hw, hreverse⟩ := exists_blanks (trimStartChars cs).reverse
  refine ⟨v, w.reverse, hv, fun c hc => hw c (List.mem_reverse.mp hc), ?_⟩
  have hstart : trimStartChars cs = trimChars cs ++ w.reverse := by
    rw [← List.reverse_reverse (trimStartChars cs), hreverse, List.reverse_append]
    rfl
  rw [← hstart, ← hcs]

/-- A trimmed text ends with no blank, from wherever it is read. -/
theorem Trimmed.trimChars_behind {front cs : List Char} (h : Trimmed (front ++ cs)) :
    trimChars cs = trimStartChars cs := by
  obtain ⟨w, hw, hcs⟩ := exists_blanks cs
  refine trimEndChars_eq_self fun c hc => ?_
  have hlast : (front ++ cs).getLast? = some c := by
    rw [hcs, ← List.append_assoc, List.getLast?_append, Option.mem_def.mp hc]
    rfl
  exact h.last c hlast

/-- **Trimming leaves nothing of blanks**, and of nothing else. -/
theorem trimChars_eq_nil_iff {cs : List Char} :
    trimChars cs = [] ↔ ∀ c ∈ cs, isBlank c = true := by
  constructor
  · intro h
    cases hstart : trimStartChars cs with
    | nil =>
        apply List.dropWhile_eq_nil_iff.mp
        exact hstart
    | cons d ds =>
        -- the first character that trimming keeps is not blank
        have hd : isBlank d = false := head_trimStartChars cs d (by rw [hstart]; rfl)
        rw [trimChars, trimEndChars, List.reverse_eq_nil_iff, List.dropWhile_eq_nil_iff] at h
        have hblank := h d (by simp [hstart])
        rw [hd] at hblank
        cases hblank
  · intro h
    have hstart : trimStartChars cs = [] := List.dropWhile_eq_nil_iff.mpr h
    rw [trimChars, hstart]
    rfl

/-- Blanks alone do not end a trimmed text. -/
theorem Trimmed.eq_nil_of_blank {front cs : List Char} (h : Trimmed (front ++ cs))
    (hcs : ∀ c ∈ cs, isBlank c = true) : cs = [] := by
  by_contra hne
  have hlast : (front ++ cs).getLast? = some (cs.getLast hne) := by
    rw [List.getLast?_append, List.getLast?_eq_some_getLast hne]
    rfl
  have hnot := h.last _ hlast
  rw [hcs _ (List.getLast_mem hne)] at hnot
  cases hnot

end BehaviorTraits.Text
