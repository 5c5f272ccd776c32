import BehaviorTraits.Class.Basic

/-!
# Ascending lists of texts

A set of texts is kept as an ascending list without repetitions.  Adding a text adds this one text
(`mem_insertSorted`) and keeps the order (`ascending_insertSorted`), and so does adding several of
them (`mem_gather`, `ascending_gather`).
-/

namespace BehaviorTraits

section

variable {s : String} {texts : List String}

/-- A text that is inserted is there, and nothing is lost. -/
theorem mem_insertSorted {t : String} : t ∈ insertSorted s texts ↔ t = s ∨ t ∈ texts := by
  induction texts with
  | nil => rw [insertSorted, List.mem_singleton, or_iff_left List.not_mem_nil]
  | cons first rest ih =>
      rw [insertSorted]
      by_cases hlt : s < first
      · rw [if_pos hlt, List.mem_cons]
      · rw [if_neg hlt]
        by_cases heq : s = first
        · rw [if_pos heq, heq, List.mem_cons, or_self_left]
        · rw [if_neg heq, List.mem_cons, List.mem_cons, ih, or_left_comm]

/-- **Inserting keeps the order**, and a text that is there already is not put in again. -/
theorem ascending_insertSorted (h : texts.Pairwise (· < ·)) :
    (insertSorted s texts).Pairwise (· < ·) := by
  induction texts with
  | nil => exact List.pairwise_singleton _ _
  | cons first rest ih =>
      obtain ⟨hfirst, hrest⟩ := List.pairwise_cons.mp h
      rw [insertSorted]
      by_cases hlt : s < first
      · rw [if_pos hlt]
        refine List.pairwise_cons.mpr ⟨fun other hother => ?_, h⟩
        rcases List.mem_cons.mp hother with rfl | hother
        · exact hlt
        · exact String.lt_trans hlt (hfirst other hother)
      · rw [if_neg hlt]
        by_cases heq : s = first
        · rw [if_pos heq]
          exact h
        · rw [if_neg heq]
          have hgt : first < s := (Std.lt_trichotomy first s).resolve_right fun h =>
            h.elim (fun h => heq h.symm) hlt
          refine List.pairwise_cons.mpr ⟨fun other hother => ?_, ih hrest⟩
          rcases mem_insertSorted.mp hother with rfl | hother
          · exact hgt
          · exact hfirst other hother

end

/-- Several texts added to an ascending list. -/
def gather (texts more : List String) : List String :=
  more.foldl (fun sofar s => insertSorted s sofar) texts

/-- Texts can be gathered in two goes. -/
theorem gather_append (texts more rest : List String) :
    gather texts (more ++ rest) = gather (gather texts more) rest :=
  List.foldl_append

/-- What is gathered is what was there and what is added. -/
theorem mem_gather {texts more : List String} {t : String} :
    t ∈ gather texts more ↔ t ∈ texts ∨ t ∈ more := by
  induction more generalizing texts with
  | nil => rw [gather, List.foldl_nil, or_iff_left List.not_mem_nil]
  | cons s more ih =>
      rw [gather, List.foldl_cons]
      refine ih.trans ?_
      rw [mem_insertSorted, List.mem_cons, or_comm (a := t = s), or_assoc]

/-- Gathered texts ascend strictly, so each of them is there once. -/
theorem ascending_gather {texts : List String} (h : texts.Pairwise (· < ·)) (more : List String) :
    (gather texts more).Pairwise (· < ·) := by
  induction more generalizing texts with
  | nil => exact h
  | cons s more ih => exact ih (ascending_insertSorted h)

end BehaviorTraits
