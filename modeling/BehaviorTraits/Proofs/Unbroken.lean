import BehaviorTraits.Text.Line

/-!
# Text without line breaks

Everything that is put on one line goes through `singleLineChars`.  Its result is free of both
line-break characters, and it leaves a text alone that is free of them already.
-/

namespace BehaviorTraits.Text

/-- The text has neither of the two line-break characters in it. -/
def Unbroken (cs : List Char) : Prop := ∀ c ∈ cs, c ≠ '\r' ∧ c ≠ '\n'

-- Named here, as a search may prefer to go through all characters there are.
instance (cs : List Char) : Decidable (Unbroken cs) :=
  List.decidableBAll (fun c => c ≠ '\r' ∧ c ≠ '\n') cs

/-- A text is unbroken if its parts are. -/
theorem unbroken_append {as bs : List Char} :
    Unbroken (as ++ bs) ↔ Unbroken as ∧ Unbroken bs :=
  List.forall_mem_append

/-- An unbroken text has no line feed. -/
theorem Unbroken.newLine_not_mem {cs : List Char} (h : Unbroken cs) : '\n' ∉ cs := fun hmem =>
  (h _ hmem).2 rfl

/-- A character that breaks no line stays in its place. -/
theorem singleLineChars_cons {c : Char} (hr : c ≠ '\r') (hn : c ≠ '\n') (cs : List Char) :
    singleLineChars (c :: cs) = c :: singleLineChars cs := by
  rw [singleLineChars]
  · simp [hr, hn]
  · intro _ hc
    exact absurd hc hr

/-- An unbroken start of a text stays as it is, whatever comes behind it. -/
theorem singleLineChars_append {as : List Char} (has : Unbroken as) (bs : List Char) :
    singleLineChars (as ++ bs) = as ++ singleLineChars bs := by
  induction as with
  | nil => rfl
  | cons c as ih =>
      obtain ⟨hr, hn⟩ := has c List.mem_cons_self
      rw [List.cons_append, singleLineChars_cons hr hn,
        ih fun d hd => has d (List.mem_cons_of_mem _ hd), List.cons_append]

/-- An unbroken text is on one line as it is. -/
theorem singleLineChars_of_unbroken {cs : List Char} (hcs : Unbroken cs) :
    singleLineChars cs = cs := by
  simpa [singleLineChars] using singleLineChars_append hcs []

/-- Only the empty text leaves nothing. -/
theorem singleLineChars_ne_nil {cs : List Char} (h : cs ≠ []) : singleLineChars cs ≠ [] := by
  fun_cases singleLineChars cs with
  | case1 => exact absurd rfl h
  | case2 cs => simp
  | case3 c cs _ => simp

/-- **One line.**  No line break survives. -/
theorem unbroken_singleLineChars (cs : List Char) : Unbroken (singleLineChars cs) := by
  fun_induction singleLineChars cs with
  | case1 => simp [Unbroken]
  | case2 cs ih =>
      intro c hc
      rcases List.mem_cons.mp hc with rfl | hc
      · decide
      · exact ih c hc
  | case3 c cs _ ih =>
      intro d hd
      rcases List.mem_cons.mp hd with rfl | hd
      · split
        · decide
        · rename_i h
          exact not_or.mp h
      · exact ih d hd

end BehaviorTraits.Text
