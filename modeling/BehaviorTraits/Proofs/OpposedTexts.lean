import BehaviorTraits.Proofs.ConditionGrammar

/-!
# Which texts are opposed

The reader looks for a negation mark at the front of a text and compares what is left with the other
text.  Here this is said without the reader: one of the two trimmed texts is a mark, some blanks,
and then the other text (`Denies`).  The blanks may be missing behind a `!`, which must not begin
`!=`, and not behind the word `not`.

From this description, `opposed_texts` reads off that the relation is symmetric, that no text is
opposed to itself, and that blanks around the texts do not matter.
-/

namespace BehaviorTraits.Condition

open Text

/-- The first text is a negation mark, blanks, and then the second text. -/
inductive Denies : List Char → List Char → Prop
  | sign {blanks text : List Char} (hblanks : ∀ c ∈ blanks, isBlank c = true)
      (hsign : (blanks ++ text).head? ≠ some '=') : Denies ('!' :: (blanks ++ text)) text
  | word {mark blanks text : List Char} (hmark : mark.map Char.toLower = ['n', 'o', 't'])
      (hblanks : ∀ c ∈ blanks, isBlank c = true) (hsome : blanks ≠ []) :
      Denies (mark ++ (blanks ++ text)) text

/-- A text is longer than what it denies. -/
theorem Denies.length_lt {cs text : List Char} (h : Denies cs text) :
    text.length < cs.length := by
  cases h with
  | sign _ _ =>
      rw [List.length_cons, List.length_append]
      omega
  | @word mark blanks text hmark _ _ =>
      have hlength : mark.length = 3 := by simpa using congrArg List.length hmark
      rw [List.length_append, List.length_append]
      omega

/-- A mark and the blanks behind it. -/
theorem Denies.marked {cs text : List Char} (h : Denies cs text) :
    ∃ blanks, (∀ c ∈ blanks, isBlank c = true) ∧ Marked cs (blanks ++ text) := by
  cases h with
  | @sign blanks text hblanks hsign => exact ⟨blanks, hblanks, .sign hsign⟩
  | @word mark blanks text hmark hblanks hsome =>
      obtain ⟨n, o, t, rfl⟩ : ∃ n o t, mark = [n, o, t] := by
        have hlength : mark.length = 3 := by simpa using congrArg List.length hmark
        exact List.length_eq_three.mp hlength
      cases blanks with
      | nil => exact absurd rfl hsome
      | cons blank blanks =>
          exact ⟨blank :: blanks, hblanks, .word hmark (hblanks blank List.mem_cons_self)⟩

/-- Behind a mark, a text that does not begin with a blank begins where the blanks end. -/
theorem Marked.denies {cs blanks text : List Char} (h : Marked cs (blanks ++ text))
    (hblanks : ∀ c ∈ blanks, isBlank c = true) (htext : ∀ c ∈ text.head?, isBlank c = false) :
    Denies cs text := by
  generalize hrest : blanks ++ text = rest at h
  cases h with
  | sign hsign =>
      subst hrest
      exact .sign hblanks hsign
  | @word n o t blank rest hword hblank =>
      have hsome : blanks ≠ [] := by
        rintro rfl
        rw [List.nil_append] at hrest
        rw [htext blank (by rw [hrest]; rfl)] at hblank
        cases hblank
      have hdenies : Denies ([n, o, t] ++ (blanks ++ text)) text := .word hword hblanks hsome
      rw [hrest] at hdenies
      exact hdenies

/-- **What is left without a mark.**  A trimmed text is left of another just if the other denies
it. -/
theorem withoutMark?_iff_denies {cs text : List Char} (hcs : Trimmed cs) (htext : Trimmed text) :
    withoutMark? cs = some text ↔ Denies cs text := by
  rw [withoutMark?_eq_some_iff hcs]
  constructor
  · rintro ⟨rest, hmark, rfl⟩
    obtain ⟨blanks, hblanks, hrest⟩ := exists_blanks rest
    -- the mark is the front of the text, so nothing is trimmed off at the end
    have hfront : ∃ front, cs = front ++ rest := by
      cases hmark with
      | sign _ => exact ⟨['!'], rfl⟩
      | @word n o t blank rest _ _ => exact ⟨[n, o, t], rfl⟩
    obtain ⟨front, rfl⟩ := hfront
    have hmark' : Marked (front ++ rest) (blanks ++ trimStartChars rest) := by
      rw [← hrest]
      exact hmark
    rw [hcs.trimChars_behind]
    exact hmark'.denies hblanks (head_trimStartChars rest)
  · intro h
    obtain ⟨blanks, hblanks, hmark⟩ := h.marked
    refine ⟨blanks ++ text, hmark, ?_⟩
    rw [trimChars_append hblanks, htext.trimChars_eq]

/-- **Two texts are opposed** if neither is blank and one of them denies the other. -/
theorem opposed_iff_denies (a b : String) :
    opposed a b = true ↔ (trim a).toList ≠ [] ∧ (trim b).toList ≠ [] ∧
      (Denies (trim a).toList (trim b).toList ∨ Denies (trim b).toList (trim a).toList) := by
  have ha := trimmed_trimChars a.toList
  have hb := trimmed_trimChars b.toList
  rw [toList_trim, toList_trim, ← withoutMark?_iff_denies ha hb, ← withoutMark?_iff_denies hb ha]
  simp only [opposed, Bool.and_eq_true, Bool.or_eq_true, Bool.not_eq_true', beq_iff_eq,
    List.isEmpty_eq_false_iff, and_assoc]

/-- Opposition goes both ways. -/
theorem opposed_comm (a b : String) : opposed a b = opposed b a := by
  rw [Bool.eq_iff_iff, opposed_iff_denies, opposed_iff_denies]
  constructor
  · rintro ⟨ha, hb, h⟩
    exact ⟨hb, ha, h.symm⟩
  · rintro ⟨hb, ha, h⟩
    exact ⟨ha, hb, h.symm⟩

/-- No text is opposed to itself, as denying a text makes it longer. -/
theorem opposed_self (a : String) : opposed a a = false := by
  rw [← Bool.not_eq_true, opposed_iff_denies]
  rintro ⟨-, -, h | h⟩
  · exact Nat.lt_irrefl _ h.length_lt
  · exact Nat.lt_irrefl _ h.length_lt

/-- Blanks around a text are taken off with those of its own. -/
theorem trim_surrounded {v w : String} (hv : ∀ c ∈ v.toList, isBlank c = true)
    (hw : ∀ c ∈ w.toList, isBlank c = true) (s : String) : trim (v ++ (s ++ w)) = trim s := by
  rw [trim, String.toList_append, String.toList_append, trimChars_surrounded hv hw, trim]

/-- **Which texts are opposed.**  Trimmed, both have something in them, and one of them is a
negation mark, blanks, and then the other.  So the order of the two does not matter, no text is
opposed to itself, and blanks around the texts change nothing. -/
theorem opposed_texts :
    (∀ a b : String, opposed a b = true ↔ (trim a).toList ≠ [] ∧ (trim b).toList ≠ [] ∧
      (Denies (trim a).toList (trim b).toList ∨ Denies (trim b).toList (trim a).toList)) ∧
    (∀ a b : String, opposed a b = opposed b a) ∧
    (∀ a : String, opposed a a = false) ∧
    (∀ v a w v' b w' : String, (∀ s ∈ [v, w, v', w'], ∀ c ∈ s.toList, isBlank c = true) →
      opposed (v ++ (a ++ w)) (v' ++ (b ++ w')) = opposed a b) := by
  refine ⟨opposed_iff_denies, opposed_comm, opposed_self, ?_⟩
  intro v a w v' b w' hblanks
  have ha : trim (v ++ (a ++ w)) = trim a :=
    trim_surrounded (hblanks v (by simp)) (hblanks w (by simp)) a
  have hb : trim (v' ++ (b ++ w')) = trim b :=
    trim_surrounded (hblanks v' (by simp)) (hblanks w' (by simp)) b
  rw [Bool.eq_iff_iff, opposed_iff_denies, opposed_iff_denies, ha, hb]

theorem opposed_texts_padded :
    (∀ s ∈ ["\n", "\t ", "", "\u2003"], ∀ c ∈ s.toList, isBlank c = true) ∧
      opposed ("\n" ++ ("Health < 30%" ++ "\t ")) ("" ++ ("nOT\u2003Health < 30%" ++ "\u2003")) =
        opposed "Health < 30%" "nOT\u2003Health < 30%" ∧
      opposed "Health < 30%" "nOT\u2003Health < 30%" = true := by
  have hblanks : ∀ s ∈ ["\n", "\t ", "", "\u2003"], ∀ c ∈ s.toList, isBlank c = true := by
    simp only [List.forall_mem_cons, ← List.all_eq_true]
    exact ⟨by decide, by decide, by decide, by decide, by simp⟩
  exact ⟨hblanks, opposed_texts.2.2.2 _ _ _ _ _ _ hblanks, by decide⟩

end BehaviorTraits.Condition
