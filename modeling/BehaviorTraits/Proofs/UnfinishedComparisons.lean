import BehaviorTraits.Proofs.ConditionGrammar
import BehaviorTraits.Text.Case

/-!
# Comparisons without a right-hand side

A subject and an operator with nothing behind it should be a flag: there is nothing to compare with.
For four of the six operators it is one.  When nothing is found behind `<=` or `>=`, the reader goes
on to the operators of one character, and behind `<` or `>` it finds the `=`
(`comparison?_unfinished`).

`unfinished_is_flag_iff` says this for whole conditions, and `at_most_nothing` shows one of them.
-/

namespace BehaviorTraits

open Text

namespace Comparison

/-- The operator that is read with `=` on its right-hand side when there is nothing behind the
given one. -/
def shorter? : Comparison → Option Comparison
  | atMost => some less
  | atLeast => some greater
  | less | greater | equal | notEqual => none

/-- Only the two operators that end with an equals sign begin with another one. -/
theorem shorter?_eq_none_iff (op : Comparison) :
    op.shorter? = none ↔ op ≠ atMost ∧ op ≠ atLeast := by
  cases op <;> decide

end Comparison

namespace Condition

/-- The text is a subject that can be compared. -/
def IsSubject (s : String) : Prop := s ≠ "" ∧ ∀ c ∈ s.toList, isSubjectChar c = true

/-- Trying the operators on an operator: none of them leaves a right-hand side, except the shorter
one. -/
theorem candidates_symbol (op : Comparison) (s : List Char) :
    (Comparison.candidates op.symbol.toList).findSome?
        (fun (op', rest) => (literal? rest).map fun literal => (s, op', literal)) =
      op.shorter?.map fun op' => (s, op', ['=']) := by
  cases op <;> rfl

/-- **An operator with nothing behind it.** -/
theorem comparison?_unfinished {s before : List Char} (hs : s ≠ [])
    (hword : ∀ c ∈ s, isSubjectChar c = true) (hbefore : ∀ c ∈ before, isBlank c = true)
    (op : Comparison) :
    comparison? (s ++ (before ++ op.symbol.toList)) =
      op.shorter?.map fun op' => (s, op', ['=']) := by
  obtain ⟨hsubject, htail⟩ := reader_stops hword hbefore op []
  rw [List.append_nil] at hsubject htail
  unfold comparison?
  dsimp only
  rw [hsubject, if_neg hs, htail, candidates_symbol]

/-! ## The text is all body -/

/-- Whether a character may stand in a subject does not depend on its case. -/
theorem isSubjectChar_of_toLower {c d : Char} (hd : isSubjectChar d = true)
    (h : c.toLower = d) : isSubjectChar c = true := by
  by_cases hupper : c.isUpper = true
  · change (c.isUpper || c.isLower || c.isDigit || c == '_') = true
    simp only [hupper, Bool.true_or]
  · rw [Bool.not_eq_true] at hupper
    have hsame : c.toLower = c := by
      delta Char.isUpper at hupper
      delta Char.toLower
      rw [dif_neg (of_decide_eq_false hupper)]
    rw [← hsame, h]
    exact hd

/-- The word of a negation mark is all that is read as a subject. -/
theorem Marked.takeWhile_eq {cs rest : List Char} (h : Marked cs rest) :
    cs.takeWhile isSubjectChar = [] ∨
      (cs.takeWhile isSubjectChar).map Char.toLower = ['n', 'o', 't'] := by
  cases h with
  | sign _ => exact .inl rfl
  | @word n o t blank rest hword hblank =>
      right
      obtain ⟨hn, ho, ht, -⟩ : n.toLower = 'n' ∧ o.toLower = 'o' ∧ t.toLower = 't' ∧ True := by
        simpa using hword
      have hstop : isSubjectChar blank = false := not_isSubjectChar_of_isBlank hblank
      have hrun : (n :: o :: t :: blank :: rest).takeWhile isSubjectChar = [n, o, t] := by
        simp [isSubjectChar_of_toLower (by decide) hn, isSubjectChar_of_toLower (by decide) ho,
          isSubjectChar_of_toLower (by decide) ht, hstop]
      rw [hrun]
      exact hword

/-- A subject at the front and an operator at the end: there is no blank at either end. -/
theorem trimmed_unfinished {s : String} (hs : IsSubject s) (w : List Char) (op : Comparison) :
    Trimmed (s.toList ++ (w ++ op.symbol.toList)) := by
  constructor
  · intro c hc
    have hnil : s.toList ≠ [] := fun hnil => hs.1 (String.toList_eq_nil_iff.mp hnil)
    have hmem : c ∈ s.toList := by
      rw [List.head?_append_of_ne_nil _ hnil] at hc
      exact List.mem_of_mem_head? hc
    by_contra hblank
    rw [Bool.not_eq_false] at hblank
    have hnot := not_isSubjectChar_of_isBlank hblank
    rw [hs.2 c hmem] at hnot
    cases hnot
  · intro c hc
    have hsolid : op.symbol.toList.all (fun c => !isBlank c) = true := by
      cases op <;> decide
    have hnil : op.symbol.toList ≠ [] := by
      obtain ⟨c, cs, hsymbol, -⟩ := symbol_head op
      rw [hsymbol]
      exact List.cons_ne_nil c cs
    rw [← List.append_assoc, List.getLast?_append_of_ne_nil _ hnil] at hc
    simpa using List.all_eq_true.mp hsolid c (List.mem_of_getLast? hc)

/-- A subject other than the word `not` is no negation mark. -/
theorem withoutMark?_unfinished {s : String} (hs : IsSubject s)
    (hnot : eqIgnoringAsciiCase s "not" = false) {w : List Char}
    (hw : ∀ c ∈ w, isBlank c = true) (op : Comparison) :
    withoutMark? (s.toList ++ (w ++ op.symbol.toList)) = none := by
  rw [Option.eq_none_iff_forall_ne_some]
  intro body hbody
  obtain ⟨rest, hmark, -⟩ :=
    (withoutMark?_eq_some_iff (trimmed_unfinished hs w op)).mp hbody
  obtain ⟨hrun, -⟩ := reader_stops hs.2 hw op []
  rw [List.append_nil] at hrun
  rcases hmark.takeWhile_eq with hempty | hword
  · rw [hrun] at hempty
    exact hs.1 (String.toList_eq_nil_iff.mp hempty)
  · rw [hrun] at hword
    have hsame : lowerAscii s = lowerAscii "not" := by
      rw [lowerAscii, hword]
      decide
    rw [eqIgnoringAsciiCase, hsame, beq_self_eq_true] at hnot
    cases hnot

/-- **Unfinished comparisons.**  A condition is made of a subject other than `not`, blanks and an
operator, with blanks around it.  It is read as a flag whose subject is the trimmed text just if the
operator is neither `<=` nor `>=`.  With these two it is read as a comparison by `<` or `>` with the
text `=`. -/
theorem unfinished_is_flag_iff {s v w v' : String} (hs : IsSubject s)
    (hnot : eqIgnoringAsciiCase s "not" = false)
    (hblanks : ∀ u ∈ [v, w, v'], ∀ c ∈ u.toList, isBlank c = true) (op : Comparison) :
    (parse (v ++ (s ++ w ++ op.symbol ++ v')) =
        ⟨trim (v ++ (s ++ w ++ op.symbol ++ v')), none, false⟩ ↔
      op ≠ .atMost ∧ op ≠ .atLeast) ∧
    (∀ op', op.shorter? = some op' →
      parse (v ++ (s ++ w ++ op.symbol ++ v')) = ⟨s, some (op', "="), false⟩) := by
  have hw : ∀ c ∈ w.toList, isBlank c = true := hblanks w (by simp)
  have htext : trimChars (v ++ (s ++ w ++ op.symbol ++ v')).toList =
      s.toList ++ (w.toList ++ op.symbol.toList) := by
    simp only [String.toList_append, List.append_assoc]
    rw [← List.append_assoc w.toList, ← List.append_assoc s.toList,
      trimChars_surrounded (hblanks v (by simp)) (hblanks v' (by simp)),
      (trimmed_unfinished hs w.toList op).trimChars_eq]
  have hparse : parse (v ++ (s ++ w ++ op.symbol ++ v')) =
      ofBody false (s.toList ++ (w.toList ++ op.symbol.toList)) := by
    rw [parse, htext, withoutMark?_unfinished hs hnot hw op]
  have hread := comparison?_unfinished
    (fun hnil => hs.1 (String.toList_eq_nil_iff.mp hnil)) hs.2 hw op
  rw [hparse, trim, htext, ← Comparison.shorter?_eq_none_iff]
  cases hshorter : op.shorter? with
  | none =>
      rw [hshorter] at hread
      rw [ofBody_of_none hread]
      refine ⟨⟨fun _ => rfl, fun _ => rfl⟩, fun op' hop' => ?_⟩
      cases hop'
  | some shorter =>
      rw [hshorter] at hread
      rw [ofBody_of_some hread, String.ofList_toList]
      refine ⟨⟨fun hflag => ?_, fun hnone => ?_⟩, ?_⟩
      · cases congrArg Condition.comparison hflag
      · cases hnone
      · intro op' hop'
        cases hop'
        rfl

/-- A comparison of health with nothing is taken as one flag. -/
theorem unfinished_is_flag_iff_health :
    (IsSubject "Health" ∧ eqIgnoringAsciiCase "Health" "not" = false ∧
      ∀ u ∈ [" ", "\n", ""], ∀ c ∈ u.toList, isBlank c = true) ∧
    parse (" " ++ ("Health" ++ "\n" ++ Comparison.less.symbol ++ "")) =
      ⟨trim (" " ++ ("Health" ++ "\n" ++ Comparison.less.symbol ++ "")), none, false⟩ := by
  have hs : IsSubject "Health" := ⟨by decide, List.all_eq_true.mp (by decide)⟩
  have hnot : eqIgnoringAsciiCase "Health" "not" = false := by decide
  have hblanks : ∀ u ∈ [" ", "\n", ""], ∀ c ∈ u.toList, isBlank c = true := by
    simp only [List.forall_mem_cons, ← List.all_eq_true]
    exact ⟨by decide, by decide, by decide, by simp⟩
  exact ⟨⟨hs, hnot, hblanks⟩,
    (unfinished_is_flag_iff hs hnot hblanks .less).1.mpr ⟨by decide, by decide⟩⟩

/-- **At most nothing.**  With nothing behind `<=`, the condition is not read as a flag but as one
that compares the health with `=`. -/
theorem at_most_nothing :
    parse "Health <=" = ⟨"Health", some (.less, "="), false⟩ ∧
      parse "Health <=" ≠ ⟨"Health <=", none, false⟩ := by
  have hread : parse "Health <=" = ⟨"Health", some (.less, "="), false⟩ := by decide
  refine ⟨hread, fun hflag => ?_⟩
  rw [hread] at hflag
  cases congrArg Condition.comparison hflag

end Condition

end BehaviorTraits
