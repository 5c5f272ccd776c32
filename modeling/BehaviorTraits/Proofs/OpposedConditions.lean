import BehaviorTraits.Proofs.ConditionGrammar
import BehaviorTraits.Proofs.WrittenCode

/-!
# What opposed conditions mean

Two conditions are opposed when one of them is the other behind a negation mark.  This looks at the
texts alone.  When the texts are read, one mark is taken off each of them:

* if only one of them has a mark, both are read as the same condition, negated for one of them, and
  one becomes the negated test of the other (`opposed_negates_unless_stacked`);
* if both have a mark, as `!A` and `!!A` do, both are read as negated (`stacked_marks`).
-/

namespace BehaviorTraits

open Text

namespace Condition

/-- One condition denies what the other says: they are about the same, and just one is negated. -/
structure Negates (c d : Condition) : Prop where
  subject : c.subject = d.subject
  comparison : c.comparison = d.comparison
  negated : c.negated = !d.negated

/-- Conditions deny each other. -/
theorem Negates.symm {c d : Condition} (h : Negates c d) : Negates d c where
  subject := h.subject.symm
  comparison := h.comparison.symm
  negated := by rw [h.negated, Bool.not_not]

/-- Does the text begin with a negation mark? -/
def isMarked (raw : String) : Bool := (withoutMark? (trimChars raw.toList)).isSome

/-- Opposed texts are a text and what is left of it without its mark. -/
theorem mark_of_opposed {a b : String} (h : opposed a b = true) :
    withoutMark? (trimChars a.toList) = some (trimChars b.toList) ∨
      withoutMark? (trimChars b.toList) = some (trimChars a.toList) := by
  simp only [opposed, Bool.and_eq_true, Bool.or_eq_true, beq_iff_eq] at h
  exact h.2

/-- Whether a body is negated changes nothing else of what it says. -/
theorem negates_ofBody (body : List Char) : Negates (ofBody true body) (ofBody false body) := by
  cases hread : comparison? body with
  | none =>
      rw [ofBody_of_none hread, ofBody_of_none hread]
      exact ⟨rfl, rfl, rfl⟩
  | some found =>
      rw [ofBody_of_some hread, ofBody_of_some hread]
      exact ⟨rfl, rfl, rfl⟩

/-- **Taking a mark off.**  A text is the negation of what is left of it, unless another mark is
left. -/
theorem negates_iff_of_mark {a b : String}
    (h : withoutMark? (trimChars a.toList) = some (trimChars b.toList)) :
    Negates (parse a) (parse b) ↔ isMarked b = false := by
  have ha : parse a = ofBody true (trimChars b.toList) := by
    rw [parse_eq, bodyOf, h]
    rfl
  constructor
  · intro hnegates
    have hnegated := hnegates.negated
    rw [ha, negated_ofBody, negated_parse] at hnegated
    rw [isMarked]
    simpa using hnegated.symm
  · intro hplain
    rw [isMarked, Option.isSome_eq_false_iff, Option.isNone_iff_eq_none] at hplain
    have hb : parse b = ofBody false (trimChars b.toList) := by
      rw [parse_eq, bodyOf, hplain]
      rfl
    rw [ha, hb]
    exact negates_ofBody _

/-- **Opposed texts are read as opposites** just if one of them has no mark. -/
theorem opposed_negates_iff {a b : String} (h : opposed a b = true) :
    Negates (parse a) (parse b) ↔ isMarked a = false ∨ isMarked b = false := by
  rcases mark_of_opposed h with hmark | hmark
  · have ha : isMarked a = true := by rw [isMarked, hmark]; rfl
    rw [negates_iff_of_mark hmark, ha]
    simp
  · have hb : isMarked b = true := by rw [isMarked, hmark]; rfl
    have hsymm : Negates (parse a) (parse b) ↔ Negates (parse b) (parse a) :=
      ⟨Negates.symm, Negates.symm⟩
    rw [hsymm, negates_iff_of_mark hmark, hb]
    simp

end Condition

namespace Hook

open Build Condition

/-- **Opposites become opposite tests.**  Conditions that deny each other ask for the same, one of
them negated, whatever has been gathered so far. -/
theorem testOf_of_negates {a b : String} (h : Negates (parse a) (parse b)) (lookup : Lookup)
    (gathered : Builder) :
    ((testOf lookup a).run gathered).1 =
      (!((testOf lookup b).run gathered).1.1, ((testOf lookup b).run gathered).1.2) := by
  rw [testOf_eq, testOf_eq]
  unfold testAbout
  generalize parse a = c at h ⊢
  generalize parse b = d at h ⊢
  obtain ⟨subject, comparison, negated⟩ := c
  obtain ⟨rfl, rfl, rfl⟩ := h
  dsimp only
  rw [run_bind, run_bind]
  cases Subject.ofLookup d.subject ((resolve lookup d.subject).run gathered).1 with
  | capability record => rfl
  | health =>
      simp only [run_bind, run_pure, run_need]
      rw [thresholdOf_result, thresholdOf_result]
  | enemy => rfl
  | flag => rfl

/-- **What opposed conditions mean.**  Opposed texts are read as the same condition, negated for
just one of them, if and only if one of them has no negation mark.  Then the test of either is the
negated test of the other, so the other side of one is the place of the other. -/
theorem opposed_negates_unless_stacked {a b : String} (h : opposed a b = true) :
    (Negates (parse a) (parse b) ↔ ¬ (isMarked a = true ∧ isMarked b = true)) ∧
      (¬ (isMarked a = true ∧ isMarked b = true) →
        ∀ (lookup : Lookup) (gathered : Builder),
          ((testOf lookup a).run gathered).1 =
            (!((testOf lookup b).run gathered).1.1, ((testOf lookup b).run gathered).1.2)) := by
  have hmarks : ¬ (isMarked a = true ∧ isMarked b = true) ↔
      isMarked a = false ∨ isMarked b = false := by
    rw [not_and_or, Bool.not_eq_true, Bool.not_eq_true]
  rw [hmarks]
  refine ⟨opposed_negates_iff h, ?_⟩
  intro hplain lookup gathered
  exact testOf_of_negates ((opposed_negates_iff h).mpr hplain) lookup gathered

theorem opposed_negates_unless_stacked_health :
    opposed "Health < 30%" "NOT  Health < 30% " = true ∧
      Negates (parse "Health < 30%") (parse "NOT  Health < 30% ") := by
  have hopposed : opposed "Health < 30%" "NOT  Health < 30% " = true := by decide
  have hmarks : ¬ (isMarked "Health < 30%" = true ∧ isMarked "NOT  Health < 30% " = true) := by
    decide
  exact ⟨hopposed, (opposed_negates_unless_stacked hopposed).1.mpr hmarks⟩

/-- **Stacked marks.**  The texts are opposed and both are read as negated.  They even become the
same test, as names of fields have no marks. -/
theorem stacked_marks :
    opposed "!A" "!!A" = true ∧
      parse "!A" = ⟨"A", none, true⟩ ∧ parse "!!A" = ⟨"!A", none, true⟩ ∧
      ¬ Negates (parse "!A") (parse "!!A") ∧
      ((testOf (fun _ => none) "!A").run { fields := [] }).1 = (true, .flag "A") ∧
      ((testOf (fun _ => none) "!!A").run { fields := [] }).1 = (true, .flag "A") := by
  have hsingle : parse "!A" = ⟨"A", none, true⟩ := by decide
  have hdouble : parse "!!A" = ⟨"!A", none, true⟩ := by decide
  refine ⟨by decide, hsingle, hdouble, ?_, by decide, by decide⟩
  intro hnegates
  have hnegated := hnegates.negated
  rw [hsingle, hdouble] at hnegated
  cases hnegated

end Hook

end BehaviorTraits
