import BehaviorTraits.Proofs.ActionGrammar
import BehaviorTraits.Proofs.FieldUses

/-!
# Numbers in lines

Two kinds of lines take numbers as they are written in the tree: a wait its ticks and a move to a
cell its coordinates.  `PutsInt` finds such a number in the text of a line, and
`Written.putsInt_iff` says that in lines that lowering writes it finds just those of the code.
-/

namespace BehaviorTraits.Hook

open Text

/-- The line that makes the actor wait. -/
def waitLine (operand : String) : String := "self.QueueActivity(new Wait(" ++ operand ++ "));"

/-- The line has the literal where an `int` is expected: as the ticks of a wait, unless these come
from a field, or as one of the coordinates of a cell. -/
def PutsInt (text s : String) : Prop :=
  (text = waitLine s ∧ ¬ Opens "Info." s) ∨
    ∃ x y, text = Action.cellLine x y ∧ (s = x ∨ s = y)

/-- The numbers that code has in such places. -/
def Code.ints : Code → List String
  | queue (.wait (.count text)) => [text]
  | queue (.move x y) => [x, y]
  | _ => []

/-- The line of a wait begins in its own way. -/
theorem opens_waitLine (operand : String) :
    Opens "self.QueueActivity(new Wait(" (waitLine operand) :=
  (opens_append _ _).append _

theorem opens_cellLine (x y : String) :
    Opens "self.QueueActivity(new Move(self, new CPos(" (Action.cellLine x y) :=
  (((opens_append _ _).append _).append _).append _

section

variable {text opening operand x y s : String}

/-- A line that begins with no activity has no number. -/
theorem not_putsInt (hopening : Apart "self." opening) (htext : Opens opening text) :
    ¬ PutsInt text s := by
  have hwait : Opens "self." "self.QueueActivity(new Wait(" := by decide
  have hcell : Opens "self." "self.QueueActivity(new Move(self, new CPos(" := by decide
  rintro (⟨rfl, -⟩ | ⟨x, y, rfl, -⟩)
  · exact hopening.not_opens htext (hwait.trans (opens_waitLine s))
  · exact hopening.not_opens htext (hcell.trans (opens_cellLine x y))

/-- No line is both. -/
theorem waitLine_ne_cellLine : waitLine operand ≠ Action.cellLine x y := by
  have hapart : Apart "self.QueueActivity(new Move(self, new CPos("
      "self.QueueActivity(new Wait(" := by decide
  intro h
  exact hapart.not_opens (opens_waitLine operand) (h ▸ opens_cellLine x y)

/-- The line of a wait has its operand for a number, unless that is a field. -/
theorem putsInt_waitLine :
    PutsInt (waitLine operand) s ↔ s = operand ∧ ¬ Opens "Info." operand := by
  constructor
  · rintro (⟨heq, hfield⟩ | ⟨x, y, heq, -⟩)
    · unfold waitLine at heq
      rw [String.append_left_inj, String.append_right_inj] at heq
      rw [heq]
      exact ⟨rfl, hfield⟩
    · exact absurd heq waitLine_ne_cellLine
  · rintro ⟨rfl, hfield⟩
    exact .inl ⟨rfl, hfield⟩

/-- The line of a move has its two coordinates for numbers. -/
theorem putsInt_cellLine (hx : ',' ∉ x.toList) (hy : ',' ∉ y.toList) :
    PutsInt (Action.cellLine x y) s ↔ s = x ∨ s = y := by
  constructor
  · rintro (⟨heq, -⟩ | ⟨x', y', heq, hs⟩)
    · exact absurd heq.symm waitLine_ne_cellLine
    · obtain ⟨rfl, rfl⟩ := Action.cellLine_inj hx hy heq
      exact hs
  · exact fun hs => .inr ⟨x, y, rfl, hs⟩

/-- A test has no number of this kind. -/
theorem not_putsInt_branch (negated : Bool) (test : Test) :
    ¬ PutsInt (singleLine (Code.branch negated test).text) s := by
  have hopens : Opens "if (" (Code.branch negated test).text := by
    rw [text_branch]
    cases negated with
    | false => exact (opens_append _ _).append _
    | true =>
        have h : Opens "if (" "if (!(" := by decide
        exact (h.append _).append _
  exact not_putsInt (by decide) (hopens.singleLine (by decide))

/-- A wait for an unbroken operand is on one line as it is. -/
theorem singleLine_waitLine (h : Unbroken operand.toList) :
    singleLine (waitLine operand) = waitLine operand := by
  apply singleLine_of_unbroken
  unfold waitLine
  rw [String.toList_append, String.toList_append]
  exact unbroken_append.mpr ⟨unbroken_append.mpr ⟨by decide, h⟩, by decide⟩

theorem singleLine_cellLine (hx : Unbroken x.toList) (hy : Unbroken y.toList) :
    singleLine (Action.cellLine x y) = Action.cellLine x y := by
  apply singleLine_of_unbroken
  unfold Action.cellLine
  rw [String.toList_append, String.toList_append, String.toList_append, String.toList_append]
  refine unbroken_append.mpr ⟨?_, by decide⟩
  refine unbroken_append.mpr ⟨?_, hy⟩
  refine unbroken_append.mpr ⟨?_, by decide⟩
  exact unbroken_append.mpr ⟨by decide, hx⟩

/-- Numbers are unbroken, if neither signs nor digits break lines. -/
theorem unbroken_signed {signs : List Char} {isDigit : Char → Bool}
    (h : Signed signs isDigit operand) (hsigns : Unbroken signs)
    (hdigits : isDigit '\r' = false ∧ isDigit '\n' = false) : Unbroken operand.toList := by
  refine h.forall_mem hsigns fun c hc => ⟨?_, ?_⟩
  · rintro rfl
    rw [hdigits.1] at hc
    cases hc
  · rintro rfl
    rw [hdigits.2] at hc
    cases hc

/-- Ticks that are counted are a number. -/
theorem putsInt_count (h : Signed ['-', '+'] Char.isDigit operand) :
    PutsInt (singleLine (Code.queue (.wait (.count operand))).text) s ↔ s = operand := by
  have hunbroken := unbroken_signed h (by decide) (by decide)
  have hfield : ¬ Opens "Info." operand := by
    intro hopens
    have hall : ∀ c ∈ operand.toList, c ≠ 'I' := by
      refine h.forall_mem (by simp) ?_
      rintro c hc rfl
      exact absurd hc (by decide)
    exact hall 'I' (hopens.subset (by decide)) rfl
  change PutsInt (singleLine (waitLine operand)) s ↔ _
  rw [singleLine_waitLine hunbroken, putsInt_waitLine]
  exact and_iff_left hfield

/-- Ticks of a field are none. -/
theorem not_putsInt_field {name : String} (hname : Word name) :
    ¬ PutsInt (singleLine (Code.queue (.wait (.field name))).text) s := by
  have hunbroken : Unbroken ("Info." ++ name).toList := by
    rw [String.toList_append, unbroken_append]
    exact ⟨by decide, hname.unbroken⟩
  change ¬ PutsInt (singleLine (waitLine ("Info." ++ name))) s
  rw [singleLine_waitLine hunbroken, putsInt_waitLine]
  exact fun h => h.2 (opens_append _ _)

/-- **A move puts its coordinates where an `int` belongs**, as they are written. -/
theorem putsInt_move (hx : Signed ['-'] isDecimalDigit x) (hy : Signed ['-'] isDecimalDigit y) :
    PutsInt (singleLine (Code.queue (.move x y)).text) s ↔ s = x ∨ s = y := by
  have hfst := unbroken_signed hx (by decide) (by decide)
  have hsnd := unbroken_signed hy (by decide) (by decide)
  change PutsInt (singleLine (Action.cellLine x y)) s ↔ _
  rw [singleLine_cellLine hfst hsnd]
  exact putsInt_cellLine (Action.not_mem_coordinate hx (by decide) (by decide))
    (Action.not_mem_coordinate hy (by decide) (by decide))

/-- A fixed line that goes on neither as a wait nor as a move to a cell has no number. -/
theorem not_putsInt_of_apart (hwait : Apart "self.QueueActivity(new Wait(" text)
    (hcell : Apart "self.QueueActivity(new Move(self, new CPos(" text) : ¬ PutsInt text s := by
  rintro (⟨rfl, -⟩ | ⟨x, y, rfl, -⟩)
  · exact hwait.1 (opens_waitLine s)
  · exact hcell.1 (opens_cellLine x y)

theorem not_putsInt_hunt : ¬ PutsInt (singleLine (Code.queue .hunt).text) s :=
  not_putsInt_of_apart (by decide) (by decide)

theorem not_putsInt_stay : ¬ PutsInt (singleLine (Code.queue .stay).text) s :=
  not_putsInt_of_apart (by decide) (by decide)

end

/-- **Where code has numbers.**  Reading a line finds just those of its code. -/
theorem Written.putsInt_iff {lookup : Lookup} {before after : List FieldDecl} {code : Code}
    (h : Written lookup before code after) {s : String} :
    PutsInt (singleLine code.text) s ↔ s ∈ code.ints := by
  cases h with
  | remark r =>
      have hopens := (opens_remark r).singleLine (by decide)
      exact iff_of_false (not_putsInt (by decide) hopens) List.not_mem_nil
  | carries | enemyInCell | fraction | threshold | flag =>
      exact iff_of_false (not_putsInt_branch _ _) List.not_mem_nil
  | count htext =>
      rw [putsInt_count (Action.isTickCount_signed htext)]
      exact List.mem_singleton.symm
  | ticks name =>
      exact iff_of_false (not_putsInt_field (FieldRequest.word_name _ _)) List.not_mem_nil
  | hunt => exact iff_of_false not_putsInt_hunt List.not_mem_nil
  | move htarget =>
      obtain ⟨hx, hy⟩ := Action.target?_signed htarget
      rw [putsInt_move hx hy]
      simp [Code.ints]
  | stay => exact iff_of_false not_putsInt_stay List.not_mem_nil

end BehaviorTraits.Hook
