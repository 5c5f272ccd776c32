import BehaviorTraits.Proofs.Events

/-!
# The log is never read

Lowering writes records to the log of its builder and never looks at them.  Builders that differ in
their logs only give the same tests and the same code, and go on differing in their logs only.
-/

namespace BehaviorTraits.Hook

open Build

/-- The builders have gathered the same, whatever they have logged. -/
structure Alike (b b' : Builder) : Prop where
  fields : b.fields = b'.fields
  needs : b.needs = b'.needs
  resolved : b.resolved = b'.resolved

theorem Alike.refl (b : Builder) : Alike b b := ⟨rfl, rfl, rfl⟩

theorem Alike.trans {b b' b'' : Builder} (h : Alike b b') (h' : Alike b' b'') : Alike b b'' :=
  ⟨h.fields.trans h'.fields, h.needs.trans h'.needs, h.resolved.trans h'.resolved⟩

theorem Alike.symm {b b' : Builder} (h : Alike b b') : Alike b' b :=
  ⟨h.fields.symm, h.needs.symm, h.resolved.symm⟩

/-- Builders that differ in the log are alike. -/
theorem alike_log (b : Builder) (log : List LogEvent) : Alike { b with log } b := ⟨rfl, rfl, rfl⟩

/-- The computation gives the same result for builders that differ in their logs, and keeps them
alike. -/
def LogBlind {α : Type} (m : Build α) : Prop :=
  ∀ b b' : Builder, Alike b b' →
    (m.run b).1 = (m.run b').1 ∧ Alike (m.run b).2 (m.run b').2

namespace LogBlind

variable {α β : Type}

/-- Computations that do not look at the log do so together. -/
theorem bind {m : Build α} {f : α → Build β} (hm : LogBlind m) (hf : ∀ a, LogBlind (f a)) :
    LogBlind (m >>= f) := by
  intro b b' h
  obtain ⟨hresult, halike⟩ := hm b b' h
  rw [run_bind, run_bind, ← hresult]
  exact hf (m.run b).1 _ _ halike

/-- Making a field does not look at the log. -/
theorem field (raw type default description : String) :
    LogBlind (field raw type default description) := by
  rintro ⟨fields, _, _, _⟩ ⟨_, _, _, _⟩ ⟨rfl, hneeds, hresolved⟩
  exact ⟨rfl, rfl, hneeds, hresolved⟩

/-- Looking up a subject does not look at the log, as answers are kept apart from it. -/
theorem resolve (lookup : Lookup) (subject : String) : LogBlind (resolve lookup subject) := by
  rintro ⟨_, _, resolved, _⟩ ⟨_, _, _, _⟩ ⟨hfields, hneeds, rfl⟩
  rw [run_resolve, run_resolve]
  dsimp only
  cases resolved.lookup subject with
  | some known => exact ⟨rfl, hfields, hneeds, rfl⟩
  | none => exact ⟨rfl, hfields, hneeds, rfl⟩

/-- No operation of the builder reads the log. -/
theorem composed : Composed @LogBlind where
  pure _ _ _ h := ⟨rfl, h⟩
  bind := bind
  record _ _ _ h := ⟨rfl, h.fields, h.needs, h.resolved⟩
  need traitName _ _ h := ⟨rfl, h.fields, congrArg (insertSorted traitName) h.needs, h.resolved⟩
  field := field

/-- A condition becomes the same test after any log. -/
theorem testOf (lookup : Lookup) (raw : String) : LogBlind (testOf lookup raw) :=
  composed.testOf raw (resolve lookup _)

/-- An action becomes the same code after any log. -/
theorem codeOf (raw : String) : LogBlind (codeOf raw) := composed.codeOf raw

end LogBlind

/-- The comment on left-out children changes nothing but the log. -/
theorem alike_droppedMark (id : String) (dropped : Nat) (b : Builder) :
    Alike ((droppedMark id dropped).run b).2 b := by
  unfold droppedMark
  split
  · exact .refl b
  · exact alike_log b _

end BehaviorTraits.Hook
