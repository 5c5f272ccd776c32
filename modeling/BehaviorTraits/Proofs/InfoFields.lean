import BehaviorTraits.Proofs.Unbroken
import BehaviorTraits.Proofs.Words
import BehaviorTraits.Proofs.WrittenCode

/-!
# The fields of the Info class

Lowering changes the fields in one way only: it may ask for a field, which is made unless it is
there.  So every field of the Info class has a word as its name and, but for the switch of the
trait, a word as its value, and a description on one line (`lowered_fields_proper`).
-/

namespace BehaviorTraits

open Text

/-! ## What every field is like -/

/-- A public field that actor documents set, with nothing in it that either file could misread. -/
structure FieldDecl.Proper (f : FieldDecl) : Prop where
  exposed : f.exposed = true
  access : f.access = "public"
  readonly : f.isReadonly = true
  name : Word f.name
  type : Word f.type
  notText : f.type ≠ "string"
  value : ∀ v, f.default? = some v → Word v
  /-- Only the switch of the trait has no initial value, and nothing else has its name. -/
  gate : f.default? = none ∨ f.name = gateField.name → f = gateField
  described : f.description ≠ ""
  unbroken : Unbroken f.description.toList

namespace FieldDecl

/-- The switch of a trait is a proper field. -/
theorem proper_gateField : Proper gateField where
  exposed := rfl
  access := rfl
  readonly := rfl
  name := by decide
  type := by decide
  notText := by decide
  value v hv := by cases hv
  gate _ := rfl
  described := by decide
  unbroken := by decide

/-- Putting a text on one line leaves something of it. -/
theorem singleLine_ne_empty {s : String} (h : s ≠ "") : singleLine s ≠ "" := by
  intro hempty
  have hlist := congrArg String.toList hempty
  rw [toList_singleLine] at hlist
  exact singleLineChars_ne_nil (fun hnil => h (String.toList_eq_nil_iff.mp hnil)) hlist

/-- A field that is made on demand is proper if its type, value and description are. -/
theorem proper_ensure {fields : List FieldDecl} (hgate : gateField ∈ fields)
    (hfields : ∀ f ∈ fields, Proper f)
    {raw type value description : String} (htype : Word type) (hnotText : type ≠ "string")
    (hvalue : Word value) (hdescription : description ≠ "") :
    gateField ∈ (ensure fields raw type (some value) description).2 ∧
      ∀ f ∈ (ensure fields raw type (some value) description).2, Proper f := by
  rw [ensure]
  split
  · exact ⟨hgate, hfields⟩
  · rename_i hnew
    refine ⟨List.mem_append_left _ hgate, fun f hf => ?_⟩
    rcases List.mem_append.mp hf with hf | hf
    · exact hfields f hf
    · have hname : nameFor fields.length raw ≠ gateField.name := fun heq =>
        hnew (List.any_eq_true.mpr ⟨gateField, hgate, beq_iff_eq.mpr heq.symm⟩)
      rw [List.mem_singleton.mp hf]
      exact
        { exposed := rfl
          access := rfl
          readonly := rfl
          name := (capitalWord_nameFor _ raw).word
          type := htype
          notText := hnotText
          value := fun v hv => by cases hv; exact hvalue
          gate := fun h => h.elim (fun hnone => by cases hnone) fun heq => absurd heq hname
          described := singleLine_ne_empty hdescription
          unbroken := by
            rw [ofDocument, toList_singleLine]
            exact unbroken_singleLineChars _ }

/-- The switch is there from the start, and all fields that are there are proper. -/
theorem proper_initialFields (options : HookOptions) :
    gateField ∈ initialFields options ∧ ∀ f ∈ initialFields options, Proper f := by
  have hmem : gateField ∈ [gateField] := List.mem_singleton.mpr rfl
  have hgate : ∀ f ∈ [gateField], Proper f := by
    intro f hf
    rw [List.mem_singleton.mp hf]
    exact proper_gateField
  rw [initialFields]
  cases options.scanInterval with
  | none => exact ⟨hmem, hgate⟩
  | some interval =>
      exact proper_ensure hmem hgate (by decide) (by decide) (word_repr interval) (by decide)

end FieldDecl

namespace Hook

/-- The name of a requested field is a word. -/
theorem FieldRequest.word_name (r : FieldRequest) (fields : List FieldDecl) :
    Word (r.name fields) :=
  (FieldDecl.capitalWord_nameFor _ _).word

/-- What is requested has a type and a value that are words, and a description. -/
theorem Requested.plain {r : FieldRequest} (hr : Requested r) :
    Word r.type ∧ r.type ≠ "string" ∧ Word r.value ∧ r.description ≠ "" := by
  have hbool : Word "bool" ∧ "bool" ≠ "string" ∧ Word "false" := by decide
  have hint : Word "int" ∧ "int" ≠ "string" ∧ Word "50" ∧ Word "25" := by decide
  cases hr with
  | flag subject =>
      refine ⟨hbool.1, hbool.2.1, hbool.2.2, fun hempty => ?_⟩
      rw [FieldRequest.flag, String.append_eq_empty_iff, String.append_eq_empty_iff] at hempty
      exact absurd hempty.1.1 (by decide)
  | threshold name raw =>
      refine ⟨hint.1, hint.2.1, hint.2.2.1, fun hempty => ?_⟩
      rw [FieldRequest.threshold, String.append_eq_empty_iff, String.append_eq_empty_iff] at hempty
      exact absurd hempty.1.1 (by decide)
  | ticks name =>
      have hdescription : "Ticks to wait." ≠ "" := by decide
      exact ⟨hint.1, hint.2.1, hint.2.2.2, hdescription⟩

/-- **Every field that lowering leaves is proper**, and the switch of the trait is among them. -/
theorem lowered_fields_proper (lookup : Lookup) (options : HookOptions) (root : Node) :
    gateField ∈ (lowered lookup options root).2.fields ∧
      ∀ f ∈ (lowered lookup options root).2.fields, f.Proper :=
  lowered_fields_keep (fun fields => gateField ∈ fields ∧ ∀ f ∈ fields, f.Proper)
    (fun _ hr _ hfields => by
      obtain ⟨htype, hnotText, hvalue, hdescription⟩ := hr.plain
      exact FieldDecl.proper_ensure hfields.1 hfields.2 htype hnotText hvalue hdescription)
    lookup options root (FieldDecl.proper_initialFields options)

end Hook

end BehaviorTraits
