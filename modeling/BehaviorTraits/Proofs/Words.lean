import BehaviorTraits.Proofs.Unbroken
import BehaviorTraits.Text.Blank
import BehaviorTraits.Text.Identifier

/-!
# Words

Names of classes and fields, and the values of fields, are words: ASCII letters and digits, at least
one.  Such a text has no character that means anything to the formats that it is written into.
-/

namespace BehaviorTraits.Text

/-- There is something in the text, and all of it is ASCII letters and digits. -/
def Word (s : String) : Prop := s ≠ "" ∧ ∀ c ∈ s.toList, c.isAlphanum = true

instance (s : String) : Decidable (Word s) :=
  @instDecidableAnd _ _ _ (List.decidableBAll (fun c => c.isAlphanum = true) s.toList)

/-- The letters and digits of words are ASCII. -/
theorem toNat_lt_of_isAlphanum {c : Char} (h : c.isAlphanum = true) : c.toNat < 128 := by
  delta Char.isAlphanum Char.isAlpha Char.isUpper Char.isLower Char.isDigit at h
  simp [UInt32.le_iff_toNat_le] at h
  omega

/-- What holds of all ASCII letters and digits, one by one, holds of every such character. -/
theorem forall_alphanum {P : Char → Prop}
    (h : ∀ n < 128, (Char.ofNat n).isAlphanum = true → P (Char.ofNat n)) {c : Char}
    (hc : c.isAlphanum = true) : P c := by
  have hofNat : Char.ofNat c.toNat = c := Char.ofNat_toNat c
  have hall := h c.toNat (toNat_lt_of_isAlphanum hc)
  rw [hofNat] at hall
  exact hall hc

/-- A character that is no ASCII letter or digit is not in a word. -/
theorem Word.not_mem {s : String} (h : Word s) {c : Char} (hc : c.isAlphanum = false) :
    c ∉ s.toList := by
  intro hmem
  rw [h.2 c hmem] at hc
  cases hc

/-- No letter or digit is blank. -/
theorem not_isBlank_of_isAlphanum {c : Char} (h : c.isAlphanum = true) : isBlank c = false :=
  forall_alphanum (P := fun c => isBlank c = false) (by decide +kernel) h

/-- Letters and digits break no line. -/
theorem unbroken_of_isAlphanum {cs : List Char} (h : ∀ c ∈ cs, c.isAlphanum = true) :
    Unbroken cs := fun c hc =>
  forall_alphanum (P := fun c => c ≠ '\r' ∧ c ≠ '\n') (by decide +kernel) (h c hc)

/-- A word breaks no line. -/
theorem Word.unbroken {s : String} (h : Word s) : Unbroken s.toList := unbroken_of_isAlphanum h.2

/-- A letter or digit in upper case is letters and digits, one at least. -/
theorem upperChar_isAlphanum {c : Char} (h : c.isAlphanum = true) :
    upperChar c ≠ [] ∧ ∀ d ∈ upperChar c, d.isAlphanum = true := by
  have hall := forall_alphanum
    (P := fun c => upperChar c ≠ [] ∧ (upperChar c).all Char.isAlphanum = true)
    (by decide +kernel) h
  exact ⟨hall.1, List.all_eq_true.mp hall.2⟩

/-! ## How words are made -/

/-- Letters and digits behind a word leave it a word. -/
theorem Word.append {s t : String} (hs : Word s) (ht : ∀ c ∈ t.toList, c.isAlphanum = true) :
    Word (s ++ t) := by
  refine ⟨?_, ?_⟩
  · intro hempty
    rw [String.append_eq_empty_iff] at hempty
    exact hs.1 hempty.1
  · intro c hc
    rw [String.toList_append, List.mem_append] at hc
    exact hc.elim (hs.2 c) (ht c)

/-- Only letters and digits are kept. -/
theorem isAlphanum_of_mem_alphanumerics {raw : String} {c : Char}
    (h : c ∈ (alphanumerics raw).toList) : c.isAlphanum = true := by
  rw [alphanumerics, String.toList_ofList] at h
  exact (List.mem_filter.mp h).2

/-- What is kept of a text is a word, if anything is. -/
theorem word_alphanumerics {raw : String} (h : alphanumerics raw ≠ "") :
    Word (alphanumerics raw) :=
  ⟨h, fun _ hc => isAlphanum_of_mem_alphanumerics hc⟩

/-- A word with a capital is a word. -/
theorem word_capitalize {s : String} (h : Word s) : Word (capitalize s) := by
  obtain ⟨hne, hs⟩ := h
  rw [capitalize]
  cases hcs : s.toList with
  | nil => exact absurd (String.toList_eq_nil_iff.mp hcs) hne
  | cons c cs =>
      rw [hcs] at hs
      obtain ⟨hupper, hall⟩ := upperChar_isAlphanum (hs c List.mem_cons_self)
      dsimp only
      refine ⟨?_, ?_⟩
      · intro hempty
        have hnil := congrArg String.toList hempty
        rw [String.toList_ofList] at hnil
        exact hupper (List.append_eq_nil_iff.mp hnil).1
      · intro d hd
        rw [String.toList_ofList, List.mem_append] at hd
        exact hd.elim (hall d) fun hd => hs d (List.mem_cons_of_mem _ hd)

/-- Does the text have an ASCII letter or digit in it? -/
def isNameable (s : String) : Bool := s.toList.any Char.isAlphanum

/-- Just these texts leave a word. -/
theorem alphanumerics_ne_empty_iff (raw : String) :
    alphanumerics raw ≠ "" ↔ isNameable raw = true := by
  unfold alphanumerics isNameable
  rw [Ne, String.ofList_eq_empty_iff, List.filter_eq_nil_iff]
  simp

/-- A printed number consists of digits. -/
theorem isDigit_of_mem_toString {n : Nat} {c : Char} (hc : c ∈ (toString n).toList) :
    c.isDigit = true := by
  have hlist : (toString n).toList = Nat.toDigits 10 n := Nat.toList_repr
  rw [hlist] at hc
  exact Nat.isDigit_of_mem_toDigits (by decide) (by decide) hc

/-- A number that is written out is a word. -/
theorem word_repr (n : Nat) : Word (toString n) := by
  have hlist : (toString n).toList = Nat.toDigits 10 n := Nat.toList_repr
  refine ⟨?_, ?_⟩
  · intro hempty
    rw [hempty] at hlist
    exact Nat.toDigits_ne_nil hlist.symm
  · intro c hc
    have hdigit := isDigit_of_mem_toString hc
    simp [Char.isAlphanum, hdigit]

/-- So it begins with one. -/
theorem startsWithDigit_toString (n : Nat) : startsWithDigit (toString n) = true := by
  unfold startsWithDigit
  cases hdigits : (toString n).toList with
  | nil => exact absurd (String.toList_eq_nil_iff.mp hdigits) (word_repr n).1
  | cons c cs =>
      have hc : c ∈ (toString n).toList := hdigits ▸ List.mem_cons_self
      exact isDigit_of_mem_toString hc

/-! ## Capitals -/

/-- A word that begins with a capital letter. -/
structure CapitalWord (s : String) : Prop where
  word : Word s
  head : s.toList.head?.any Char.isUpper = true

/-- A letter in upper case is a capital. -/
theorem upperChar_isUpper {c : Char} (h : c.isAlphanum = true) (hdigit : c.isDigit = false) :
    (upperChar c).head?.any Char.isUpper = true :=
  forall_alphanum
    (P := fun c => c.isDigit = false → (upperChar c).head?.any Char.isUpper = true)
    (by decide +kernel) h hdigit

/-- **A word that begins with a letter gets a capital.** -/
theorem capitalWord_capitalize {s : String} (h : Word s) (hdigit : startsWithDigit s = false) :
    CapitalWord (capitalize s) := by
  refine ⟨word_capitalize h, ?_⟩
  unfold startsWithDigit at hdigit
  unfold capitalize
  cases hcs : s.toList with
  | nil => exact absurd (String.toList_eq_nil_iff.mp hcs) h.1
  | cons c cs =>
      have hc : c.isAlphanum = true := h.2 c (hcs ▸ List.mem_cons_self)
      rw [hcs] at hdigit
      have hupper := upperChar_isUpper hc hdigit
      dsimp only
      rw [String.toList_ofList, List.head?_append]
      cases hhead : (upperChar c).head? with
      | none => rw [hhead] at hupper; cases hupper
      | some d => rwa [hhead] at hupper

/-- Letters and digits behind a name with a capital leave it one. -/
theorem CapitalWord.append {s t : String} (hs : CapitalWord s)
    (ht : ∀ c ∈ t.toList, c.isAlphanum = true) : CapitalWord (s ++ t) := by
  refine ⟨hs.word.append ht, ?_⟩
  have hhead := hs.head
  rw [String.toList_append, List.head?_append]
  cases hcase : s.toList.head? with
  | none => rw [hcase] at hhead; cases hhead
  | some c => rwa [hcase] at hhead

end BehaviorTraits.Text
