import BehaviorTraits.Action
import BehaviorTraits.Number.Percent
import BehaviorTraits.Proofs.Words
import Mathlib.Data.List.Basic

/-!
# Texts of numbers

Numbers of the tree get into the code as text.  A percentage is computed and printed anew, so its
text consists of digits, letters, a minus and a point (`percentFraction?_plain`).  Tick counts and
coordinates are copied, and only what is a sign and digits is taken for one (`isTickCount_signed`,
`target?_signed`).
-/

namespace BehaviorTraits

open Text

/-- One or more digits, with at most one sign before them. -/
def Signed (signs : List Char) (isDigit : Char → Bool) (s : String) : Prop :=
  ∃ digits : List Char, digits ≠ [] ∧ (∀ d ∈ digits, isDigit d = true) ∧
    (s.toList = digits ∨ ∃ sign ∈ signs, s.toList = sign :: digits)

/-- What is true of the signs and of all digits is true of every character. -/
theorem Signed.forall_mem {signs : List Char} {isDigit : Char → Bool} {s : String} {p : Char → Prop}
    (h : Signed signs isDigit s) (hsigns : ∀ c ∈ signs, p c)
    (hdigits : ∀ c, isDigit c = true → p c) : ∀ c ∈ s.toList, p c := by
  obtain ⟨digits, -, hall, hs | ⟨sign, hsign, hs⟩⟩ := h
  · rw [hs]
    exact fun c hc => hdigits c (hall c hc)
  · rw [hs, List.forall_mem_cons]
    exact ⟨hsigns sign hsign, fun c hc => hdigits c (hall c hc)⟩

/-- More signs and more digits leave a number one. -/
theorem Signed.mono {signs signs' : List Char} {isDigit isDigit' : Char → Bool} {s : String}
    (h : Signed signs isDigit s) (hsigns : signs ⊆ signs')
    (hdigits : ∀ c, isDigit c = true → isDigit' c = true) : Signed signs' isDigit' s := by
  obtain ⟨digits, hne, hall, hs⟩ := h
  refine ⟨digits, hne, fun d hd => hdigits d (hall d hd), hs.imp_right ?_⟩
  rintro ⟨sign, hsign, hs⟩
  exact ⟨sign, hsigns hsign, hs⟩

namespace Number

/-- A character that printed numbers are made of. -/
def isNumeralChar (c : Char) : Bool := c.isAlphanum || c == '-' || c == '.'

/-- The digits of a natural number are characters of numerals. -/
theorem numeral_toDigits (n : Nat) : (Nat.toDigits 10 n).all isNumeralChar = true := by
  rw [List.all_eq_true]
  intro c hc
  have hdigit := Nat.isDigit_of_mem_toDigits (by decide) (by decide) hc
  simp [isNumeralChar, Char.isAlphanum, hdigit]

theorem numeral_zeros (n : Nat) : (List.replicate n '0').all isNumeralChar = true := by
  rw [List.all_eq_true]
  intro c hc
  rw [List.eq_of_mem_replicate hc]
  decide

/-- A decimal that is written out has only characters of numerals. -/
theorem numeral_decimal (d : Decimal) : d.positional.toList.all isNumeralChar = true := by
  unfold Decimal.positional
  dsimp only
  split
  · rw [String.toList_ofList, List.all_append, numeral_toDigits, numeral_zeros]
    rfl
  · have hpadded : ∀ zeros : Nat,
        ∀ c ∈ List.replicate zeros '0' ++ Nat.toDigits 10 d.digits, isNumeralChar c = true := by
      intro zeros
      rw [← List.all_eq_true, List.all_append, numeral_toDigits, numeral_zeros]
      rfl
    rw [String.toList_ofList, List.all_eq_true]
    intro c hc
    rcases List.mem_append.mp hc with hc | hc
    · exact hpadded _ c (List.mem_of_mem_take hc)
    · rcases List.mem_cons.mp hc with rfl | hc
      · decide
      · exact hpadded _ c (List.mem_of_mem_drop hc)

/-- **So has every number that is written out**, infinite ones included. -/
theorem numeral_binary64 (value : Binary64) :
    value.positional.toList.all isNumeralChar = true := by
  have hsign : (if value.negative then "-" else "").toList.all isNumeralChar = true := by
    cases value.negative <;> decide
  have hinf : "inf".toList.all isNumeralChar = true := by decide
  unfold Binary64.positional
  dsimp only
  split
  · rw [String.toList_append, List.all_append, hsign, numeral_decimal]
    rfl
  · rw [String.toList_append, List.all_append, hsign, hinf]
    rfl

/-- **A percentage leaves only a printed number**, whatever the literal was. -/
theorem percentFraction?_plain {literal text : String}
    (h : percentFraction? literal = some text) : text.toList.all isNumeralChar = true := by
  unfold percentFraction? at h
  split at h
  · cases h
  · cases h
    exact numeral_binary64 _
  · cases h

end Number

namespace Action

/-- What is left when a sign has been taken off. -/
theorem signed_of_unsigned {signs : List Char} {isDigit : Char → Bool} {cs : List Char}
    {taken : Prop} [Decidable taken] (htaken : taken → ∃ sign ∈ signs, cs.head? = some sign)
    (hne : (if taken then cs.drop 1 else cs) ≠ [])
    (hdigits : (if taken then cs.drop 1 else cs).all isDigit = true) :
    Signed signs isDigit (String.ofList cs) := by
  refine ⟨_, hne, List.all_eq_true.mp hdigits, ?_⟩
  rw [String.toList_ofList]
  split
  · rename_i h
    obtain ⟨sign, hsign, hhead⟩ := htaken h
    obtain ⟨rest, rfl⟩ := List.head?_eq_some_iff.mp hhead
    exact .inr ⟨sign, hsign, rfl⟩
  · exact .inl rfl

/-- **A tick count is ASCII digits**, with a sign or without. -/
theorem isTickCount_signed {arg : String} (h : isTickCount arg = true) :
    Signed ['-', '+'] Char.isDigit arg := by
  have hlist : String.ofList arg.toList = arg := String.ofList_toList
  rw [← hlist]
  simp only [isTickCount, Bool.and_eq_true, Bool.not_eq_true', List.isEmpty_eq_false_iff] at h
  refine signed_of_unsigned ?_ h.1.1 h.1.2
  intro htaken
  simp only [Bool.or_eq_true, decide_eq_true_eq] at htaken
  rcases htaken with hminus | hplus
  · exact ⟨'-', by decide, hminus⟩
  · exact ⟨'+', by decide, hplus⟩

/-- A coordinate is an optional minus and then digits. -/
theorem isCoordinate_signed {cs : List Char} (h : isCoordinate cs = true) :
    Signed ['-'] isDecimalDigit (String.ofList cs) := by
  simp only [isCoordinate, Bool.and_eq_true, Bool.not_eq_true', List.isEmpty_eq_false_iff] at h
  exact signed_of_unsigned (fun hminus => ⟨'-', by decide, hminus⟩) h.1 h.2

/-- **The two coordinates of a cell are decimal digits**, with a minus or without. -/
theorem target?_signed {rawArgs x y : String} (h : target? rawArgs = some (x, y)) :
    Signed ['-'] isDecimalDigit x ∧ Signed ['-'] isDecimalDigit y := by
  unfold target? pair? at h
  split at h
  · split at h
    · rename_i hcoordinates
      rw [Bool.and_eq_true] at hcoordinates
      cases h
      exact ⟨isCoordinate_signed hcoordinates.1, isCoordinate_signed hcoordinates.2⟩
    · cases h
  · cases h

end Action

end BehaviorTraits
