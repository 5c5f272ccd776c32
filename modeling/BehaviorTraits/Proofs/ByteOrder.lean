import Mathlib.Data.List.Basic

/-!
# The order of bytes

Lists of names are put in the order of their bytes, and the program compares names by their
characters.  UTF-8 is made so that this is the same: of two characters, the one with the greater
code has the greater bytes, at the first place where they differ (`encodeChar_lt`).  So a text comes
before another if and only if its bytes do (`bytes_lt_iff`).
-/

namespace BehaviorTraits.Text

/-- The bytes of a text in UTF-8. -/
def bytes (s : String) : List UInt8 := s.toUTF8.data.toList

/-- The bytes of a text are those of its characters, one after the other. -/
theorem bytes_eq (s : String) : bytes s = s.toList.flatMap String.utf8EncodeChar := by
  have hencode := congrArg (fun a : ByteArray => a.data.toList) (String.utf8Encode_toList (b := s))
  simp only [List.utf8Encode] at hencode
  rw [bytes, String.toUTF8_eq_toByteArray, ← hencode]
  simp

/-- Bytes are compared by their numbers. -/
theorem ofNat_cons_lt {m n : Nat} (hm : m < 256) (hn : n < 256) (as bs : List UInt8) :
    UInt8.ofNat m :: as < UInt8.ofNat n :: bs ↔ m < n ∨ m = n ∧ as < bs := by
  rw [List.cons_lt_cons_iff, UInt8.lt_iff_toNat_lt, ← UInt8.toNat_inj,
    UInt8.toNat_ofNat_of_lt' hm, UInt8.toNat_ofNat_of_lt' hn]

/-- Code points end at `0x10FFFF`. -/
theorem toNat_lt_of_char (c : Char) : c.val.toNat < 1114112 := by
  rcases c.valid with hvalid | hvalid
  · change c.val.toNat < 55296 at hvalid
    omega
  · exact hvalid.2

/-- **The bytes of characters are ordered as the characters**, whatever follows them. -/
theorem encodeChar_lt {c d : Char} (h : c < d) (as bs : List UInt8) :
    String.utf8EncodeChar c ++ as < String.utf8EncodeChar d ++ bs := by
  have hlt : c.val.toNat < d.val.toNat := h
  have hbound := toNat_lt_of_char d
  -- the payloads of the bytes are the digits of the code in base 64
  have hdigits : ∀ v : Nat, v / 4096 = v / 64 / 64 ∧ v / 262144 = v / 64 / 64 / 64 := by omega
  unfold String.utf8EncodeChar
  dsimp only
  generalize c.val.toNat = m at *
  generalize d.val.toNat = n at *
  simp only [hdigits]
  split_ifs
  all_goals simp only [List.cons_append, List.nil_append]
  all_goals repeat rw [ofNat_cons_lt (by omega) (by omega)]
  all_goals omega

/-- UTF-8 keeps the order of texts: lesser characters give lesser bytes. -/
theorem encodeChars_lt {cs ds : List Char} (h : cs < ds) :
    cs.flatMap String.utf8EncodeChar < ds.flatMap String.utf8EncodeChar := by
  induction cs generalizing ds with
  | nil =>
      cases ds with
      | nil => exact absurd h (List.lt_irrefl [])
      | cons d ds =>
          obtain ⟨byte, bytes, hbytes⟩ :=
            List.exists_cons_of_ne_nil (String.utf8EncodeChar_ne_nil (c := d))
          rw [List.flatMap_cons, hbytes]
          exact List.nil_lt_cons byte _
  | cons c cs ih =>
      cases ds with
      | nil => exact absurd h (List.not_lt_nil _)
      | cons d ds =>
          rw [List.flatMap_cons, List.flatMap_cons]
          rcases List.cons_lt_cons_iff.mp h with hlt | ⟨rfl, hlt⟩
          · exact encodeChar_lt hlt _ _
          · exact List.append_left_lt (ih hlt)

/-- A lesser text has lesser bytes. -/
theorem bytes_lt {s t : String} (h : s < t) : bytes s < bytes t := by
  rw [bytes_eq, bytes_eq]
  exact encodeChars_lt (String.lt_iff.mp h)

/-- **Texts are ordered as their bytes.** -/
theorem bytes_lt_iff {s t : String} : bytes s < bytes t ↔ s < t := by
  refine ⟨fun h => ?_, bytes_lt⟩
  rcases Std.lt_trichotomy s t with hlt | rfl | hgt
  · exact hlt
  · exact absurd h (List.lt_irrefl _)
  · exact absurd h (List.lt_asymm (bytes_lt hgt))

end BehaviorTraits.Text
