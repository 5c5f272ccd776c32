import BehaviorTraits.Text.Cased
import BehaviorTraits.Text.CaseTable

/-!
# Upper and lower case

The full case mappings of the standard: one character may become several (`ß` in upper case is
`SS`), and a capital sigma at the end of a word becomes the final small sigma.  On ASCII both agree
with the letters `A`–`Z` and `a`–`z`.
-/

namespace BehaviorTraits.Text

private def mapped (expansions : List (Nat × List Nat)) (runs : List CaseRun) (c : Char) :
    List Char :=
  match expansions.lookup c.toNat with
  | some codes => codes.map Char.ofNat
  | none => [((runs.findSome? (·.image? c.toNat)).map Char.ofNat).getD c]

/-- The upper case of one character. -/
def upperChar (c : Char) : List Char :=
  if c.toNat < 0x80 then [c.toUpper] else mapped upperExpansions upperRuns c

/-- Beyond ASCII a character stays as it is, or what it becomes stands in one of the tables. -/
theorem mem_upperChar {c d : Char} (hc : ¬ c.toNat < 0x80) (h : d ∈ upperChar c) :
    d = c ∨ ∃ n, d = Char.ofNat n ∧
      ((∃ entry ∈ upperExpansions, n ∈ entry.2) ∨
        ∃ run ∈ upperRuns, run.image? c.toNat = some n) := by
  rw [upperChar, if_neg hc] at h
  unfold mapped at h
  cases hlookup : upperExpansions.lookup c.toNat with
  | some codes =>
      rw [hlookup] at h
      obtain ⟨n, hn, rfl⟩ := List.mem_map.mp h
      obtain ⟨before, after, htable, -⟩ := List.lookup_eq_some_iff.mp hlookup
      exact .inr ⟨n, rfl, .inl ⟨(c.toNat, codes), by simp [htable], hn⟩⟩
  | none =>
      rw [hlookup, List.mem_singleton] at h
      cases hrun : upperRuns.findSome? (·.image? c.toNat) with
      | none =>
          rw [hrun] at h
          exact .inl h
      | some n =>
          rw [hrun] at h
          obtain ⟨run, hmem, himage⟩ := List.exists_of_findSome?_eq_some hrun
          exact .inr ⟨n, h, .inr ⟨run, hmem, himage⟩⟩

/-- The lower case of one character, wherever it stands. -/
def lowerChar (c : Char) : List Char :=
  if c.toNat < 0x80 then [c.toLower] else mapped lowerExpansions lowerRuns c

/-- Is the first character that does not belong inside a word a cased letter? -/
def meetsCased (cs : List Char) : Bool :=
  ((cs.dropWhile isCaseIgnorable).head?.map isCased).getD false

/-- Lower-cases a text whose earlier characters, last one first, are `before`. -/
def lowerChars (before : List Char) : List Char → List Char
  | [] => []
  | c :: after =>
    let low :=
      if c = 'Σ' then
        if meetsCased before && !meetsCased after then ['ς'] else ['σ']
      else lowerChar c
    low ++ lowerChars (c :: before) after

/-- The text in upper case. -/
def upper (s : String) : String := String.ofList (s.toList.flatMap upperChar)

/-- The text in lower case. -/
def lower (s : String) : String := String.ofList (lowerChars [] s.toList)

/-- The text with its ASCII letters in lower case and all else as it is. -/
def lowerAscii (s : String) : String := String.ofList (s.toList.map Char.toLower)

/-- Are the texts equal when ASCII letters of either case count as the same? -/
def eqIgnoringAsciiCase (s t : String) : Bool := lowerAscii s == lowerAscii t

end BehaviorTraits.Text
