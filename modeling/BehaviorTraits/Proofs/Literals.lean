import BehaviorTraits.CSharp.Literal
import BehaviorTraits.Proofs.Unbroken

/-!
# Reading string literals

`readLiteral` reads a literal from behind its opening quote the way a compiler does: a backslash
introduces one of four escapes, and the first quote without a backslash ends the literal.

* An escaped character is read as this character, whatever follows (`readLiteral_escapedChar`), so
  an escaped text is read back as it was (`readLiteral_escapedChars`).
* A literal never breaks a line (`unbroken_escapedChars`).
* The escapes may as well be put in one after the other, backslashes first
  (`escapedChars_eq_inTurn`).
* A quote of the text stands behind an odd number of backslashes (`slashRun_of_quote`).

`escaping_exact` puts these together.
-/

namespace BehaviorTraits.CSharp

open Text

/-- The character that an escape stands for, by what follows its backslash. -/
def escapeOf? : Char → Option Char
  | '\\' => some '\\'
  | '"' => some '"'
  | 'r' => some '\r'
  | 'n' => some '\n'
  | _ => none

/-- Reads a literal from behind its opening quote: its text, and what follows the closing quote. -/
def readLiteral : List Char → Option (List Char × List Char)
  | [] => none
  | '"' :: rest => some ([], rest)
  | '\\' :: c :: rest => do
    let d ← escapeOf? c
    (readLiteral rest).map (Prod.map (d :: ·) id)
  | c :: rest => (readLiteral rest).map (Prod.map (c :: ·) id)

/-- **One character.**  However it is written, it is read as one character of the text. -/
theorem readLiteral_escapedChar (c : Char) (rest : List Char) :
    readLiteral (escapedChar c ++ rest) = (readLiteral rest).map (Prod.map (c :: ·) id) := by
  rcases escapedChar_cases c with hescaped | ⟨hbackslash, hquote, -, -, hc⟩
  · rcases hescaped with rfl | rfl | rfl | rfl <;> rfl
  · rw [hc, List.singleton_append, readLiteral]
    · exact hquote
    · intro e rest' heq
      exact absurd heq hbackslash

/-- **A whole text.**  Reading stops at the quote behind it and gives the text back. -/
theorem readLiteral_escapedChars (cs rest : List Char) :
    readLiteral (escapedChars cs ++ '"' :: rest) = some (cs, rest) := by
  induction cs with
  | nil => rfl
  | cons c cs ih =>
      have hchars : escapedChars (c :: cs) ++ '"' :: rest =
          escapedChar c ++ (escapedChars cs ++ '"' :: rest) := by
        simp [escapedChars]
      rw [hchars, readLiteral_escapedChar, ih]
      rfl

/-- However a character is written, it breaks no line. -/
theorem unbroken_escapedChar (c : Char) : Unbroken (escapedChar c) := by
  rcases escapedChar_cases c with hescaped | ⟨-, -, hr, hn, hc⟩
  · rcases hescaped with rfl | rfl | rfl | rfl <;> decide
  · intro d hd
    rw [hc] at hd
    rw [List.mem_singleton.mp hd]
    exact ⟨hr, hn⟩

/-- **One line.** -/
theorem unbroken_escapedChars (cs : List Char) : Unbroken (escapedChars cs) := by
  intro d hd
  obtain ⟨c, _, hd⟩ := List.mem_flatMap.mp hd
  exact unbroken_escapedChar c d hd

/-! ## One escape after the other -/

/-- Each occurrence of the character is replaced by the text. -/
def replaced (c : Char) (text cs : List Char) : List Char :=
  cs.flatMap fun d => if d = c then text else [d]

/-- Four replacements in turn, each of which sees what those before it have written.  Backslashes
come first, as the others bring in backslashes that must stay single. -/
def escapedInTurn (cs : List Char) : List Char :=
  replaced '\n' ['\\', 'n'] (replaced '\r' ['\\', 'r']
    (replaced '"' ['\\', '"'] (replaced '\\' ['\\', '\\'] cs)))

/-- The replacements work character by character. -/
theorem escapedInTurn_append (as bs : List Char) :
    escapedInTurn (as ++ bs) = escapedInTurn as ++ escapedInTurn bs := by
  simp only [escapedInTurn, replaced, List.flatMap_append]

/-- **One character** goes through all four replacements as if it were escaped at once: what one of
them writes is not replaced by a later one. -/
theorem escapedInTurn_singleton (c : Char) : escapedInTurn [c] = escapedChar c := by
  rcases escapedChar_cases c with hescaped | ⟨hbackslash, hquote, hr, hn, hc⟩
  · rcases hescaped with rfl | rfl | rfl | rfl <;> rfl
  · rw [hc]
    simp [escapedInTurn, replaced, hbackslash, hquote, hr, hn]

/-- **Escaping in one pass** comes to the same as escaping in four. -/
theorem escapedChars_eq_inTurn (cs : List Char) : escapedChars cs = escapedInTurn cs := by
  induction cs with
  | nil => rfl
  | cons c cs ih =>
      rw [escapedChars, List.flatMap_cons, ← escapedChars, ih, ← escapedInTurn_singleton,
        ← escapedInTurn_append]
      rfl

/-! ## Quotes inside a literal -/

/-- The number of backslashes at the end of the characters. -/
def slashRun (cs : List Char) : Nat := (cs.reverse.takeWhile (· = '\\')).length

/-- The run at the end goes on into the text before, if that is all there is behind. -/
theorem slashRun_append (as bs : List Char) :
    slashRun (as ++ bs) =
      if slashRun bs = bs.length then bs.length + slashRun as else slashRun bs := by
  rw [slashRun, List.reverse_append, List.takeWhile_append, List.length_reverse]
  change (if slashRun bs = bs.length then _ else _ : List Char).length = _
  split
  · rw [List.length_append, List.length_reverse]
    rfl
  · rfl

/-- An even run at the end of the first part does not count. -/
theorem slashRun_append_mod_two {as : List Char} (has : slashRun as % 2 = 0) (bs : List Char) :
    slashRun (as ++ bs) % 2 = slashRun bs % 2 := by
  rw [slashRun_append]
  split <;> omega

/-- An escaped character ends with an even number of backslashes. -/
theorem slashRun_escapedChar (c : Char) : slashRun (escapedChar c) % 2 = 0 := by
  rcases escapedChar_cases c with hescaped | ⟨hbackslash, -, -, -, hc⟩
  · rcases hescaped with rfl | rfl | rfl | rfl <;> decide
  · rw [hc]
    simp [slashRun, hbackslash]

/-- A quote in an escaped character has one backslash before it. -/
theorem slashRun_of_quote_in_char {c : Char} {before after : List Char}
    (h : escapedChar c = before ++ '"' :: after) : slashRun before % 2 = 1 := by
  have hmem : '"' ∈ escapedChar c := by
    rw [h]
    exact List.mem_append_right before List.mem_cons_self
  have hc : c = '"' := by
    rcases escapedChar_cases c with hescaped | ⟨-, hquote, -, -, hc⟩
    · rcases hescaped with rfl | rfl | rfl | rfl
      · exact absurd hmem (by decide)
      · rfl
      · exact absurd hmem (by decide)
      · exact absurd hmem (by decide)
    · rw [hc] at hmem
      exact absurd (List.mem_singleton.mp hmem).symm hquote
  have hquote : ['\\', '"'] = before ++ '"' :: after := by
    rw [← h, hc]
    rfl
  rcases before with _ | ⟨first, _ | ⟨second, before⟩⟩
  · simp at hquote
  · rw [← (List.cons.inj hquote).1]
    decide
  · simp at hquote

/-- **Each quote is escaped.**  The backslashes of the characters before it come in pairs, and one
more is its own. -/
theorem slashRun_of_quote {cs before after : List Char}
    (h : escapedChars cs = before ++ '"' :: after) : slashRun before % 2 = 1 := by
  induction cs generalizing before with
  | nil => simp [escapedChars] at h
  | cons c cs ih =>
      have hchars : escapedChar c ++ escapedChars cs = before ++ '"' :: after := h
      rcases List.append_eq_append_iff.mp hchars with
        ⟨later, rfl, hlater⟩ | ⟨inside, hinside, hafter⟩
      · rw [slashRun_append_mod_two (slashRun_escapedChar c)]
        exact ih hlater
      · cases inside with
        | nil =>
            -- no escaped text begins with a quote
            have hfirst : slashRun [] % 2 = 1 := ih hafter.symm
            cases hfirst
        | cons first inside =>
            obtain ⟨rfl, -⟩ := List.cons.inj hafter
            exact slashRun_of_quote_in_char hinside

/-- **Escaping is exact.**  The escaped text is what the four replacements in turn give.  Read from
behind the opening quote, with a quote and any other text behind it, it gives back the text and
leaves just that other text over.  So no two texts are escaped alike.  No line break is in an
escaped text, and each quote in it stands behind an odd number of backslashes. -/
theorem escaping_exact :
    (∀ s : String, escaped s = String.ofList (escapedInTurn s.toList)) ∧
    (∀ s rest : String,
      readLiteral (escaped s ++ "\"" ++ rest).toList = some (s.toList, rest.toList)) ∧
    Function.Injective escaped ∧
    ∀ s : String, '\r' ∉ (escaped s).toList ∧ '\n' ∉ (escaped s).toList ∧
      ∀ before after, (escaped s).toList = before ++ '"' :: after → slashRun before % 2 = 1 := by
  have hread : ∀ s rest : String,
      readLiteral (escaped s ++ "\"" ++ rest).toList = some (s.toList, rest.toList) := by
    intro s rest
    have hchars : (escaped s ++ "\"" ++ rest).toList =
        escapedChars s.toList ++ '"' :: rest.toList := by
      simp [escaped]
    rw [hchars]
    exact readLiteral_escapedChars s.toList rest.toList
  refine ⟨fun s => ?_, hread, fun s t heq => ?_, fun s => ?_⟩
  · rw [escaped, escapedChars_eq_inTurn]
  · have hboth := hread s ""
    rw [heq, hread t ""] at hboth
    have htexts := (Prod.mk.inj (Option.some.inj hboth)).1
    exact (String.toList_inj.mp htexts).symm
  · have hunbroken := unbroken_escapedChars s.toList
    rw [escaped, String.toList_ofList]
    exact ⟨fun hr => (hunbroken _ hr).1 rfl, hunbroken.newLine_not_mem,
      fun before after h => slashRun_of_quote h⟩

end BehaviorTraits.CSharp
