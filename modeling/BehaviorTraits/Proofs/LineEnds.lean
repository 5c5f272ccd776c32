import BehaviorTraits.CSharp.Literal
import BehaviorTraits.Proofs.ConditionGrammar
import BehaviorTraits.Proofs.NumberTexts
import BehaviorTraits.Tree.Document

/-!
# Characters that end a line

C# ends a line at five characters.  Two of them, carriage return and line feed, are taken out of
every text that is put on one line.  The other three, the next-line character and the two
separators, are handed through by all that is done to a text: a text is `Tame` when it has none of
them, and then so is what is made of it.
-/

namespace BehaviorTraits

namespace Text

/-- The characters that end a line but that nothing takes for a line break: the next-line character,
the line separator and the paragraph separator. -/
def wideEnds : List Char := ['\u0085', '\u2028', '\u2029']

/-- The characters that end a line of C#. -/
def lineEnds : List Char := '\r' :: '\n' :: wideEnds

/-- None of the characters is one of the ends. -/
def Free (ends cs : List Char) : Prop := ∀ c ∈ cs, c ∉ ends

-- Named here, as a search may prefer to go through all characters there are.
instance (ends cs : List Char) : Decidable (Free ends cs) := List.decidableBAll (· ∉ ends) cs

/-- A text is free of line ends if its parts are. -/
theorem free_append {ends as bs : List Char} :
    Free ends (as ++ bs) ↔ Free ends as ∧ Free ends bs :=
  List.forall_mem_append

/-- Characters are free of ends if all of them are of a kind that no end is of. -/
theorem free_of_forall {ends cs : List Char} (p : Char → Bool) (hends : ends.any p = false)
    (hcs : ∀ c ∈ cs, p c = true) : Free ends cs := by
  intro c hc hend
  have hany : ends.any p = true := List.any_eq_true.mpr ⟨c, hend, hcs c hc⟩
  rw [hends] at hany
  cases hany

/-- Nothing in the text ends a line. -/
def OneLine (s : String) : Prop := Free lineEnds s.toList

/-- Nothing in the text ends a line, line breaks apart. -/
def Tame (s : String) : Prop := Free wideEnds s.toList

instance (s : String) : Decidable (OneLine s) := inferInstanceAs (Decidable (Free _ _))

instance (s : String) : Decidable (Tame s) := inferInstanceAs (Decidable (Free _ _))

/-- A text is unbroken if it has neither of the two line-break characters. -/
theorem unbroken_iff {cs : List Char} : Unbroken cs ↔ '\r' ∉ cs ∧ '\n' ∉ cs := by
  refine ⟨fun h => ⟨fun hr => (h _ hr).1 rfl, fun hn => (h _ hn).2 rfl⟩, ?_⟩
  rintro ⟨hr, hn⟩ c hc
  exact ⟨fun heq => hr (heq ▸ hc), fun heq => hn (heq ▸ hc)⟩

/-- A text stays on one line if it is unbroken and has no other line end. -/
theorem oneLine_iff {s : String} : OneLine s ↔ Unbroken s.toList ∧ Tame s := by
  rw [OneLine, Tame, Unbroken, Free, Free, ← forall₂_and]
  refine forall₂_congr fun c _ => ?_
  rw [lineEnds, List.mem_cons, List.mem_cons, not_or, not_or, and_assoc]

/-- A text is tame if its parts are. -/
theorem tame_append {s t : String} : Tame (s ++ t) ↔ Tame s ∧ Tame t := by
  rw [Tame, String.toList_append]
  exact free_append

/-- Between tame texts it is the text in the middle that matters. -/
theorem tame_between {front text back : String} (hfront : Tame front) (hback : Tame back) :
    Tame (front ++ text ++ back) ↔ Tame text := by
  rw [tame_append, tame_append]
  exact ⟨fun h => h.1.2, fun h => ⟨⟨hfront, h⟩, hback⟩⟩

/-- A literal is tame if it has no wide end among its characters, which are given as a list here: it
takes long to compute them from the literal. -/
theorem tame_ofList {cs : List Char} (h : Free wideEnds cs) : Tame (String.ofList cs) := by
  rw [Tame, String.toList_ofList]
  exact h

/-- A text between two literals. -/
theorem tame_framed {front back : List Char} {text : String} (hfront : Free wideEnds front)
    (hback : Free wideEnds back) :
    Tame (String.ofList front ++ text ++ String.ofList back) ↔ Tame text :=
  tame_between (tame_ofList hfront) (tame_ofList hback)

/-- What has no other characters than a tame text is tame. -/
theorem Tame.of_subset {s t : String} (hs : Tame s) (hsub : t.toList ⊆ s.toList) : Tame t := by
  intro c hc
  exact hs c (hsub hc)

/-- Words are tame. -/
theorem Word.tame {s : String} (h : Word s) : Tame s :=
  free_of_forall Char.isAlphanum (by decide) h.2

/-- Line breaks become blanks, and nothing else is changed. -/
theorem mem_singleLineChars {c : Char} (hc : c ∉ ['\r', '\n', ' ']) (cs : List Char) :
    c ∈ singleLineChars cs ↔ c ∈ cs := by
  simp only [List.mem_cons, List.not_mem_nil, or_false, not_or] at hc
  obtain ⟨hr, hn, hblank⟩ := hc
  fun_induction singleLineChars cs with
  | case1 => rfl
  | case2 cs ih => simp [ih, hr, hn, hblank]
  | case3 d cs _ ih =>
      rw [List.mem_cons, List.mem_cons, ih]
      split
      · rename_i hbreak
        have hd : c ≠ d := by
          rintro rfl
          exact hbreak.elim hr hn
        simp [hblank, hd]
      · rfl

/-- **Putting a text on one line does not take out the other line ends.** -/
theorem tame_singleLine {s : String} : Tame (singleLine s) ↔ Tame s := by
  have hwide : Free ['\r', '\n', ' '] wideEnds := by decide
  rw [Tame, toList_singleLine]
  constructor
  · intro h c hc hend
    exact h c ((mem_singleLineChars (hwide c hend) s.toList).mpr hc) hend
  · intro h c hc hend
    exact h c ((mem_singleLineChars (hwide c hend) s.toList).mp hc) hend

/-- Escaping only adds backslashes and letters, and takes only line breaks away. -/
theorem mem_escapedChar {c : Char} (hc : c ∉ ['\r', '\n', '\\', '"', 'r', 'n']) (d : Char) :
    c ∈ CSharp.escapedChar d ↔ c = d := by
  simp only [List.mem_cons, List.not_mem_nil, or_false, not_or] at hc
  obtain ⟨hreturn, hfeed, hslash, hquote, hr, hn⟩ := hc
  rcases CSharp.escapedChar_cases d with hescaped | ⟨-, -, -, -, hd⟩
  · rcases hescaped with rfl | rfl | rfl | rfl <;>
      simp [CSharp.escapedChar, hreturn, hfeed, hslash, hquote, hr, hn]
  · rw [hd]
    exact List.mem_singleton

/-- **Neither does escaping it**, so a text is tame in its literal just if it is. -/
theorem tame_escaped {s : String} : Tame (CSharp.escaped s) ↔ Tame s := by
  have hwide : Free ['\r', '\n', '\\', '"', 'r', 'n'] wideEnds := by decide
  rw [Tame, CSharp.escaped, String.toList_ofList, CSharp.escapedChars]
  constructor
  · intro h c hc hend
    exact h c (List.mem_flatMap.mpr ⟨c, hc, (mem_escapedChar (hwide c hend) c).mpr rfl⟩) hend
  · intro h c hc hend
    obtain ⟨d, hd, hc⟩ := List.mem_flatMap.mp hc
    rw [mem_escapedChar (hwide c hend)] at hc
    exact h d hd (hc ▸ hend)

end Text

open Text

/-- Numbers are tame, if neither signs nor digits are line ends. -/
theorem Signed.tame {signs : List Char} {isDigit : Char → Bool} {s : String}
    (h : Signed signs isDigit s) (hsigns : Free wideEnds signs)
    (hdigits : wideEnds.any isDigit = false) : Tame s := by
  refine h.forall_mem hsigns fun c hc hend => ?_
  exact List.any_eq_false.mp hdigits c hend hc

/-- The digest of a tree stays on one line. -/
theorem Node.oneLine_hash (n : Node) : OneLine n.hash := by
  have hdigit : ∀ k < 16, (Nat.digitChar k).isAlphanum = true := by decide
  rw [OneLine, Node.hash, String.toList_append, free_append]
  refine ⟨by decide, free_of_forall Char.isAlphanum (by decide) ?_⟩
  intro c hc
  rw [String.toList_ofList] at hc
  obtain ⟨w, -, hc⟩ := List.mem_flatMap.mp hc
  obtain ⟨i, -, rfl⟩ := List.mem_map.mp hc
  exact hdigit _ (Nat.mod_lt _ (by decide))

/-! ## What reading takes from a text -/

/-- Trimming brings in no character. -/
theorem Text.trimChars_subset (cs : List Char) : trimChars cs ⊆ cs := by
  intro c hc
  rw [trimChars, trimEndChars, List.mem_reverse] at hc
  have hstart := (List.dropWhile_sublist isBlank).subset hc
  exact (List.dropWhile_sublist isBlank).subset (List.mem_reverse.mp hstart)

/-- Trimming keeps a text tame. -/
theorem Text.Tame.trim {s : String} (h : Tame s) : Tame (trim s) := by
  refine h.of_subset ?_
  rw [toList_trim]
  exact trimChars_subset s.toList

namespace Condition

/-- Taking off a negation mark brings in no character. -/
theorem Marked.subset {cs rest : List Char} (h : Marked cs rest) : rest ⊆ cs := by
  cases h with
  | sign _ => exact List.subset_cons_self _ _
  | word _ _ => exact List.subset_append_right [_, _, _] _

/-- The body of a condition has only characters of the condition. -/
theorem bodyOf_subset (raw : String) : bodyOf raw ⊆ raw.toList := by
  have htrim := trimChars_subset raw.toList
  rw [bodyOf]
  cases hbody : withoutMark? (trimChars raw.toList) with
  | none => exact htrim
  | some body =>
      obtain ⟨rest, hmark, rfl⟩ :=
        (withoutMark?_eq_some_iff (trimmed_trimChars raw.toList)).mp hbody
      exact List.Subset.trans (trimChars_subset rest) (List.Subset.trans hmark.subset htrim)

/-- The subject has only characters of the body. -/
theorem subject_ofBody_subset (negated : Bool) (body : List Char) :
    (ofBody negated body).subject.toList ⊆ body := by
  rw [ofBody]
  split
  · rename_i subject op literal hread
    have hsubject : subject = body.takeWhile isSubjectChar := by
      unfold comparison? at hread
      dsimp only at hread
      split at hread
      · cases hread
      · obtain ⟨candidate, -, hcandidate⟩ := List.exists_of_findSome?_eq_some hread
        obtain ⟨text, -, htext⟩ := Option.map_eq_some_iff.mp hcandidate
        cases htext
        rfl
    rw [String.toList_ofList, hsubject]
    exact (List.takeWhile_sublist isSubjectChar).subset
  · rw [String.toList_ofList]
    exact fun _ h => h

/-- The subject of a condition is made of characters of the condition. -/
theorem subject_subset (raw : String) : (parse raw).subject.toList ⊆ raw.toList := by
  rw [parse_eq]
  exact List.Subset.trans (subject_ofBody_subset _ _) (bodyOf_subset raw)

end Condition

namespace Action

/-- What stands in parentheses has only characters of the whole. -/
theorem enclosed?_subset {cs inner : List Char} (h : enclosed? cs = some inner) :
    inner ⊆ cs := by
  unfold enclosed? at h
  split at h
  · rename_i rest
    split at h
    · rename_i reversed hrest
      split at h
      · cases h
      · cases h
        intro c hc
        have hmem : c ∈ rest.reverse := by
          rw [hrest]
          exact List.mem_cons_of_mem _ (List.mem_reverse.mp hc)
        exact List.mem_cons_of_mem _ (List.mem_reverse.mp hmem)
    · cases h
  · cases h

/-- The arguments of a call have only characters of the call. -/
theorem call?_subset {cs method rawArgs : List Char} (h : call? cs = some (method, rawArgs)) :
    rawArgs ⊆ cs := by
  unfold call? at h
  split at h
  · dsimp only at h
    split at h
    · cases h
      exact List.nil_subset _
    · obtain ⟨inner, hinner, heq⟩ := Option.map_eq_some_iff.mp h
      cases heq
      intro c hc
      have hrest := enclosed?_subset hinner (trimChars_subset inner hc)
      exact (List.dropWhile_sublist isMethodChar).subset
        ((List.dropWhile_sublist isBlank).subset hrest)
  · cases h

/-- The arguments of an action are made of characters of the action. -/
theorem rawArgs_subset (raw : String) : (parse raw).rawArgs.toList ⊆ raw.toList := by
  unfold parse
  dsimp only
  split
  · rename_i method rawArgs hcall
    rw [String.toList_ofList]
    exact List.Subset.trans (call?_subset hcall) (trimChars_subset raw.toList)
  · exact List.nil_subset _

end Action

end BehaviorTraits
