import BehaviorTraits.Condition
import BehaviorTraits.Proofs.Trimmed
import BehaviorTraits.Proofs.Words

/-!
# The grammar of conditions

The reader of conditions goes from left to right and never back.  Here is the grammar that it reads,
said without the reader:

* `Marked` and `HasBody` say what a negation mark is, and what is left of a text without it;
* `Splits` lists all the ways to take a text apart into a subject, an operator and a right-hand side,
  with blanks between them.  A text may have several: `A<=5` has one with `<=` and one with `<`.

The reader finds a comparison whenever there is a split (`comparison?_of_splits`), and of several it
takes the one with the longest operator (`comparison?_reads`).  `condition_grammar` puts this
together for raw texts.
-/

namespace BehaviorTraits

open Text

namespace Comparison

/-- What may begin a text: an operator with the rest of the text behind it. -/
theorem mem_candidates {cs rest : List Char} {op : Comparison} :
    (op, rest) ∈ candidates cs ↔ cs = op.symbol.toList ++ rest := by
  have hall : op ∈ all := by cases op <;> decide
  rw [candidates, List.mem_filterMap]
  constructor
  · rintro ⟨op', -, h⟩
    dsimp only at h
    split at h
    · rename_i hprefix
      cases h
      obtain ⟨tail, htail⟩ := List.isPrefixOf_iff_prefix.mp hprefix
      rw [← htail, List.drop_left]
    · cases h
  · intro h
    have hprefix : op.symbol.toList.isPrefixOf cs = true :=
      List.isPrefixOf_iff_prefix.mpr ⟨rest, h.symm⟩
    refine ⟨op, hall, ?_⟩
    dsimp only
    rw [if_pos hprefix, h, List.drop_left]

/-- Longer operators come first. -/
theorem candidates_pairwise (cs : List Char) :
    (candidates cs).Pairwise fun a b => b.1.symbol.length ≤ a.1.symbol.length := by
  have hall : all.Pairwise fun a b => b.symbol.length ≤ a.symbol.length := by decide
  refine List.Pairwise.filterMap _ ?_ hall
  intro a b hlength x hx y hy
  dsimp only at hx hy
  split at hx
  · split at hy
    · cases hx
      cases hy
      exact hlength
    · cases hy
  · cases hx

/-- Two operators of the same length do not begin the same text. -/
theorem eq_of_length {op op' : Comparison} {rest rest' : List Char}
    (htext : op.symbol.toList ++ rest = op'.symbol.toList ++ rest')
    (hlength : op.symbol.length = op'.symbol.length) : op = op' := by
  have hsymbol : op.symbol.toList = op'.symbol.toList :=
    (List.append_inj htext (by rw [String.length_toList, String.length_toList, hlength])).1
  revert hsymbol
  cases op <;> cases op' <;> decide

end Comparison

namespace Condition

/-! ## Negation marks -/

/-- The text begins with a negation mark, with `rest` behind it.  The mark is a `!` that does not
begin `!=`, or the word `not` in any ASCII case with a blank behind it. -/
inductive Marked : List Char → List Char → Prop
  | sign {rest : List Char} (hrest : rest.head? ≠ some '=') : Marked ('!' :: rest) rest
  | word {n o t blank : Char} {rest : List Char}
      (hword : [n, o, t].map Char.toLower = ['n', 'o', 't']) (hblank : isBlank blank = true) :
      Marked (n :: o :: t :: blank :: rest) (blank :: rest)

/-- What is left of a condition when its blanks and one negation mark are taken off; the truth value
says whether there was a mark. -/
inductive HasBody (raw : String) : Bool → List Char → Prop
  | plain (hplain : ∀ rest, ¬ Marked (trimChars raw.toList) rest) :
      HasBody raw false (trimChars raw.toList)
  | marked {rest : List Char} (hmark : Marked (trimChars raw.toList) rest) :
      HasBody raw true (trimChars rest)

/-- **The mark that is taken off is the one that is there.** -/
theorem withoutMark?_eq_some_iff {cs body : List Char} (hcs : Trimmed cs) :
    withoutMark? cs = some body ↔ ∃ rest, Marked cs rest ∧ body = trimChars rest := by
  rw [withoutMark?, trimStartChars_eq_self hcs.head]
  constructor
  · intro h
    split at h
    · rename_i rest
      split at h
      · cases h
      · rename_i hrest
        exact ⟨rest, .sign hrest, (Option.some.inj h).symm⟩
    · rename_i n o t blank rest _
      split at h
      · rename_i hword
        refine ⟨blank :: rest, .word hword.1 hword.2, ?_⟩
        have hblank : trimChars ([blank] ++ rest) = trimChars rest :=
          trimChars_append (by simp [hword.2]) rest
        rw [← Option.some.inj h]
        exact hblank.symm
      · cases h
    · cases h
  · rintro ⟨rest, hmark, rfl⟩
    cases hmark with
    | sign hrest => simp [hrest]
    | @word n o t blank rest hword hblank =>
        have hsign : n ≠ '!' := by
          rintro rfl
          exact absurd (List.cons.inj hword).1 (by decide)
        have htrim : trimChars ([blank] ++ rest) = trimChars rest :=
          trimChars_append (by simp [hblank]) rest
        simp only [List.singleton_append] at htrim
        simp [hword, hblank, htrim]

/-- The part of a condition that says what it is about. -/
def bodyOf (raw : String) : List Char :=
  (withoutMark? (trimChars raw.toList)).getD (trimChars raw.toList)

/-- A condition is read from its body, and it is negated just if a mark was taken off. -/
theorem parse_eq (raw : String) :
    parse raw = ofBody (withoutMark? (trimChars raw.toList)).isSome (bodyOf raw) := by
  rw [parse, bodyOf]
  cases withoutMark? (trimChars raw.toList) <;> rfl

/-- Whether a body has a comparison does not matter for the negation. -/
theorem negated_ofBody (negated : Bool) (body : List Char) :
    (ofBody negated body).negated = negated := by
  rw [ofBody]
  split <;> rfl

/-- **A condition is negated just if it has a mark.** -/
theorem negated_parse (raw : String) :
    (parse raw).negated = (withoutMark? (trimChars raw.toList)).isSome := by
  rw [parse_eq, negated_ofBody]

/-- Reading a condition takes off what there is to take off. -/
theorem hasBody_iff (raw : String) (marked : Bool) (body : List Char) :
    HasBody raw marked body ↔ marked = (parse raw).negated ∧ body = bodyOf raw := by
  have hmark : ∀ body, withoutMark? (trimChars raw.toList) = some body ↔
      ∃ rest, Marked (trimChars raw.toList) rest ∧ body = trimChars rest :=
    fun _ => withoutMark?_eq_some_iff (trimmed_trimChars raw.toList)
  rw [negated_parse, bodyOf]
  cases hcase : withoutMark? (trimChars raw.toList) with
  | none =>
      rw [hcase] at hmark
      have hplain : ∀ rest, ¬ Marked (trimChars raw.toList) rest := by
        intro rest hrest
        exact absurd ((hmark (trimChars rest)).mpr ⟨rest, hrest, rfl⟩) (by simp)
      constructor
      · intro h
        cases h with
        | plain _ => exact ⟨rfl, rfl⟩
        | marked h => exact absurd h (hplain _)
      · rintro ⟨rfl, rfl⟩
        exact .plain hplain
  | some found =>
      rw [hcase] at hmark
      constructor
      · intro h
        cases h with
        | plain h =>
            obtain ⟨rest, hrest, -⟩ := (hmark found).mp rfl
            exact absurd hrest (h rest)
        | @marked rest h => exact ⟨rfl, (Option.some.inj ((hmark _).mpr ⟨rest, h, rfl⟩)).symm⟩
      · rintro ⟨hmarked, hbody⟩
        obtain ⟨rest, hrest, hfound⟩ := (hmark found).mp rfl
        rw [hmarked, hbody, Option.getD_some, hfound]
        exact .marked hrest

/-- A body has no blanks around it. -/
theorem trimmed_bodyOf (raw : String) : Trimmed (bodyOf raw) := by
  have hbody := (hasBody_iff raw _ _).mpr ⟨rfl, rfl⟩
  generalize (parse raw).negated = marked at hbody
  generalize bodyOf raw = body at hbody ⊢
  cases hbody with
  | plain _ => exact trimmed_trimChars _
  | marked _ => exact trimmed_trimChars _

/-! ## Ways to take a text apart -/

/-- The text is a subject, an operator and a right-hand side, with blanks before and behind the
operator.  The right-hand side has something on it and stays on one line. -/
structure Splits (body subject before : List Char) (op : Comparison) (behind right : List Char) :
    Prop where
  text : body = subject ++ (before ++ (op.symbol.toList ++ (behind ++ right)))
  named : subject ≠ []
  word : ∀ c ∈ subject, isSubjectChar c = true
  blank : ∀ c ∈ before, isBlank c = true
  blank' : ∀ c ∈ behind, isBlank c = true
  present : right ≠ []
  line : '\n' ∉ right

/-- How a text with splits is to be read. -/
structure ReadsAs (body subject : List Char) (op : Comparison) (literal : List Char) : Prop where
  /-- The literal is the rest of the text, from the first character behind the operator that is not
  blank. -/
  split : ∃ before behind, Splits body subject before op behind literal
  /-- There is only one subject. -/
  only : ∀ {s before op' behind right}, Splits body s before op' behind right → s = subject
  /-- An operator of two characters goes first. -/
  longest : ∀ {s before op' behind right}, Splits body s before op' behind right →
    op'.symbol.length = 2 → op' = op
  /-- However the blanks are shared out, the literal is the right-hand side without them. -/
  trimmed : ∀ {s before behind right}, Splits body s before op behind right →
    trimChars right = literal

/-- A blank ends a subject. -/
theorem not_isSubjectChar_of_isBlank {c : Char} (h : isBlank c = true) :
    isSubjectChar c = false := by
  rw [isSubjectChar, Bool.or_eq_false_iff]
  constructor
  · cases halphanum : c.isAlphanum with
    | false => rfl
    | true =>
        rw [not_isBlank_of_isAlphanum halphanum] at h
        cases h
  · refine beq_eq_false_iff_ne.mpr ?_
    rintro rfl
    exact absurd h (by decide)

/-- The first character of an operator belongs neither to a subject nor to blanks. -/
theorem symbol_head (op : Comparison) :
    ∃ c cs, op.symbol.toList = c :: cs ∧ isBlank c = false ∧ isSubjectChar c = false := by
  cases op <;> exact ⟨_, _, rfl, by decide, by decide⟩

/-- **The subject ends where the reader stops**, and the operator begins where it goes on. -/
theorem reader_stops {s before : List Char} (hword : ∀ c ∈ s, isSubjectChar c = true)
    (hbefore : ∀ c ∈ before, isBlank c = true) (op : Comparison) (rest : List Char) :
    (s ++ (before ++ (op.symbol.toList ++ rest))).takeWhile isSubjectChar = s ∧
      trimStartChars ((s ++ (before ++ (op.symbol.toList ++ rest))).dropWhile isSubjectChar) =
        op.symbol.toList ++ rest := by
  obtain ⟨c, cs, hsymbol, hblank, hsubject⟩ := symbol_head op
  have hstop : ∀ d ∈ (before ++ (op.symbol.toList ++ rest)).head?, isSubjectChar d = false := by
    intro d hd
    cases hbefore' : before with
    | nil =>
        rw [hbefore', hsymbol] at hd
        rw [← Option.some.inj hd]
        exact hsubject
    | cons e es =>
        rw [hbefore'] at hd
        rw [← Option.some.inj hd]
        exact not_isSubjectChar_of_isBlank (hbefore e (hbefore' ▸ List.mem_cons_self))
  have hstart : trimStartChars (op.symbol.toList ++ rest) = op.symbol.toList ++ rest := by
    refine trimStartChars_eq_self fun d hd => ?_
    rw [hsymbol] at hd
    rw [← Option.some.inj hd]
    exact hblank
  rw [List.takeWhile_append_of_pos hword, List.dropWhile_append_of_pos hword]
  generalize htail : before ++ (op.symbol.toList ++ rest) = tail at hstop
  have htake : tail.takeWhile isSubjectChar = [] ∧ tail.dropWhile isSubjectChar = tail := by
    cases tail with
    | nil => exact ⟨rfl, rfl⟩
    | cons d ds => simp [hstop d rfl]
  rw [htake.1, htake.2, List.append_nil, ← htail, trimStartChars_append hbefore, hstart]
  exact ⟨rfl, rfl⟩

/-- However the body is split, the reader takes the same subject and stops before the same operator.
-/
theorem Splits.reader_stops {body s before behind right : List Char} {op : Comparison}
    (h : Splits body s before op behind right) :
    body.takeWhile isSubjectChar = s ∧
      trimStartChars (body.dropWhile isSubjectChar) =
        op.symbol.toList ++ (behind ++ right) := by
  rw [h.text]
  exact Condition.reader_stops h.word h.blank op (behind ++ right)

/-! ## Reading the right-hand side -/

/-- **What a right-hand side can be.**  At the end of a trimmed text, a right-hand side is read
just if there is one behind some blanks. -/
theorem literal?_eq_some_iff {front rest literal : List Char} (hbody : Trimmed (front ++ rest)) :
    literal? rest = some literal ↔ ∃ behind right, rest = behind ++ right ∧
      (∀ c ∈ behind, isBlank c = true) ∧ right ≠ [] ∧ '\n' ∉ right ∧
      trimChars right = literal := by
  rw [literal?]
  constructor
  · intro h
    split at h
    · cases h
    · rename_i hright
      obtain ⟨hpresent, hline⟩ := not_or.mp hright
      obtain ⟨behind, hblank, hrest⟩ := exists_blanks rest
      exact ⟨behind, trimStartChars rest, hrest, hblank, hpresent, hline, Option.some.inj h⟩
  · rintro ⟨behind, right, rfl, hblank, hpresent, hline, rfl⟩
    rw [trimStartChars_append hblank]
    have hsame : trimChars (trimStartChars right) = trimChars right := by
      rw [trimChars, trimChars, trimStartChars_eq_self (head_trimStartChars right)]
    have hleft : trimStartChars right ≠ [] := by
      intro hnil
      rw [← List.append_assoc] at hbody
      exact hpresent (hbody.eq_nil_of_blank (List.dropWhile_eq_nil_iff.mp hnil))
    have hkeeps : '\n' ∉ trimStartChars right := fun hmem =>
      hline ((List.dropWhile_sublist isBlank).subset hmem)
    rw [if_neg (not_or.mpr ⟨hleft, hkeeps⟩), hsame]

/-- The literal that is read is the right-hand side without the blanks around it. -/
theorem Splits.literal?_eq {body s before behind right : List Char} {op : Comparison}
    (h : Splits body s before op behind right) (hbody : Trimmed body) :
    literal? (behind ++ right) = some (trimChars right) := by
  have hfront : body = (s ++ (before ++ op.symbol.toList)) ++ (behind ++ right) := by
    simp [h.text]
  rw [hfront] at hbody
  exact (literal?_eq_some_iff hbody).mpr
    ⟨behind, right, rfl, h.blank', h.present, h.line, rfl⟩

/-- The right-hand side as it is read makes a split of its own. -/
theorem Splits.trimmed {body s before behind right : List Char} {op : Comparison}
    (h : Splits body s before op behind right) (hbody : Trimmed body) :
    ∃ blanks, Splits body s before op blanks (trimChars right) := by
  obtain ⟨w, hw, hright⟩ := exists_blanks right
  have hread := h.literal?_eq hbody
  have hfront : body = (s ++ (before ++ (op.symbol.toList ++ behind))) ++ right := by
    simp [h.text]
  rw [hfront] at hbody
  refine ⟨behind ++ w, ?_⟩
  rw [hbody.trimChars_behind]
  constructor
  · rw [h.text]
    nth_rewrite 1 [hright]
    rw [List.append_assoc]
  · exact h.named
  · exact h.word
  · exact h.blank
  · intro c hc
    exact (List.mem_append.mp hc).elim (h.blank' c) (hw c)
  · intro hnil
    rw [literal?, trimStartChars_append h.blank', if_pos (.inl hnil)] at hread
    cases hread
  · intro hmem
    exact h.line ((List.dropWhile_sublist isBlank).subset hmem)

/-! ## Reading a comparison -/

/-- **A split is enough.**  A text that can be taken apart is read as a comparison. -/
theorem comparison?_of_splits {body s before behind right : List Char} {op : Comparison}
    (hbody : Trimmed body) (h : Splits body s before op behind right) :
    ∃ found, comparison? body = some found := by
  obtain ⟨hsubject, htail⟩ := h.reader_stops
  have hread := h.literal?_eq hbody
  have hcandidate : (op, behind ++ right) ∈
      Comparison.candidates (op.symbol.toList ++ (behind ++ right)) :=
    Comparison.mem_candidates.mpr rfl
  rw [comparison?]
  dsimp only
  rw [hsubject, if_neg h.named, htail, ← Option.isSome_iff_exists, List.findSome?_isSome_iff]
  exact ⟨_, hcandidate, by simp [hread]⟩

/-- What is read comes from the first operator behind which there is a right-hand side. -/
theorem comparison?_eq_some {body s literal : List Char} {op : Comparison}
    (h : comparison? body = some (s, op, literal)) :
    s ≠ [] ∧ body.takeWhile isSubjectChar = s ∧
      ∃ rest earlier later,
        Comparison.candidates (trimStartChars (body.dropWhile isSubjectChar)) =
          earlier ++ (op, rest) :: later ∧
        literal? rest = some literal ∧ ∀ candidate ∈ earlier, literal? candidate.2 = none := by
  rw [comparison?] at h
  dsimp only at h
  split at h
  · cases h
  · rename_i hnamed
    obtain ⟨earlier, ⟨op', rest⟩, later, hcandidates, hfound, hearlier⟩ :=
      List.findSome?_eq_some_iff.mp h
    obtain ⟨literal', hliteral, hparts⟩ := Option.map_eq_some_iff.mp hfound
    obtain ⟨rfl, rfl, rfl⟩ : body.takeWhile isSubjectChar = s ∧ op' = op ∧ literal' = literal := by
      simpa using hparts
    refine ⟨hnamed, rfl, rest, earlier, later, hcandidates, hliteral, ?_⟩
    intro candidate hmem
    exact Option.map_eq_none_iff.mp (hearlier candidate hmem)

/-- No operator behind which there is a right-hand side is longer than the one that is read. -/
theorem length_le_of_candidates {cs rest rest' : List Char} {op op' : Comparison}
    {earlier later : List (Comparison × List Char)}
    (hcandidates : Comparison.candidates cs = earlier ++ (op, rest) :: later)
    (hearlier : ∀ candidate ∈ earlier, literal? candidate.2 = none)
    (hcs : cs = op'.symbol.toList ++ rest') (hread : literal? rest' ≠ none) :
    op'.symbol.length ≤ op.symbol.length := by
  have hmem : (op', rest') ∈ earlier ++ (op, rest) :: later := by
    rw [← hcandidates]
    exact Comparison.mem_candidates.mpr hcs
  have hpairwise := Comparison.candidates_pairwise cs
  rw [hcandidates, List.pairwise_append, List.pairwise_cons] at hpairwise
  rcases List.mem_append.mp hmem with hmem | hmem
  · exact absurd (hearlier _ hmem) hread
  · rcases List.mem_cons.mp hmem with heq | hmem
    · exact Nat.le_of_eq (congrArg (·.1.symbol.length) heq)
    · exact hpairwise.2.1.1 _ hmem

/-- **What is read is a split**, and the one with the longest operator. -/
theorem comparison?_reads {body s literal : List Char} {op : Comparison} (hbody : Trimmed body)
    (h : comparison? body = some (s, op, literal)) : ReadsAs body s op literal := by
  obtain ⟨hnamed, hsubject, rest, earlier, later, hcandidates, hliteral, hearlier⟩ :=
    comparison?_eq_some h
  have htail : trimStartChars (body.dropWhile isSubjectChar) = op.symbol.toList ++ rest :=
    Comparison.mem_candidates.mp (hcandidates ▸ List.mem_append_right _ List.mem_cons_self)
  obtain ⟨before, hblank, hdropped⟩ := exists_blanks (body.dropWhile isSubjectChar)
  have htext : body = s ++ (before ++ (op.symbol.toList ++ rest)) := by
    rw [← htail, ← hdropped, ← hsubject, List.takeWhile_append_dropWhile]
  have hfront : body = (s ++ (before ++ op.symbol.toList)) ++ rest := by simpa using htext
  obtain ⟨behind, right, hrest, hblank', hpresent, hline, hright⟩ :=
    (literal?_eq_some_iff (hfront ▸ hbody)).mp hliteral
  have hsplits : Splits body s before op behind right :=
    { text := hrest ▸ htext
      named := hnamed
      word := fun c hc => List.mem_takeWhile_imp (hsubject ▸ hc)
      blank := hblank
      blank' := hblank'
      present := hpresent
      line := hline }
  -- Whatever the split, the reader stops at the same places.
  have hstops : ∀ {s₂ before₂ op₂ behind₂ right₂}, Splits body s₂ before₂ op₂ behind₂ right₂ →
      s₂ = s ∧ op.symbol.toList ++ rest = op₂.symbol.toList ++ (behind₂ ++ right₂) := by
    intro s₂ before₂ op₂ behind₂ right₂ h₂
    rw [← htail, ← hsubject]
    exact ⟨h₂.reader_stops.1.symm, h₂.reader_stops.2⟩
  constructor
  · obtain ⟨blanks, hblanks⟩ := hsplits.trimmed hbody
    exact ⟨before, blanks, hright ▸ hblanks⟩
  · intro s₂ before₂ op₂ behind₂ right₂ h₂
    exact (hstops h₂).1
  · intro s₂ before₂ op₂ behind₂ right₂ h₂ htwo
    have hread : literal? (behind₂ ++ right₂) ≠ none := by simp [h₂.literal?_eq hbody]
    have hlong : op₂.symbol.length ≤ op.symbol.length :=
      length_le_of_candidates hcandidates hearlier (htail.trans (hstops h₂).2) hread
    have hshort : op.symbol.length ≤ 2 := by cases op <;> decide
    exact Comparison.eq_of_length (hstops h₂).2.symm (by omega)
  · intro s₂ before₂ behind₂ right₂ h₂
    have hrest₂ : rest = behind₂ ++ right₂ := List.append_cancel_left (hstops h₂).2
    have hread := h₂.literal?_eq hbody
    rw [← hrest₂, hliteral] at hread
    exact (Option.some.inj hread).symm

/-! ## Reading a condition -/

/-- A body in which a comparison is found becomes that comparison. -/
theorem ofBody_of_some {negated : Bool} {body s literal : List Char} {op : Comparison}
    (h : comparison? body = some (s, op, literal)) :
    ofBody negated body = ⟨String.ofList s, some (op, String.ofList literal), negated⟩ := by
  rw [ofBody, h]

/-- Any other body becomes a flag as a whole. -/
theorem ofBody_of_none {negated : Bool} {body : List Char} (h : comparison? body = none) :
    ofBody negated body = ⟨String.ofList body, none, negated⟩ := by
  rw [ofBody, h]

/-- **The grammar of conditions.**  Let the body of a condition be its text without outer blanks
and without one negation mark, if it has one; then the condition is negated just if it has one.  It
is a comparison just if its body can be split into a subject, an operator and a right-hand side, and
then it is read by the longest operator.  If not, it is a flag whose subject is the whole body. -/
theorem condition_grammar (raw : String) :
    ∃ body, (∀ marked text,
        HasBody raw marked text ↔ marked = (parse raw).negated ∧ text = body) ∧
      ((parse raw).comparison.isSome = true ↔
        ∃ s before op behind right, Splits body s before op behind right) ∧
      (∀ op literal, (parse raw).comparison = some (op, literal) →
        ReadsAs body (parse raw).subject.toList op literal.toList) ∧
      ((parse raw).comparison = none → (parse raw).subject = String.ofList body) := by
  have hbody := trimmed_bodyOf raw
  refine ⟨bodyOf raw, hasBody_iff raw, ?_⟩
  rw [parse_eq]
  cases hread : comparison? (bodyOf raw) with
  | none =>
      rw [ofBody_of_none hread]
      have hnever : ¬ ∃ s before op behind right, Splits (bodyOf raw) s before op behind right := by
        rintro ⟨s, before, op, behind, right, hsplits⟩
        obtain ⟨found, hfound⟩ := comparison?_of_splits hbody hsplits
        rw [hread] at hfound
        cases hfound
      refine ⟨⟨?_, fun hsplits => absurd hsplits hnever⟩, ?_, fun _ => rfl⟩
      · intro hsome
        cases hsome
      · intro op literal hsome
        cases hsome
  | some found =>
      obtain ⟨s, op, literal⟩ := found
      have hreads := comparison?_reads hbody hread
      obtain ⟨before, behind, hsplits⟩ := hreads.split
      rw [ofBody_of_some hread]
      refine ⟨⟨fun _ => ⟨s, before, op, behind, literal, hsplits⟩, fun _ => rfl⟩, ?_, ?_⟩
      · intro op' literal' hsome
        cases hsome
        rw [String.toList_ofList, String.toList_ofList]
        exact hreads
      · intro hnone
        cases hnone

-- The longer operator has nothing behind it here, so the shorter one is read.
example : parse "!A<=" = ⟨"A", some (.less, "="), true⟩ := by decide

end Condition

end BehaviorTraits
