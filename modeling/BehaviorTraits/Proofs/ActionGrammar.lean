import BehaviorTraits.Proofs.LineEnds
import BehaviorTraits.Proofs.Lines
import BehaviorTraits.Proofs.SteadyCode

/-!
# The grammar of actions

What a reader makes of the text of an action, said without the reader:

* `IsCall` is a method name, alone or with an argument text in parentheses behind it;
* `Pieces` are the arguments between the commas;
* `IsCell` is a pair of coordinates, which may have parentheses of its own around it.

Each reader finds just what the grammar gives (`call?_eq_some_iff`, `target?_eq_some_iff`), and
`action_grammar` says what becomes of a raw text.
-/

namespace BehaviorTraits

open Text

namespace Action

/-! ## Calls -/

/-- A name: an ASCII letter or an underscore, and then letters, digits and underscores. -/
structure IsName (cs : List Char) : Prop where
  head : ∃ c ∈ cs.head?, c.isAlpha = true ∨ c = '_'
  all : ∀ c ∈ cs, c.isAlphanum = true ∨ c = '_'

/-- The text calls the method: it is the name alone, or the name and, perhaps after blanks, an
argument text in parentheses that stays on one line. -/
inductive IsCall : List Char → List Char → List Char → Prop
  | bare {method : List Char} (hname : IsName method) : IsCall method method []
  | applied {method blanks inner : List Char} (hname : IsName method)
      (hblanks : ∀ c ∈ blanks, isBlank c = true) (hline : '\n' ∉ inner) :
      IsCall (method ++ (blanks ++ '(' :: (inner ++ [')']))) method inner

/-- The characters of a name are ASCII letters, digits and the underscore. -/
theorem isMethodChar_iff {c : Char} : isMethodChar c = true ↔ c.isAlphanum = true ∨ c = '_' := by
  rw [isMethodChar, Bool.or_eq_true, beq_iff_eq]

/-- A name begins with an ASCII letter or an underscore. -/
theorem isMethodStart_iff {c : Char} : isMethodStart c = true ↔ c.isAlpha = true ∨ c = '_' := by
  rw [isMethodStart, Bool.or_eq_true, beq_iff_eq]

/-- A blank ends a name. -/
theorem not_isMethodChar_of_isBlank {c : Char} (h : isBlank c = true) :
    isMethodChar c = false := by
  apply Bool.eq_false_iff.mpr
  intro hmethod
  rcases isMethodChar_iff.mp hmethod with hc | rfl
  · rw [not_isBlank_of_isAlphanum hc] at h
    cases h
  · exact absurd h (by decide)

/-- A name is read up to its end, if no other character of a name stands behind it. -/
theorem IsName.span {method : List Char} (h : IsName method) (rest : List Char)
    (hrest : ∀ c ∈ rest.head?, isMethodChar c = false) :
    (method ++ rest).takeWhile isMethodChar = method ∧
      (method ++ rest).dropWhile isMethodChar = rest := by
  have hall : ∀ c ∈ method, isMethodChar c = true := fun c hc => isMethodChar_iff.mpr (h.all c hc)
  rw [List.takeWhile_append_of_pos hall, List.dropWhile_append_of_pos hall]
  cases rest with
  | nil => simp
  | cons c rest =>
      have hc := hrest c rfl
      simp [hc]

/-- The first characters of a text are a name, if the first of them may begin one. -/
theorem isName_takeWhile {cs : List Char} (h : (cs.head?.map isMethodStart).getD false = true) :
    IsName (cs.takeWhile isMethodChar) := by
  cases cs with
  | nil => cases h
  | cons c cs =>
      have hstart : c.isAlpha = true ∨ c = '_' := isMethodStart_iff.mp h
      have hc : isMethodChar c = true := by
        apply isMethodChar_iff.mpr
        refine hstart.imp_left fun halpha => ?_
        change (c.isAlpha || c.isDigit) = true
        rw [halpha, Bool.true_or]
      refine ⟨⟨c, ?_, hstart⟩, fun d hd => isMethodChar_iff.mp (List.mem_takeWhile_imp hd)⟩
      rw [List.takeWhile_cons_of_pos hc]
      rfl

/-- What stands between the first parenthesis and the last one is found, whatever parentheses are
inside, if there is no line break in it. -/
theorem enclosed?_eq_some_iff {cs inner : List Char} :
    enclosed? cs = some inner ↔ cs = '(' :: (inner ++ [')']) ∧ '\n' ∉ inner := by
  constructor
  · intro h
    unfold enclosed? at h
    split at h
    · rename_i rest
      split at h
      · rename_i reversed hrest
        by_cases hline : '\n' ∈ reversed
        · rw [if_pos hline] at h
          cases h
        · rw [if_neg hline] at h
          cases h
          refine ⟨?_, fun hmem => hline (List.mem_reverse.mp hmem)⟩
          rw [← List.reverse_cons, ← hrest, List.reverse_reverse]
      · cases h
    · cases h
  · rintro ⟨rfl, hline⟩
    simp [enclosed?, hline]

/-- **What is read as a call is one.**  The arguments are taken without the blanks around them. -/
theorem isCall_of_call? {cs method rawArgs : List Char} (hcs : Trimmed cs)
    (h : call? cs = some (method, rawArgs)) :
    ∃ inner, IsCall cs method inner ∧ rawArgs = trimChars inner := by
  unfold call? at h
  by_cases hstart : (cs.head?.map isMethodStart).getD false = true
  · rw [if_pos hstart] at h
    have hname := isName_takeWhile hstart
    have hspan : cs = cs.takeWhile isMethodChar ++ cs.dropWhile isMethodChar :=
      List.takeWhile_append_dropWhile.symm
    obtain ⟨blanks, hblanks, hrest⟩ := exists_blanks (cs.dropWhile isMethodChar)
    dsimp only at h
    by_cases hnone : trimStartChars (cs.dropWhile isMethodChar) = []
    · -- only blanks are left behind the name, and a trimmed text does not end with one
      rw [if_pos hnone] at h
      rw [hnone, List.append_nil] at hrest
      rw [hrest] at hspan
      have hnil : blanks = [] := (hspan ▸ hcs : Trimmed (_ ++ blanks)).eq_nil_of_blank hblanks
      rw [hnil, List.append_nil] at hspan
      cases h
      refine ⟨[], ?_, rfl⟩
      nth_rewrite 1 [hspan]
      exact .bare hname
    · rw [if_neg hnone] at h
      obtain ⟨inner, hinner, heq⟩ := Option.map_eq_some_iff.mp h
      cases heq
      obtain ⟨hparens, hline⟩ := enclosed?_eq_some_iff.mp hinner
      refine ⟨inner, ?_, rfl⟩
      rw [hrest, hparens] at hspan
      nth_rewrite 1 [hspan]
      exact .applied hname hblanks hline
  · rw [if_neg hstart] at h
    cases h

/-- A text that begins with a name has a character in front that may begin one. -/
theorem IsName.starts {method : List Char} (h : IsName method) (rest : List Char) :
    ((method ++ rest).head?.map isMethodStart).getD false = true := by
  obtain ⟨c, hc, hfirst⟩ := h.head
  rw [List.head?_append, Option.mem_def.mp hc]
  exact isMethodStart_iff.mpr hfirst

/-- **Every call is read**, and in one way only. -/
theorem IsCall.call?_eq {cs method inner : List Char} (h : IsCall cs method inner) :
    call? cs = some (method, trimChars inner) := by
  cases h with
  | bare hname =>
      have hspan := hname.span [] (by simp)
      have hstarts := hname.starts []
      rw [List.append_nil] at hspan hstarts
      rw [call?, if_pos hstarts, hspan.1, hspan.2]
      rfl
  | @applied _ blanks _ hname hblanks hline =>
      have hbehind : ∀ c ∈ (blanks ++ '(' :: (inner ++ [')'])).head?, isMethodChar c = false := by
        intro c hc
        cases blanks with
        | nil =>
            cases hc
            decide
        | cons blank blanks =>
            cases hc
            exact not_isMethodChar_of_isBlank (hblanks _ List.mem_cons_self)
      have hparens : trimStartChars (blanks ++ '(' :: (inner ++ [')'])) =
          '(' :: (inner ++ [')']) := by
        have hopening : isBlank '(' = false := by decide
        rw [trimStartChars_append hblanks]
        exact List.dropWhile_cons_of_neg (by simp [hopening])
      have hspan := hname.span _ hbehind
      rw [call?, if_pos (hname.starts _), hspan.1, hspan.2, hparens]
      dsimp only
      rw [if_neg (by simp), enclosed?_eq_some_iff.mpr ⟨rfl, hline⟩]
      rfl

/-- An argument text stays on one line. -/
theorem IsCall.newLine_not_mem {cs method inner : List Char} (h : IsCall cs method inner) :
    '\n' ∉ inner := by
  cases h with
  | bare hname => exact List.not_mem_nil
  | applied hname hblanks hline => exact hline

/-- **A call is read as what it is**: its name, its arguments, and the kind that the name has. -/
theorem parse_of_isCall {raw : String} {method inner : List Char}
    (h : IsCall (trimChars raw.toList) method inner) :
    parse raw = ⟨String.ofList method, argsOf (trimChars inner), String.ofList (trimChars inner),
      .ofMethod (String.ofList method)⟩ := by
  rw [parse, h.call?_eq]

/-- What is no call is read as one unmapped name. -/
theorem parse_of_not_isCall {raw : String}
    (h : ∀ method inner, ¬ IsCall (trimChars raw.toList) method inner) :
    parse raw = ⟨trim raw, [], "", .unmapped⟩ := by
  have hnone : call? (trimChars raw.toList) = none := by
    apply Option.eq_none_iff_forall_not_mem.mpr
    rintro ⟨method, rawArgs⟩ hcall
    obtain ⟨inner, hcall, -⟩ := isCall_of_call? (trimmed_trimChars _) hcall
    exact h method inner hcall
  rw [parse, hnone, trim]

/-- The argument text of a call has no line break. -/
theorem newLine_not_mem_rawArgs (raw : String) : '\n' ∉ (parse raw).rawArgs.toList := by
  by_cases h : ∃ method inner, IsCall (trimChars raw.toList) method inner
  · obtain ⟨method, inner, hcall⟩ := h
    rw [parse_of_isCall hcall, String.toList_ofList]
    exact fun hmem => hcall.newLine_not_mem (trimChars_subset inner hmem)
  · rw [parse_of_not_isCall fun method inner hcall => h ⟨method, inner, hcall⟩]
    exact List.not_mem_nil

/-! ## Cells -/

/-- The text with nothing but blanks around it. -/
def Padded (cs : List Char) (s : String) : Prop :=
  ∃ v w, (∀ c ∈ v, isBlank c = true) ∧ (∀ c ∈ w, isBlank c = true) ∧ cs = v ++ (s.toList ++ w)

/-- Two coordinates with a comma between them, and perhaps with blanks around all of these. -/
structure IsPair (cs : List Char) (x y : String) : Prop where
  split : ∃ left right, cs = left ++ ',' :: right ∧ Padded left x ∧ Padded right y
  fst : Signed ['-'] isDecimalDigit x
  snd : Signed ['-'] isDecimalDigit y

/-- The text names a cell: it is a pair of coordinates, or one in parentheses. -/
inductive IsCell : List Char → String → String → Prop
  | plain {cs : List Char} {x y : String} (hpair : IsPair cs x y) : IsCell cs x y
  | enclosed {inner : List Char} {x y : String} (hpair : IsPair inner x y) :
      IsCell ('(' :: (inner ++ [')'])) x y

/-- **A coordinate** is an optional minus and then digits, at least one. -/
theorem isCoordinate_iff {cs : List Char} :
    isCoordinate cs = true ↔ Signed ['-'] isDecimalDigit (String.ofList cs) := by
  refine ⟨isCoordinate_signed, ?_⟩
  rintro ⟨digits, hne, hdigits, hcs⟩
  have hread : (!digits.isEmpty && digits.all isDecimalDigit) = true := by
    simp [hne, List.all_eq_true.mpr hdigits]
  rw [String.toList_ofList] at hcs
  unfold isCoordinate
  rcases hcs with rfl | ⟨sign, hsign, rfl⟩
  · have hhead : cs.head? ≠ some '-' := by
      intro hminus
      have hdigit := hdigits '-' (List.mem_of_head? hminus)
      exact absurd hdigit (by decide)
    dsimp only
    rw [if_neg hhead]
    exact hread
  · rw [List.mem_singleton] at hsign
    rw [hsign]
    exact hread

/-- No digit is blank. -/
theorem not_isBlank_of_isDecimalDigit {c : Char} (h : isDecimalDigit c = true) :
    isBlank c = false := by
  have hapart : ∀ blanks ∈ blankRanges, ∀ digits ∈ decimalDigitRanges,
      blanks.2 < digits.1 ∨ digits.2 < blanks.1 := by
    decide +kernel
  apply Bool.eq_false_iff.mpr
  intro hblank
  obtain ⟨blanks, hblanks, hfirst, hlast⟩ := CodeRanges.holds_iff.mp hblank
  obtain ⟨digits, hdigits, hfirst', hlast'⟩ := CodeRanges.holds_iff.mp h
  have := hapart blanks hblanks digits hdigits
  omega

section

variable {cs : List Char} {x y : String} {c : Char}

/-- A coordinate has no character in it but a minus and digits. -/
theorem not_mem_coordinate (h : Signed ['-'] isDecimalDigit x) (hminus : c ≠ '-')
    (hdigit : isDecimalDigit c = false) : c ∉ x.toList := by
  intro hmem
  refine h.forall_mem (p := (c ≠ ·)) ?_ ?_ c hmem rfl
  · intro sign hsign
    rw [List.mem_singleton.mp hsign]
    exact hminus
  · rintro d hd rfl
    rw [hd] at hdigit
    cases hdigit

/-- A coordinate has no blanks around it. -/
theorem trimmed_coordinate (h : Signed ['-'] isDecimalDigit x) : Trimmed x.toList := by
  have hminus : ∀ c ∈ ['-'], isBlank c = false := List.forall_mem_singleton.mpr (by decide)
  have hall : ∀ c ∈ x.toList, isBlank c = false :=
    h.forall_mem hminus fun _ => not_isBlank_of_isDecimalDigit
  exact ⟨fun c hc => hall c (List.mem_of_head? hc), fun c hc => hall c (List.mem_of_getLast? hc)⟩

/-- Padding brings in nothing but blanks. -/
theorem Padded.not_mem (h : Padded cs x) (hblank : isBlank c = false) (hc : c ∉ x.toList) :
    c ∉ cs := by
  obtain ⟨v, w, hv, hw, rfl⟩ := h
  have houtside : ∀ blanks : List Char, (∀ d ∈ blanks, isBlank d = true) → c ∉ blanks := by
    intro blanks hblanks hmem
    rw [hblanks c hmem] at hblank
    cases hblank
  rw [List.mem_append, List.mem_append, not_or, not_or]
  exact ⟨houtside v hv, hc, houtside w hw⟩

/-- **Taking a padded coordinate out of its blanks** is trimming. -/
theorem padded_iff (h : Signed ['-'] isDecimalDigit x) :
    Padded cs x ↔ String.ofList (trimChars cs) = x := by
  constructor
  · rintro ⟨v, w, hv, hw, rfl⟩
    rw [trimChars_surrounded hv hw, (trimmed_coordinate h).trimChars_eq, String.ofList_toList]
  · intro htrim
    obtain ⟨v, w, hv, hw, hcs⟩ := exists_surrounding cs
    refine ⟨v, w, hv, hw, ?_⟩
    rw [← htrim, String.toList_ofList]
    exact hcs

/-- A pair has no parenthesis in it, so that a text with one is no pair itself. -/
theorem IsPair.not_mem_opening (h : IsPair cs x y) : '(' ∉ cs := by
  obtain ⟨⟨left, right, rfl, hleft, hright⟩, hx, hy⟩ := h
  rw [List.mem_append, List.mem_cons, not_or, not_or]
  refine ⟨hleft.not_mem (by decide) ?_, by decide, hright.not_mem (by decide) ?_⟩
  · exact not_mem_coordinate hx (by decide) (by decide)
  · exact not_mem_coordinate hy (by decide) (by decide)

/-- **The reader finds just the pairs.** -/
theorem pair?_eq_some_iff : pair? cs = some (x, y) ↔ IsPair cs x y := by
  constructor
  · intro h
    unfold pair? at h
    split at h
    · rename_i x' y' hpieces
      split at h
      · rename_i hcoordinates
        rw [Bool.and_eq_true, isCoordinate_iff, isCoordinate_iff] at hcoordinates
        cases h
        obtain ⟨left, rest, hsplit, rfl, hrest⟩ := List.map_eq_cons_iff.mp hpieces
        obtain ⟨right, none, rfl, rfl, hnone⟩ := List.map_eq_cons_iff.mp hrest
        rw [List.map_eq_nil_iff.mp hnone, splitAtChar_eq_iff] at hsplit
        refine ⟨⟨left, right, ?_, ?_, ?_⟩, hcoordinates.1, hcoordinates.2⟩
        · rw [← hsplit.joined]
          simp
        · exact (padded_iff hcoordinates.1).mpr rfl
        · exact (padded_iff hcoordinates.2).mpr rfl
      · cases h
    · cases h
  · rintro ⟨⟨left, right, rfl, hleft, hright⟩, hx, hy⟩
    have hcomma : ',' ∉ left :=
      hleft.not_mem (by decide) (not_mem_coordinate hx (by decide) (by decide))
    have hcomma' : ',' ∉ right :=
      hright.not_mem (by decide) (not_mem_coordinate hy (by decide) (by decide))
    rw [padded_iff hx] at hleft
    rw [padded_iff hy] at hright
    rw [← hleft, ← isCoordinate_iff] at hx
    rw [← hright, ← isCoordinate_iff] at hy
    rw [pair?, splitAtChar_append, splitAtChar_of_not_mem hcomma, splitAtChar_of_not_mem hcomma']
    simp only [List.singleton_append, List.map_cons, List.map_nil]
    rw [hx, hy, hleft, hright]
    rfl

end

/-- **The reader finds just the cells**, in a text of one line. -/
theorem target?_eq_some_iff {rawArgs x y : String} (hline : '\n' ∉ rawArgs.toList) :
    target? rawArgs = some (x, y) ↔ IsCell rawArgs.toList x y := by
  generalize hcs : rawArgs.toList = cs at hline
  rw [target?, hcs]
  constructor
  · intro h
    cases hinner : enclosed? cs with
    | none =>
        rw [hinner, Option.getD_none, pair?_eq_some_iff] at h
        exact .plain h
    | some inner =>
        rw [hinner, Option.getD_some, pair?_eq_some_iff] at h
        rw [(enclosed?_eq_some_iff.mp hinner).1]
        exact .enclosed h
  · intro h
    cases h with
    | plain hpair =>
        have hnone : enclosed? cs = none := by
          apply Option.eq_none_iff_forall_not_mem.mpr
          intro inner hinner
          apply hpair.not_mem_opening
          rw [(enclosed?_eq_some_iff.mp hinner).1]
          exact List.mem_cons_self
        rw [hnone, Option.getD_none, pair?_eq_some_iff]
        exact hpair
    | @enclosed inner _ _ hpair =>
        have hsome : enclosed? ('(' :: (inner ++ [')'])) = some inner := by
          apply enclosed?_eq_some_iff.mpr
          refine ⟨rfl, fun hmem => hline ?_⟩
          exact List.mem_cons_of_mem _ (List.mem_append_left _ hmem)
        rw [hsome, Option.getD_some, pair?_eq_some_iff]
        exact hpair

/-! ## Actions -/

/-- The arguments are the pieces between the commas, without the blanks around them and without
those that are nothing else. -/
theorem argsOf_eq {rawArgs : List Char} {pieces : List (List Char)}
    (h : Pieces ',' rawArgs pieces) :
    argsOf rawArgs = ((pieces.map trimChars).filter (· ≠ [])).map String.ofList := by
  rw [argsOf, splitAtChar_eq_iff.mpr h]
  congr 1
  apply List.filter_congr
  intro piece _
  cases piece with
  | nil => rfl
  | cons c cs => rfl

/-- The case of a name does not matter for the kind of an action. -/
theorem ofMethod_congr {method method' : List Char}
    (h : method'.map Char.toLower = method.map Char.toLower) :
    ActionKind.ofMethod (String.ofList method') = ActionKind.ofMethod (String.ofList method) := by
  have hlower : lowerAscii (String.ofList method') = lowerAscii (String.ofList method) := by
    rw [lowerAscii, lowerAscii, String.toList_ofList, String.toList_ofList, h]
  rw [ActionKind.ofMethod, hlower, ActionKind.ofMethod]

/-- The line that sends the actor to a cell. -/
def cellLine (x y : String) : String :=
  "self.QueueActivity(new Move(self, new CPos(" ++ x ++ ", " ++ y ++ ")));"

/-- The lines of a move without a cell. -/
def stayLines (rawArgs : String) : List String :=
  ["// WARNING: move target '" ++ rawArgs ++ "' is not a coordinate pair, staying in place",
    "self.QueueActivity(new Move(self, self.Location));"]

/-- The coordinates can be read off the line, as they have no comma. -/
theorem cellLine_inj {x y x' y' : String} (hx : ',' ∉ x.toList) (hy : ',' ∉ y.toList)
    (h : cellLine x y = cellLine x' y') : x = x' ∧ y = y' := by
  unfold cellLine at h
  rw [String.append_left_inj, String.append_assoc, String.append_assoc, String.append_assoc,
    String.append_assoc, String.append_right_inj, ← String.toList_inj] at h
  simp only [String.toList_append] at h
  have hblank : ',' ∉ ' ' :: y.toList := by
    rw [List.mem_cons, not_or]
    exact ⟨by decide, hy⟩
  obtain ⟨hfst, hsnd⟩ := eq_of_append_separator hx hblank h
  exact ⟨String.toList_inj.mp hfst, String.toList_inj.mp (List.cons.inj hsnd).2⟩

/-- What a move becomes, with a cell and without. -/
theorem codeTexts_move {raw : String} (hkind : (parse raw).kind = .move) (b : Hook.Builder) :
    Hook.codeTexts raw b =
      ((target? (parse raw).rawArgs).map fun cell => [cellLine cell.1 cell.2]).getD
        (stayLines (parse raw).rawArgs) := by
  rw [Hook.codeTexts, Hook.codeOf_result, Hook.codeFor, hkind]
  cases target? (parse raw).rawArgs with
  | none => rfl
  | some cell => rfl

/-- **A move goes to the cell that it names**, and stays where it names none. -/
theorem codeTexts_move_iff {raw : String} (hkind : (parse raw).kind = .move) (b : Hook.Builder) :
    (∀ x y, Hook.codeTexts raw b = [cellLine x y] ↔ IsCell (parse raw).rawArgs.toList x y) ∧
      ((∀ x y, ¬ IsCell (parse raw).rawArgs.toList x y) →
        Hook.codeTexts raw b = stayLines (parse raw).rawArgs) := by
  have hcell : ∀ x y, target? (parse raw).rawArgs = some (x, y) ↔
      IsCell (parse raw).rawArgs.toList x y :=
    fun _ _ => target?_eq_some_iff (newLine_not_mem_rawArgs raw)
  rw [codeTexts_move hkind]
  cases htarget : target? (parse raw).rawArgs with
  | none =>
      refine ⟨fun x y => ?_, fun _ => rfl⟩
      rw [← hcell, htarget]
      exact iff_of_false (by simp [stayLines]) (by simp)
  | some cell =>
      obtain ⟨x, y⟩ := cell
      refine ⟨fun x' y' => ?_, fun hnone => absurd ((hcell x y).mp htarget) (hnone x y)⟩
      rw [← hcell, htarget, Option.some_inj, Prod.mk.injEq, Option.map_some, Option.getD_some,
        List.singleton_inj]
      obtain ⟨hx, hy⟩ := target?_signed htarget
      constructor
      · exact cellLine_inj (not_mem_coordinate hx (by decide) (by decide))
          (not_mem_coordinate hy (by decide) (by decide))
      · rintro ⟨rfl, rfl⟩
        rfl

/-- **The grammar of actions.**  A text is read as a call just if, without the blanks around it, it
is one.  Then the reader gives its name, its arguments without the blanks around them, and the
pieces between the commas that are not blank; the kind depends on the name, whatever its case.  A
text that is no call is taken as a whole and unmapped.  A move goes to a cell just if its arguments
name it, with the coordinates as they are written there; all other moves are remarked and stay. -/
theorem action_grammar (raw : String) :
    ((call? (trimChars raw.toList)).isSome = true ↔
      ∃ method inner, IsCall (trimChars raw.toList) method inner) ∧
    (∀ method inner, IsCall (trimChars raw.toList) method inner →
      (parse raw).method = String.ofList method ∧
      (parse raw).rawArgs = String.ofList (trimChars inner) ∧
      (∃ pieces, Pieces ',' (trimChars inner) pieces ∧
        (parse raw).args = ((pieces.map trimChars).filter (· ≠ [])).map String.ofList) ∧
      (parse raw).kind = .ofMethod (String.ofList method) ∧
      ∀ raw' method' inner', IsCall (trimChars raw'.toList) method' inner' →
        method'.map Char.toLower = method.map Char.toLower →
        (parse raw').kind = (parse raw).kind) ∧
    ((∀ method inner, ¬ IsCall (trimChars raw.toList) method inner) →
      parse raw = ⟨trim raw, [], "", .unmapped⟩) ∧
    ((parse raw).kind = .move → ∀ b : Hook.Builder,
      (∀ x y, Hook.codeTexts raw b = [cellLine x y] ↔ IsCell (parse raw).rawArgs.toList x y) ∧
      ((∀ x y, ¬ IsCell (parse raw).rawArgs.toList x y) →
        Hook.codeTexts raw b = stayLines (parse raw).rawArgs)) := by
  refine ⟨?_, ?_, parse_of_not_isCall, codeTexts_move_iff⟩
  · rw [Option.isSome_iff_exists]
    constructor
    · rintro ⟨⟨method, rawArgs⟩, hread⟩
      obtain ⟨inner, hcall, -⟩ := isCall_of_call? (trimmed_trimChars _) hread
      exact ⟨method, inner, hcall⟩
    · rintro ⟨method, inner, hcall⟩
      exact ⟨_, hcall.call?_eq⟩
  · intro method inner hcall
    have hpieces := pieces_splitAtChar ',' (trimChars inner)
    rw [parse_of_isCall hcall]
    refine ⟨rfl, rfl, ⟨_, hpieces, argsOf_eq hpieces⟩, rfl, ?_⟩
    intro raw' method' inner' hcall' hmethod
    rw [parse_of_isCall hcall']
    exact ofMethod_congr hmethod

/-- A move to a cell with parentheses of its own, and one in which these do not match. -/
theorem action_grammar_moves :
    ((parse "MoveTo((3, -4))").kind = .move ∧
      IsCell (parse "MoveTo((3, -4))").rawArgs.toList "3" "-4" ∧
      ∀ b, Hook.codeTexts "MoveTo((3, -4))" b = [cellLine "3" "-4"]) ∧
    ((parse "move((3, -4)").kind = .move ∧
      (∀ x y, ¬ IsCell (parse "move((3, -4)").rawArgs.toList x y) ∧
      ∀ b, Hook.codeTexts "move((3, -4)" b = stayLines "(3, -4") := by
  have hkind : (parse "MoveTo((3, -4))").kind = .move := by decide
  have hcell : IsCell (parse "MoveTo((3, -4))").rawArgs.toList "3" "-4" :=
    (target?_eq_some_iff (newLine_not_mem_rawArgs _)).mp (by decide)
  have hkind' : (parse "move((3, -4)").kind = .move := by decide
  have hnone : ∀ x y, ¬ IsCell (parse "move((3, -4)").rawArgs.toList x y := by
    intro x y hcell
    have htarget := (target?_eq_some_iff (newLine_not_mem_rawArgs _)).mpr hcell
    rw [show target? (parse "move((3, -4)").rawArgs = none by decide] at htarget
    cases htarget
  refine ⟨⟨hkind, hcell, fun b => ?_⟩, hkind', hnone, fun b => ?_⟩
  · exact (((action_grammar "MoveTo((3, -4))").2.2.2 hkind b).1 "3" "-4").mpr hcell
  · exact ((action_grammar "move((3, -4)").2.2.2 hkind' b).2 hnone

example : (parse "MoveTo ((٣ , -4))").rawArgs = "(٣ , -4)" ∧
    target? "(٣ , -4)" = some ("٣", "-4") ∧ target? "((1,2))" = none ∧ target? "(1,2" = none := by
  decide

end Action

end BehaviorTraits
