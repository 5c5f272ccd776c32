import BehaviorTraits.Proofs.FileAgreement
import BehaviorTraits.Proofs.Trimmed

/-!
# Class names

A class name is made in two passes: the words of a text are run together, each with its first
character in upper case, and then all but ASCII letters and digits is dropped.  So the first
character that is left need not be the one that was put in upper case.  In `.json` the point opens
the word, and the class name is `json`.

* `exists_low_start`: a class name begins with a small letter only if this letter stands inside a
  word of the text, behind characters of which nothing is left.
* `className_of_word`: a class name is itself a text with a class name, the same one in upper case.
* `class_names_steady_iff` puts this together, and `keyword_from_suffix` has a text whose class name
  is a keyword.
-/

namespace BehaviorTraits

namespace Text

/-! ## Upper case -/

/-- The lower-case letters are those from `a` to `z`. -/
theorem isLower_iff (c : Char) : c.isLower = true ↔ 97 ≤ c.toNat ∧ c.toNat ≤ 122 := by
  change (c.val ≥ 97 && c.val ≤ 122) = true ↔ _
  simp only [Bool.and_eq_true, decide_eq_true_eq, ge_iff_le, UInt32.le_iff_toNat_le]
  rfl

/-- A number that is not that of a small letter gives none. -/
theorem not_isLower_ofNat {n : Nat} (h : n < 97 ∨ 122 < n) : (Char.ofNat n).isLower = false := by
  apply Bool.eq_false_iff.mpr
  intro hlower
  rw [isLower_iff] at hlower
  by_cases hvalid : n.isValidChar
  · have hchar : Char.ofNat n = Char.ofNatAux n hvalid := dif_pos hvalid
    have hcode : (Char.ofNatAux n hvalid).toNat = n := rfl
    rw [hchar, hcode] at hlower
    omega
  · have hchar : Char.ofNat n = Char.ofNat 0 := dif_neg hvalid
    rw [hchar] at hlower
    exact absurd hlower (by decide)

/-- The images of a run lie between those of its ends. -/
theorem image?_bounds {run : CaseRun} {n m : Nat} (h : run.image? n = some m) :
    (m : Int) ≤ max 0 (run.last + run.shift) ∧ run.first + run.shift ≤ (m : Int) := by
  unfold CaseRun.image? at h
  split at h
  · cases h
    omega
  · cases h

/-- **Upper case has no small letters** of ASCII in it, whatever the character was. -/
theorem not_isLower_upperChar {c d : Char} (h : d ∈ upperChar c) : d.isLower = false := by
  by_cases hc : c.toNat < 0x80
  · have hall : ∀ n < 0x80, (Char.ofNat n).toUpper.isLower = false := by decide +kernel
    have hd := hall c.toNat hc
    rw [Char.ofNat_toNat] at hd
    rw [upperChar, if_pos hc, List.mem_singleton] at h
    rw [h, hd]
  · have hexpansions : upperExpansions.all (fun entry => entry.2.all fun n =>
        decide (n < 97 ∨ 122 < n)) = true := by decide +kernel
    have hruns : upperRuns.all (fun run =>
        decide (run.last + run.shift < 97 ∨ 122 < run.first + run.shift)) = true := by
      decide +kernel
    rcases mem_upperChar hc h with rfl | ⟨n, rfl, ⟨entry, hentry, hn⟩ | ⟨run, hrun, himage⟩⟩
    · apply Bool.eq_false_iff.mpr
      intro hlower
      rw [isLower_iff] at hlower
      omega
    · have hentry := List.all_eq_true.mp hexpansions entry hentry
      have hn := List.all_eq_true.mp hentry n hn
      exact not_isLower_ofNat (decide_eq_true_eq.mp hn)
    · have hrun := decide_eq_true_eq.mp (List.all_eq_true.mp hruns run hrun)
      have hbounds := image?_bounds himage
      apply not_isLower_ofNat
      omega

/-! ## Where the characters of a class name come from -/

/-- Does a word open behind these characters, when one would open (or not) before them? -/
def opensBehind (opens : Bool) (before : List Char) : Bool :=
  (before.getLast?.map isWordSeparator).getD opens

/-- Past a character, a word opens just if that character separates words. -/
theorem opensBehind_cons (opens : Bool) (c : Char) (before : List Char) :
    opensBehind opens (c :: before) = opensBehind (isWordSeparator c) before := by
  unfold opensBehind
  rw [List.getLast?_cons]
  cases before.getLast? <;> rfl

/-- What a text leaves is what its parts leave. -/
theorem pascalChars_append (opens : Bool) (before rest : List Char) :
    pascalChars opens (before ++ rest) =
      pascalChars opens before ++ pascalChars (opensBehind opens before) rest := by
  induction before generalizing opens with
  | nil => rfl
  | cons c before ih =>
      rw [List.cons_append, pascalChars, pascalChars, opensBehind_cons]
      by_cases hc : isWordSeparator c = true
      · rw [if_pos hc, if_pos hc, ih, hc]
      · rw [if_neg hc, if_neg hc, ih, Bool.eq_false_iff.mpr hc, List.append_assoc]

/-- No letter or digit separates words. -/
theorem not_isWordSeparator_of_isAlphanum {c : Char} (h : c.isAlphanum = true) :
    isWordSeparator c = false :=
  forall_alphanum (P := fun c => isWordSeparator c = false) (by decide +kernel) h

/-- **A small letter comes first only from inside a word.**  If the first letter or digit that is
left is a small letter, then it stands in the text, behind characters of which nothing is left, and
does not open a word. -/
theorem exists_low_start {opens : Bool} {cs : List Char} {low : Char} {rest : List Char}
    (hkept : (pascalChars opens cs).filter Char.isAlphanum = low :: rest)
    (hlow : low.isLower = true) :
    ∃ before after, cs = before ++ low :: after ∧
      (pascalChars opens before).filter Char.isAlphanum = [] ∧
      opensBehind opens before = false := by
  induction cs generalizing opens with
  | nil => cases hkept
  | cons c cs ih =>
      rw [pascalChars] at hkept
      by_cases hc : isWordSeparator c = true
      · rw [if_pos hc] at hkept
        obtain ⟨before, after, rfl, hnone, hopens⟩ := ih hkept
        refine ⟨c :: before, after, rfl, ?_, ?_⟩
        · rw [pascalChars, if_pos hc, hnone]
        · rw [opensBehind_cons, hc, hopens]
      · rw [if_neg hc, List.filter_append] at hkept
        cases hpiece : (if opens then upperChar c else [c]).filter Char.isAlphanum with
        | nil =>
            rw [hpiece, List.nil_append] at hkept
            obtain ⟨before, after, rfl, hnone, hopens⟩ := ih hkept
            refine ⟨c :: before, after, rfl, ?_, ?_⟩
            · rw [pascalChars, if_neg hc, List.filter_append, hpiece, hnone]
              rfl
            · rw [opensBehind_cons, Bool.eq_false_iff.mpr hc, hopens]
        | cons d ds =>
            rw [hpiece, List.cons_append] at hkept
            obtain ⟨rfl, -⟩ := List.cons.inj hkept
            have hd : d ∈ (if opens then upperChar c else [c]) :=
              List.mem_of_mem_filter (hpiece ▸ List.mem_cons_self)
            cases opens with
            | true =>
                -- where a word opens there is no small letter
                rw [not_isLower_upperChar hd] at hlow
                cases hlow
            | false =>
                obtain rfl : d = c := List.mem_singleton.mp hd
                exact ⟨[], cs, rfl, rfl, rfl⟩

/-- What is left of a word is the word, with its first character in upper case. -/
theorem pascalCase_word {s : String} (h : Word s) : pascalCase s = capitalize s := by
  have hinside : ∀ cs : List Char, (∀ c ∈ cs, c.isAlphanum = true) → pascalChars false cs = cs := by
    intro cs hcs
    induction cs with
    | nil => rfl
    | cons c cs ih =>
        obtain ⟨hc, hcs⟩ := List.forall_mem_cons.mp hcs
        rw [pascalChars, not_isWordSeparator_of_isAlphanum hc, ih hcs]
        rfl
  unfold pascalCase capitalize
  cases hs : s.toList with
  | nil => rfl
  | cons c cs =>
      have hall := h.2
      rw [hs] at hall
      obtain ⟨hc, hcs⟩ := List.forall_mem_cons.mp hall
      rw [pascalChars, not_isWordSeparator_of_isAlphanum hc, hinside cs hcs]
      rfl

/-- A word has nothing around it to trim. -/
theorem trim_word {s : String} (h : Word s) : trim s = s := by
  have htrimmed : Trimmed s.toList := by
    constructor
    · intro c hc
      exact not_isBlank_of_isAlphanum (h.2 c (List.mem_of_mem_head? hc))
    · intro c hc
      exact not_isBlank_of_isAlphanum (h.2 c (List.mem_of_mem_getLast? hc))
  rw [trim, htrimmed.trimChars_eq, String.ofList_toList]

/-- A word loses no character when others than letters and digits are dropped. -/
theorem alphanumerics_word {s : String} (h : Word s) : alphanumerics s = s := by
  rw [alphanumerics, List.filter_eq_self.mpr h.2, String.ofList_toList]

/-- A word that begins with no digit begins with a small letter or with a capital. -/
theorem word_head {s : String} (h : Word s) (hdigit : startsWithDigit s = false) :
    ∃ c cs, s.toList = c :: cs ∧ c.isAlphanum = true ∧ c.isLower = !c.isUpper := by
  unfold startsWithDigit at hdigit
  cases hs : s.toList with
  | nil => exact absurd (String.toList_eq_nil_iff.mp hs) h.1
  | cons c cs =>
      have hc : c.isAlphanum = true := h.2 c (hs ▸ List.mem_cons_self)
      have hcase : c.isDigit = false → c.isLower = !c.isUpper :=
        forall_alphanum (P := fun c => c.isDigit = false → c.isLower = !c.isUpper)
          (by decide +kernel) hc
      rw [hs] at hdigit
      exact ⟨c, cs, rfl, hc, hcase hdigit⟩

/-- **Only a small letter is changed** when a word gets a capital. -/
theorem capitalize_eq_self_iff {s : String} (h : Word s) (hdigit : startsWithDigit s = false) :
    capitalize s = s ↔ CapitalWord s := by
  constructor
  · intro hself
    rw [← hself]
    exact capitalWord_capitalize h hdigit
  · intro hcapital
    obtain ⟨c, cs, hs, hc, -⟩ := word_head h hdigit
    have hhead := hcapital.head
    have hupper : c.isUpper = true → upperChar c = [c] :=
      forall_alphanum (P := fun c => c.isUpper = true → upperChar c = [c]) (by decide +kernel) hc
    rw [hs] at hhead
    unfold capitalize
    rw [hs]
    dsimp only
    rw [hupper hhead, List.singleton_append, ← hs, String.ofList_toList]

/-- A name that begins with a capital is never refused for a digit. -/
theorem CapitalWord.startsWithDigit_eq {s : String} (h : CapitalWord s) :
    startsWithDigit s = false := by
  obtain ⟨hword, hhead⟩ := h
  unfold startsWithDigit
  cases hs : s.toList with
  | nil => rfl
  | cons c cs =>
      rw [hs] at hhead
      exact forall_alphanum (P := fun c => c.isUpper = true → c.isDigit = false) (by decide +kernel)
        (hword.2 c (hs ▸ List.mem_cons_self)) hhead

end Text

open Text

/-- When a text has a class name. -/
theorem className_eq_ok_iff {name letters : String} :
    className name = .ok letters ↔ alphanumerics (pascalCase (trim name)) = letters ∧
      letters ≠ "" ∧ startsWithDigit letters = false := by
  unfold className
  generalize alphanumerics (pascalCase (trim name)) = kept
  dsimp only
  constructor
  · intro h
    by_cases hempty : kept = ""
    · rw [if_pos hempty] at h
      cases h
    · by_cases hdigit : startsWithDigit kept = true
      · rw [if_neg hempty, if_pos hdigit] at h
        cases h
      · rw [if_neg hempty, if_neg hdigit] at h
        cases h
        exact ⟨rfl, hempty, Bool.eq_false_iff.mpr hdigit⟩
  · rintro ⟨rfl, hsome, hdigit⟩
    rw [if_neg hsome, hdigit]
    rfl

/-- **A class name in turn** has a class name, the one that begins with its capital. -/
theorem className_of_word {s : String} (h : Word s) (hdigit : startsWithDigit s = false) :
    className s = .ok (capitalize s) := by
  have hcapital := capitalWord_capitalize h hdigit
  rw [className_eq_ok_iff, trim_word h, pascalCase_word h, alphanumerics_word hcapital.word]
  exact ⟨rfl, hcapital.word.1, hcapital.startsWithDigit_eq⟩

/-- The first character that a class name keeps of the text is a small letter inside a word: nothing
is left of what stands before it, and no word ends there. -/
def StartsInside (name : String) : Prop :=
  ∃ before low after, trimChars name.toList = before ++ low :: after ∧
    alphanumerics (pascalCase (String.ofList before)) = "" ∧
    (∃ c ∈ before.getLast?, isWordSeparator c = false) ∧ low.isLower = true

/-- **When a class name begins with a capital.** -/
theorem capitalWord_iff {name letters : String} (h : className name = .ok letters) :
    CapitalWord letters ↔ ¬ StartsInside name := by
  have hword := word_className h
  obtain ⟨hletters, -, hdigit⟩ := className_eq_ok_iff.mp h
  have hkept : letters.toList =
      (pascalChars true (trimChars name.toList)).filter Char.isAlphanum := by
    rw [← hletters]
    simp [alphanumerics, pascalCase, trim]
  obtain ⟨c, cs, hs, -, hcase⟩ := word_head hword hdigit
  have hcapital : CapitalWord letters ↔ c.isLower = false := by
    have hhead : letters.toList.head?.any Char.isUpper = c.isUpper := by rw [hs]; rfl
    rw [hcase, Bool.not_eq_false', ← hhead]
    exact ⟨CapitalWord.head, CapitalWord.mk hword⟩
  rw [hcapital, ← Bool.not_eq_true, not_iff_not]
  rw [hs] at hkept
  constructor
  · intro hlow
    obtain ⟨before, after, htext, hnone, hopens⟩ := exists_low_start hkept.symm hlow
    refine ⟨before, c, after, htext, ?_, ?_, hlow⟩
    · rw [alphanumerics, pascalCase, String.toList_ofList, String.toList_ofList, hnone]
    · -- something stands before the letter, since a word opens at the start
      cases hlast : before.getLast? with
      | none => simp [opensBehind, hlast] at hopens
      | some d => exact ⟨d, rfl, by simpa [opensBehind, hlast] using hopens⟩
  · rintro ⟨before, low, after, htext, hnone, ⟨d, hd, hsep⟩, hlow⟩
    have hbefore : (pascalChars true before).filter Char.isAlphanum = [] := by
      simpa [alphanumerics, pascalCase] using hnone
    have hinside : opensBehind true before = false := by
      rw [opensBehind, Option.mem_def.mp hd]
      exact hsep
    have halphanum : low.isAlphanum = true := by
      change (low.isUpper || low.isLower || low.isDigit) = true
      rw [hlow, Bool.or_true, Bool.true_or]
    have hfirst : (pascalChars false (low :: after)).filter Char.isAlphanum =
        low :: (pascalChars false after).filter Char.isAlphanum := by
      rw [pascalChars, not_isWordSeparator_of_isAlphanum halphanum]
      simp [halphanum]
    rw [htext, pascalChars_append, hinside, List.filter_append, hbefore, hfirst] at hkept
    rw [(List.cons.inj hkept).1]
    exact hlow

/-- The words that are reserved in the language of the generated source. -/
def keywords : List String :=
  ["abstract", "as", "base", "bool", "break", "byte", "case", "catch", "char", "checked", "class",
    "const", "continue", "decimal", "default", "delegate", "do", "double", "else", "enum", "event",
    "explicit", "extern", "false", "finally", "fixed", "float", "for", "foreach", "goto", "if",
    "implicit", "in", "int", "interface", "internal", "is", "lock", "long", "namespace", "new",
    "null", "object", "operator", "out", "override", "params", "private", "protected", "public",
    "readonly", "ref", "return", "sbyte", "sealed", "short", "sizeof", "stackalloc", "static",
    "string", "struct", "switch", "this", "throw", "true", "try", "typeof", "uint", "ulong",
    "unchecked", "unsafe", "ushort", "using", "virtual", "void", "volatile", "while"]

/-- No keyword begins with a capital. -/
theorem Text.CapitalWord.not_keyword {s : String} (h : CapitalWord s) : s ∉ keywords := by
  have hall : keywords.all (fun word => word.toList.head?.any Char.isUpper == false) = true := by
    decide +kernel
  intro hmem
  have hs := List.all_eq_true.mp hall s hmem
  rw [h.head] at hs
  cases hs

/-- **When class names are in Pascal case and stay as they are.**  Every class name consists of
ASCII letters and digits and begins with a letter, and has itself a class name, the one with a
capital at its start.  It begins with a capital, and so is no keyword, and is its own class name,
unless the text starts inside a word. -/
theorem class_names_steady_iff {name letters : String} (h : className name = .ok letters) :
    Word letters ∧ startsWithDigit letters = false ∧
      className letters = .ok (capitalize letters) ∧
      (CapitalWord letters → letters ∉ keywords) ∧
      (CapitalWord letters ↔ ¬ StartsInside name) ∧
      (className letters = .ok letters ↔ ¬ StartsInside name) := by
  have hword := word_className h
  have hdigit := (className_eq_ok_iff.mp h).2.2
  have hagain := className_of_word hword hdigit
  refine ⟨hword, hdigit, hagain, fun hcapital => hcapital.not_keyword, capitalWord_iff h, ?_⟩
  rw [hagain, Except.ok.injEq, capitalize_eq_self_iff hword hdigit, capitalWord_iff h]

theorem class_names_steady_iff_flee :
    className " flee-behavior" = .ok "FleeBehavior" ∧
      className "FleeBehavior" = .ok "FleeBehavior" := by
  have h : className " flee-behavior" = .ok "FleeBehavior" := by decide +kernel
  obtain ⟨hword, -, -, -, hcapital, hagain⟩ := class_names_steady_iff h
  exact ⟨h, hagain.mpr (hcapital.mp ⟨hword, by decide⟩)⟩

/-- **A keyword as a class name.**  The point opens the word, and is dropped. -/
theorem keyword_from_suffix :
    className ".class" = .ok "class" ∧ "class" ∈ keywords ∧ className "class" = .ok "Class" := by
  decide +kernel

end BehaviorTraits
