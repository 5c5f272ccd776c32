import BehaviorTraits.Proofs.DeclaredFields
import BehaviorTraits.Proofs.TreeDemands

/-!
# Names with nothing but a number

A text without an ASCII letter or digit gets the number of fields that are there for its name.  Such
a name is new unless another text has led to it before, and only three spellings lead to it: the
number alone, or behind `param` or `Param` (`nameFor_eq_numbered_iff`).

A number that was given out is below the number of fields from then on.  So of the numbers that are
still to come, those are taken that an earlier text has spelled out, and no others
(`mem_numbered_iff`, from the invariant `Ahead`).

* `nameless_demand_new_iff`: a text without a letter or digit makes a new field if and only if no
  text before it spells the number of fields.
-/

namespace BehaviorTraits

open Text

namespace FieldDecl

/-! ## Texts that spell a number -/

/-- The letters and digits that lead to the name with this number. -/
def spellings (n : Nat) : List String :=
  [toString n, "param" ++ toString n, "Param" ++ toString n]

/-- A letter or digit becomes a `P` if it is one, of either case. -/
theorem toUpper_eq_capital_p {c : Char} (hc : c.isAlphanum = true) :
    c.toUpper = 'P' ↔ c = 'p' ∨ c = 'P' :=
  forall_alphanum (P := fun c => c.toUpper = 'P' ↔ c = 'p' ∨ c = 'P') (by decide +kernel) hc

/-- A word becomes a numbered name if it is one, with a first letter of either case. -/
theorem capitalize_eq_numbered_iff {s : String} (hs : Word s) (n : Nat) :
    capitalize s = numbered n ↔ s = "param" ++ toString n ∨ s = "Param" ++ toString n := by
  have hsmall : ("param" ++ toString n).toList = 'p' :: ("aram".toList ++ (toString n).toList) :=
    String.toList_append
  have hlarge : ("Param" ++ toString n).toList = 'P' :: ("aram".toList ++ (toString n).toList) :=
    String.toList_append
  simp only [numbered, ← String.toList_inj]
  rw [hsmall, hlarge, capitalize]
  cases hcs : s.toList with
  | nil => exact absurd (String.toList_eq_nil_iff.mp hcs) hs.1
  | cons c cs =>
      have hc : c.isAlphanum = true := hs.2 c (hcs ▸ List.mem_cons_self)
      have hupper : upperChar c = [c.toUpper] := if_pos (toNat_lt_of_isAlphanum hc)
      dsimp only
      rw [String.toList_ofList, hupper, List.singleton_append, List.cons.injEq, List.cons.injEq,
        List.cons.injEq, toUpper_eq_capital_p hc]
      exact or_and_right

/-- Whether a text begins with a digit is decided by its beginning. -/
theorem startsWithDigit_append {s : String} (hs : s ≠ "") (t : String) :
    startsWithDigit (s ++ t) = startsWithDigit s := by
  unfold startsWithDigit
  rw [String.toList_append]
  cases hcs : s.toList with
  | nil => exact absurd (String.toList_eq_nil_iff.mp hcs) hs
  | cons c cs => rfl

/-- **Which texts lead to a number**, among those that have a letter or digit. -/
theorem nameFor_eq_numbered_iff {raw : String} (hraw : isNameable raw = true) (count n : Nat) :
    nameFor count raw = numbered n ↔ alphanumerics raw ∈ spellings n := by
  have hletters := (alphanumerics_ne_empty_iff raw).mpr hraw
  have hword := word_alphanumerics hletters
  unfold nameFor spellings
  dsimp only
  rw [if_neg hletters, List.mem_cons, List.mem_pair]
  generalize alphanumerics raw = letters at hword
  by_cases hdigit : startsWithDigit letters = true
  · -- such letters stay as they are, so they are the number
    have hbehind : ¬ (letters = "param" ++ toString n ∨ letters = "Param" ++ toString n) := by
      rintro (rfl | rfl)
      · rw [startsWithDigit_append (by decide)] at hdigit
        exact absurd hdigit (by decide)
      · rw [startsWithDigit_append (by decide)] at hdigit
        exact absurd hdigit (by decide)
    rw [if_pos hdigit, numbered, or_iff_left hbehind]
    exact String.append_right_inj "Param"
  · have halone : letters ≠ toString n := by
      rintro rfl
      exact hdigit (startsWithDigit_toString n)
    rw [if_neg hdigit, capitalize_eq_numbered_iff hword, or_iff_right halone]

/-- A text that spells a number has a letter or digit. -/
theorem isNameable_of_spelling {raw : String} {n : Nat} (h : alphanumerics raw ∈ spellings n) :
    isNameable raw = true := by
  rw [← alphanumerics_ne_empty_iff]
  intro hempty
  rw [hempty, spellings, List.mem_cons, List.mem_pair] at h
  rcases h with h | h | h
  · exact (word_repr n).1 h.symm
  · exact absurd (String.append_eq_empty_iff.mp h.symm).1 (by decide)
  · exact absurd (String.append_eq_empty_iff.mp h.symm).1 (by decide)

/-! ## Numbers that are still to come -/

/-- Of the numbers that are not below the number of fields, only those are taken that one of the
texts spells out. -/
def Ahead (demands : List Demand) (fields : List FieldDecl) : Prop :=
  ∀ n, fields.length ≤ n → numbered n ∈ fields.map (·.name) →
    ∃ d ∈ demands, alphanumerics d.raw ∈ spellings n

/-- **One more demand keeps to this.**  If it makes a field with the number of fields for its name,
this number is below the new one. -/
theorem Ahead.meet {demands : List Demand} {fields : List FieldDecl} (h : Ahead demands fields)
    (d : Demand) : Ahead (demands ++ [d]) (d.meet fields).2 := by
  intro n
  rw [d.meet_eq, addNew]
  dsimp only
  by_cases hknown : (d.declared (nameFor fields.length d.raw)).name ∈ fields.map (·.name)
  · rw [if_pos hknown]
    intro hn hmem
    obtain ⟨e, he, hspelled⟩ := h n hn hmem
    exact ⟨e, List.mem_append_left _ he, hspelled⟩
  · rw [if_neg hknown, List.length_append, List.length_singleton, List.map_append,
      List.mem_append]
    rintro hn (hmem | hmem)
    · obtain ⟨e, he, hspelled⟩ := h n (by omega) hmem
      exact ⟨e, List.mem_append_left _ he, hspelled⟩
    · have hname : nameFor fields.length d.raw = numbered n := (List.mem_singleton.mp hmem).symm
      refine ⟨d, List.mem_append_right _ List.mem_cons_self, ?_⟩
      cases hraw : isNameable d.raw with
      | true => exact (nameFor_eq_numbered_iff hraw _ n).mp hname
      | false =>
          rw [nameFor_of_nameless hraw] at hname
          have hcount := numbered_inj hname
          omega

/-- **So do any demands**, one after the other. -/
theorem Ahead.ensureAll (later : List Demand) : ∀ {demands : List Demand} {fields : List FieldDecl},
    Ahead demands fields → Ahead (demands ++ later) (ensureAll fields later).2 := by
  induction later with
  | nil =>
      intro demands fields h
      rw [List.append_nil]
      exact h
  | cons d later ih =>
      intro demands fields h
      rw [List.append_cons]
      exact ih (h.meet d)

/-- A text that spells a number takes it. -/
theorem numbered_mem_of_spelling {demands : List Demand} {d : Demand} (hd : d ∈ demands) {n : Nat}
    (hspelled : alphanumerics d.raw ∈ spellings n) (fields : List FieldDecl) :
    numbered n ∈ (ensureAll fields demands).2.map (·.name) := by
  obtain ⟨before, later, rfl⟩ := List.append_of_mem hd
  obtain ⟨f, -, hname, hf⟩ := exists_ensureAll fields before d later
  rw [meet_name, (nameFor_eq_numbered_iff (isNameable_of_spelling hspelled) _ n).mpr hspelled]
    at hname
  exact List.mem_map.mpr ⟨f, hf, hname⟩

/-- A name that does not end with a digit is not just a number. -/
theorem ne_numbered {name : String} (hlast : name.toList.getLast?.any Char.isDigit = false)
    (n : Nat) : name ≠ numbered n := by
  rintro rfl
  have hdigits : (toString n).toList ≠ [] := fun h =>
    (word_repr n).1 (String.toList_eq_nil_iff.mp h)
  rw [numbered, String.toList_append, List.getLast?_append_of_ne_nil _ hdigits,
    List.getLast?_eq_some_getLast hdigits, Option.any_some,
    isDigit_of_mem_toString (List.getLast_mem hdigits)] at hlast
  cases hlast

/-- Before lowering, there is no field but the switch and the scan interval. -/
theorem names_initialFields {options : HookOptions} {name : String}
    (h : name ∈ (initialFields options).map (·.name)) :
    name = "RequiresCondition" ∨ name = "ScanInterval" := by
  rw [Hook.names_eq_signatures, Hook.signatures_initialFields] at h
  obtain ⟨use, huse, rfl⟩ := List.mem_map.mp h
  rcases Hook.mem_fixedFields.mp huse with rfl | ⟨-, rfl⟩
  · exact .inl rfl
  · exact .inr rfl

/-- No number is taken at first. -/
theorem ahead_initialFields (options : HookOptions) : Ahead [] (initialFields options) := by
  intro n _ hmem
  rcases names_initialFields hmem with hname | hname
  · exact absurd hname.symm (ne_numbered (by decide) n)
  · exact absurd hname.symm (ne_numbered (by decide) n)

/-- **Which of the numbers to come are taken.** -/
theorem mem_numbered_iff (options : HookOptions) (demands : List Demand) {n : Nat}
    (hn : (ensureAll (initialFields options) demands).2.length ≤ n) :
    numbered n ∈ (ensureAll (initialFields options) demands).2.map (·.name) ↔
      ∃ d ∈ demands, alphanumerics d.raw ∈ spellings n := by
  constructor
  · intro hmem
    have hahead := (ahead_initialFields options).ensureAll demands
    rw [List.nil_append] at hahead
    exact hahead n hn hmem
  · rintro ⟨d, hd, hspelled⟩
    exact numbered_mem_of_spelling hd hspelled _

end FieldDecl

namespace Hook

open FieldDecl

variable {lookup : Lookup} {options : HookOptions} {root : Node} {name : String} {t : Trait}

/-- **The fields of a trait** come from meeting the demands of its tree. -/
theorem synthesized_demands (ht : synthesize lookup options root name = .ok t) :
    t.info.fields = (ensureAll (initialFields options) (treeDemands lookup root)).2 := by
  rw [(synthesized_parts ht).2, lowered_fields_demanded]

/-- **When a text without a letter or digit makes a new field.**  Take the Info class of any tree,
and let any demands be met on it.  A further demand without a letter or digit gets the number of
fields for its name.  It adds a field, of a name that is new, if and only if no text of the tree or
of the demands spells this number; otherwise it gets the field of that text. -/
theorem nameless_demand_new_iff (ht : synthesize lookup options root name = .ok t)
    (demands : List Demand) {d : Demand} (hd : isNameable d.raw = false) :
    let fields := (ensureAll t.info.fields demands).2
    let earlier := treeDemands lookup root ++ demands
    (d.meet fields).1 = numbered fields.length ∧
    ((∃ f, (d.meet fields).2 = fields ++ [f] ∧ f.name ∉ fields.map (·.name)) ↔
      ∀ e ∈ earlier, alphanumerics e.raw ∉ spellings fields.length) ∧
    ((d.meet fields).2 = fields ↔
      ∃ e ∈ earlier, alphanumerics e.raw ∈ spellings fields.length) := by
  intro fields earlier
  have hfields : fields = (ensureAll (initialFields options) earlier).2 := by
    rw [ensureAll_append, ← synthesized_demands ht]
  have htaken : numbered fields.length ∈ fields.map (·.name) ↔
      ∃ e ∈ earlier, alphanumerics e.raw ∈ spellings fields.length := by
    have hiff := mem_numbered_iff options earlier (Nat.le_of_eq (congrArg List.length hfields.symm))
    rwa [← hfields] at hiff
  have hfree : numbered fields.length ∉ fields.map (·.name) ↔
      ∀ e ∈ earlier, alphanumerics e.raw ∉ spellings fields.length := by
    rw [htaken]
    simp only [not_exists, not_and]
  have hgrown : ∀ f, fields ++ [f] ≠ fields := by
    intro f hsame
    have hlength := congrArg List.length hsame
    rw [List.length_append, List.length_singleton] at hlength
    omega
  have hadded : (d.declared (numbered fields.length)).name = numbered fields.length := rfl
  rw [← hfree, ← htaken, d.meet_eq, nameFor_of_nameless hd, addNew, hadded]
  refine ⟨rfl, ?_⟩
  dsimp only
  by_cases hmem : numbered fields.length ∈ fields.map (·.name)
  · rw [if_pos hmem]
    refine ⟨iff_of_false ?_ (not_not.mpr hmem), iff_of_true rfl hmem⟩
    rintro ⟨f, hsame, -⟩
    exact hgrown f hsame.symm
  · rw [if_neg hmem]
    exact ⟨iff_of_true ⟨_, rfl, hmem⟩ hmem, iff_of_false (hgrown _) hmem⟩

/-- Two numbers that are spelled out, behind the four fields of the sentry.  Neither is the number
of fields in the end. -/
def spelledDemands : List Demand :=
  [⟨"param 4", "int", some "1", "The fourth."⟩, ⟨"(9)", "bool", some "false", "The ninth."⟩]

/-- Behind the demands of the sentry and two more, a nameless demand gets a field of its own. -/
theorem nameless_demand_new_iff_sentry :
    ∃ t, synthesize (fun _ => none) sentryOptions sentry "sentry" = .ok t ∧
      isNameable "???" = false ∧
      let fields := (ensureAll t.info.fields spelledDemands).2
      fields.map (·.name) =
        ["RequiresCondition", "ScanInterval", "Alarm", "Limit", "Param4", "Param9"] ∧
      ((FieldRequest.flag "???").demand.meet fields).1 = "Param6" ∧
      ∃ f, ((FieldRequest.flag "???").demand.meet fields).2 = fields ++ [f] ∧
        f.name ∉ fields.map (·.name) := by
  have hd : isNameable (FieldRequest.flag "???").demand.raw = false := by decide
  obtain ⟨hname, hnew, -⟩ := nameless_demand_new_iff synthesize_sentry spelledDemands hd
  refine ⟨_, synthesize_sentry, hd, ?_⟩
  rw [synthesized_demands synthesize_sentry] at hname hnew ⊢
  exact ⟨by decide +kernel, hname.trans (by decide +kernel), hnew.mpr (by decide +kernel)⟩

/-- A post whose leaf waits for a time that is called after a number. -/
def restPost : Node :=
  { id := "root", children := [{ id := "rest", action := some "Wait(param2)" }] }

/-- The same with a condition behind it that has no letter or digit. -/
def oddPost : Node :=
  { id := "root"
    children :=
      [{ id := "rest", action := some "Wait(param2)" },
        { id := "odd", condition := some "???", action := some "Attack" }] }

/-- **A number that is taken.**  The wait has the second field, so the flag behind it gets its name
and no field: the line tests a number of ticks. -/
theorem flag_takes_over_wait :
    isNameable "???" = false ∧
    ∃ t, synthesize (fun _ => none) {} restPost "Guard" = .ok t ∧
      t.info.fields.map signature =
        [⟨"RequiresCondition", "BooleanExpression"⟩, ⟨"Param2", "int"⟩] ∧
      (FieldRequest.flag "???").demand.meet t.info.fields = ("Param2", t.info.fields) ∧
      ∃ odd, synthesize (fun _ => none) {} oddPost "Guard" = .ok odd ∧
        odd.info.fields = t.info.fields ∧
        fieldUses (statements (lowered (fun _ => none) {} oddPost).1) =
          [⟨"Param2", "int"⟩, ⟨"Param2", "bool"⟩] := by
  obtain ⟨t, ht⟩ : ∃ t, synthesize (fun _ => none) {} restPost "Guard" = .ok t :=
    ⟨_, synthesize_of_className rfl⟩
  obtain ⟨odd, hodd⟩ : ∃ odd, synthesize (fun _ => none) {} oddPost "Guard" = .ok odd :=
    ⟨_, synthesize_of_className rfl⟩
  refine ⟨by decide, t, ht, ?_⟩
  rw [synthesized_demands ht]
  refine ⟨by decide +kernel, by decide +kernel, odd, hodd, ?_, ?_⟩
  · rw [synthesized_demands hodd]
    decide +kernel
  · rw [lowered_fieldUses]
    decide +kernel

end Hook

end BehaviorTraits
