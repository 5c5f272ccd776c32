import BehaviorTraits.Class.FieldTable
import BehaviorTraits.Proofs.FirstSeen
import BehaviorTraits.Proofs.Words

/-!
# Demands for fields

A class may be asked for fields any number of times, with any texts.  A demand is met by the field
of its name if there is one, and otherwise by a new one behind the others (`meet_eq`).  So a run
of demands gathers the first field of each name (`ensureAll_fields`), and from this everything else
follows: the fields that were there stay in front, and no two have the same name.

A text with an ASCII letter or digit leads to the same name whatever fields there are
(`nameFor_of_nameable`); any other text is numbered by the fields that are there.  Only demands of
the first kind can be repeated without effect.
-/

namespace BehaviorTraits.FieldDecl

open Text

/-! ## Names -/

/-- A name does not depend on the fields that are there, if it has a letter or digit to go by. -/
theorem nameFor_of_nameable {raw : String} (h : isNameable raw = true) (m n : Nat) :
    nameFor m raw = nameFor n raw := by
  have hletters := (alphanumerics_ne_empty_iff raw).mpr h
  unfold nameFor
  dsimp only
  rw [if_neg hletters, if_neg hletters]

/-- The name of a field that has only a number to go by. -/
def numbered (count : Nat) : String := "Param" ++ toString count

/-- Different numbers give different names. -/
theorem numbered_inj {m n : Nat} (h : numbered m = numbered n) : m = n := by
  have hcount : m.repr = n.repr := by simpa [numbered] using h
  calc
    m = Nat.ofDigitChars 10 m.repr.toList 0 := by
      rw [Nat.toList_repr, Nat.ofDigitChars_ten_toDigits]
    _ = Nat.ofDigitChars 10 n.repr.toList 0 := by rw [hcount]
    _ = n := by rw [Nat.toList_repr, Nat.ofDigitChars_ten_toDigits]

/-- Without a letter or digit it is the number of fields that makes the name. -/
theorem nameFor_of_nameless {raw : String} (h : isNameable raw = false) (count : Nat) :
    nameFor count raw = numbered count := by
  have hletters : alphanumerics raw = "" := by
    by_contra hletters
    rw [(alphanumerics_ne_empty_iff raw).mp hletters] at h
    cases h
  unfold nameFor
  dsimp only
  rw [if_pos hletters]
  rfl

/-- So a name without one does depend on the fields. -/
theorem nameFor_eq_iff {m n : Nat} (hne : m ≠ n) (raw : String) :
    nameFor m raw = nameFor n raw ↔ isNameable raw = true := by
  refine ⟨fun h => ?_, fun h => nameFor_of_nameable h m n⟩
  by_contra hraw
  have hnameless := Bool.eq_false_iff.mpr hraw
  rw [nameFor_of_nameless hnameless, nameFor_of_nameless hnameless] at h
  exact hne (numbered_inj h)

/-- **Every field name is a word with a capital**, whatever text it is made from. -/
theorem capitalWord_nameFor (count : Nat) (raw : String) : CapitalWord (nameFor count raw) := by
  have hparam : CapitalWord "Param" := ⟨by decide, by decide⟩
  unfold nameFor
  dsimp only
  by_cases hletters : alphanumerics raw = ""
  · rw [if_pos hletters]
    exact hparam.append (word_repr count).2
  · rw [if_neg hletters]
    by_cases hdigit : startsWithDigit (alphanumerics raw) = true
    · rw [if_pos hdigit]
      apply hparam.append
      intro c hc
      exact isAlphanum_of_mem_alphanumerics hc
    · rw [if_neg hdigit]
      exact capitalWord_capitalize (word_alphanumerics hletters) (by simpa using hdigit)

/-! ## One demand -/

/-- A demand for a field: the text that mentions it, and how the field is to be declared. -/
structure Demand where
  raw : String
  type : String
  default? : Option String
  description : String

namespace Demand

/-- Finds or makes the field: its name, and the fields that there are then. -/
def meet (d : Demand) (fields : List FieldDecl) : String × List FieldDecl :=
  ensure fields d.raw d.type d.default? d.description

/-- The field that is made for a demand under a name. -/
def declared (d : Demand) (name : String) : FieldDecl :=
  ofDocument name d.type d.default? (singleLine d.description)

/-- **How a demand is met.** -/
theorem meet_eq (d : Demand) (fields : List FieldDecl) :
    d.meet fields = (nameFor fields.length d.raw,
      addNew FieldDecl.name fields (d.declared (nameFor fields.length d.raw))) := by
  have hany : fields.any (·.name == nameFor fields.length d.raw) = true ↔
      nameFor fields.length d.raw ∈ fields.map (·.name) := by
    simp
  have hname : (d.declared (nameFor fields.length d.raw)).name = nameFor fields.length d.raw := rfl
  unfold meet ensure addNew
  dsimp only
  rw [hname]
  by_cases hknown : nameFor fields.length d.raw ∈ fields.map (·.name)
  · rw [if_pos hknown, if_pos (hany.mpr hknown)]
  · rw [if_neg hknown, if_neg (mt hany.mp hknown)]
    rfl

/-- The field that meets a demand is there then. -/
theorem exists_meet (d : Demand) (fields : List FieldDecl) :
    ∃ f ∈ (d.meet fields).2, f.name = (d.meet fields).1 := by
  rw [d.meet_eq]
  unfold addNew
  split
  · rename_i hknown
    exact List.mem_map.mp hknown
  · exact ⟨_, List.mem_append_right _ List.mem_cons_self, rfl⟩

/-- Meeting a demand loses no field. -/
theorem subset_meet (d : Demand) (fields : List FieldDecl) : fields ⊆ (d.meet fields).2 := by
  rw [d.meet_eq]
  unfold addNew
  split
  · exact fun _ h => h
  · exact List.subset_append_left _ _

/-- A demand for a field that is there changes nothing. -/
theorem meet_of_mem {d : Demand} {fields : List FieldDecl} {name : String}
    (hname : nameFor fields.length d.raw = name) (hmem : ∃ f ∈ fields, f.name = name) :
    d.meet fields = (name, fields) := by
  rw [d.meet_eq, hname, addNew, if_pos]
  exact List.mem_map.mpr hmem

end Demand

/-- A public field that actor documents set, with a capital word as its name and a description on
one line. -/
structure Documented (f : FieldDecl) : Prop where
  access : f.access = "public"
  readonly : f.isReadonly = true
  exposed : f.exposed = true
  name : CapitalWord f.name
  unbroken : Unbroken f.description.toList

/-- A field that is made for a demand is one that actor documents set. -/
theorem Demand.documented_declared (d : Demand) {name : String} (hname : CapitalWord name) :
    (d.declared name).Documented where
  access := rfl
  readonly := rfl
  exposed := rfl
  name := hname
  unbroken := by
    change Unbroken (singleLine d.description).toList
    rw [toList_singleLine]
    exact unbroken_singleLineChars _

/-! ## Demands in a row -/

/-- Meets demands one after the other: the names that they get, and the fields that there are in the
end. -/
def ensureAll (fields : List FieldDecl) : List Demand → List String × List FieldDecl
  | [] => ([], fields)
  | d :: demands =>
    let (name, fields) := d.meet fields
    let (names, fields) := ensureAll fields demands
    (name :: names, fields)

/-- The first demand is met before the others. -/
theorem ensureAll_cons (fields : List FieldDecl) (d : Demand) (demands : List Demand) :
    ensureAll fields (d :: demands) =
      ((d.meet fields).1 :: (ensureAll (d.meet fields).2 demands).1,
        (ensureAll (d.meet fields).2 demands).2) := rfl

/-- Demands can be met in two goes. -/
theorem ensureAll_append (first second : List Demand) : ∀ fields : List FieldDecl,
    ensureAll fields (first ++ second) =
      ((ensureAll fields first).1 ++ (ensureAll (ensureAll fields first).2 second).1,
        (ensureAll (ensureAll fields first).2 second).2) := by
  induction first with
  | nil => exact fun fields => rfl
  | cons d first ih =>
      intro fields
      rw [List.cons_append, ensureAll_cons, ensureAll_cons, ih]
      rfl

/-- The fields that the demands ask for, each under the name that it gets. -/
def asked (fields : List FieldDecl) (demands : List Demand) : List FieldDecl :=
  List.zipWith Demand.declared demands (ensureAll fields demands).1

theorem asked_cons (fields : List FieldDecl) (d : Demand) (demands : List Demand) :
    asked fields (d :: demands) =
      d.declared (d.meet fields).1 :: asked (d.meet fields).2 demands := rfl

/-- **Demands gather what they ask for**, the first field of each name. -/
theorem ensureAll_fields (demands : List Demand) : ∀ fields : List FieldDecl,
    (ensureAll fields demands).2 = (asked fields demands).foldl (addNew FieldDecl.name) fields := by
  induction demands with
  | nil => exact fun fields => rfl
  | cons d demands ih =>
      intro fields
      rw [ensureAll_cons, asked_cons, List.foldl_cons]
      dsimp only
      rw [ih, d.meet_eq]

/-- All fields that are asked for are ones that actor documents set. -/
theorem documented_asked (demands : List Demand) : ∀ fields : List FieldDecl,
    ∀ f ∈ asked fields demands, f.Documented := by
  induction demands with
  | nil =>
      intro fields f hf
      cases hf
  | cons d demands ih =>
      intro fields f hf
      rw [asked_cons] at hf
      rcases List.mem_cons.mp hf with rfl | hf
      · rw [d.meet_eq]
        exact d.documented_declared (capitalWord_nameFor _ _)
      · exact ih _ f hf

/-- The field of a demand is there from then on. -/
theorem exists_ensureAll (fields : List FieldDecl) (before : List Demand) (d : Demand)
    (later : List Demand) :
    ∃ f ∈ (ensureAll fields (before ++ [d])).2,
      f.name = (d.meet (ensureAll fields before).2).1 ∧
        f ∈ (ensureAll fields (before ++ d :: later)).2 := by
  have hlast : (ensureAll fields (before ++ [d])).2 = (d.meet (ensureAll fields before).2).2 := by
    rw [ensureAll_append]
    rfl
  have hlater : (ensureAll fields (before ++ d :: later)).2 =
      (ensureAll (d.meet (ensureAll fields before).2).2 later).2 := by
    rw [ensureAll_append, ensureAll_cons]
  obtain ⟨f, hf, hname⟩ := d.exists_meet (ensureAll fields before).2
  refine ⟨f, hlast ▸ hf, hname, ?_⟩
  rw [hlater, ensureAll_fields, foldl_addNew]
  exact List.mem_append_left _ hf

/-- A demand that has been met gets the same field again, if its text has a letter or digit. -/
theorem meet_again (fields : List FieldDecl) (before : List Demand) {d : Demand}
    (hd : isNameable d.raw = true) (later : List Demand) :
    d.meet (ensureAll fields (before ++ d :: later)).2 =
      ((d.meet (ensureAll fields before).2).1, (ensureAll fields (before ++ d :: later)).2) := by
  obtain ⟨f, -, hname, hf⟩ := exists_ensureAll fields before d later
  apply Demand.meet_of_mem
  · rw [d.meet_eq]
    exact nameFor_of_nameable hd _ _
  · exact ⟨f, hf, hname⟩

/-- **What a field table keeps.**  Let the fields of a class have different names, and let any
demands be met.  The fields stay in front, all names are different still, every added field is one
that actor documents set, and the name that a demand gets is that of a field which is there from
then on.  The added fields are those of the first demand for each new name, in order.

If every text has a letter or digit, a demand that has been met before changes nothing. -/
theorem field_table_kept {fields : List FieldDecl} (hnames : (fields.map (·.name)).Nodup)
    (demands : List Demand) :
    ∃ added, (ensureAll fields demands).2 = fields ++ added ∧
      ((ensureAll fields demands).2.map (·.name)).Nodup ∧
      (∀ f ∈ added, f.Documented) ∧
      (∀ before d later, demands = before ++ d :: later →
        ∃ f ∈ (ensureAll fields (before ++ [d])).2,
          f.name = (d.meet (ensureAll fields before).2).1 ∧ f ∈ (ensureAll fields demands).2) ∧
      added = firsts FieldDecl.name
        ((asked fields demands).filter (·.name ∉ fields.map (·.name))) ∧
      ((∀ d ∈ demands, isNameable d.raw = true) →
        ∀ before d later, demands = before ++ d :: later →
          d.meet (ensureAll fields demands).2 =
            ((d.meet (ensureAll fields before).2).1, (ensureAll fields demands).2)) := by
  have hadded := (ensureAll_fields demands fields).trans (foldl_addNew FieldDecl.name _ fields)
  refine ⟨_, hadded, ?_, ?_, ?_, rfl, ?_⟩
  · rw [ensureAll_fields]
    exact nodup_foldl_addNew FieldDecl.name _ hnames
  · intro f hf
    apply documented_asked demands fields
    exact List.mem_of_mem_filter (mem_of_mem_firsts FieldDecl.name hf)
  · rintro before d later rfl
    exact exists_ensureAll fields before d later
  · rintro hnameable before d later rfl
    exact meet_again fields before (hnameable d (by simp)) later

/-- A recruit that wants to know about four things, two of them under names that are taken. -/
def recruitDemands : List Demand :=
  [⟨"is_brave", "bool", some "false", "Brave?\nOr not?"⟩, ⟨"3rdWave", "int", some "9", ""⟩,
    ⟨"isbrave", "int", some "1", "Bravery."⟩, ⟨"delay", "int", none, "Too late."⟩]

theorem field_table_kept_recruit :
    let fields := [ofDocument "Delay" "int" (some "25") "Ticks to wait."]
    (fields.map (·.name)).Nodup ∧ (∀ d ∈ recruitDemands, isNameable d.raw = true) ∧
      (ensureAll fields recruitDemands).1 = ["Isbrave", "Param3rdWave", "Isbrave", "Delay"] ∧
      (ensureAll fields recruitDemands).2 = fields ++
        [ofDocument "Isbrave" "bool" (some "false") "Brave? Or not?",
          ofDocument "Param3rdWave" "int" (some "9") ""] ∧
      Demand.meet ⟨"is_brave", "bool", some "false", "Brave?\nOr not?"⟩
        (ensureAll fields recruitDemands).2 = ("Isbrave", (ensureAll fields recruitDemands).2) := by
  intro fields
  have hnames : (fields.map (·.name)).Nodup := by decide
  have hnameable : ∀ d ∈ recruitDemands, isNameable d.raw = true := by decide
  obtain ⟨added, hfields, -, -, -, hadded, hagain⟩ := field_table_kept hnames recruitDemands
  refine ⟨hnames, hnameable, by decide +kernel, ?_, hagain hnameable [] _ _ rfl⟩
  rw [hfields, hadded]
  decide +kernel

end BehaviorTraits.FieldDecl
