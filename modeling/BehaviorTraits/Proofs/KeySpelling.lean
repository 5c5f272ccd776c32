import BehaviorTraits.Proofs.ByteOrder
import BehaviorTraits.Tree.Document
import Mathlib.Data.List.Forall2
import Mathlib.Data.List.Induction
import Mathlib.Data.List.Nodup
import Mathlib.Logic.Relation

/-!
# The spelling of keys

A tree is read from an object by looking, for each part of a node, for the entry with the greatest
key among those that stand for the part.  So a reader sees nothing of an object but four values
(`ofJson_obj`).  Entries that are `null` or stand for no part are never among them, and as long as
two entries do not stand for the same part, the spelling of a key decides nothing.

Values are `Alike` when they are read in the same way wherever they stand, up to the wording of an
error.  Changing one object somewhere inside a document gives a document like it, if the object with
the change is like the one without (`alike_of_within`).
-/

namespace BehaviorTraits

/-- One object of the document, at any depth, is changed in the given way. -/
inductive Json.Within (change : List (String × Json) → List (String × Json) → Prop) :
    Json → Json → Prop
  | here {entries entries' : List (String × Json)} (h : change entries entries') :
      Within change (.obj entries) (.obj entries')
  | entry {before after : List (String × Json)} {key : String} {value value' : Json}
      (h : Within change value value') :
      Within change (.obj (before ++ (key, value) :: after))
        (.obj (before ++ (key, value') :: after))
  | item {before after : List Json} {value value' : Json} (h : Within change value value') :
      Within change (.arr (before ++ value :: after)) (.arr (before ++ value' :: after))

namespace Node

open Json

/-! ## The entry with the greatest key -/

section

variable {β γ : Type}

/-- The entry if its key is not less than that of the best one so far. -/
def better (best : Option (String × β)) (entry : String × β) : Option (String × β) :=
  match best with
  | some other => if other.1 ≤ entry.1 then some entry else some other
  | none => some entry

/-- The entry with the greatest key. -/
def greatest? (entries : List (String × β)) : Option (String × β) := entries.foldl better none

/-- **The greatest key.**  It belongs to one of the entries, and no other is greater. -/
theorem greatest?_spec (entries : List (String × β)) :
    (entries = [] ∧ greatest? entries = none) ∨
      ∃ best ∈ entries, greatest? entries = some best ∧ ∀ entry ∈ entries, entry.1 ≤ best.1 := by
  induction entries using List.reverseRecOn with
  | nil => exact .inl ⟨rfl, rfl⟩
  | append_singleton entries entry ih =>
      have hfold : greatest? (entries ++ [entry]) = better (greatest? entries) entry :=
        List.foldl_concat ..
      right
      rcases ih with ⟨rfl, hnone⟩ | ⟨best, hbest, hsome, hle⟩
      · exact ⟨entry, by simp, by rw [hfold, hnone]; rfl, by simp⟩
      · rw [hfold, hsome]
        unfold better
        by_cases hlt : best.1 ≤ entry.1
        · refine ⟨entry, by simp, if_pos hlt, ?_⟩
          intro other hother
          rcases List.mem_append.mp hother with hother | hother
          · exact String.le_trans (hle other hother) hlt
          · obtain rfl := List.mem_singleton.mp hother
            exact String.le_refl _
        · refine ⟨best, List.mem_append_left _ hbest, if_neg hlt, ?_⟩
          intro other hother
          rcases List.mem_append.mp hother with hother | hother
          · exact hle other hother
          · rw [List.mem_singleton.mp hother]
            exact (String.le_total best.1 entry.1).resolve_left hlt

/-- With keys that are all different, the greatest one names one entry. -/
theorem greatest?_eq_some {entries : List (String × β)} (hkeys : (entries.map (·.1)).Nodup)
    {best : String × β} (hmem : best ∈ entries) (hle : ∀ entry ∈ entries, entry.1 ≤ best.1) :
    greatest? entries = some best := by
  rcases greatest?_spec entries with ⟨rfl, -⟩ | ⟨other, hother, hsome, hle'⟩
  · cases hmem
  · have hkey : other.1 = best.1 := String.le_antisymm (hle other hother) (hle' best hmem)
    rw [hsome, List.inj_on_of_nodup_map hkeys hother hmem hkey]

/-- The order of entries with different keys does not matter. -/
theorem greatest?_perm {entries entries' : List (String × β)} (hperm : entries.Perm entries')
    (hkeys : (entries.map (·.1)).Nodup) : greatest? entries = greatest? entries' := by
  rcases greatest?_spec entries with ⟨rfl, -⟩ | ⟨best, hbest, hsome, hle⟩
  · rw [List.nil_perm.mp hperm]
  · have hkeys' : (entries'.map (·.1)).Nodup := (hperm.map _).nodup_iff.mp hkeys
    rw [hsome, greatest?_eq_some hkeys' (hperm.subset hbest)
      (fun entry hentry => hle entry (hperm.symm.subset hentry))]

/-- The choice is made by the keys alone. -/
theorem greatest?_rel {R : β → γ → Prop} {entries : List (String × β)}
    {entries' : List (String × γ)}
    (h : List.Forall₂ (fun e e' => e.1 = e'.1 ∧ R e.2 e'.2) entries entries') :
    Option.Rel (fun e e' => e.1 = e'.1 ∧ R e.2 e'.2) (greatest? entries)
      (greatest? entries') := by
  refine List.rel_foldl ?_ .none h
  intro best best' hbest entry entry' hentry
  cases hbest with
  | none => exact .some hentry
  | some hbest =>
      unfold better
      dsimp only
      rw [hbest.1, hentry.1]
      split
      · exact .some hentry
      · exact .some hbest

/-- Which entry is greatest does not depend on the values. -/
theorem greatest?_map (f : β → γ) (entries : List (String × β)) :
    greatest? (entries.map fun e => (e.1, f e.2)) =
      (greatest? entries).map fun e => (e.1, f e.2) := by
  have hall : List.Forall₂ (fun e e' => e.1 = e'.1 ∧ f e.2 = e'.2) entries
      (entries.map fun e => (e.1, f e.2)) := by
    rw [List.forall₂_map_right_iff, List.forall₂_same]
    exact fun _ _ => ⟨rfl, rfl⟩
  have hbest := greatest?_rel (R := fun b c => f b = c) hall
  generalize greatest? entries = best at hbest ⊢
  generalize greatest? (entries.map fun e => (e.1, f e.2)) = best' at hbest ⊢
  cases hbest with
  | none => rfl
  | some hsame => exact congrArg some (Prod.ext hsame.1.symm hsame.2.symm)

end

/-! ## What a reader sees of an object -/

/-- The entry stands for the part: it is not `null`, and its key in lower case is the name. -/
def stands (name : String) (entry : String × Json) : Bool :=
  !entry.2.isNull && Text.lower entry.1 == name

/-- An entry stands for a part by its key in lower case, unless it is `null`. -/
theorem stands_iff {name : String} {entry : String × Json} :
    stands name entry = true ↔ entry.2.isNull = false ∧ Text.lower entry.1 = name := by
  rw [stands, Bool.and_eq_true, Bool.not_eq_true', beq_iff_eq]

/-- The value that an object has for a part. -/
def value? (name : String) (entries : List (String × Json)) : Option Json :=
  (greatest? (entries.filter (stands name))).map (·.2)

/-- **The entry that wins** is the one with the greatest key of those that stand for the part. -/
theorem winner?_eq {α : Type} (name : String) (entries : List (String × Json × α)) :
    winner? name entries = greatest? (entries.filter fun e => stands name (e.1, e.2.1)) := by
  unfold winner? greatest?
  rw [List.foldl_filter]
  congr 1
  funext best entry
  unfold stands
  cases best with
  | none => simp [better]
  | some other =>
      by_cases hstands : (!entry.2.1.isNull && Text.lower entry.1 == name) = true
      · simp [better, hstands]
      · simp [hstands]

/-- Each entry is there with its value read as a list of nodes. -/
theorem withNodes_eq (entries : List (String × Json)) :
    withNodes entries = entries.map fun e => (e.1, e.2, listOfJson e.2) := by
  induction entries with
  | nil => rw [withNodes, List.map_nil]
  | cons entry entries ih => rw [withNodes, ih, List.map_cons]

/-- The value of the entry that wins is the one that the part is made from. -/
theorem winner?_withNodes (name : String) (entries : List (String × Json)) :
    (winner? name (withNodes entries) = none ∧ value? name entries = none) ∨
      ∃ key value, winner? name (withNodes entries) = some (key, value, listOfJson value) ∧
        value? name entries = some value := by
  have hwinner : winner? name (withNodes entries) =
      (greatest? (entries.filter (stands name))).map
        fun e => (e.1, e.2, listOfJson e.2) := by
    rw [winner?_eq, withNodes_eq, List.filter_map]
    exact greatest?_map (fun value => (value, listOfJson value)) _
  rw [hwinner, value?]
  cases greatest? (entries.filter (stands name)) with
  | none => exact .inl ⟨rfl, rfl⟩
  | some best => exact .inr ⟨best.1, best.2, rfl, rfl⟩

def readText? : Option Json → Except TreeError (Option String)
  | some value => readOptionalText value
  | none => .ok none

def readNodes? : Option Json → Except TreeError (List Node)
  | some value => listOfJson value
  | none => .ok []

/-- **What a reader sees of an object** are the values that it has for the four parts. -/
theorem ofJson_obj (entries : List (String × Json)) :
    ofJson (.obj entries) = (do
      let action ← readText? (value? "action" entries)
      let children ← readNodes? (value? "children" entries)
      let condition ← readText? (value? "condition" entries)
      let id ← readText? (value? "id" entries)
      return ⟨id.getD "", condition, action, children⟩) := by
  rw [ofJson, ofEntries]
  dsimp only
  rcases winner?_withNodes "action" entries with ⟨ha, ha'⟩ | ⟨_, _, ha, ha'⟩ <;>
  rcases winner?_withNodes "children" entries with ⟨hc, hc'⟩ | ⟨_, _, hc, hc'⟩ <;>
  rcases winner?_withNodes "condition" entries with ⟨hg, hg'⟩ | ⟨_, _, hg, hg'⟩ <;>
  rcases winner?_withNodes "id" entries with ⟨hi, hi'⟩ | ⟨_, _, hi, hi'⟩ <;>
  simp only [ha, ha', hc, hc', hg, hg', hi, hi', readText?, readNodes?]

/-! ## Values that are read alike -/

/-- The result of reading, with the message of an error in its place. -/
def told {α : Type} (result : Except TreeError α) : Except String α :=
  result.mapError TreeError.message

/-- What is told of a reading in two steps is told of each step. -/
theorem told_bind {α β : Type} (x : Except TreeError α) (f : α → Except TreeError β) :
    told (x >>= f) = told x >>= fun a => told (f a) := by
  cases x <;> rfl

/-- What is made of a value has no effect on the errors. -/
theorem told_map {α β : Type} (f : α → β) (x : Except TreeError α) :
    told (x.map f) = (told x).map f := by
  cases x <;> rfl

/-- The values are read in the same way, wherever in a document they stand. -/
structure Alike (v v' : Json) : Prop where
  null : v.isNull = v'.isNull
  text : told (readText v) = told (readText v')
  node : told (ofJson v) = told (ofJson v')
  nodes : told (listOfJson v) = told (listOfJson v')
  document : told (ofDocument v) = told (ofDocument v')

/-- A value is read like itself. -/
theorem Alike.refl (v : Json) : Alike v v := ⟨rfl, rfl, rfl, rfl, rfl⟩

theorem eq_null_of_isNull {v : Json} (h : v.isNull = true) : v = .null := by
  cases v with
  | null => rfl
  | _ => cases h

/-- An optional text that is not `null` is read as a text. -/
theorem readOptionalText_of_not_null {v : Json} (h : v.isNull = false) :
    readOptionalText v = (readText v).map some := by
  cases v with
  | null => cases h
  | _ => rfl

/-- Values that are read alike are so as optional texts. -/
theorem Alike.optionalText {v v' : Json} (h : Alike v v') :
    told (readOptionalText v) = told (readOptionalText v') := by
  cases hnull : v.isNull with
  | true =>
      have hnull' : v'.isNull = true := h.null.symm.trans hnull
      rw [eq_null_of_isNull hnull, eq_null_of_isNull hnull']
  | false =>
      have hnull' : v'.isNull = false := h.null.symm.trans hnull
      rw [readOptionalText_of_not_null hnull, readOptionalText_of_not_null hnull', told_map,
        told_map, h.text]

/-- The names of the parts of a node. -/
def partNames : List String := ["id", "condition", "action", "children"]

/-- Parts that are read alike are so as texts that may be absent. -/
theorem told_readText? {part part' : Option Json} (h : Option.Rel Alike part part') :
    told (readText? part) = told (readText? part') := by
  cases h with
  | none => rfl
  | some h => exact h.optionalText

/-- Parts that are read alike are so as children. -/
theorem told_readNodes? {part part' : Option Json} (h : Option.Rel Alike part part') :
    told (readNodes? part) = told (readNodes? part') := by
  cases h with
  | none => rfl
  | some h => exact h.nodes

/-- **Objects with like parts are alike.** -/
theorem alike_obj {entries entries' : List (String × Json)}
    (h : ∀ name ∈ partNames, Option.Rel Alike (value? name entries) (value? name entries')) :
    Alike (.obj entries) (.obj entries') := by
  have haction := told_readText? (h "action" (by decide))
  have hchildren := told_readNodes? (h "children" (by decide))
  have hcondition := told_readText? (h "condition" (by decide))
  have hid := told_readText? (h "id" (by decide))
  have hnode : told (ofJson (.obj entries)) = told (ofJson (.obj entries')) := by
    rw [ofJson_obj, ofJson_obj]
    simp only [told_bind, haction, hchildren, hcondition, hid]
  exact ⟨rfl, rfl, hnode, by simp only [listOfJson]; rfl, hnode⟩

/-- Objects with the same parts are alike. -/
theorem alike_obj_of_eq {entries entries' : List (String × Json)}
    (h : ∀ name ∈ partNames, value? name entries = value? name entries') :
    Alike (.obj entries) (.obj entries') := by
  apply alike_obj
  intro name hname
  rw [h name hname]
  cases value? name entries' with
  | none => exact .none
  | some value => exact .some (.refl value)

/-- A list of like items is read alike. -/
theorem told_allOfJson {items items' : List Json} (h : List.Forall₂ Alike items items') :
    told (allOfJson items) = told (allOfJson items') := by
  induction h with
  | nil => rfl
  | cons hitem _ ih =>
      rw [allOfJson, allOfJson]
      simp only [told_bind, hitem.node, ih]

/-- **Arrays of like items are alike**, as lists of nodes and as nodes. -/
theorem alike_arr {items items' : List Json} (h : List.Forall₂ Alike items items') :
    Alike (.arr items) (.arr items') := by
  have hnode : told (ofJson (.arr items)) = told (ofJson (.arr items')) := by
    cases h with
    | nil => rfl
    | cons hid h =>
        cases h with
        | nil =>
            simp only [ofJson, told_bind, hid.text]
        | cons hcondition h =>
            cases h with
            | nil => simp only [ofJson, told_bind, hid.text, hcondition.optionalText]
            | cons haction h =>
                cases h with
                | nil =>
                    simp only [ofJson, told_bind, hid.text, hcondition.optionalText,
                      haction.optionalText]
                | @cons _ _ others others' hchildren h =>
                    have hlength := h.length_eq
                    have hempty : others.isEmpty = others'.isEmpty := by cases h <;> rfl
                    simp only [ofJson, told_bind, hid.text, hcondition.optionalText,
                      haction.optionalText, hchildren.nodes, hempty, hlength]
  refine ⟨rfl, rfl, hnode, ?_, rfl⟩
  rw [listOfJson, listOfJson]
  exact told_allOfJson h

/-- Objects that differ only in like values have like parts. -/
theorem value?_rel {entries entries' : List (String × Json)}
    (h : List.Forall₂ (fun e e' => e.1 = e'.1 ∧ Alike e.2 e'.2) entries entries')
    (name : String) : Option.Rel Alike (value? name entries) (value? name entries') := by
  have hstands : List.Forall₂ (fun e e' => e.1 = e'.1 ∧ Alike e.2 e'.2)
      (entries.filter (stands name)) (entries'.filter (stands name)) := by
    refine List.rel_filter ?_ h
    intro e e' he
    simp only [stands, he.1, he.2.null]
  unfold value?
  have hbest := greatest?_rel hstands
  generalize greatest? (entries.filter (stands name)) = best at hbest ⊢
  generalize greatest? (entries'.filter (stands name)) = best' at hbest ⊢
  cases hbest with
  | none => exact .none
  | some hbest => exact .some hbest.2

/-- Replacing one item by a related one relates the lists. -/
theorem forall₂_replace {α : Type} {R : α → α → Prop} (hrefl : ∀ a, R a a) {a a' : α} (h : R a a')
    (before after : List α) :
    List.Forall₂ R (before ++ a :: after) (before ++ a' :: after) :=
  List.rel_append (List.forall₂_same.mpr fun b _ => hrefl b)
    (.cons h (List.forall₂_same.mpr fun b _ => hrefl b))

/-- **A change inside.**  A document is like another if they differ in one object, and the two
objects are alike. -/
theorem alike_of_within {change : List (String × Json) → List (String × Json) → Prop}
    (hchange : ∀ entries entries', change entries entries' →
      Alike (.obj entries) (.obj entries')) {v v' : Json} (h : Within change v v') :
    Alike v v' := by
  induction h with
  | here h => exact hchange _ _ h
  | entry _ ih =>
      apply alike_obj
      intro name _
      apply value?_rel
      exact forall₂_replace (fun e => ⟨rfl, .refl e.2⟩) ⟨rfl, ih⟩ _ _
  | item _ ih =>
      apply alike_arr
      exact forall₂_replace .refl ih _ _

/-! ## Changes that a reader does not see -/

/-- No two entries that are not `null` have the same key in lower case. -/
def SpelledApart (entries : List (String × Json)) : Prop :=
  ((entries.filter fun e => !e.2.isNull).map fun e => Text.lower e.1).Nodup

/-- A change of the entries of an object. -/
inductive Change : List (String × Json) → List (String × Json) → Prop
  /-- A key is spelled in another way with the same lower case, and then no two entries that are not
  `null` have the same key in lower case. -/
  | respell {before after : List (String × Json)} {key key' : String} {value : Json}
      (hcase : Text.lower key = Text.lower key')
      (hapart : SpelledApart (before ++ (key', value) :: after)) :
      Change (before ++ (key, value) :: after) (before ++ (key', value) :: after)
  /-- An entry is added whose value is `null`. -/
  | null {before after : List (String × Json)} {key : String} :
      Change (before ++ after) (before ++ (key, .null) :: after)
  /-- An entry is added that stands for no part of a node. -/
  | other {before after : List (String × Json)} {key : String} {value : Json}
      (hkey : Text.lower key ∉ partNames) :
      Change (before ++ after) (before ++ (key, value) :: after)
  /-- The entries of an object have no order. -/
  | reorder {entries entries' : List (String × Json)} (hperm : entries.Perm entries')
      (hkeys : (entries.map (·.1)).Nodup) : Change entries entries'

/-- An entry that does not stand for a part may be put anywhere. -/
theorem value?_insert {name key : String} {value : Json} (h : stands name (key, value) = false)
    (before after : List (String × Json)) :
    value? name (before ++ (key, value) :: after) = value? name (before ++ after) := by
  rw [value?, value?, List.filter_append, List.filter_append, List.filter_cons, h]
  rfl

/-- An entry is read if no other one stands for the same part. -/
theorem value?_only {name key : String} {value : Json} (h : stands name (key, value) = true)
    {before after : List (String × Json)}
    (hothers : ∀ e ∈ before ++ after, stands name e = false) :
    value? name (before ++ (key, value) :: after) = some value := by
  have hbefore : before.filter (stands name) = [] := by
    rw [List.filter_eq_nil_iff]
    intro e he
    simp [hothers e (List.mem_append_left _ he)]
  have hafter : after.filter (stands name) = [] := by
    rw [List.filter_eq_nil_iff]
    intro e he
    simp [hothers e (List.mem_append_right _ he)]
  rw [value?, List.filter_append, List.filter_cons_of_pos h, hbefore, hafter]
  rfl

/-- If keys are spelled apart, no other entry stands for the part of this one. -/
theorem SpelledApart.others {before after : List (String × Json)} {key : String} {value : Json}
    (h : SpelledApart (before ++ (key, value) :: after)) (hvalue : value.isNull = false) :
    ∀ e ∈ before ++ after, e.2.isNull = false → Text.lower e.1 ≠ Text.lower key := by
  have hfront : SpelledApart ((key, value) :: (before ++ after)) :=
    ((List.perm_middle.filter _).map _).nodup_iff.mp h
  rw [SpelledApart, List.filter_cons_of_pos (by simp [hvalue]), List.map_cons,
    List.nodup_cons] at hfront
  intro e he hnull hsame
  apply hfront.1
  rw [← hsame]
  exact List.mem_map_of_mem (List.mem_filter.mpr ⟨he, by simp [hnull]⟩)

/-- **A change is not seen.** -/
theorem value?_of_change {entries entries' : List (String × Json)} (h : Change entries entries')
    {name : String} (hname : name ∈ partNames) : value? name entries = value? name entries' := by
  cases h with
  | @respell before after key key' value hcase hapart =>
      have hstands' : stands name (key', value) = stands name (key, value) := by
        rw [stands, stands, hcase]
      cases hstands : stands name (key, value) with
      | false => rw [value?_insert hstands, value?_insert (hstands'.trans hstands)]
      | true =>
          obtain ⟨hvalue, hkey⟩ := stands_iff.mp hstands
          have hothers : ∀ e ∈ before ++ after, stands name e = false := by
            intro e he
            by_contra hother
            rw [Bool.not_eq_false, stands_iff] at hother
            apply hapart.others hvalue e he hother.1
            rw [hother.2, ← hcase]
            exact hkey.symm
          rw [value?_only hstands hothers, value?_only (hstands'.trans hstands) hothers]
  | null => rw [value?_insert (by simp [stands, isNull])]
  | @other before after key value hkey =>
      have hne : Text.lower key ≠ name := fun heq => hkey (heq ▸ hname)
      rw [value?_insert (by simp [stands, hne])]
  | reorder hperm hkeys =>
      unfold value?
      rw [greatest?_perm (hperm.filter _) (hkeys.sublist (List.filter_sublist.map _))]

/-! ## Several spellings of one key -/

/-- Among the entries that stand for a part, the one whose key has the greatest bytes. -/
structure Greatest (name : String) (entries : List (String × Json)) (key : String)
    (value : Json) : Prop where
  mem : (key, value) ∈ entries
  present : stands name (key, value) = true
  greatest : ∀ e ∈ entries, stands name e = true → e.1 ≠ key →
    Text.bytes e.1 < Text.bytes key

/-- The entries for a part that are not those with the greatest key are taken away. -/
inductive Outdone : List (String × Json) → List (String × Json) → Prop
  | drop {entries : List (String × Json)} {name key : String} {value : Json}
      (hkeys : (entries.map (·.1)).Nodup) (hgreatest : Greatest name entries key value) :
      Outdone entries (entries.filter fun e => e.1 == key || !stands name e)

/-- **A part is made from the value of the greatest key.** -/
theorem Greatest.value?_eq {name key : String} {entries : List (String × Json)} {value : Json}
    (h : Greatest name entries key value) (hkeys : (entries.map (·.1)).Nodup) :
    value? name entries = some value := by
  have hbest : greatest? (entries.filter (stands name)) =
      some (key, value) := by
    apply greatest?_eq_some (hkeys.sublist (List.filter_sublist.map _))
    · exact List.mem_filter.mpr ⟨h.mem, h.present⟩
    · intro e he
      obtain ⟨hmem, hstands⟩ := List.mem_filter.mp he
      by_cases hkey : e.1 = key
      · subst hkey
        exact String.le_refl _
      · have hlt := Text.bytes_lt_iff.mp (h.greatest e hmem hstands hkey)
        exact String.not_lt.mp (String.lt_asymm hlt)
  rw [value?, hbest]
  rfl

/-- An entry that is outdone may go, and no part changes. -/
theorem value?_of_outdone {entries entries' : List (String × Json)} (h : Outdone entries entries')
    (name : String) : value? name entries = value? name entries' := by
  cases h with
  | @drop part key value hkeys hgreatest =>
      by_cases hname : name = part
      · subst hname
        have hkept : Greatest name
            (entries.filter fun e => e.1 == key || !stands name e) key value :=
          { mem := List.mem_filter.mpr ⟨hgreatest.mem, by simp⟩
            present := hgreatest.present
            greatest := fun e he => hgreatest.greatest e (List.mem_of_mem_filter he) }
        rw [hgreatest.value?_eq hkeys,
          hkept.value?_eq (hkeys.sublist (List.filter_sublist.map _))]
      · -- an entry for another part is kept
        have hsame : (entries.filter fun e => e.1 == key || !stands part e).filter
            (stands name) = entries.filter (stands name) := by
          rw [List.filter_filter]
          refine List.filter_congr fun e _ => ?_
          cases hstands : stands name e with
          | false => rfl
          | true =>
              have hpart : stands part e = false := by
                by_contra hpart
                rw [Bool.not_eq_false, stands_iff] at hpart
                exact hname ((stands_iff.mp hstands).2.symm.trans hpart.2)
              rw [hpart]
              simp
        rw [value?, value?, hsame]

/-- The part of the node with the name is made from the value. -/
inductive PartOf (node : Node) : String → Json → Prop
  | id : PartOf node "id" (.str node.id)
  | condition {s : String} (h : node.condition = some s) : PartOf node "condition" (.str s)
  | action {s : String} (h : node.action = some s) : PartOf node "action" (.str s)
  | children {value : Json} (h : listOfJson value = .ok node.children) :
      PartOf node "children" value

/-- A node is read if its parts are. -/
theorem ofJson_obj_eq_ok {entries : List (String × Json)} {node : Node}
    (h : ofJson (.obj entries) = .ok node) :
    readText? (value? "action" entries) = .ok node.action ∧
      readNodes? (value? "children" entries) = .ok node.children ∧
      readText? (value? "condition" entries) = .ok node.condition ∧
      ∃ id, readText? (value? "id" entries) = .ok id ∧ id.getD "" = node.id := by
  rw [ofJson_obj] at h
  cases haction : readText? (value? "action" entries) with
  | error _ => rw [haction] at h; cases h
  | ok action =>
      cases hchildren : readNodes? (value? "children" entries) with
      | error _ => rw [haction, hchildren] at h; cases h
      | ok children =>
          cases hcondition : readText? (value? "condition" entries) with
          | error _ => rw [haction, hchildren, hcondition] at h; cases h
          | ok condition =>
              cases hid : readText? (value? "id" entries) with
              | error _ => rw [haction, hchildren, hcondition, hid] at h; cases h
              | ok id =>
                  rw [haction, hchildren, hcondition, hid] at h
                  cases h
                  exact ⟨rfl, rfl, rfl, id, rfl, rfl⟩

/-- A text is read from a value that is not `null` just if it is a string. -/
theorem readText?_some {value : Json} (hvalue : value.isNull = false) {text : Option String}
    (h : readText? (some value) = .ok text) : ∃ s, value = .str s ∧ text = some s := by
  rw [readText?, readOptionalText_of_not_null hvalue] at h
  cases value with
  | str s =>
      cases h
      exact ⟨s, rfl, rfl⟩
  | _ => cases h

/-- A node that is read has that value in the part. -/
theorem Greatest.partOf {name key : String} {entries : List (String × Json)} {value : Json}
    (h : Greatest name entries key value) (hkeys : (entries.map (·.1)).Nodup)
    (hname : name ∈ partNames) {node : Node} (hnode : ofJson (.obj entries) = .ok node) :
    PartOf node name value := by
  have hvalue := h.value?_eq hkeys
  have hpresent := (stands_iff.mp h.present).1
  obtain ⟨haction, hchildren, hcondition, id, hid, hgetD⟩ := ofJson_obj_eq_ok hnode
  simp only [partNames, List.mem_cons, List.not_mem_nil, or_false] at hname
  rcases hname with rfl | rfl | rfl | rfl
  · rw [hvalue] at hid
    obtain ⟨s, rfl, rfl⟩ := readText?_some hpresent hid
    rw [show s = node.id from hgetD]
    exact .id
  · rw [hvalue] at hcondition
    obtain ⟨s, rfl, htext⟩ := readText?_some hpresent hcondition
    exact .condition htext
  · rw [hvalue] at haction
    obtain ⟨s, rfl, htext⟩ := readText?_some hpresent haction
    exact .action htext
  · rw [hvalue] at hchildren
    exact .children hchildren

/-- What differs by any number of changes is read in the same way. -/
theorem told_of_changes {v v' : Json} (h : Relation.EqvGen (Within Change) v v') :
    told (ofDocument v) = told (ofDocument v') := by
  induction h with
  | rel v v' h =>
      apply Alike.document
      apply alike_of_within _ h
      intro entries entries' hchange
      exact alike_obj_of_eq fun name hname => value?_of_change hchange hname
  | refl v => rfl
  | symm v v' _ ih => exact ih.symm
  | trans v v' v'' _ _ ih ih' => exact ih.trans ih'

/-- **What a reader of trees does not see.**

* Keys may be spelled in another way with the same lower case, as long as no two entries of the
  object that are not `null` have the same key in lower case; and entries that are `null` or stand
  for no part of a node may be added and taken away, in any object at any depth and any number of
  times.  The document is read as the same tree, or refused with the same message.
* When several entries of an object stand for the same part, those with lesser keys, by their bytes,
  may be taken away.  The part is made from the value of the greatest key, in a node below the root
  and in the root of a document. -/
theorem reading_ignores_spelling :
    (∀ v v' : Json, Relation.EqvGen (Within Change) v v' →
      told (ofDocument v) = told (ofDocument v')) ∧
    (∀ v v' : Json, Within Outdone v v' → told (ofDocument v) = told (ofDocument v')) ∧
    (∀ (entries : List (String × Json)) (name key : String) (value : Json) (node : Node),
      (entries.map (·.1)).Nodup → name ∈ partNames → Greatest name entries key value →
      (ofJson (.obj entries) = .ok node → PartOf node name value) ∧
      (ofDocument (.obj entries) = .ok node → PartOf node name value)) := by
  refine ⟨fun v v' => told_of_changes, ?_, ?_⟩
  · intro v v' h
    apply Alike.document
    apply alike_of_within _ h
    intro entries entries' houtdone
    exact alike_obj_of_eq fun name _ => value?_of_outdone houtdone name
  · intro entries name key value node hkeys hname hgreatest
    have hpart : ofJson (.obj entries) = .ok node → PartOf node name value :=
      hgreatest.partOf hkeys hname
    exact ⟨hpart, hpart⟩

/-- A guard with one child, in plain spelling. -/
def plainGuard : Json :=
  .obj [("id", .str "guard"), ("children", .arr [.obj [("id", .str "hunt")]])]

/-- The same with a capital, a remark on the child, and an action that is `null`. -/
def fancyGuard : Json :=
  .obj [("Id", .str "guard"), ("ACTION", .null),
    ("children", .arr [.obj [("id", .str "hunt"), ("Remark", .bool true)]])]

/-- Two spellings of a key. -/
def doubleName : List (String × Json) := [("ID", .str "first"), ("Id", .str "second")]

theorem reading_ignores_spelling_guard :
    (Relation.EqvGen (Within Change) plainGuard fancyGuard ∧
      told (ofDocument plainGuard) = told (ofDocument fancyGuard) ∧
      ofDocument fancyGuard = .ok { id := "guard", children := [{ id := "hunt" }] }) ∧
    (Within Outdone (.obj doubleName) (.obj [("Id", .str "second")]) ∧
      told (ofDocument (.obj doubleName)) = told (ofDocument (.obj [("Id", .str "second")]))) ∧
    (ofDocument (.obj doubleName) = .ok { id := "second" } ∧
      PartOf { id := "second" } "id" (.str "second")) := by
  have hchanges : Relation.EqvGen (Within Change) plainGuard fancyGuard := by
    refine .trans _ (.obj [("Id", .str "guard"), ("children", .arr [.obj [("id", .str "hunt")]])]) _
      (.rel _ _ (.here ?_)) (.trans _ (.obj [("Id", .str "guard"),
        ("children", .arr [.obj [("id", .str "hunt"), ("Remark", .bool true)]])]) _
        (.rel _ _ ?_) (.rel _ _ (.here ?_)))
    · exact @Change.respell [] _ _ _ _ (by decide) (by unfold SpelledApart; decide)
    · exact @Within.entry _ [_] [] _ _ _ (@Within.item _ [] [] _ _
        (.here (@Change.other [_] [] _ _ (by decide))))
    · exact @Change.null [_] _ _
  have hkeys : (doubleName.map (·.1)).Nodup := by decide
  have hgreatest : Greatest "id" doubleName "Id" (.str "second") := by
    refine ⟨by simp [doubleName], by decide, ?_⟩
    intro e he _ hne
    rw [Text.bytes_lt_iff]
    simp only [doubleName, List.mem_cons, List.not_mem_nil, or_false] at he
    rcases he with rfl | rfl
    · decide
    · exact absurd rfl hne
  have houtdone : Within Outdone (.obj doubleName) (.obj [("Id", .str "second")]) :=
    .here (.drop hkeys hgreatest)
  have hguard : ofDocument fancyGuard = .ok { id := "guard", children := [{ id := "hunt" }] } := by
    rw [fancyGuard, ofDocument, ofJson_obj]
    rfl
  have hdouble : ofDocument (.obj doubleName) = .ok { id := "second" } := by
    rw [ofDocument, ofJson_obj]
    rfl
  have hpart := reading_ignores_spelling.2.2 _ _ _ _ { id := "second" } hkeys (by decide) hgreatest
  exact ⟨⟨hchanges, reading_ignores_spelling.1 _ _ hchanges, hguard⟩,
    ⟨houtdone, reading_ignores_spelling.2.1 _ _ houtdone⟩, ⟨hdouble, hpart.2 hdouble⟩⟩

end Node

end BehaviorTraits
