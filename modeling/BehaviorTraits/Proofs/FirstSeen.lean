import Mathlib.Data.List.Nodup

/-!
# The first of each key

Fields of a class, uses of fields and subjects of conditions are gathered in the same way: going
through items in order, each is added unless one of its key is there already.  What this leaves is
what was known at first, and behind it the first item of each new key (`foldl_addNew`).
-/

namespace BehaviorTraits

variable {α κ : Type} [DecidableEq κ] (key : α → κ)

/-- Adds an item unless there is one of its key. -/
def addNew (known : List α) (item : α) : List α :=
  if key item ∈ known.map key then known else known ++ [item]

theorem addNew_id (known : List κ) (item : κ) :
    addNew id known item = if item ∈ known then known else known ++ [item] := by
  rw [addNew, List.map_id]
  rfl

/-- The first item of each key, in order. -/
def firsts (items : List α) : List α := items.eraseDupsBy fun a b => key a == key b

/-- The first item is kept, and of the others those with another key count. -/
theorem firsts_cons (item : α) (items : List α) :
    firsts key (item :: items) = item :: firsts key (items.filter (key · ≠ key item)) := by
  unfold firsts
  rw [List.eraseDupsBy_cons]
  simp

/-- Induction that drops the items of a key when it has met the first one. -/
theorem firsts_induct {P : List α → Prop} (nil : P [])
    (cons : ∀ item items, P (items.filter (key · ≠ key item)) → P (item :: items)) :
    ∀ items, P items
  | [] => nil
  | item :: items => cons item items (firsts_induct nil cons (items.filter (key · ≠ key item)))
termination_by items => items.length
decreasing_by
  have hle := List.length_filter_le (fun other => decide (key other ≠ key item)) items
  rw [List.length_cons]
  omega

/-- No item is made up. -/
theorem mem_of_mem_firsts {item : α} {items : List α} (h : item ∈ firsts key items) :
    item ∈ items := by
  induction items using firsts_induct key with
  | nil => exact h
  | cons first rest ih =>
      rw [firsts_cons, List.mem_cons] at h
      rcases h with rfl | h
      · exact List.mem_cons_self
      · exact List.mem_cons_of_mem _ (List.mem_of_mem_filter (ih h))

/-- **What gathering leaves.**  Behind what was known stands the first item of each new key. -/
theorem foldl_addNew (items : List α) : ∀ known : List α,
    items.foldl (addNew key) known =
      known ++ firsts key (items.filter (key · ∉ known.map key)) := by
  induction items with
  | nil =>
      intro known
      exact (List.append_nil known).symm
  | cons item items ih =>
      intro known
      rw [List.foldl_cons, ih, addNew]
      by_cases hknown : key item ∈ known.map key
      · rw [if_pos hknown, List.filter_cons_of_neg (by simpa using hknown)]
      · -- the new key is known from here on, so it is filtered out of what follows
        have hfilter : items.filter (key · ∉ (known ++ [item]).map key) =
            (items.filter (key · ∉ known.map key)).filter (key · ≠ key item) := by
          rw [List.filter_filter]
          apply List.filter_congr
          intro other _
          by_cases hkey : key other = key item <;> simp [hkey]
        rw [if_neg hknown, List.filter_cons_of_pos (by simpa using hknown), firsts_cons, hfilter,
          List.append_assoc]
        rfl

/-- The keys of the first items are the different keys, in order. -/
theorem map_firsts (items : List α) : (firsts key items).map key = (items.map key).eraseDups := by
  induction items using firsts_induct key with
  | nil => rfl
  | cons item items ih =>
      have hfilter : (items.map key).filter (!· == key item) =
          (items.filter (key · ≠ key item)).map key := by
        rw [List.filter_map]
        apply congrArg (List.map key)
        apply List.filter_congr
        intro other _
        by_cases hkey : key other = key item <;> simp [hkey]
      rw [firsts_cons, List.map_cons, ih, List.map_cons, List.eraseDups_cons, hfilter]

/-- **Gathering items gathers their keys**, each new one where it is first met. -/
theorem keys_foldl_addNew (items known : List α) :
    (items.foldl (addNew key) known).map key =
      known.map key ++ ((items.map key).filter (· ∉ known.map key)).eraseDups := by
  rw [foldl_addNew, List.map_append, map_firsts, List.filter_map]
  rfl

/-- Adding a new item keeps the keys different. -/
theorem nodup_addNew {known : List α} (hknown : (known.map key).Nodup) (item : α) :
    ((addNew key known item).map key).Nodup := by
  unfold addNew
  split
  · exact hknown
  · rename_i hnew
    rw [List.map_append]
    exact List.nodup_append_comm.mp (List.nodup_cons.mpr ⟨hnew, hknown⟩)

/-- Keys that are all different stay so. -/
theorem nodup_foldl_addNew (items : List α) : ∀ {known : List α}, (known.map key).Nodup →
    ((items.foldl (addNew key) known).map key).Nodup := by
  induction items with
  | nil => exact fun hknown => hknown
  | cons item items ih => exact fun hknown => ih (nodup_addNew key hknown item)

end BehaviorTraits
