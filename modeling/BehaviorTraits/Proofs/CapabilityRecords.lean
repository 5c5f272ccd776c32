import BehaviorTraits.Capability
import Mathlib.Data.List.Basic

/-!
# The records of a capability table

A table keeps its records twice, under their names and under their names in lower case.  What the
second map finds is always a record whose name is in the first (`getFolded?_name`).
-/

namespace BehaviorTraits.CapabilityTable

variable {key : String} {record : Capability} {entries : List (String × Capability)}

/-- An entry of the map is the one just put there or an earlier one. -/
theorem mem_put {entry : String × Capability} (h : entry ∈ put key record entries) :
    entry = (key, record) ∨ entry ∈ entries := by
  induction entries with
  | nil => exact .inl (List.mem_singleton.mp h)
  | cons other rest ih =>
      rw [put] at h
      split at h
      · exact List.mem_cons.mp h
      · split at h
        · rcases List.mem_cons.mp h with h | h
          · exact .inl h
          · exact .inr (List.mem_cons_of_mem _ h)
        · rcases List.mem_cons.mp h with h | h
          · exact .inr (h ▸ List.mem_cons_self)
          · exact (ih h).imp_right (List.mem_cons_of_mem _)

/-- The new key is there, and the others stay. -/
theorem mem_keys_put (k : String) :
    k ∈ (put key record entries).map (·.1) ↔ k = key ∨ k ∈ entries.map (·.1) := by
  induction entries with
  | nil => simp [put]
  | cons other rest ih =>
      rw [put]
      split
      · simp
      · split
        · rename_i hkey
          simp [hkey]
        · rw [List.map_cons, List.mem_cons, ih, List.map_cons, List.mem_cons]
          exact or_left_comm

/-- Every record that is kept under a folded name is kept under its own. -/
def Named (table : CapabilityTable) : Prop :=
  ∀ entry ∈ table.folded, entry.2.name ∈ table.names

/-- Inserting a record keeps each record under its own name. -/
theorem Named.insert {table : CapabilityTable} (h : table.Named) (record : Capability) :
    (table.insert record).Named := by
  unfold CapabilityTable.insert
  split
  · exact h
  · intro entry hentry
    rw [names, mem_keys_put]
    rcases mem_put hentry with rfl | hentry
    · exact .inl rfl
    · exact .inr (h entry hentry)

theorem Named.extend {table : CapabilityTable} (h : table.Named) (records : List Capability) :
    (table.extend records).Named := by
  induction records generalizing table with
  | nil => exact h
  | cons record records ih =>
      rw [CapabilityTable.extend, List.foldl_cons, ← CapabilityTable.extend]
      exact ih (h.insert record)

/-- **A table keeps records under their own names**, however it came about. -/
theorem named_ofRecords (records : List Capability) : (ofRecords records).Named := by
  have hempty : Named {} := by
    intro entry hentry
    cases hentry
  exact hempty.extend records

/-- **A record that is found is one of the table.** -/
theorem getFolded?_name {records : List Capability} {subject : String} {record : Capability}
    (h : (ofRecords records).getFolded? subject = some record) :
    record.name ∈ (ofRecords records).names := by
  obtain ⟨before, behind, hfolded, -⟩ := List.lookup_eq_some_iff.mp h
  refine named_ofRecords records (Text.lower subject, record) ?_
  rw [hfolded]
  exact List.mem_append_right _ List.mem_cons_self

end BehaviorTraits.CapabilityTable
