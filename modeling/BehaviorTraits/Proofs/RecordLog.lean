import BehaviorTraits.Config
import BehaviorTraits.Proofs.Ascending
import BehaviorTraits.Proofs.ByteOrder
import Mathlib.Data.Finset.Card

/-!
# A capability table tells its log

Records come to a table in batches: the builtin ones, then those of a configuration, then others.
The table keeps two maps, and each record with a name goes into both, under different keys.  A
record may replace one that is kept under another name in lower case only, so the maps need not hold
the same records.

`Tells` says what the table must answer when certain records have been added: the last of those that
have the name asked for.  One addition keeps it true (`Tells.insert`), so it is true of every table
that was ever put together (`table_tells_log`), and the batches do not matter.
-/

namespace BehaviorTraits.CapabilityTable

/-! ## One map -/

section

variable {key : String} {record : Capability} {entries : List (String × Capability)}

theorem lookup_cons (query k : String) (r : Capability) (rest : List (String × Capability)) :
    List.lookup query ((k, r) :: rest) = if query = k then some r else rest.lookup query := by
  rw [List.lookup_cons]
  by_cases hk : query = k
  · simp [hk]
  · rw [if_neg hk, beq_eq_false_iff_ne.mpr hk]

/-- A key gives the record that was last put under it. -/
theorem lookup_put (query : String) :
    (put key record entries).lookup query =
      if query = key then some record else entries.lookup query := by
  induction entries with
  | nil => exact lookup_cons query key record []
  | cons other rest ih =>
      obtain ⟨k, r⟩ := other
      rw [put]
      by_cases hlt : key < k
      · rw [if_pos hlt]
        exact lookup_cons query key record _
      · rw [if_neg hlt]
        by_cases heq : key = k
        · rw [if_pos heq, lookup_cons, lookup_cons, ← heq]
          split_ifs <;> rfl
        · rw [if_neg heq, lookup_cons, ih, lookup_cons]
          by_cases hquery : query = key
          · rw [if_pos hquery, if_pos hquery, if_neg fun hk => heq (hquery.symm.trans hk)]
          · rw [if_neg hquery, if_neg hquery]

/-- Putting a record adds its key to the keys. -/
theorem keys_put :
    (put key record entries).map (·.1) = insertSorted key (entries.map (·.1)) := by
  induction entries with
  | nil => rfl
  | cons other rest ih =>
      obtain ⟨k, r⟩ := other
      rw [put, List.map_cons, insertSorted]
      by_cases hlt : key < k
      · rw [if_pos hlt, if_pos hlt]
        rfl
      · rw [if_neg hlt, if_neg hlt]
        by_cases heq : key = k
        · rw [if_pos heq, if_pos heq, heq]
          rfl
        · rw [if_neg heq, if_neg heq, List.map_cons, ih]

end

/-! ## The two maps and the log -/

/-- Does the record get into the table? -/
def isNamed (record : Capability) : Bool := Text.trim record.name ≠ ""

/-- The last record of a log that has a certain name; `nameOf` says which name counts. -/
def latest? (nameOf : Capability → String) (name : String) (log : List Capability) :
    Option Capability :=
  (log.filter fun r => nameOf r = name).getLast?

/-- The last record of the log counts, if it has the name. -/
theorem latest?_concat (nameOf : Capability → String) (name : String) (log : List Capability)
    (record : Capability) :
    latest? nameOf name (log ++ [record]) =
      if name = nameOf record then some record else latest? nameOf name log := by
  unfold latest?
  by_cases hname : name = nameOf record
  · simp [List.filter_append, hname]
  · simp [List.filter_append, hname, Ne.symm hname]

/-- The table answers as if it went through the log. -/
structure Tells (table : CapabilityTable) (log : List Capability) : Prop where
  exact : ∀ name, table.get? name = latest? (·.name) name log
  folded : ∀ key, table.folded.lookup key = latest? (Text.lower ·.name) key log
  ascending : table.names.Pairwise (· < ·)
  listed : ∀ name, name ∈ table.names ↔ name ∈ log.map (·.name)

section

variable {table : CapabilityTable} {log : List Capability}

/-- An empty table tells of no record. -/
theorem tells_empty : Tells {} [] where
  exact _ := rfl
  folded _ := rfl
  ascending := List.Pairwise.nil
  listed _ := Iff.rfl

/-- **One more record.**  It gets into both maps or, without a name, into none. -/
theorem Tells.insert (h : Tells table log) (record : Capability) :
    Tells (table.insert record) (log ++ [record].filter isNamed) := by
  unfold CapabilityTable.insert
  by_cases hblank : Text.trim record.name = ""
  · have hskip : [record].filter isNamed = [] := by simp [isNamed, hblank]
    rw [if_pos hblank, hskip, List.append_nil]
    exact h
  · have hkeep : [record].filter isNamed = [record] := by simp [isNamed, hblank]
    rw [if_neg hblank, hkeep]
    constructor
    · intro name
      rw [get?, lookup_put, latest?_concat, ← h.exact name, get?]
    · intro key
      rw [lookup_put, latest?_concat, ← h.folded key]
    · rw [names, keys_put]
      exact ascending_insertSorted h.ascending
    · intro name
      have hmem := h.listed name
      rw [names] at hmem
      rw [names, keys_put, mem_insertSorted, hmem, List.map_append, List.mem_append,
        List.map_singleton, List.mem_singleton, or_comm]

/-- **Extending a table adds to its log** the records that have a name. -/
theorem Tells.extend (h : Tells table log) (records : List Capability) :
    Tells (table.extend records) (log ++ records.filter isNamed) := by
  induction records generalizing table log with
  | nil =>
      rw [List.filter_nil, List.append_nil]
      exact h
  | cons record records ih =>
      have hnext := ih (h.insert record)
      rw [List.append_assoc, ← List.filter_append, List.singleton_append] at hnext
      rw [CapabilityTable.extend, List.foldl_cons]
      exact hnext

/-- **One batch after the other.** -/
theorem Tells.extendAll (h : Tells table log) (batches : List (List Capability)) :
    Tells (batches.foldl CapabilityTable.extend table)
      (log ++ batches.flatten.filter isNamed) := by
  induction batches generalizing table log with
  | nil =>
      rw [List.flatten_nil, List.filter_nil, List.append_nil]
      exact h
  | cons batch batches ih =>
      have hnext := ih (h.extend batch)
      rw [List.append_assoc, ← List.filter_append, ← List.flatten_cons] at hnext
      exact hnext

/-- Each name is counted once. -/
theorem Tells.size_eq (h : Tells table log) :
    table.size = (log.map (·.name)).toFinset.card := by
  have hnodup : table.names.Nodup := by
    refine h.ascending.imp ?_
    rintro first second hlt rfl
    exact String.lt_irrefl first hlt
  have hsame : (log.map (·.name)).toFinset = table.names.toFinset := by
    ext name
    rw [List.mem_toFinset, List.mem_toFinset, h.listed]
  rw [hsame, List.toFinset_card_of_nodup hnodup, names, List.length_map]
  rfl

end

/-- The table that batches of records make, the first ones put into an empty table. -/
def layered (batches : List (List Capability)) : CapabilityTable := batches.foldl extend {}

theorem ofRecords_eq_layered (records : List Capability) : ofRecords records = layered [records] :=
  rfl

/-- Extending a layered table adds a layer. -/
theorem extend_layered (batches : List (List Capability)) (records : List Capability) :
    (layered batches).extend records = layered (batches ++ [records]) := by
  rw [layered, layered, List.foldl_append]
  rfl

/-- **A table tells its log.**  Into how many batches the records are split does not matter, and
those without a name do not count.  Asked for a name, the table gives the last record of this name;
asked for it in any case, the last record whose name is the same in lower case.  It counts each name
once, and lists the names in the strictly ascending order of their bytes.  The builtin table and
that of a configuration are such tables. -/
theorem table_tells_log (batches : List (List Capability)) :
    let table := layered batches
    let log := batches.flatten.filter isNamed
    (∀ query, table.get? query = latest? (·.name) query log) ∧
    (∀ query, table.getFolded? query = latest? (Text.lower ·.name) (Text.lower query) log) ∧
    table.size = (log.map (·.name)).toFinset.card ∧
    table.names.Pairwise (fun first second => Text.bytes first < Text.bytes second) ∧
    (∀ name, name ∈ table.names ↔ name ∈ log.map (·.name)) ∧
    builtin = layered [builtinRecords] ∧
    ∀ config : Config, config.capabilityTable = layered [builtinRecords, config.capabilities] := by
  intro table log
  have htells : Tells table log := tells_empty.extendAll batches
  have hbuiltin : builtin = layered [builtinRecords] := ofRecords_eq_layered builtinRecords
  refine ⟨htells.exact, fun query => htells.folded (Text.lower query), htells.size_eq,
    htells.ascending.imp Text.bytes_lt_iff.mpr, htells.listed, hbuiltin, fun config => ?_⟩
  rw [Config.capabilityTable, hbuiltin]
  exact extend_layered [builtinRecords] config.capabilities

end BehaviorTraits.CapabilityTable
