import BehaviorTraits.Text.Blank
import BehaviorTraits.Text.Case

/-!
# Capabilities

A capability is a trait that the engine knows, with the trait an actor needs for it.  A condition
whose subject names one is answered by asking the actor for that trait.

The table keeps one record for each name and one for each name in lower case; a later record
replaces an earlier one in both.  Records with a blank name are skipped.
-/

namespace BehaviorTraits

structure Capability where
  /-- The trait as the engine spells it. -/
  name : String
  /-- The trait that the actor must carry too; often the same one. -/
  dependency : String
  deriving DecidableEq, Repr

/-- A capability that needs only itself. -/
def Capability.standalone (name : String) : Capability := ⟨name, name⟩

/-- Two maps from text to records, each with its keys in ascending order. -/
structure CapabilityTable where
  exact : List (String × Capability) := []
  folded : List (String × Capability) := []
  deriving DecidableEq, Repr

namespace CapabilityTable

/-- Puts a record at its key's place, in ascending order; it replaces an earlier one. -/
def put (key : String) (record : Capability) :
    List (String × Capability) → List (String × Capability)
  | [] => [(key, record)]
  | (k, r) :: rest =>
    if key < k then (key, record) :: (k, r) :: rest
    else if key = k then (key, record) :: rest
    else (k, r) :: put key record rest

/-- Adds one record. -/
def insert (table : CapabilityTable) (record : Capability) : CapabilityTable :=
  if Text.trim record.name = "" then table
  else
    ⟨put record.name record table.exact, put (Text.lower record.name) record table.folded⟩

/-- Layers records over the table. -/
def extend (table : CapabilityTable) (records : List Capability) : CapabilityTable :=
  records.foldl insert table

def ofRecords (records : List Capability) : CapabilityTable := extend {} records

def size (table : CapabilityTable) : Nat := table.exact.length

def isEmpty (table : CapabilityTable) : Bool := table.exact.isEmpty

/-- All names in ascending order. -/
def names (table : CapabilityTable) : List String := table.exact.map (·.1)

def get? (table : CapabilityTable) (name : String) : Option Capability := table.exact.lookup name

/-- The record of a name in any case. -/
def getFolded? (table : CapabilityTable) (name : String) : Option Capability :=
  table.folded.lookup (Text.lower name)

/-- The traits that every stock mod ships with. -/
def builtinRecords : List Capability :=
  [⟨"Armament", "AttackBase"⟩, ⟨"AttackBase", "Armament"⟩, ⟨"AttackFrontal", "Armament"⟩,
    ⟨"AttackTurreted", "Turreted"⟩, ⟨"AutoTarget", "AttackBase"⟩, .standalone "Cargo",
    .standalone "Carryable", .standalone "Cloak", ⟨"Guard", "Mobile"⟩, ⟨"Harvester", "Mobile"⟩,
    .standalone "Mobile", .standalone "Parachutable", .standalone "Passenger",
    .standalone "Repairable", .standalone "Selectable", .standalone "Targetable",
    .standalone "Turreted"]

def builtin : CapabilityTable := ofRecords builtinRecords

end CapabilityTable

end BehaviorTraits
