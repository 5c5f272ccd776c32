import BehaviorTraits.Actor
import BehaviorTraits.Capability
import BehaviorTraits.Yaml.Value

/-!
# Configuration

What a mod settles for all of its traits, written in YAML: the namespace, what the generated source
shows, how the update hook looks, what actors have by default, and capabilities on top of the
builtin ones.  Only the version must be given.  Unknown fields are ignored.
-/

namespace BehaviorTraits

/-- What the generated source shows beside code. -/
structure RenderOptions where
  /-- A header that says which tree the source comes from. -/
  provenance : Bool := true
  /-- A comment where a node begins. -/
  comments : Bool := true
  deriving DecidableEq, Repr

/-- How the update hook looks. -/
structure TraitOptions where
  idleGuard : Bool := true
  scanInterval : Option Nat := none
  deriving DecidableEq, Repr

structure Config where
  version : Nat := 1
  namespaceName : String := defaultNamespace
  render : RenderOptions := {}
  hook : TraitOptions := {}
  actor : ActorDefaults := {}
  /-- Capabilities layered over the builtin ones. -/
  capabilities : List Capability := []
  deriving DecidableEq, Repr

/-- Why a text is no configuration. -/
inductive ConfigError where
  /-- It is not YAML, or a field does not hold what it must. -/
  | notYaml
  | unsupportedVersion (version : Nat)
  | zeroInterval
  deriving DecidableEq, Repr

def ConfigError.message : ConfigError → String
  | notYaml => "Config error: Failed to parse traitsynth.yaml: <yaml>"
  | unsupportedVersion version => s!"Config error: Unsupported traitsynth.yaml version: {version}"
  | zeroInterval => "Config error: trait.scan_interval must be at least 1"

section OfNode

open Yaml.Node

variable (document : Yaml.Node)

def RenderOptions.ofNode? (node : Yaml.Node) : Option RenderOptions := do
  let fields ← fields? document node
  return ⟨← fieldOr fields "provenance" (bool? document) true,
    ← fieldOr fields "comments" (bool? document) true⟩

def TraitOptions.ofNode? (node : Yaml.Node) : Option TraitOptions := do
  let fields ← fields? document node
  return ⟨← fieldOr fields "idle_guard" (bool? document) true,
    ← fieldOr fields "scan_interval" (optional? document (word? document)) none⟩

def ActorDefaults.ofNode? (node : Yaml.Node) : Option ActorDefaults := do
  let fields ← fields? document node
  let default : ActorDefaults := {}
  return ⟨← fieldOr fields "inherits" (text? document) default.inherits,
    ← fieldOr fields "generic_name" (text? document) default.genericName,
    ← fieldOr fields "image" (text? document) default.image⟩

def Capability.ofNode? (node : Yaml.Node) : Option Capability := do
  let fields ← fields? document node
  return ⟨← required? fields "name" (text? document),
    ← required? fields "dependency" (text? document)⟩

end OfNode

namespace Config

open Yaml.Node

/-- The file that holds the configuration of a directory. -/
def fileName : String := "traitsynth.yaml"

/-- The configuration that a whole document is. -/
def ofDocument? (document : Yaml.Node) : Option Config := do
  let fields ← fields? document document
  let capabilities? (node : Yaml.Node) : Option (List Capability) := do
    (← items? document node).mapM (Capability.ofNode? document)
  return {
    version := ← required? fields "version" (word? document)
    namespaceName := ← fieldOr fields "namespace" (text? document) defaultNamespace
    render := ← fieldOr fields "render" (RenderOptions.ofNode? document) {}
    hook := ← fieldOr fields "trait" (TraitOptions.ofNode? document) {}
    actor := ← fieldOr fields "actor" (ActorDefaults.ofNode? document) {}
    capabilities := ← fieldOr fields "capabilities" capabilities? [] }

/-- Is the configuration one that can be worked with? -/
def check (config : Config) : Except ConfigError Config :=
  if config.version ≠ 1 then .error (.unsupportedVersion config.version)
  else if config.hook.scanInterval = some 0 then .error .zeroInterval
  else .ok config

/-- Reads a configuration. -/
def parse (text : String) : Except ConfigError Config :=
  match (Yaml.document? text).bind ofDocument? with
  | some config => config.check
  | none => .error .notYaml

/-- The builtin capabilities with those of the configuration on top. -/
def capabilityTable (config : Config) : CapabilityTable :=
  CapabilityTable.builtin.extend config.capabilities

/-- What the configuration says about the update hook. -/
def hookOptions (config : Config) : HookOptions :=
  { namespaceName := config.namespaceName, idleGuard := config.hook.idleGuard
    scanInterval := config.hook.scanInterval, nodeComments := config.render.comments }

end Config

end BehaviorTraits
