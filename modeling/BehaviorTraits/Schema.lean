import BehaviorTraits.Generation
import BehaviorTraits.Json.Printer

/-!
# JSON schemas

What the documents that the program reads and writes look like: trees, configurations, generated
artifacts, validation reports and conditions.  Defaults in a schema are those of the types.
-/

namespace BehaviorTraits.Schema

/-- The part of a schema that says which kind a value has, with more about it before and behind. -/
def typed (type : String) (rest : List (String × Json)) : List (String × Json) :=
  ("type", .str type) :: rest

/-- A kind of value that may also be absent. -/
def typedOrNull (type : String) (rest : List (String × Json)) : List (String × Json) :=
  ("type", .strs [type, "null"]) :: rest

def described (description : String) (rest : List (String × Json)) : Json :=
  .obj (("description", .str description) :: rest)

def withDefault (value : Json) : List (String × Json) := [("default", value)]

/-- A schema that stands elsewhere in the same document. -/
def reference (place : String) : List (String × Json) := [("$ref", .str place)]

def definition (name : String) : List (String × Json) := reference ("#/$defs/" ++ name)

/-- The entries of an object's schema. -/
def record (properties : List (String × Json)) (required : List String) : List (String × Json) :=
  typed "object" (("properties", .obj properties) ::
    if required = [] then [] else [("required", .strs required)])

/-- A text that is one of a few. -/
def oneOf (texts : List String) : List (String × Json) := typed "string" [("enum", .strs texts)]

def listOf (items : List (String × Json)) : List (String × Json) :=
  typed "array" [("items", .obj items)]

/-- A number that is not below zero. -/
def natural (format : String) : List (String × Json) :=
  typed "integer" [("format", .str format), ("minimum", .ofNat 0)]

def text : Json := .obj (typed "string" [])

/-- A whole schema document. -/
def document (title description : String) (root : List (String × Json))
    (definitions : List (String × Json)) : Json :=
  .obj ([("$schema", .str "https://json-schema.org/draft/2020-12/schema"), ("title", .str title),
    ("description", .str description)] ++ root ++
    if definitions.isEmpty then [] else [("$defs", .obj definitions)])

/-- The schema of behavior trees. -/
def tree : Json :=
  document "Behavior Node" "Behavior tree node"
    (record
      [("action", described "Raw action run when this node is reached (e.g. \"Move(10, 20)\")"
          (typedOrNull "string" [])),
        ("children", described "Ordered child nodes" (listOf (reference "#"))),
        ("condition", described
          "Raw condition guarding this subtree (e.g. \"Health < 30%\", \"!HasRocket\")"
          (typedOrNull "string" [])),
        ("id", described "Node identifier (e.g. \"low_health\")"
          (typed "string" (withDefault (.str ""))))] [])
    []

def textWithDefault (description default : String) : Json :=
  described description (typed "string" (withDefault (.str default)))

def flagWithDefault (description : String) (default : Bool) : Json :=
  described description (typed "boolean" (withDefault (.ofBool default)))

def optionalWord (value : Option Nat) : Json := (value.map Json.ofNat).getD .null

/-- The parts of a configuration that have a schema of their own. -/
def configDefinitions (config : Config) : List (String × Json) :=
  let actor := config.actor
  [("ActorDefaults", described "Fixed entries of the generated actor document"
      (record
        [("generic_name", textWithDefault "Tooltip generic name" actor.genericName),
          ("image", textWithDefault "Sprite image" actor.image),
          ("inherits", textWithDefault "Template the actor inherits from" actor.inherits)] [])),
    ("CapabilityRecord", described "A known engine trait and the trait it needs on the actor"
      (record
        [("dependency", described "Trait the actor must also carry (often the trait itself)"
            (typed "string" [])),
          ("name", described "Trait name as the engine spells it (e.g. \"Cloak\")"
            (typed "string" []))] ["name", "dependency"])),
    ("RenderOptions", described "Options for the C# emitter"
      (record
        [("comments", flagWithDefault "Emit a `// node: <id>` comment before each lowered node"
            config.render.comments),
          ("provenance", flagWithDefault "Emit the provenance header" config.render.provenance)]
        [])),
    ("TraitOptions", described "Options shaping the generated update hook"
      (record
        [("idle_guard", flagWithDefault "Skip ticks while the actor is busy with an activity"
            config.hook.idleGuard),
          ("scan_interval", described "Evaluate the tree every N ticks instead of every tick"
            (typedOrNull "integer" [("format", .str "uint32"),
              ("default", optionalWord config.hook.scanInterval), ("minimum", .ofNat 0)]))] []))]

/-- The schema of configurations. -/
def config : Json :=
  let default : Config := {}
  let part (description name : String) (value : List (String × Json)) : Json :=
    described description (definition name ++ withDefault (.obj value))
  document "SynthConfig" "Root configuration (`traitsynth.yaml`)"
    (record
      [("actor", part "Actor document defaults" "ActorDefaults"
          [("generic_name", .str default.actor.genericName), ("image", .str default.actor.image),
            ("inherits", .str default.actor.inherits)]),
        ("capabilities", described "Extra capabilities, layered over the built-in table"
          (typed "array" (withDefault (.arr []) ++
            [("items", .obj (definition "CapabilityRecord"))]))),
        ("namespace", textWithDefault "Namespace for generated classes" default.namespaceName),
        ("render", part "Render options" "RenderOptions"
          [("comments", .ofBool default.render.comments),
            ("provenance", .ofBool default.render.provenance)]),
        ("trait", part "Update-hook options" "TraitOptions"
          [("idle_guard", .ofBool default.hook.idleGuard),
            ("scan_interval", optionalWord default.hook.scanInterval)]),
        ("version", described "Schema version for migrations" (natural "uint32"))] ["version"])
    (configDefinitions default)

/-- The schema of generated artifacts. -/
def artifacts : Json :=
  document "Artifacts" "Everything one generation run produces"
    (record
      [("csharp", text),
        ("csharp_file", described "Suggested file name for the C# source" (typed "string" [])),
        ("dependencies", described "Engine traits the actor needs, sorted"
          (listOf (typed "string" []))),
        ("diagnostics", described "Structural findings; generation proceeds regardless"
          (listOf (typed "string" []))),
        ("miniyaml", text),
        ("miniyaml_file", described "Suggested file name for the actor document"
          (typed "string" [])),
        ("trait_name", described "Generated trait class name" (typed "string" []))]
      ["trait_name", "csharp_file", "csharp", "miniyaml_file", "miniyaml", "diagnostics",
        "dependencies"])
    []

/-- The schema of validation reports. -/
def report : Json :=
  document "ValidationReport" "Result of tree validation"
    (record
      [("is_valid", .obj (typed "boolean" [])),
        ("issues", .obj (listOf (definition "ValidationIssue"))),
        ("nodes_checked", .obj (natural "uint"))]
      ["is_valid", "issues", "nodes_checked"])
    [("IssueKind", described "Type of structural finding"
        (oneOf ["MissingId", "AmbiguousLeaf", "DeadEnd", "UnusableCondition"])),
      ("ValidationIssue", described "A structural finding on one node"
        (record
          [("code", text), ("kind", .obj (definition "IssueKind")), ("message", text),
            ("node_id", text)] ["code", "kind", "node_id", "message"]))]

/-- The schema of conditions. -/
def condition : Json :=
  let comparisons : List Comparison := [.less, .greater, .atMost, .atLeast, .equal, .notEqual]
  document "ParsedCondition" "Structured form of a raw condition string"
    (record
      [("literal", described "Right-hand side of a comparison (e.g. \"30%\")"
          (typedOrNull "string" [])),
        ("negated", described "Whether a negation marker was stripped" (typed "boolean" [])),
        ("operator", described "Comparison operator, `None` for boolean flags"
          [("anyOf", .arr [.obj (definition "ComparisonOp"), .obj (typed "null" [])])]),
        ("subject", described
          "What the condition talks about (e.g. \"Health\", \"EnemyVisible\")"
          (typed "string" []))] ["subject", "negated"])
    [("ComparisonOp", described "Comparison operators understood by the condition grammar"
        (oneOf (comparisons.map Comparison.symbol)))]

/-- All schemas by name. -/
def all : List (String × Json) :=
  [("tree", tree), ("config", config), ("artifacts", artifacts), ("validate", report),
    ("condition", condition)]

end BehaviorTraits.Schema
