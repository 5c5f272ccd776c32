import BehaviorTraits.CSharp.File
import BehaviorTraits.Config
import BehaviorTraits.Validation

/-!
# Generation

From the text of a tree to the two files that a mod takes in: the C# source of the trait and the
definition of an actor that carries it.  What validation finds is reported beside them and stops
nothing; only a text that is no tree and a name that is no class name do.
-/

namespace BehaviorTraits

open Hook

/-- What a generation makes. -/
structure Artifacts where
  traitName : String
  /-- The name that the C# source is filed under. -/
  csharpFile : String
  csharp : String
  /-- The name that the actor definition is filed under. -/
  miniyamlFile : String
  miniyaml : String
  /-- What validation has found. -/
  diagnostics : List String
  /-- The traits that the actor needs, in ascending order. -/
  dependencies : List String
  deriving DecidableEq, Repr

def Artifacts.toJson (a : Artifacts) : Json :=
  .obj [("trait_name", .str a.traitName), ("csharp_file", .str a.csharpFile),
    ("csharp", .str a.csharp), ("miniyaml_file", .str a.miniyamlFile),
    ("miniyaml", .str a.miniyaml), ("diagnostics", .strs a.diagnostics),
    ("dependencies", .strs a.dependencies)]

/-- Why nothing is generated. -/
inductive GenerationError where
  | tree (error : TreeError)
  | name (error : NameError)

def GenerationError.message : GenerationError → String
  | tree error => error.message
  | name error => error.message

namespace Trait

/-- The C# source of a trait, with a header on its tree if wanted. -/
def csharp (t : Trait) (provenance : Bool) : String :=
  CSharp.render t.classes (if provenance then some ⟨t.sourceId, t.sourceHash⟩ else none)

/-- The files of a trait. -/
def artifacts (t : Trait) (config : Config) (actorName : String) (diagnostics : List String) :
    Artifacts :=
  let document := actorDocument t actorName config.actor
  { traitName := t.name
    csharpFile := t.name ++ ".cs"
    csharp := t.csharp config.render.provenance
    miniyamlFile := Text.lower document.key ++ ".yaml"
    miniyaml := document.render
    diagnostics
    dependencies := t.needs }

end Trait

/-- Generates the files of a tree. -/
def generateFrom (root : Node) (config : Config) (lookup : Lookup)
    (traitName actorName : String) : Except NameError Artifacts :=
  (synthesize lookup config.hookOptions root traitName).map fun t =>
    t.artifacts config actorName root.validate.messages

/-- What generating the files of a tree logs. -/
def generateFromLog (root : Node) (config : Config) (lookup : Lookup)
    (traitName actorName : String) : List LogEvent :=
  let opening := .generating traitName root.id :: root.validate.messages.map .diagnosed ++
    synthesisLog lookup config.hookOptions root traitName
  match synthesize lookup config.hookOptions root traitName with
  | .error _ => opening
  | .ok t =>
    let a := t.artifacts config actorName root.validate.messages
    opening ++ actorLog t actorName ++
      [.generated t.name a.csharp.utf8ByteSize (actorDocument t actorName config.actor).key
        a.miniyaml.utf8ByteSize]

/-- Generates the files of the tree that a text describes. -/
def generate (text : String) (config : Config) (lookup : Lookup)
    (traitName actorName : String) : Except GenerationError Artifacts :=
  match Node.parse text with
  | .error e => .error (.tree e)
  | .ok root =>
    match generateFrom root config lookup traitName actorName with
    | .error e => .error (.name e)
    | .ok artifacts => .ok artifacts

/-- What generating logs; a text that is no tree leaves no record. -/
def generationLog (text : String) (config : Config) (lookup : Lookup)
    (traitName actorName : String) : List LogEvent :=
  match Node.parse text with
  | .error _ => []
  | .ok root => generateFromLog root config lookup traitName actorName

end BehaviorTraits
