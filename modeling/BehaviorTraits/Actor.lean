import BehaviorTraits.MiniYaml
import BehaviorTraits.Synthesis

/-!
# Actor documents

The actor definition that attaches a synthesized trait to a unit.  The block of the trait lists the
exposed fields of its Info class, so the document and the C# source always agree.
-/

namespace BehaviorTraits

/-- The entries of an actor that do not come from the tree. -/
structure ActorDefaults where
  inherits : String := "^Soldier"
  genericName : String := "Infantry"
  image : String := "e1"
  deriving DecidableEq, Repr

/-- The entry of a field: its value, and its description as comment. -/
def fieldEntry (f : FieldDecl) : MiniYaml :=
  let entry := MiniYaml.entry f.name f.documentValue
  if f.description = "" then entry else entry.withComment f.description

/-- The block of the trait. -/
def traitBlock (t : Trait) : MiniYaml :=
  { key := t.name, children := t.exposedFields.map fieldEntry }

/-- The definition of an actor that carries the trait. -/
def actorDocument (t : Trait) (entity : String) (defaults : ActorDefaults) : MiniYaml :=
  let entity := Text.trim entity
  let tooltip : MiniYaml :=
    { key := "Tooltip"
      children := [.entry "Name" s!"{entity} (AI Controlled)",
        .entry "GenericName" defaults.genericName] }
  let sprites : MiniYaml :=
    { key := "RenderSprites", children := [.entry "Image" defaults.image] }
  { key := Text.upper entity
    children := [.entry "Inherits" defaults.inherits, tooltip, sprites, traitBlock t] }

/-- What building the document logs. -/
def actorLog (t : Trait) (entity : String) : List LogEvent :=
  [.buildingActor (Text.trim entity) t.name t.sourceId]

end BehaviorTraits
