/-!
# Log records

Every step of a generation that someone may want to follow is a record: what happened, how serious
it is, and which part of the program says so.
-/

namespace BehaviorTraits

inductive LogEvent where
  | generating (traitName rootId : String)
  | diagnosed (message : String)
  | generated (className : String) (csharpBytes : Nat) (actorKey : String) (yamlBytes : Nat)
  | synthesizing (className rootId : String) (nodes : Nat)
  | synthesized (className : String) (needs : Nat)
  | lowering (id : String) (depth : Nat)
  | pairing (head partner : String)
  /-- A leaf has children, which are left out. -/
  | leafChildren (id : String) (children : Nat)
  | resolving (subject : String)
  | backedByField (condition field : String)
  | notACell (rawArgs : String)
  | unmappedAction (action : String)
  | buildingActor (entity className rootId : String)
  deriving DecidableEq, Repr

namespace LogEvent

def level : LogEvent → String
  | generating .. | generated .. | synthesized .. => "INFO"
  | diagnosed .. | leafChildren .. | notACell .. | unmappedAction .. => "WARN"
  | synthesizing .. | lowering .. | pairing .. | resolving .. | backedByField ..
  | buildingActor .. => "DEBUG"

/-- The part of the program that the record comes from. -/
def target : LogEvent → String
  | generating .. | diagnosed .. | generated .. => "traitsynth::pipeline"
  | synthesizing .. | synthesized .. => "traitsynth::synth"
  | lowering .. | pairing .. | leafChildren .. => "traitsynth::synth::lower"
  | resolving .. | backedByField .. | notACell .. | unmappedAction .. =>
    "traitsynth::synth::mapping"
  | buildingActor .. => "traitsynth::actor"

def message : LogEvent → String
  | generating traitName rootId => s!"generating trait '{traitName}' from tree '{rootId}'"
  | diagnosed message => message
  | generated className csharpBytes actorKey yamlBytes =>
    s!"generated {className} ({csharpBytes} bytes) and actor {actorKey} ({yamlBytes} bytes)"
  | synthesizing className rootId nodes =>
    s!"synthesizing trait {className} from tree '{rootId}' ({nodes} nodes)"
  | synthesized className needs => s!"synthesized trait {className} ({needs} dependencies)"
  | lowering id depth => s!"lowering node '{id}' at depth {depth}"
  | pairing head partner => s!"pairing '{head}' with negation '{partner}'"
  | leafChildren id children => s!"leaf '{id}' has {children} child node(s); they are not lowered"
  | resolving subject => s!"resolving capability '{subject}'"
  | backedByField condition field => s!"condition '{condition}' backed by field {field}"
  | notACell rawArgs => s!"move target '{rawArgs}' is not a coordinate pair"
  | unmappedAction action => s!"unmapped action '{action}'"
  | buildingActor entity className rootId =>
    s!"building actor {entity} for trait {className} (tree '{rootId}')"

/-- The record as one line of text. -/
def line (e : LogEvent) : String := s!"{e.level} {e.target}: {e.message}"

end LogEvent

end BehaviorTraits
