import BehaviorTraits.Class.Basic
import BehaviorTraits.Condition
import BehaviorTraits.Text.Line

/-!
# The code of an update hook

The lines that a plan turns into, by what they do: comments, tests, braces, and activities that the
actor is given.  Free text of the tree only gets into comments, and no line is ever broken.
-/

namespace BehaviorTraits.Hook

/-- The share of the full hit points that a health test compares with. -/
inductive Threshold where
  | fraction (text : String)
  | field (name : String)
  deriving DecidableEq, Repr

inductive Test where
  /-- Does the actor carry the trait, in working order? -/
  | carries (traitName : String)
  | health (comparison : Comparison) (threshold : Threshold)
  /-- Is an enemy in the cell of the actor? -/
  | enemyInCell
  | flag (field : String)
  deriving DecidableEq, Repr

/-- How long to wait. -/
inductive Ticks where
  | count (text : String)
  | field (name : String)
  deriving DecidableEq, Repr

inductive Activity where
  | wait (ticks : Ticks)
  | hunt
  | move (x y : String)
  | stay
  deriving DecidableEq, Repr

inductive Remark where
  | node (id : String)
  | dropped (children : Nat) (id : String)
  | notACell (rawArgs : String)
  | unmapped (action : String)
  deriving DecidableEq, Repr

inductive Code where
  | remark (remark : Remark)
  | queue (activity : Activity)
  | branch (negated : Bool) (test : Test)
  | otherwise
  | opening
  | closing
  deriving DecidableEq, Repr

def Threshold.text : Threshold → String
  | fraction text => text
  | field name => s!"(Info.{name} / 100f)"

def Test.text : Test → String
  | carries traitName =>
    s!"self.TraitsImplementing<{traitName}>().Any(t => !t.IsTraitDisabled && !t.IsTraitPaused)"
  | health comparison threshold =>
    s!"self.Trait<Health>().HP {comparison.symbol} self.Trait<Health>().MaxHP * {threshold.text}"
  | enemyInCell =>
    "self.World.ActorMap.GetActorsAt(self.Location)" ++
      ".Any(a => a.Owner.RelationshipWith(self.Owner) == PlayerRelationship.Enemy)"
  | flag field => s!"Info.{field}"

def Ticks.text : Ticks → String
  | count text => text
  | field name => s!"Info.{name}"

def Activity.text : Activity → String
  | wait ticks => s!"self.QueueActivity(new Wait({ticks.text}));"
  | hunt => "self.QueueActivity(new Hunt(self));"
  | move x y => s!"self.QueueActivity(new Move(self, new CPos({x}, {y})));"
  | stay => "self.QueueActivity(new Move(self, self.Location));"

def Remark.text : Remark → String
  | node id => s!"// node: {id}"
  | dropped children id =>
    s!"// NOTE: {children} child node(s) of leaf '{id}' were not lowered"
  | notACell rawArgs =>
    s!"// WARNING: move target '{rawArgs}' is not a coordinate pair, staying in place"
  | unmapped action => s!"// Unmapped action: {action}"

def Code.text : Code → String
  | remark r => r.text
  | queue activity => activity.text
  | branch false test => s!"if ({test.text})"
  | branch true test => s!"if (!({test.text}))"
  | otherwise => "else"
  | opening => "\x7b"
  | closing => "\x7d"

/-- Code at a depth. -/
structure Line where
  depth : Nat
  code : Code
  deriving DecidableEq, Repr

/-- The line of the method body. -/
def Line.statement (l : Line) : Statement := ⟨l.depth, Text.singleLine l.code.text⟩

end BehaviorTraits.Hook
