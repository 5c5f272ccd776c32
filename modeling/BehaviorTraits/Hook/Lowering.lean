import BehaviorTraits.Action
import BehaviorTraits.Capability
import BehaviorTraits.Class.FieldTable
import BehaviorTraits.Hook.Code
import BehaviorTraits.Hook.Plan
import BehaviorTraits.Log
import BehaviorTraits.Number.Percent

/-!
# Lowering a plan to code

Conditions become tests and actions become activities.  A condition about a known trait asks for
that trait, one about health compares hit points, one about enemies looks around, and every other
condition becomes a field of the Info class.  An action that is not known becomes a comment.
Nothing fails.

Lowering threads a builder: the fields made so far, the traits needed, the subjects looked up, and
the log.  A subject is looked up once, when it is first met.

A lookup may have effects of its own, so whatever asks it is written for any monad in which it
answers (`resolveM` to `lowerTreeM`).  For a lookup without effects, `resolve` to `lowerTree` are
the same functions.
-/

namespace BehaviorTraits.Hook

open Text

/-- How names of traits are looked up. -/
abbrev Lookup := String → Option Capability

/-- A lookup that answers in a monad. -/
abbrev LookupM (m : Type → Type) := String → m (Option Capability)

/-- What lowering has gathered so far. -/
structure Builder where
  fields : List FieldDecl
  needs : List String := []
  resolved : List (String × Option Capability) := []
  log : List LogEvent := []

abbrev Build := StateM Builder

/-- Lowering while a lookup answers in a monad. -/
abbrev BuildT (m : Type → Type) := StateT Builder m

/-- What asks no lookup can be done while any lookup answers. -/
instance {m : Type → Type} [Monad m] : MonadLift Build (BuildT m) where
  monadLift x := modifyGet x.run

namespace Build

def record (e : LogEvent) : Build Unit := modify fun b => { b with log := b.log ++ [e] }

/-- The actor needs the trait. -/
def need (traitName : String) : Build Unit :=
  modify fun b => { b with needs := insertSorted traitName b.needs }

/-- The name of the field for a text, which is made if it is not there. -/
def field (raw type default description : String) : Build String :=
  modifyGet fun b =>
    let (name, fields) := FieldDecl.ensure b.fields raw type (some default) description
    (name, { b with fields })

/-- The capability that a subject names, looked up when the subject is first met. -/
def resolveM {m : Type → Type} [Monad m] (lookup : LookupM m) (subject : String) :
    BuildT m (Option Capability) := do
  match (← get).resolved.lookup subject with
  | some known => return known
  | none =>
    record (.resolving subject)
    let found ← lookup subject
    modify fun b => { b with resolved := b.resolved ++ [(subject, found)] }
    return found

@[inherit_doc resolveM]
def resolve (lookup : Lookup) (subject : String) : Build (Option Capability) :=
  resolveM (m := Id) lookup subject

end Build

open Build

/-- What the subject of a condition refers to. -/
inductive Subject where
  | capability (record : Capability)
  | health
  | enemy
  | flag
  deriving DecidableEq, Repr

/-- What a subject refers to, when it names the given capability or none. -/
def Subject.ofLookup (subject : String) : Option Capability → Subject
  | some record => .capability record
  | none =>
    if eqIgnoringAsciiCase subject "Health" then .health
    else if eqIgnoringAsciiCase subject "EnemyVisible" || eqIgnoringAsciiCase subject "EnemyNearby"
    then .enemy
    else .flag

/-- The threshold of a health test: a percentage, or a field to be set by the actor. -/
def thresholdOf (raw literal : String) : Build Threshold :=
  match Number.percentFraction? literal with
  | some fraction => return .fraction fraction
  | none => do
    let name := if literal = "" then "HealthThreshold" else literal
    return .field (← field name "int" "50" s!"Health percentage threshold for '{trim raw}'.")

/-- The test for a condition whose subject names the given capability or none, and whether it is
negated. -/
def testAbout (raw : String) (found : Option Capability) : Build (Bool × Test) := do
  let condition := Condition.parse raw
  let test : Test ←
    match Subject.ofLookup condition.subject found with
    | .capability record => do
      need record.dependency
      pure (.carries record.name)
    | .health => do
      need "Health"
      let (comparison, literal) := condition.comparison.getD (.less, "")
      pure (.health comparison (← thresholdOf raw literal))
    | .enemy => pure .enemyInCell
    | .flag => do
      let name ← field condition.subject "bool" "false"
        s!"Enables behavior guarded by '{condition.subject}'."
      record (.backedByField (trim raw) name)
      pure (.flag name)
  return (condition.negated, test)

/-- The test that a condition becomes, and whether it is negated. -/
def testOfM {m : Type → Type} [Monad m] (lookup : LookupM m) (raw : String) :
    BuildT m (Bool × Test) := do
  testAbout raw (← resolveM lookup (Condition.parse raw).subject)

@[inherit_doc testOfM]
def testOf (lookup : Lookup) (raw : String) : Build (Bool × Test) := testOfM (m := Id) lookup raw

/-- The ticks of a wait: a number, or a field to be set by the actor. -/
def ticksOf (args : List String) : Build Ticks :=
  match args with
  | [] => return .field (← field "WaitTicks" "int" "25" "Ticks to wait.")
  | arg :: _ =>
    if Action.isTickCount arg then return .count arg
    else return .field (← field arg "int" "25" "Ticks to wait.")

/-- The code that an action becomes. -/
def codeOf (raw : String) : Build (List Code) := do
  let action := Action.parse raw
  match action.kind with
  | .wait => return [.queue (.wait (← ticksOf action.args))]
  | .attack =>
    need "Armament"
    need "AttackBase"
    need "AutoTarget"
    return [.queue .hunt]
  | .move =>
    need "Mobile"
    match Action.target? action.rawArgs with
    | some (x, y) => return [.queue (.move x y)]
    | none =>
      record (.notACell action.rawArgs)
      return [.remark (.notACell action.rawArgs), .queue .stay]
  | .unmapped =>
    record (.unmappedAction (trim raw))
    return [.remark (.unmapped (trim raw))]

/-- What lowering does not change. -/
structure Env where
  lookup : Lookup
  /-- Is the place where a node begins marked by a comment? -/
  comments : Bool

/-- The comment where a node begins, if such places are marked. -/
def nodeMark (comments : Bool) (id : String) : List Code :=
  if comments && id ≠ "" then [.remark (.node id)] else []

/-- The comment about the children of a leaf. -/
def droppedMark (id : String) (dropped : Nat) : Build (List Code) :=
  if dropped = 0 then return []
  else do
    record (.leafChildren id dropped)
    return [.remark (.dropped dropped id)]

def linesAt (depth : Nat) (codes : List Code) : List Line := codes.map (Line.mk depth)

/-- A block in braces. -/
def braced (depth : Nat) (inner : List Line) : List Line :=
  ⟨depth, .opening⟩ :: inner ++ [⟨depth, .closing⟩]

section

variable {m : Type → Type} [Monad m] (lookup : LookupM m) (comments : Bool)

mutual

/-- The lines of one step at a depth. -/
def lowerM (depth : Nat) : Step → BuildT m (List Line)
  | .enter id => do
    record (.lowering id depth)
    return linesAt depth (nodeMark comments id)
  | .merge head partner => do
    record (.pairing head partner)
    return []
  | .perform id action dropped => do
    let codes ← codeOf action
    return linesAt depth (codes ++ (← droppedMark id dropped))
  | .guarded condition yes => do
    let (negated, test) ← testOfM lookup condition
    let yes ← lowerAllM (depth + 1) yes
    return ⟨depth, .branch negated test⟩ :: braced depth yes
  | .either condition yes no => do
    let (negated, test) ← testOfM lookup condition
    let yes ← lowerAllM (depth + 1) yes
    let no ← lowerAllM (depth + 1) no
    return ⟨depth, .branch negated test⟩ :: braced depth yes ++
      ⟨depth, .otherwise⟩ :: braced depth no

/-- The lines of several steps. -/
def lowerAllM (depth : Nat) : List Step → BuildT m (List Line)
  | [] => return []
  | step :: steps => do
    let first ← lowerM depth step
    let rest ← lowerAllM depth steps
    return first ++ rest

end

/-- The lines of the hook for a whole tree. -/
def lowerTreeM (root : Node) : BuildT m (List Line) := lowerAllM lookup comments 0 (plan root)

end

@[inherit_doc lowerM]
def lower (env : Env) (depth : Nat) (step : Step) : Build (List Line) :=
  lowerM (m := Id) env.lookup env.comments depth step

@[inherit_doc lowerAllM]
def lowerAll (env : Env) (depth : Nat) (steps : List Step) : Build (List Line) :=
  lowerAllM (m := Id) env.lookup env.comments depth steps

@[inherit_doc lowerTreeM]
def lowerTree (env : Env) (root : Node) : Build (List Line) :=
  lowerTreeM (m := Id) env.lookup env.comments root

end BehaviorTraits.Hook
