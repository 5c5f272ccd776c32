import BehaviorTraits.Hook.Lowering
import BehaviorTraits.Tree.Document

/-!
# Synthesis of a trait

From a tree and a name comes a pair of classes.  The Info class has a switch for the whole trait and
the fields that the tree mentions.  The logic class has a constructor, a hook for its creation and
the update hook, which evaluates the tree at every tick.

Only a name that cannot become a class name stops synthesis.  Like lowering, synthesis is written
for a lookup that answers in any monad (`synthesizeM`).
-/

namespace BehaviorTraits

open Hook

/-- What the update hook looks like. -/
structure HookOptions where
  namespaceName : String := defaultNamespace
  /-- Does the hook return while the actor has something to do? -/
  idleGuard : Bool := true
  /-- Evaluate the tree only every so many ticks. -/
  scanInterval : Option Nat := none
  /-- Is the place where a node begins marked by a comment? -/
  nodeComments : Bool := true
  deriving DecidableEq, Repr

/-- Why a text cannot become a class name. -/
inductive NameError where
  | noIdentifier (name : String)
  | leadingDigit (name : String)
  deriving DecidableEq, Repr

def NameError.message : NameError → String
  | noIdentifier name => s!"Trait name '{name}' has no identifier characters"
  | leadingDigit name => s!"Trait name '{name}' must not start with a digit"

/-- The class name for a text: its words run together, ASCII letters and digits only. -/
def className (name : String) : Except NameError String :=
  let letters := Text.alphanumerics (Text.pascalCase (Text.trim name))
  if letters = "" then .error (.noIdentifier name)
  else if Text.startsWithDigit letters then .error (.leadingDigit name)
  else .ok letters

/-- A synthesized trait. -/
structure Trait where
  /-- The logic class without its companion. -/
  logic : ClassDecl
  info : ClassDecl
  sourceId : String
  sourceHash : String

namespace Trait

def name (t : Trait) : String := t.logic.name

/-- The logic class with its companion. -/
def classes (t : Trait) : ClassDecl := { t.logic with companion := some t.info }

/-- The traits that an actor needs for the generated code to work, in ascending order. -/
def needs (t : Trait) : List String := t.logic.needs

/-- The fields that actor documents show. -/
def exposedFields (t : Trait) : List FieldDecl := t.info.exposedFields

end Trait

/-- The switch that every Info class has. -/
def gateField : FieldDecl :=
  .ofDocument "RequiresCondition" "BooleanExpression" none
    "Condition required to enable this trait."

/-- The counter of a trait that is not evaluated at every tick. -/
def cooldownCounter : FieldDecl := .state "ticksUntilNextScan" "int"

/-- The fields of the Info class before the tree is lowered. -/
def initialFields (options : HookOptions) : List FieldDecl :=
  match options.scanInterval with
  | none => [gateField]
  | some interval =>
    (FieldDecl.ensure [gateField] "ScanInterval" "int" (some (toString interval))
      "Ticks between evaluations of the behavior tree.").2

/-- The lines of the update hook before those of the tree. -/
def hookPreamble (options : HookOptions) : List Statement :=
  let idle := if options.idleGuard then [⟨0, "if (!self.IsIdle) return;"⟩] else []
  let cooldown := match options.scanInterval with
    | none => []
    | some _ =>
      [⟨0, "if (--ticksUntilNextScan > 0) return;"⟩, ⟨0, "ticksUntilNextScan = Info.ScanInterval;"⟩]
  ⟨0, "if (IsTraitDisabled) return;"⟩ :: idle ++ cooldown

/-- The method by which the engine makes the logic class. -/
def createMethod (name : String) : MethodDecl :=
  { name := "Create", returnType := some "object"
    parameters := [⟨"ActorInitializer", "init"⟩], isOverride := true
    body := [⟨0, s!"return new {name}(init.Self, this);"⟩] }

def constructorMethod (name infoName : String) : MethodDecl :=
  { name, returnType := none, parameters := [⟨"Actor", "self"⟩, ⟨infoName, "info"⟩]
    chainedCall := some "base(info)" }

def createdMethod : MethodDecl :=
  { name := "Created", returnType := some "void", parameters := [⟨"Actor", "self"⟩]
    implements := some "INotifyCreated", body := [⟨0, "// Resolve trait references here."⟩] }

def tickMethod (body : List Statement) : MethodDecl :=
  { name := "Tick", returnType := some "void", parameters := [⟨"Actor", "self"⟩]
    implements := some "ITick", body }

/-- The lines of the tree in the update hook, and what lowering them has gathered. -/
def lowered (lookup : Lookup) (options : HookOptions) (root : Node) : List Line × Builder :=
  (lowerTree ⟨lookup, options.nodeComments⟩ root).run { fields := initialFields options }

/-- The pair of classes of a tree under a class name, from its lines in the update hook and what
lowering them has gathered. -/
def traitWith (options : HookOptions) (root : Node) (name : String) (lines : List Line)
    (gathered : Builder) : Trait :=
  let infoName := name ++ "Info"
  let state := match options.scanInterval with
    | none => []
    | some _ => [cooldownCounter]
  { logic :=
      { name, namespaceName := options.namespaceName, baseType := s!"ConditionalTrait<{infoName}>"
        interfaces := ["ITick", "INotifyCreated"], fields := state
        methods := [constructorMethod name infoName, createdMethod,
          tickMethod (hookPreamble options ++ lines.map Line.statement)]
        needs := gathered.needs }
    info :=
      { name := infoName, namespaceName := options.namespaceName, baseType := "ConditionalTraitInfo"
        fields := gathered.fields, methods := [createMethod name] }
    sourceId := root.id
    sourceHash := root.hash }

/-- The pair of classes of a tree under a class name. -/
def traitOf (lookup : Lookup) (options : HookOptions) (root : Node) (name : String) : Trait :=
  let (lines, gathered) := lowered lookup options root
  traitWith options root name lines gathered

/-- Synthesizes the trait of a tree. -/
def synthesizeM {m : Type → Type} [Monad m] (lookup : LookupM m) (options : HookOptions)
    (root : Node) (name : String) : m (Except NameError Trait) := do
  match className name with
  | .error e => return .error e
  | .ok name =>
    let (lines, gathered) ←
      (lowerTreeM lookup options.nodeComments root).run { fields := initialFields options }
    return .ok (traitWith options root name lines gathered)

@[inherit_doc synthesizeM]
def synthesize (lookup : Lookup) (options : HookOptions) (root : Node) (name : String) :
    Except NameError Trait :=
  synthesizeM (m := Id) lookup options root name

/-- A name that can become a class name gives a trait. -/
theorem synthesize_eq (lookup : Lookup) (options : HookOptions) (root : Node) (name : String) :
    synthesize lookup options root name = (className name).map (traitOf lookup options root) := by
  unfold synthesize synthesizeM
  cases className name <;> rfl

/-- What synthesis logs; a refused name leaves no record. -/
def synthesisLog (lookup : Lookup) (options : HookOptions) (root : Node) (name : String) :
    List LogEvent :=
  match className name with
  | .error _ => []
  | .ok name =>
    let gathered := (lowered lookup options root).2
    .synthesizing name root.id root.count :: gathered.log ++
      [.synthesized name gathered.needs.length]

end BehaviorTraits
