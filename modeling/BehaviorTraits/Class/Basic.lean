/-!
# Declarations of classes

A generated trait is a pair of classes.  The logic class holds the behavior; its companion, the Info
class, holds the values that an actor document may set.  A method body is a flat list of lines, each
with its depth.
-/

namespace BehaviorTraits

structure FieldDecl where
  name : String
  type : String
  /-- The initial value as written in an actor document, without quotes. -/
  default? : Option String
  /-- May an actor document set the field? -/
  exposed : Bool
  description : String
  access : String
  isReadonly : Bool
  deriving DecidableEq, Repr

namespace FieldDecl

/-- A public field that actor documents set. -/
def ofDocument (name type : String) (default? : Option String) (description : String) : FieldDecl :=
  ⟨name, type, default?, true, description, "public", true⟩

/-- A variable of the class itself. -/
def state (name type : String) : FieldDecl := ⟨name, type, none, false, "", "", false⟩

/-- The value of a field that is not set, as an actor document writes it. -/
def zeroOf (type : String) : String :=
  match type with
  | "bool" => "false"
  | "int" | "long" | "short" | "float" | "double" | "decimal" => "0"
  | _ => ""

/-- The value that an actor document shows for the field. -/
def documentValue (f : FieldDecl) : String := f.default?.getD (zeroOf f.type)

end FieldDecl

structure Parameter where
  type : String
  name : String
  deriving DecidableEq, Repr

/-- One line of a method body; the depth counts from the body. -/
structure Statement where
  depth : Nat
  text : String
  deriving DecidableEq, Repr

structure MethodDecl where
  name : String
  /-- A constructor returns nothing. -/
  returnType : Option String
  parameters : List Parameter := []
  body : List Statement := []
  /-- The interface whose member the method implements explicitly. -/
  implements : Option String := none
  access : String := "public"
  isOverride : Bool := false
  /-- The call that a constructor makes first. -/
  chainedCall : Option String := none
  deriving DecidableEq, Repr

def MethodDecl.isConstructor (m : MethodDecl) : Bool := m.returnType.isNone

/-- The namespace of generated classes unless another is asked for. -/
def defaultNamespace : String := "OpenRA.Mods.Common.Traits"

/-- The namespaces that generated files use. -/
def defaultUsings : List String :=
  ["System", "System.Collections.Generic", "System.Linq", "OpenRA.Activities",
    "OpenRA.Mods.Common.Activities", "OpenRA.Traits"]

structure ClassDecl where
  name : String
  namespaceName : String := defaultNamespace
  usings : List String := defaultUsings
  baseType : String
  interfaces : List String := []
  fields : List FieldDecl := []
  methods : List MethodDecl := []
  companion : Option ClassDecl := none
  /-- The traits that an actor must carry for the class to work, in ascending order. -/
  needs : List String := []

namespace ClassDecl

/-- The first field of a name. -/
def field? (c : ClassDecl) (name : String) : Option FieldDecl := c.fields.find? (·.name == name)

/-- The first method of a name. -/
def method? (c : ClassDecl) (name : String) : Option MethodDecl :=
  c.methods.find? (·.name == name)

/-- The fields that an actor document shows. -/
def exposedFields (c : ClassDecl) : List FieldDecl := c.fields.filter (·.exposed)

/-- Adds an interface unless it is there already. -/
def addInterface (c : ClassDecl) (interface : String) : ClassDecl :=
  if interface ∈ c.interfaces then c else { c with interfaces := c.interfaces ++ [interface] }

end ClassDecl

/-- Adds a text to an ascending list without repetitions. -/
def insertSorted (s : String) : List String → List String
  | [] => [s]
  | t :: ts => if s < t then s :: t :: ts else if s = t then t :: ts else t :: insertSorted s ts

end BehaviorTraits
