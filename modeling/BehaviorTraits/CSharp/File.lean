import BehaviorTraits.Class.Basic
import BehaviorTraits.CSharp.Literal
import BehaviorTraits.Layout
import BehaviorTraits.Text.Line

/-!
# C# source files

A logic class and its companion make one file: an optional header that says where the file comes
from, the namespaces used, and the two classes, the companion first.
-/

namespace BehaviorTraits.CSharp

open Layout

/-- The tree that a file was generated from. -/
structure Provenance where
  sourceId : String
  sourceHash : String
  deriving DecidableEq, Repr

/-- The comment lines at the top of a generated file. -/
def Provenance.header (p : Provenance) : List String :=
  [s!"// GENERATED FROM behavior tree '{Text.singleLine p.sourceId}'",
    s!"// TREE HASH: {p.sourceHash}",
    "// DO NOT EDIT - regenerate from tree"]

/-- The initial value of a field; a string is quoted. -/
def initialValue (type value : String) : String :=
  if type = "string" then quoted value else value

/-- The words before the type of a field. -/
def modifiers (f : FieldDecl) : String :=
  (if f.access = "" then "" else f.access ++ " ") ++ (if f.isReadonly then "readonly " else "")

def initializer (f : FieldDecl) : String :=
  match f.default? with
  | some value => " = " ++ initialValue f.type value
  | none => ""

/-- A field, below its description if actor documents show it. -/
def fieldStream (f : FieldDecl) : Stream :=
  let description : List Token :=
    if f.exposed && f.description ≠ "" then
      [.literal "[Desc(", .literal (quoted f.description), .literal ")]", .newLine]
    else []
  Stream.addAll []
    (description ++ [.newLine, .literal (modifiers f), .literal f.type, .space, .literal f.name,
      .literal (initializer f), .literal ";"])

/-- The first line of a method.  An explicit implementation of an interface has no modifiers. -/
def signature (m : MethodDecl) : String :=
  let parameters := String.intercalate ", " (m.parameters.map fun p => p.type ++ " " ++ p.name)
  match m.implements, m.returnType with
  | some interface, some type => s!"{type} {interface}.{m.name}({parameters})"
  | _, type? =>
    let access := if m.access = "" then "" else m.access ++ " "
    let override := if m.isOverride then "override " else ""
    let type := match type? with
      | some type => type ++ " "
      | none => ""
    s!"{access}{override}{type}{m.name}({parameters})"

/-- The changes of the indentation between two depths. -/
def shift (old new : Nat) : List Token :=
  List.replicate (new - old) (.indent 1) ++ List.replicate (old - new) (.indent (-1))

/-- The tokens of a method body whose last line was at `depth`. -/
def bodyTokens (depth : Nat) : List Statement → List Token
  | [] => shift depth 0
  | s :: rest => shift depth s.depth ++ .literal s.text :: .newLine :: bodyTokens s.depth rest

def bodyStream (body : List Statement) : Stream := Stream.addAll [] (bodyTokens 0 body)

/-- The call that a constructor makes first, one level under the signature. -/
def chainedCallStream (m : MethodDecl) : Stream :=
  match m.chainedCall with
  | some call => Stream.addAll [] [.indent 1, .literal (": " ++ call), .indent (-1)]
  | none => []

def methodStream (m : MethodDecl) : Stream :=
  let head := Stream.addAll [] [.literal (signature m), .newLine]
  let opened := (head.append (chainedCallStream m)).addAll
    [.newLine, .literal "\x7b", .indent 1]
  (opened.append (bodyStream m.body)).addAll [.indent (-1), .literal "\x7d"]

def classStream (c : ClassDecl) : Stream :=
  let bases := String.intercalate ", " (c.baseType :: c.interfaces)
  let opened := Stream.addAll []
    [.literal "public", .space, .literal "class", .space, .literal c.name, .space, .literal ":",
      .space, .literal bases, .newLine, .literal "\x7b", .indent 1]
  let fields := (opened.appendJoined .newLine (c.fields.map fieldStream)).add .newLine
  let separated :=
    if c.fields.isEmpty || c.methods.isEmpty then fields else fields.add .emptyLine
  let methods := (separated.add .newLine).appendJoined .emptyLine (c.methods.map methodStream)
  methods.addAll [.indent (-1), .literal "\x7d"]

/-- The texts without repetitions, in the order of their first places. -/
def distinct (texts : List String) : List String :=
  texts.foldl (fun seen s => if s ∈ seen then seen else seen ++ [s]) []

def usingStream (name : String) : Stream :=
  Stream.addAll [] [.literal "using", .space, .literal name, .literal ";"]

/-- The classes of a file, the companion first. -/
def classesOf (logic : ClassDecl) : List ClassDecl := logic.companion.toList ++ [logic]

def fileStream (logic : ClassDecl) (provenance : Option Provenance) : Stream :=
  let classes := classesOf logic
  let header := match provenance with
    | some p =>
      (Stream.appendJoined [] .newLine (p.header.map fun line => [.literal line])).addAll
        [.newLine, .emptyLine]
    | none => []
  let usings := (header.add .newLine).appendJoined .newLine
    ((distinct (classes.flatMap (·.usings))).map usingStream)
  let opened := usings.addAll
    [.newLine, .emptyLine, .newLine, .literal "namespace", .space, .literal logic.namespaceName,
      .newLine, .literal "\x7b", .indent 1]
  (opened.appendJoined .emptyLine (classes.map classStream)).addAll
    [.indent (-1), .literal "\x7d"]

/-- The C# source of a logic class and its companion. -/
def render (logic : ClassDecl) (provenance : Option Provenance) : String :=
  (fileStream logic provenance).print

end BehaviorTraits.CSharp
