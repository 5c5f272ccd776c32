import BehaviorTraits.Files.Path
import BehaviorTraits.Text.Identifier

/-!
# Commands

What the program can be asked to do, and how the words of a command line ask for it.  The first
word names the command and the second, for most of them, a tree file.  Options may stand anywhere
behind the command; one that is given twice counts where it first has a word behind it, and words
that mean nothing are ignored.
-/

namespace BehaviorTraits

/-- What to generate from. -/
structure Job where
  treeFile : String
  /-- The configuration; without one, that of the working directory. -/
  configFile : Option String
  traitName : String
  actorName : String
  deriving DecidableEq, Repr

/-- Where generated files go. -/
inductive Delivery where
  | directory (path : String)
  /-- Printed as one JSON value. -/
  | json
  | printed
  deriving DecidableEq, Repr

inductive Command where
  | parse (treeFile : String) (json : Bool)
  | condition (text : String)
  | trait (job : Job) (output : Option String)
  | actor (job : Job) (output : Option String)
  | generate (job : Job) (delivery : Delivery)
  | schema (name : String)
  | version
  | help
  deriving DecidableEq, Repr

/-- Why a command line asks for nothing that can be done. -/
inductive UsageError where
  | noCommand
  | unknownCommand (name : String)
  /-- The command needs more words; its shape is given. -/
  | incomplete (shape : String)
  deriving DecidableEq, Repr

namespace Command

/-- The word behind the first of these options that has one behind it. -/
def optionValue? (names : List String) : List String → Option String
  | word :: value :: rest =>
    if names.contains word then some value else optionValue? names (value :: rest)
  | _ => none

/-- The trait name when none is given: the name of the tree file. -/
def defaultName (treeFile : String) : String :=
  ((Files.stem? treeFile).map Text.pascalCase).getD "Behavior"

/-- The job that the words behind a command describe; the first is the tree file. -/
def job (treeFile : String) (words : List String) : Job :=
  let traitName := (optionValue? ["--name", "-n"] words).getD (defaultName treeFile)
  { treeFile
    configFile := optionValue? ["--config", "-c"] words
    traitName
    actorName := (optionValue? ["--actor", "-a"] words).getD traitName }

def output? (words : List String) : Option String := optionValue? ["--output", "-o"] words

def delivery (words : List String) : Delivery :=
  match optionValue? ["--out-dir"] words with
  | some path => .directory path
  | none => if words.contains "--json" then .json else .printed

/-- Reads a command line. -/
def parseWords : List String → Except UsageError Command
  | [] => .error .noCommand
  | name :: words =>
    match name, words with
    | "parse", treeFile :: _ => .ok (.parse treeFile (words.contains "--json"))
    | "parse", [] => .error (.incomplete "traitsynth parse <tree.json> [--json]")
    | "condition", text :: _ => .ok (.condition text)
    | "condition", [] => .error (.incomplete "traitsynth condition \"<text>\"")
    | "trait", treeFile :: _ => .ok (.trait (job treeFile words) (output? words))
    | "trait", [] => .error (.incomplete "traitsynth trait <tree.json> [--name N] [--output F]")
    | "actor", treeFile :: _ => .ok (.actor (job treeFile words) (output? words))
    | "actor", [] =>
      .error (.incomplete "traitsynth actor <tree.json> [--name N] [--actor A] [--output F]")
    | "generate", treeFile :: _ => .ok (.generate (job treeFile words) (delivery words))
    | "generate", [] =>
      .error (.incomplete
        "traitsynth generate <tree.json> [--name N] [--actor A] [--json] [--out-dir D]")
    | "schema", _ => .ok (.schema (words.head?.getD "list"))
    | "version", _ | "--version", _ | "-v", _ => .ok .version
    | "help", _ | "--help", _ | "-h", _ => .ok .help
    | _, _ => .error (.unknownCommand name)

end Command

end BehaviorTraits
