import BehaviorTraits.Command.Basic
import BehaviorTraits.Files.Basic
import BehaviorTraits.Schema

/-!
# Running commands

A command reads and writes files and prints on two channels, one for what was asked for and one for
remarks.  It ends at the first thing that goes wrong, with one more remark.
-/

namespace BehaviorTraits

/-- What goes wrong with a command. -/
inductive CommandError where
  | usage (error : UsageError)
  | unknownSchema (wanted : String)
  /-- Validation has found something. -/
  | invalidTree
  | file (error : Files.Error)
  | config (error : ConfigError)
  | tree (error : TreeError)
  | name (error : NameError)

/-- The remark on an error; a command line without words leaves none. -/
def CommandError.message? : CommandError → Option String
  | usage .noCommand => none
  | usage (.unknownCommand _) => some "Unknown command"
  | usage (.incomplete shape) => some ("Usage: " ++ shape)
  | unknownSchema wanted => some ("Unknown schema: " ++ wanted)
  | invalidTree => some "Tree has structural issues"
  | file error => some error.message
  | config error => some error.message
  | tree error => some error.message
  | name error => some error.message

/-- What has been printed. -/
structure Transcript where
  out : String := ""
  remarks : String := ""
  deriving DecidableEq, Repr

/-- A command under way. -/
abbrev Session (m : Type → Type) := ExceptT CommandError (StateT Transcript m)

namespace Command

/-- How the program is used. -/
def usageText : String :=
  "\n".intercalate
    ["",
      "traitsynth - Behavior trees to OpenRA traits",
      "",
      "USAGE:",
      "    traitsynth <COMMAND> [OPTIONS]",
      "",
      "COMMANDS:",
      "    parse <tree.json> [--json]        Parse and validate a behavior tree",
      "    condition \"<text>\"                Show how a condition is parsed",
      "    trait <tree.json>                 Generate the C# trait",
      "    actor <tree.json>                 Generate the MiniYaml actor definition",
      "    generate <tree.json> [--json]     Generate both artifacts",
      "    schema [tree|config|artifacts]    Print JSON schema",
      "    version                           Print version",
      "",
      "OPTIONS:",
      "    --name <Trait>                    Trait class name (default: tree file name)",
      "    --actor <Actor>                   Actor name (default: trait name)",
      "    --config <file>                   Config file (default: ./traitsynth.yaml)",
      "    --output <file>                   Output file (default: stdout)",
      "    --out-dir <dir>                   Write generated files into a directory",
      "    --json                            JSON output format (parse, generate)",
      "",
      "ENVIRONMENT:",
      "    RUST_LOG=debug                    Log lowering decisions to stderr",
      "",
      "EXAMPLES:",
      "    traitsynth parse flee.json",
      "    traitsynth condition \"Not Health < 30%\"",
      "    traitsynth trait flee.json --name FleeBehavior --output FleeBehavior.cs",
      "    traitsynth generate flee.json --actor Rifleman --out-dir mods/ra",
      ""]

def versionText : String := "traitsynth 0.1.0"

variable {m : Type → Type} [Monad m]

/-- Prints a text as it is. -/
def print (text : String) : Session m Unit := modify fun t => { t with out := t.out ++ text }

def printLine (text : String) : Session m Unit := print (text ++ "\n")

def remark (text : String) : Session m Unit :=
  modify fun t => { t with remarks := t.remarks ++ text ++ "\n" }

/-- Does something with files; what goes wrong ends the command. -/
def withFiles {α : Type} (action : m (Except Files.Error α)) : Session m α := do
  match ← action with
  | .ok value => return value
  | .error e => throw (.file e)

variable (files : Files.Access m)

def readTree (path : String) : Session m Node := do
  match Node.parse (← withFiles (files.read path)) with
  | .ok root => return root
  | .error e => throw (.tree e)

/-- The configuration of a file; without one that of the working directory, if it has any. -/
def readConfig (path : Option String) : Session m Config := do
  let text? ← match path with
    | some path => some <$> withFiles (files.read path)
    | none => do
      match ← (files.read Config.fileName : m (Except Files.Error String)) with
      | .ok text => pure (some text)
      | .error .notFound => pure none
      | .error e => throw (.file e)
  match text?.map Config.parse with
  | none => return {}
  | some (.ok config) => return config
  | some (.error e) => throw (.config e)

/-- Generates what a job asks for. -/
def carryOut (job : Job) : Session m Artifacts := do
  let config ← readConfig files job.configFile
  let text ← withFiles (files.read job.treeFile)
  let lookup := config.capabilityTable.getFolded?
  match BehaviorTraits.generate text config lookup job.traitName job.actorName with
  | .ok artifacts => return artifacts
  | .error (.tree e) => throw (.tree e)
  | .error (.name e) => throw (.name e)

def writeFile (path text : String) : Session m Unit := do
  withFiles (files.write path text)
  remark ("Written to: " ++ path)

/-- Writes a text to a file, or prints it. -/
def deliver (output : Option String) (text : String) : Session m Unit :=
  match output with
  | some path => writeFile files path text
  | none => print text

def reportJson (r : Report) : Json :=
  .obj [("is_valid", .ofBool r.isValid),
    ("issues", .arr (r.issues.map fun i =>
      .obj [("code", .str i.code), ("kind", .str i.kind), ("node_id", .str i.nodeId),
        ("message", .str i.message)])),
    ("nodes_checked", .ofNat r.nodesChecked)]

def conditionJson (c : Condition) : Json :=
  let symbol := c.comparison.map fun p => Json.str p.1.symbol
  let literal := c.comparison.map fun p => Json.str p.2
  .obj [("subject", .str c.subject), ("operator", symbol.getD .null),
    ("literal", literal.getD .null), ("negated", .ofBool c.negated)]

/-- Remarks on what an actor needs and what validation has found. -/
def remarkOn (a : Artifacts) : Session m Unit := do
  if a.dependencies ≠ [] then
    remark ("Required traits: " ++ ", ".intercalate a.dependencies)
  a.diagnostics.forM fun diagnostic => remark ("⚠ " ++ diagnostic)

/-- Both files, each behind a line with its name. -/
def printBoth (a : Artifacts) : Session m Unit := do
  printLine s!"// ===== {a.csharpFile} ====="
  printLine a.csharp
  printLine s!"# ===== {a.miniyamlFile} ====="
  printLine a.miniyaml

def writeBoth (directory : String) (a : Artifacts) : Session m Unit := do
  withFiles (files.createDirectories directory)
  writeFile files (Files.join directory a.csharpFile) a.csharp
  writeFile files (Files.join directory a.miniyamlFile) a.miniyaml

def printSchema (name : String) : Session m Unit :=
  if name = "list" then
    printLine ("Available schemas: " ++ ", ".intercalate (Schema.all.map (·.1)))
  else
    match Schema.all.lookup name with
    | some document => printLine document.pretty
    | none => throw (.unknownSchema name)

/-- Runs one command. -/
def perform : Command → Session m Unit
  | parse treeFile json => do
    let report := (← readTree files treeFile).validate
    if json then printLine (reportJson report).pretty else print report.text
    if !report.isValid then throw .invalidTree
  | condition text => printLine (conditionJson (Condition.parse text)).pretty
  | trait job output => do deliver files output (← carryOut files job).csharp
  | actor job output => do deliver files output (← carryOut files job).miniyaml
  | generate job delivery => do
    let a ← carryOut files job
    match delivery with
    | .directory path =>
      writeBoth files path a
      remarkOn a
    | .json => printLine a.toJson.pretty
    | .printed =>
      printBoth a
      remarkOn a
  | schema name => printSchema name
  | version => printLine versionText
  | help => printLine usageText

/-- Runs what a command line asks for.  One without a known command shows how the program is
used. -/
def performWords (words : List String) : Session m Unit :=
  match parseWords words with
  | .ok command => perform files command
  | .error e => do
    match e with
    | .noCommand => printLine usageText
    | .unknownCommand name =>
      remark ("Unknown command: " ++ name)
      printLine usageText
    | .incomplete _ => pure ()
    throw (.usage e)

/-- Runs a command line.  The result says whether all went well, and what is printed. -/
def run (words : List String) : m (Bool × Transcript) := do
  let (result, transcript) ← (performWords files words).run.run {}
  match result with
  | .ok () => return (true, transcript)
  | .error e =>
    let remarks := match e.message? with
      | some message => transcript.remarks ++ "Error: " ++ message ++ "\n"
      | none => transcript.remarks
    return (false, { transcript with remarks })

end Command

end BehaviorTraits
