import BehaviorTraits.Yaml.Token

/-!
# YAML documents

A document is a scalar, a sequence or a mapping.  `document?` reads the tokens of a text that holds
exactly one.  A node that is left out is an empty plain scalar.

A name given to a node by `&name` stands for it in `*name` further on.  Names are kept as numbers: a
name that is given gets the number of the different names before it, and a number stands for the
last node of the document that has it.  So a name that is given twice may come to share its number
with another one.  What a number stands for is settled by the whole document, which makes it
possible for a node to be part of itself; `Node.content` looks no further than it is asked to.
-/

namespace BehaviorTraits.Yaml

inductive Node where
  | scalar (text : String) (style : Style) (tag : Option String)
  | sequence (items : List Node)
  | mapping (entries : List (Node × Node))
  /-- A node with the number of its name. -/
  | anchored (number : Nat) (node : Node)
  /-- What the number of a name stands for. -/
  | alias (number : Nat)
  deriving Repr

namespace Node

/-- What a node that is left out stands for. -/
def empty : Node := .scalar "" .plain none

mutual

/-- The last node in a document, or a part of it, that has a number. -/
def numbered? (number : Nat) : Node → Option Node
  | .scalar .. | .alias _ => none
  | .sequence items => numberedItem? number items
  | .mapping entries => numberedEntry? number entries
  | .anchored n node => numbered? number node <|> if n = number then some node else none

def numberedItem? (number : Nat) : List Node → Option Node
  | [] => none
  | item :: items => numberedItem? number items <|> numbered? number item

def numberedEntry? (number : Nat) : List (Node × Node) → Option Node
  | [] => none
  | (key, value) :: entries =>
    numberedEntry? number entries <|> numbered? number value <|> numbered? number key

end

/-- The scalar or collection that a node of a document stands for. -/
def content (document : Node) : Node → Node
  | .anchored _ node => node
  | .alias number => (document.numbered? number).getD empty
  | node => node

end Node

/-- The tokens still to be read, and what names and tag handles stand for. -/
structure Reader where
  tokens : List Token
  /-- The numbers of the names given so far, each name once. -/
  anchors : List (String × Nat) := []
  handles : List (String × String) := []

namespace Reader

def next? (r : Reader) : Option Token := r.tokens.head?

def skip (r : Reader) : Reader := { r with tokens := r.tokens.tail }

/-- Gives a name to a node that is about to be read. -/
def giveName (name : String) (r : Reader) : Reader :=
  { r with anchors := (name, r.anchors.length) :: r.anchors.filter (·.1 ≠ name) }

/-- The text of a tag; its handle must be known. -/
def tagText? (handle suffix : String) (r : Reader) : Option String :=
  if handle = "" then some suffix else (r.handles.lookup handle).map (· ++ suffix)

/-- The anchor and the tag before a node's content, in either order. -/
def properties (r : Reader) : Option (Option String × Option String × Reader) :=
  match r.tokens with
  | .anchor name :: .tag handle suffix :: rest | .tag handle suffix :: .anchor name :: rest =>
    (r.tagText? handle suffix).map fun tag => (some name, some tag, { r with tokens := rest })
  | .anchor name :: rest => some (some name, none, { r with tokens := rest })
  | .tag handle suffix :: rest =>
    (r.tagText? handle suffix).map fun tag => (none, some tag, { r with tokens := rest })
  | _ => some (none, none, r)

/-- Is the next token one of these? -/
def sees (r : Reader) (ends : List Token) : Bool := (r.next?.map ends.contains).getD false

end Reader

open Reader

mutual

/-- Reads a node.  Block collections are read where `block`; entries of a sequence need not be
indented further than the mapping that holds it where `indentless`. -/
def readNode : Nat → Bool → Bool → Reader → Option (Node × Reader)
  | 0, _, _, _ => none
  | fuel + 1, block, indentless, r => do
    match r.next? with
    | some (.alias name) => return (.alias (← r.anchors.lookup name), r.skip)
    | _ =>
      let (anchor?, tag?, r) ← r.properties
      let number := r.anchors.length
      let r := anchor?.elim r r.giveName
      let (node, r) ← (match r.next? with
        | some (.scalar text style) => some (.scalar text style tag?, r.skip)
        | some .flowSequenceStart =>
          (readFlowItems fuel true r.skip).map fun (items, r) => (.sequence items, r)
        | some .flowMappingStart =>
          (readFlowEntries fuel true r.skip).map fun (entries, r) => (.mapping entries, r)
        | some .blockSequenceStart =>
          if block then (readBlockItems fuel r.skip).map fun (items, r) => (.sequence items, r)
          else readMissing anchor? tag? r
        | some .blockMappingStart =>
          if block then
            (readBlockEntries fuel r.skip).map fun (entries, r) => (.mapping entries, r)
          else readMissing anchor? tag? r
        | some .blockEntry =>
          if indentless then
            (readIndentlessItems fuel r).map fun (items, r) => (.sequence items, r)
          else readMissing anchor? tag? r
        | _ => readMissing anchor? tag? r : Option (Node × Reader))
      return (if anchor?.isSome then .anchored number node else node, r)
where
  /-- A node with a name or a tag may be empty. -/
  readMissing (anchor? tag? : Option String) (r : Reader) : Option (Node × Reader) :=
    if anchor?.isSome || tag?.isSome then some (.scalar "" .plain tag?, r) else none

/-- Reads a node, or an empty one before a token that ends it. -/
def readNodeBefore : Nat → List Token → Bool → Bool → Reader → Option (Node × Reader)
  | 0, _, _, _, _ => none
  | fuel + 1, ends, block, indentless, r =>
    if r.sees ends then some (.empty, r) else readNode fuel block indentless r

/-- Reads a value behind its mark; without the mark it is empty. -/
def readValue : Nat → List Token → Bool → Reader → Option (Node × Reader)
  | 0, _, _, _ => none
  | fuel + 1, ends, block, r =>
    if r.next? = some .value then readNodeBefore fuel ends block block r.skip
    else some (.empty, r)

def readBlockItems : Nat → Reader → Option (List Node × Reader)
  | 0, _ => none
  | fuel + 1, r =>
    match r.next? with
    | some .blockEntry => do
      let (item, r) ← readNodeBefore fuel [.blockEntry, .blockEnd] true false r.skip
      let (items, r) ← readBlockItems fuel r
      return (item :: items, r)
    | some .blockEnd => some ([], r.skip)
    | _ => none

def readIndentlessItems : Nat → Reader → Option (List Node × Reader)
  | 0, _ => none
  | fuel + 1, r =>
    match r.next? with
    | some .blockEntry => do
      let (item, r) ←
        readNodeBefore fuel [.blockEntry, .key, .value, .blockEnd] true false r.skip
      let (items, r) ← readIndentlessItems fuel r
      return (item :: items, r)
    | _ => some ([], r)

def readBlockEntries : Nat → Reader → Option (List (Node × Node) × Reader)
  | 0, _ => none
  | fuel + 1, r =>
    match r.next? with
    | some .key => do
      let ends := [.key, .value, .blockEnd]
      let (key, r) ← readNodeBefore fuel ends true true r.skip
      let (value, r) ← readValue fuel ends true r
      let (entries, r) ← readBlockEntries fuel r
      return ((key, value) :: entries, r)
    | some .blockEnd => some ([], r.skip)
    | _ => none

/-- Reads the items of a flow sequence; a comma stands before each but the first.  An item with a
key is a mapping of one entry. -/
def readFlowItems : Nat → Bool → Reader → Option (List Node × Reader)
  | 0, _, _ => none
  | fuel + 1, first, r => do
    let close := Token.flowSequenceEnd
    if r.next? = some close then return ([], r.skip)
    else
      let r ← if first then some r else if r.next? = some .flowEntry then some r.skip else none
      match r.next? with
      | some .key =>
        let ends := [.value, .flowEntry, close]
        let r := r.skip
        let (key, r) ← if r.sees ends then some (.empty, r.skip) else readNode fuel false false r
        let (value, r) ← readValue fuel [.flowEntry, close] false r
        let (items, r) ← readFlowItems fuel false r
        return (.mapping [(key, value)] :: items, r)
      | token =>
        if token = some close then return ([], r.skip)
        else
          let (item, r) ← readNode fuel false false r
          let (items, r) ← readFlowItems fuel false r
          return (item :: items, r)

/-- Reads the entries of a flow mapping; a comma stands before each but the first.  A node that is
not marked as a key has an empty value. -/
def readFlowEntries : Nat → Bool → Reader → Option (List (Node × Node) × Reader)
  | 0, _, _ => none
  | fuel + 1, first, r => do
    let close := Token.flowMappingEnd
    if r.next? = some close then return ([], r.skip)
    else
      let r ← if first then some r else if r.next? = some .flowEntry then some r.skip else none
      match r.next? with
      | some .key =>
        let (key, r) ← readNodeBefore fuel [.value, .flowEntry, close] false false r.skip
        let (value, r) ← readValue fuel [.flowEntry, close] false r
        let (entries, r) ← readFlowEntries fuel false r
        return ((key, value) :: entries, r)
      | token =>
        if token = some close then return ([], r.skip)
        else
          let (key, r) ← readNode fuel false false r
          let (entries, r) ← readFlowEntries fuel false r
          return ((key, .empty) :: entries, r)

end

/-- What the directives before a document say: was there one for the version, and what handles
stand for. -/
structure Directives where
  version : Bool := false
  handles : List (String × String) := []

namespace Directives

/-- The directives at the start of the tokens.  Each may stand once, and the version is 1.1 or
1.2. -/
def read (d : Directives) : List Token → Option (Directives × List Token)
  | .versionDirective major minor :: rest =>
    if !d.version && major == 1 && (minor == 1 || minor == 2) then
      read { d with version := true } rest
    else none
  | .tagDirective handle stem :: rest =>
    if (d.handles.lookup handle).isNone then
      read { d with handles := (handle, stem) :: d.handles } rest
    else none
  | tokens => some (d, tokens)

/-- All handles; two are known without a directive. -/
def allHandles (d : Directives) : List (String × String) :=
  d.handles ++ [("!", "!"), ("!!", "tag:yaml.org,2002:")]

end Directives

def Token.isDirective : Token → Bool
  | .versionDirective _ _ | .tagDirective _ _ => true
  | _ => false

/-- The node of a document.  Reading nests no deeper than a few steps for each token, which bounds
the recursion. -/
def readRoot (r : Reader) : Option (Node × Reader) :=
  readNode (4 * r.tokens.length + 4) true false r

/-- The document that starts the tokens.  Directives need the mark `---` behind them, and a document
behind the mark may be empty. -/
def readDocument (tokens : List Token) : Option (Node × Reader) := do
  let (directives, rest) ← Directives.read {} tokens
  let r : Reader := { tokens := rest, handles := directives.allHandles }
  match rest with
  | [] => none
  | .documentStart :: rest =>
    let r := { r with tokens := rest }
    let isEmpty := (r.next?.map fun t =>
      t.isDirective || t == .documentStart || t == .documentEnd).getD true
    if isEmpty then return (.empty, r) else readRoot r
  | _ :: _ => if rest.length < tokens.length then none else readRoot r

/-- The document of a text that holds exactly one. -/
def document? (text : String) : Option Node := do
  let (node, r) ← readDocument (← tokens? text)
  if r.tokens.all (· == .documentEnd) then return node else none

end BehaviorTraits.Yaml
