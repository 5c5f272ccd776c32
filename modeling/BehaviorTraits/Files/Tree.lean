import BehaviorTraits.Files.Basic

/-!
# Files in memory

A tree of files around a working directory.  What is in it is known by the names that lead there from
the working directory: `..` leads to the directory above, and `/` to the root of all files.  Above
the working directory there is nothing to be found at first, but a file can be put there.
-/

namespace BehaviorTraits.Files

inductive Entry where
  /-- A file; one that is not UTF-8 has no text. -/
  | file (text : Option String)
  | directory
  /-- A file that stays empty whatever is written to it. -/
  | sink
  deriving DecidableEq, Repr

/-- The entries that are there, each with the names that lead to it. -/
structure Tree where
  entries : List (List String × Entry) :=
    [(["/", "dev"], .directory), (["/", "dev", "null"], .sink), (["/", "tmp"], .directory)]
  deriving DecidableEq, Repr

/-- Where a path leads. -/
inductive Target where
  | found (names : List String) (entry : Entry)
  /-- Nothing of that name is there, in a directory that is. -/
  | missing (names : List String)
  deriving DecidableEq, Repr

namespace Tree

/-- What is there under a name. -/
def get? (tree : Tree) (names : List String) : Option Entry := tree.entries.lookup names

/-- Puts an entry in its place. -/
def put (tree : Tree) (names : List String) (entry : Entry) : Tree :=
  ⟨(names, entry) :: tree.entries.filter (·.1 ≠ names)⟩

/-- Do the names lead to a place below the working directory? -/
def isInside (names : List String) : Bool :=
  (names.head?.map fun name => name != ".." && name != "/").getD false

/-- The directory above a directory.  The root is above itself. -/
def parent (names : List String) : List String :=
  match names.getLast? with
  | some "/" => names
  | none | some ".." => names ++ [".."]
  | some _ => names.dropLast

/-- Follows the parts of a path from a directory.  All but the last must be directories. -/
def follow (tree : Tree) (names : List String) : List String → Except Error Target
  | [] => .ok (.found names .directory)
  | part :: rest =>
    if isHere part then follow tree names rest
    else if part = ".." then follow tree (parent names) rest
    else if 255 < part.utf8ByteSize then .error .nameTooLong
    else
      let names := names ++ [part]
      match tree.get? names with
      | some .directory => follow tree names rest
      | some entry => if rest = [] then .ok (.found names entry) else .error .notDirectory
      | none => if rest.all (· = "") then .ok (.missing names) else .error .notFound

/-- Where a path leads from the working directory. -/
def resolve (tree : Tree) (path : String) : Except Error Target :=
  if path = "" then .error .notFound
  else tree.follow (if isAbsolute path then ["/"] else []) (parts path)

/-- The longest path in bytes. -/
def maxPathSize : Nat := 4095

/-- Refuses a path that is too long, wherever it leads. -/
def checkSize (path : String) : Except Error Unit :=
  if maxPathSize < path.utf8ByteSize then .error .nameTooLong else .ok ()

/-- The path without the slashes at its end. -/
def withoutSlash (path : String) : String :=
  String.ofList (path.toList.reverse.dropWhile (· == '/')).reverse

def read (tree : Tree) (path : String) : Except Error String := do
  checkSize path
  match ← tree.resolve path with
  | .found _ (.file (some text)) => .ok text
  | .found _ (.file none) => .error .notText
  | .found _ .sink => .ok ""
  | .found _ .directory => .error .isDirectory
  | .missing _ => .error .notFound

/-- Writes a file, which may be a new one in a directory that is there.  A slash at the end of the
path asks for a directory. -/
def write (tree : Tree) (path text : String) : Except Error Tree := do
  checkSize path
  if endsInSlash path then
    let _ ← tree.resolve (withoutSlash path)
    .error .isDirectory
  else
    match ← tree.resolve path with
    | .found names (.file _) | .missing names => .ok (tree.put names (.file (some text)))
    | .found _ .sink => .ok tree
    | .found _ .directory => .error .isDirectory

/-- Makes one directory. -/
def createDirectory (tree : Tree) (path : String) : Except Error Tree := do
  checkSize path
  match ← tree.resolve (if endsInSlash path then withoutSlash path else path) with
  | .found .. => .error .alreadyExists
  | .missing names => .ok (tree.put names .directory)

/-- Changes the tree, unless that fails. -/
def change (f : Tree → Except Error Tree) : StateM Tree (Except Error Unit) := fun tree =>
  match f tree with
  | .ok tree => (.ok (), tree)
  | .error e => (.error e, tree)

/-- Access to a tree of files in memory. -/
def access : Access (StateM Tree) where
  read path := fun tree => (tree.read path, tree)
  write path text := change (·.write path text)
  createDirectory path := change (·.createDirectory path)

/-- Adds an entry and the directories above it. -/
def addEntry (tree : Tree) (names : List String) (entry : Entry) : Tree :=
  let above := ((List.range names.length).drop 1).map names.take
  let tree := above.foldl
    (fun tree names => if (tree.get? names).isSome then tree else tree.put names .directory) tree
  tree.put names entry

end Tree

end BehaviorTraits.Files
