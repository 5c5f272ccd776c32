import BehaviorTraits.Text.Split

/-!
# Paths

A path is a text whose parts are divided by slashes.  Empty parts and single dots stand for the
directory that they are in, and two dots for the one above it.
-/

namespace BehaviorTraits.Files

/-- The parts of a path, empty ones too. -/
def parts (path : String) : List String :=
  (Text.splitAtChar '/' path.toList).map String.ofList

/-- Does the part stand for the directory it is in? -/
def isHere (part : String) : Bool := part == "" || part == "."

/-- Does the path start at the root of all files? -/
def isAbsolute (path : String) : Bool := path.toList.head? == some '/'

/-- Does the path end in a slash behind the name of a file or directory? -/
def endsInSlash (path : String) : Bool :=
  match ((parts path).reverse.dropWhile (· == "")).head? with
  | some name => path.toList.getLast? == some '/' && name != "." && name != ".."
  | none => false

/-- The directories above a path, the innermost first.  The directory that a relative path starts
from is not listed. -/
def ancestors (path : String) : List String :=
  let root := if isAbsolute path then "/" else ""
  let names := (parts path).filter (!isHere ·)
  let above := ((List.range names.length).drop 1).map fun n =>
    root ++ "/".intercalate (names.take n)
  above.reverse ++ (if isAbsolute path then ["/"] else [])

/-- The path of a name in a directory.  A name that is an absolute path stays as it is. -/
def join (directory name : String) : String :=
  if isAbsolute name || directory == "" then name
  else if directory.toList.getLast? == some '/' then directory ++ name
  else directory ++ "/" ++ name

/-- A file name without its extension, which is what follows the last dot.  A dot at the start of
the name starts no extension. -/
def withoutExtension (name : String) : String :=
  match name.toList.reverse.dropWhile (· != '.') with
  | [] | ['.'] => name
  | _ :: stem => String.ofList stem.reverse

/-- The name of the file that a path leads to, without its extension; a path that ends in a
directory above has none. -/
def stem? (path : String) : Option String :=
  match ((parts path).filter (!isHere ·)).getLast? with
  | none | some ".." => none
  | some name => some (withoutExtension name)

end BehaviorTraits.Files
