import BehaviorTraits.Files.Path

/-!
# Access to files

What the commands need of files, and what can go wrong with it.  The commands are written over any
`Access`: one to the files of the machine, or one to a `Files.Tree` held in memory.
-/

namespace BehaviorTraits.Files

/-- What can go wrong with a file. -/
inductive Error where
  | notFound
  | alreadyExists
  | notDirectory
  | isDirectory
  | nameTooLong
  /-- The file is not UTF-8. -/
  | notText
  /-- Anything else that the machine reports. -/
  | other (code : Nat) (description : String)
  deriving DecidableEq, Repr

namespace Error

/-- The number that the machine gives the error, and what it calls it. -/
def report : Error → String
  | notFound => "No such file or directory (os error 2)"
  | alreadyExists => "File exists (os error 17)"
  | notDirectory => "Not a directory (os error 20)"
  | isDirectory => "Is a directory (os error 21)"
  | nameTooLong => "File name too long (os error 36)"
  | notText => "stream did not contain valid UTF-8"
  | other code description => s!"{description} (os error {code})"

def message (e : Error) : String := "IO error: " ++ e.report

end Error

/-- Ways to read and write files. -/
structure Access (m : Type → Type) where
  read : String → m (Except Error String)
  write : String → String → m (Except Error Unit)
  /-- Makes one directory, in one that is there. -/
  createDirectory : String → m (Except Error Unit)

namespace Access

variable {m : Type → Type} [Monad m] (files : Access m)

/-- Is there a directory?  Reading one as a file tells. -/
def isDirectory (path : String) : m Bool := do
  match ← files.read path with
  | .error .isDirectory => return true
  | _ => return false

/-- Makes one directory, unless it is there. -/
def ensureDirectory (path : String) : m (Except Error Unit) := do
  match ← files.createDirectory path with
  | .ok () => return .ok ()
  | .error e => return if ← files.isDirectory path then .ok () else .error e

/-- Makes a directory; where the one above it is not there, that one first. -/
def ensureWithin (path : String) : List String → m (Except Error Unit)
  | [] => files.ensureDirectory path
  | above :: further => do
    match ← files.ensureDirectory path with
    | .error .notFound =>
      match ← ensureWithin above further with
      | .ok () => files.ensureDirectory path
      | .error e => return .error e
    | result => return result

/-- Makes a directory and those above it, as far as they are not there.  The empty path needs
none. -/
def createDirectories (path : String) : m (Except Error Unit) :=
  if path = "" then return .ok () else files.ensureWithin path (ancestors path)

end Access

end BehaviorTraits.Files
