import BehaviorTraits.Command.Run

/-!
# The program

Runs the command that its arguments ask for on the files of the machine.
-/

namespace BehaviorTraits

/-- The number of an error of the machine, and what it says. -/
def machineError : IO.Error → Nat × String
  | .alreadyExists _ code details | .noFileOrDirectory _ code details
  | .inappropriateType _ code details | .invalidArgument _ code details
  | .permissionDenied _ code details | .resourceExhausted _ code details
  | .noSuchThing _ code details => (code.toNat, details)
  | .otherError code details | .resourceBusy code details | .resourceVanished code details
  | .unsupportedOperation code details | .hardwareFault code details
  | .unsatisfiedConstraints code details | .illegalOperation code details
  | .protocolError code details | .timeExpired code details => (code.toNat, details)
  | .interrupted _ code details => (code.toNat, details)
  | .unexpectedEof => (0, "unexpected end of file")
  | .userError message => (0, message)

/-- What an error of the machine means for a file.  The machine may give its number with the
opposite sign. -/
def fileError (e : IO.Error) : Files.Error :=
  let (code, details) := machineError e
  match if code < Nat.pow 2 31 then code else Nat.pow 2 32 - code with
  | 2 => .notFound
  | 17 => .alreadyExists
  | 20 => .notDirectory
  | 21 => .isDirectory
  | 36 => .nameTooLong
  | code => .other code (Text.capitalize details)

/-- Does something with the files of the machine. -/
def attempt {α : Type} (action : IO α) : IO (Except Files.Error α) := do
  match ← action.toBaseIO with
  | .ok value => return .ok value
  | .error e => return .error (fileError e)

/-- Access to the files of the machine. -/
def machineFiles : Files.Access IO where
  read path := do
    match ← attempt (IO.FS.readBinFile path) with
    | .error e => return .error e
    | .ok bytes =>
      match String.fromUTF8? bytes with
      | some text => return .ok text
      | none => return .error .notText
  write path text := attempt (IO.FS.writeFile path text)
  createDirectory path := attempt (IO.FS.createDir path)

end BehaviorTraits

open BehaviorTraits in
/-- Runs the command that the arguments ask for; the result is zero if all went well. -/
def main (arguments : List String) : IO UInt32 := do
  let (succeeded, transcript) ← Command.run machineFiles arguments
  IO.print transcript.out
  IO.eprint transcript.remarks
  return if succeeded then 0 else 1
