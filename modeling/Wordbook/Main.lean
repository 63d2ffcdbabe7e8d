import Std.Time
import Wordbook.Command.Actions
import Wordbook.Command.Folder

/-!
# The program

Runs the script of a command line: its files are those of the working folder, its
lines go to standard output and standard error. What is run is built with some
library for encodings, whose `Codecs` it passes to `runProgram`.
-/

namespace Wordbook

/-- The reason of the system for not reading or writing a file. -/
def reasonOf (error : IO.Error) : String :=
  match error with
  | .noFileOrDirectory .. => Folder.missing
  | .inappropriateType _ _ details =>
    if details == "not a directory" then Folder.notAFolder else Folder.isAFolder
  | .invalidArgument _ 36 _ => Folder.nameTooLong
  | .permissionDenied .. => "Permission denied (os error 13)"
  | error => error.toString

/-- What a file action comes to. -/
def attempt {α : Type} (action : IO α) : IO (Except String α) := do
  match ← action.toBaseIO with
  | .ok a => return .ok a
  | .error error => return .error (reasonOf error)

/-- The form of a time in RFC 3339, in nanoseconds. -/
def timeForm : String := "uuuu-MM-dd'T'HH:mm:ss.SSSSSSSSS'Z'"

def timeNow : IO String := do
  return (Std.Time.DateTime.ofTimestampWithZone (← Std.Time.Timestamp.now) .UTC).format timeForm

def hexOf (byte : UInt8) : List Char :=
  [Json.Writer.hexDigit (byte.toNat / 16), Json.Writer.hexDigit (byte.toNat % 16)]

/-- A random id, a version 4 UUID. -/
def randomId : IO String := do
  let bytes := (← IO.getRandomBytes 16).toList
  let bytes := bytes.modify 6 fun b => b % 16 + 0x40
  let bytes := bytes.modify 8 fun b => b % 64 + 0x80
  let groups := [(0, 4), (4, 2), (6, 2), (8, 2), (10, 6)].map fun (first, length) =>
    String.ofList (((bytes.drop first).take length).flatMap hexOf)
  return "-".intercalate groups

/-- The run of a script in the world. -/
def Script.run {α : Type} : Script α → IO α
  | done a => return a
  | tell line next => do
    IO.eprintln line
    next.run
  | put line next => do
    IO.println line
    next.run
  | environment name next => do (next (← IO.getEnv name)).run
  | load path next => do
    (next (← attempt do return (← IO.FS.readBinFile path).toList)).run
  | store path bytes next => do
    (next (← attempt (IO.FS.writeBinFile path ⟨bytes.toArray⟩))).run
  | clock next => do (next (← timeNow)).run
  | freshId next => do (next (← randomId)).run

/-- The run of a command line, with its exit code. -/
def runProgram (codecs : Codecs) (arguments : List String) : IO UInt32 := do
  return .ofNat (← (Command.program codecs arguments).run)

end Wordbook
