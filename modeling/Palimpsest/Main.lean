import Palimpsest.Command.Libraries

/-!
# The program

Runs a command on the files of the machine. All that is decided here is how the machine's own
errors are told; the rest is `Command.run`.
-/

namespace Palimpsest.Main

/-- Whether a code stands for an error number. Some calls give the number with its sign changed. -/
def isNumber (number code : UInt32) : Bool := code == number || code == 0 - number

def fileError : IO.Error → FileError
  | .noFileOrDirectory .. => .missing
  | .permissionDenied .. => .other "Permission denied (os error 13)"
  | .inappropriateType _ code text =>
    if isNumber 20 code then .notDirectory
    else if isNumber 21 code then .isDirectory
    else .other text
  | error => .other (toString error)

def attempt {α : Type} (action : IO α) : IO (Except FileError α) := do
  match ← action.toBaseIO with
  | .ok value => return .ok value
  | .error error => return .error (fileError error)

def readFile (path : String) : IO (Except FileError String) := do
  match ← attempt (IO.FS.readBinFile path) with
  | .error error => return .error error
  | .ok bytes =>
    match String.fromUTF8? bytes with
    | some text => return .ok text
    | none => return .error .notUtf8

def locateFile (path : String) : IO (Except FileError (List String)) := do
  let found ← attempt (IO.FS.realPath path)
  return found.map fun full => (full.toString.splitOn "/").filter (· != "")

def holdsFile (path : String) : IO Bool := do
  return (← attempt (IO.FS.realPath path)).toBool

def files : Files IO := ⟨readFile, holdsFile, locateFile⟩

end Palimpsest.Main

open Palimpsest in
def main (words : List String) : IO UInt32 := do
  let user := Settings.userPath (← IO.getEnv "XDG_CONFIG_HOME") ((← IO.getEnv "HOME").getD "")
  let outcome ← Command.run .own Main.files user words
  (← IO.getStdout).putStr outcome.output
  (← IO.getStderr).putStr outcome.errors
  return outcome.exit.toUInt32
