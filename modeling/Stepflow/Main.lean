/-
  Stepflow.Main — the program on the command line.

  What a call may look at is read before it: the environment, the clock and the files
  that `Cli.Program.paths` names. All that is printed follows from these. No connection
  is opened, so every request of a workflow is refused.
-/

import Std.Time.DateTime.Timestamp
import Stepflow.Cli.Program

namespace Stepflow.Cli

def FileError.ofSystem : IO.Error → FileError
  | .noFileOrDirectory .. => .missing
  | .inappropriateType _ code _ => if code == 21 then .isDirectory else .notDirectory
  | .permissionDenied .. => .other "Permission denied (os error 13)"
  | e => .other (toString e)

def readFile (path : String) : IO (Except FileError String) := do
  try
    let bytes ← IO.FS.readBinFile path
    return match String.fromUTF8? bytes with
      | some text => .ok text
      | none => .error .notText
  catch e => return .error (FileError.ofSystem e)

/-- The environment: a name, an equals sign and a value each, with NUL after it. -/
def readEnvironment : IO (List (String × String)) := do
  match ← readFile "/proc/self/environ" with
  | .ok text => return (Text.split (· == '\x00') text).filterMap (Text.splitOnce '=')
  | .error _ => return []

/-- The file with variables, in the working directory or the nearest one above it. -/
def readVariables : IO (Except FileError String) := do
  let depth := (← IO.currentDir).components.length
  for n in List.range depth do
    let result ← readFile (String.join (List.replicate n "../") ++ Program.envFile)
    if result.isOk then return result
  return .error .missing

def readFiles (args : List String) : IO Files := do
  let found ← (Program.paths args).mapM fun path => do
    return (path, ← if path == Program.envFile then readVariables else readFile path)
  return fun path => (found.lookup path).getD (.error .missing)

def readClock : IO Time.Timestamp := do
  let nanos := (← Std.Time.Timestamp.now).toNanosecondsSinceUnixEpoch.val
  return ⟨nanos / 1000000000, (nanos % 1000000000).toNat⟩

end Stepflow.Cli

/-- The program: what a call prints, and its exit code. -/
def main (args : List String) : IO UInt32 := do
  let printed := Stepflow.Cli.Program.call (← Stepflow.Cli.readClock)
    (← Stepflow.Cli.readFiles args) (← Stepflow.Cli.readEnvironment) args
  (← IO.getStdout).putStr printed.out
  (← IO.getStderr).putStr printed.err
  return printed.exitCode
