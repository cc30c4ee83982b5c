/-
  Stepflow.Cli.Program — a call of the program from its arguments to what it prints.

  Variables kept in a file join the environment, settings come from files and
  environment (their defaults, if those cannot be read), and the command is carried out
  in a new session. A report is printed also when steps have failed, which is an error.
-/

import Stepflow.Cli.Session
import Stepflow.Settings.EnvFile
import Stepflow.Settings.Layers

namespace Stepflow.Cli

open Time

structure Printed where
  exitCode : UInt32 := 0
  out : String := ""
  err : String := ""
  deriving DecidableEq, Repr

namespace Program

def version : String := "agency-workflow 0.1.0"

def usage : String :=
  "Usage: agency-workflow run --workflow <FILE> [--context <FILE>] [--start-at <STEP>] [--logs]\n" ++
    "       agency-workflow validate --workflow <FILE>\n"

def envFile : String := ".env"

def printUsage : Usage → Printed
  | .help => { out := usage }
  | .version => { out := version ++ "\n" }
  | .invalid => { exitCode := Usage.invalid.exitCode, err := usage }

def printError (message : String) : Printed := { exitCode := 1, err := "Error: " ++ message ++ "\n" }

def printRun (report : Value) (summary : RunSummary) : Printed :=
  let out := report.indented ++ "\n"
  match summary.failedSteps with
  | [] => { out }
  | failed => { printError (toString failed.length ++ " step(s) failed") with out }

/-- A panic over records that no order puts in a line. -/
def printPanic : Printed :=
  { exitCode := 101, err := "user-provided comparison function does not correctly implement a total order\n" }

def environment (files : Files) (env : List (String × String)) : List (String × String) :=
  match files.text? envFile with
  | some text => Settings.EnvFile.load env text
  | none => env

def settings (files : Files) (env : List (String × String)) : Settings :=
  (Settings.load? files.text? env).getD {}

def execute (s : Session) (files : Files) : Command → Printed
  | .run args =>
    match s.run files args with
    | (result, s) =>
      if s.world.panicked then printPanic
      else
        match result with
        | .ok (report, summary) => printRun report summary
        | .error e => printError e
  | .validate path =>
    match s.validateFile files path with
    | .ok message => { out := message ++ "\n" }
    | .error e => printError e

def call (now : Timestamp) (files : Files) (env : List (String × String)) (args : List String) :
    Printed :=
  match Arguments.parse args with
  | .error u => printUsage u
  | .ok command =>
    let settings := settings files (environment files env)
    execute (Session.start now settings {}) files command

def paths (args : List String) : List String :=
  envFile :: Settings.fileNames.flatMap (fun n => [n ++ ".toml", n ++ ".json"]) ++
    match Arguments.parse args with
    | .ok (.run args) => args.workflow :: args.context.toList
    | .ok (.validate path) => [path]
    | .error _ => []

end Program

end Stepflow.Cli
