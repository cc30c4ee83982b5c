/-
  Stepflow.Cli.Session — an engine and the world it works on, over several commands.

  A session has the built-in handlers and calls over connections. Running a workflow
  leaves its records, messages and audit entries in the world for the next command.
-/

import Stepflow.Cli.Arguments
import Stepflow.Cli.Files
import Stepflow.Http.Client
import Stepflow.Settings.Basic
import Stepflow.Workflow.Source

namespace Stepflow.Cli

open Time

def servicesOf (ai : AiSettings) : Services Http.Wire where
  callApi := Http.client
  generate request wire :=
    match ai.chat? with
    | some chat => chat.generate Http.client request wire
    | none => (.error Generation.unconfigured, wire)

structure Session where
  engine : Engine Http.Wire
  world : World Http.Wire

namespace Session

def start (now : Timestamp) (settings : Settings) (wire : Http.Wire) : Session where
  engine := { registry := Handler.registry, services := servicesOf settings.ai
              config := settings.engine }
  world := { now, outside := wire }

def loadWorkflow (now : Timestamp) (files : Files) (path : String) : Except ServiceError Workflow :=
  match files path with
  | .error e => .error (.storage ("Failed to read workflow '" ++ path ++ "': " ++ e.message))
  | .ok text => Workflow.parse now text (DefinitionFormat.ofPath path)

def loadContext (files : Files) (path : String) : Except String Context :=
  match files path with
  | .error e => .error ("Failed to read context '" ++ path ++ "': " ++ e.message)
  | .ok text =>
    match Json.parse text with
    | .error e => .error ("Invalid context JSON in '" ++ path ++ "': " ++ e.message)
    | .ok v => .ok (Context.ofValue v)

def loadRun (s : Session) (files : Files) (args : RunArgs) : Except String (Workflow × Context) := do
  let wf ← (loadWorkflow s.world.now files args.workflow).mapError ServiceError.message
  let ctx ← match args.context with
    | some path => loadContext files path
    | none => pure []
  return (wf, ctx)

/-- The report of a run; the audit entries of a workflow are those of all its runs. -/
def report (summary : RunSummary) (book : Audit.Book) (logs : Bool) : Value :=
  .record (("summary", summary.toValue) ::
    (if logs then
      [("logs", .array ((book.list { workflowId := some summary.workflowId }).map Audit.Entry.toValue))]
    else []))

/-- A workflow run: its report and summary, or why there is none. -/
def run (s : Session) (files : Files) (args : RunArgs) :
    Except String (Value × RunSummary) × Session :=
  match s.loadRun files args with
  | .error e => (.error e, s)
  | .ok (wf, ctx) =>
    let (result, world) := match args.startAt with
      | some start => s.engine.executeFrom wf ctx start s.world
      | none => s.engine.execute wf ctx s.world
    let s := { s with world }
    match result with
    | .error e => (.error e.message, s)
    | .ok summary => (.ok (report summary world.journal.book args.logs, summary), s)

def validate {α : Type} (registry : Registry α) (wf : Workflow) : Except WorkflowError String := do
  registry.validate wf.steps
  return "Workflow '" ++ wf.id.text ++ "' is valid (" ++ toString wf.stepCount ++ " steps)"

def validateFile (s : Session) (files : Files) (path : String) : Except String String := do
  let wf ← (loadWorkflow s.world.now files path).mapError ServiceError.message
  (validate s.engine.registry wf).mapError WorkflowError.message

end Session

end Stepflow.Cli
