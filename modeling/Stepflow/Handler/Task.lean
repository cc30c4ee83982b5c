/-
  Stepflow.Handler.Task — what a handler does, as data.

  A handler is a function of a step and a context, and everything else it needs it asks
  for: a `Task` is either done or a question with what follows for each answer. Whoever
  runs the task gives the answers (`Task.run`), so what a handler asks, and in which
  order, does not depend on who answers.
-/

import Stepflow.Api.Request
import Stepflow.Generation.Answer
import Stepflow.Mail
import Stepflow.Records.Store
import Stepflow.Run.Outcome
import Stepflow.Workflow.Step

namespace Stepflow

inductive Ask where
  | createRecord (type : String) (fields : Fields)
  | updateRecord (type id : String) (fields : Fields)
  | findRecords (type : String) (query : Records.Query)
  | sendMail (message : Message)
  | callApi (request : Api.Request)
  | generate (request : Generation.Request)
  | clock
  /-- Steps to be run below the one that asks, on a context of its choice. -/
  | runSteps (steps : List Step) (ctx : Context)

@[reducible] def Ask.Answer : Ask → Type
  | createRecord _ _ => Except ServiceError Records.RecordRef
  | updateRecord _ _ _ => Except ServiceError Unit
  | findRecords _ _ => Except ServiceError (List Fields)
  | sendMail _ => Except ServiceError String
  | callApi _ => Except ServiceError Api.Response
  | generate _ => Except ServiceError Generation.Generated
  | clock => Time.Timestamp
  | runSteps _ _ => Except WorkflowError StepsRun × Context

inductive Task (α : Type) where
  | done (a : α)
  | ask (question : Ask) (next : question.Answer → Task α)

namespace Task

variable {α β σ : Type}

def bind : Task α → (α → Task β) → Task β
  | done a, f => f a
  | ask q next, f => ask q fun answer => (next answer).bind f

instance : Monad Task where
  pure := done
  bind := bind

def of (q : Ask) : Task q.Answer := ask q done

def run (answer : (q : Ask) → σ → q.Answer × σ) : Task α → σ → α × σ
  | done a, s => (a, s)
  | ask q next, s =>
    match answer q s with
    | (a, s) => (next a).run answer s

end Task

structure StepResult where
  raw : Value := .null
  parsed : Value := .null
  /-- Merged into the context when the step succeeds. -/
  context : Fields := []
  /-- Lines for whoever looks into a run. -/
  logs : List String := []
  tokens : Option Nat := none
  cost : Option Float := none
  skipped : Bool := false

namespace StepResult

def completed (output : Value) : StepResult := { raw := output, parsed := output }

/-- A step that had nothing to do, which is no failure. -/
def skip (reason : String) : StepResult :=
  let output := Value.record [("skipped", .bool true), ("reason", .string reason)]
  { raw := output, parsed := output, logs := [reason], skipped := true }

end StepResult

/-- What runs the steps of a kind: the result or an error, and the context after it. -/
abbrev Handler := Step → Context → Task (Except WorkflowError StepResult × Context)

abbrev Work := ExceptT WorkflowError Task

/-- The handler that works on a context and leaves it as it is. -/
def Handler.ofWork (work : Step → Context → Work StepResult) : Handler := fun step ctx => do
  let result ← (work step ctx).run
  return (result, ctx)

namespace Work

def error (step : Step) (detail : String) : WorkflowError := .stepExecution step.id detail

def fail {α : Type} (step : Step) (detail : String) : Work α := throw (error step detail)

def need {α : Type} (step : Step) (detail : String) : Option α → Work α
  | some a => pure a
  | none => fail step detail

def service {α : Type} (step : Step) (task : Task (Except ServiceError α)) : Work α :=
  ExceptT.mk do
    match ← task with
    | .ok a => return .ok a
    | .error e => return .error (error step e.message)

end Work

namespace Step

/-- A text of the configuration without its outer blanks, if anything is left of it. -/
def configWord? (s : Step) (key : String) : Option String :=
  (s.configText? key).bind Text.trimmed?

def configSet? (s : Step) (key : String) : Option Value :=
  (s.config.get? key).filter (!·.isNull)

def configFilled (s : Step) (key : String) (ctx : Context) : String :=
  ((s.config.get? key).map fun v => (v.templated ctx).text).getD ""

end Step

end Stepflow
