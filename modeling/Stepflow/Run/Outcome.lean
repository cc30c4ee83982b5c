/-
  Stepflow.Run.Outcome — what comes of steps, of lists of steps and of whole runs.
-/

import Stepflow.Context
import Stepflow.Workflow.Id

namespace Stepflow

structure StepOutcome where
  stepId : String
  /-- The error of an invocation that failed. -/
  error : Option String := none
  skipped : Bool := false
  durationMs : Nat
  logId : String
  deriving DecidableEq

namespace StepOutcome

def isFailed (o : StepOutcome) : Bool := o.error.isSome

def isSuccess (o : StepOutcome) : Bool := !o.isFailed

def toValue (o : StepOutcome) : Value :=
  .record ([("step_id", .string o.stepId),
      ("status", .string (if o.isFailed then "failed" else "success")),
      ("duration_ms", .count o.durationMs), ("skipped", .bool o.skipped),
      ("execution_log_id", .string o.logId)] ++
    (o.error.map fun e => ("error", Value.string e)).toList)

end StepOutcome

/-- What came of a list of steps: one outcome per invocation, and whether a failure kept
    the rest from running. -/
structure StepsRun where
  outcomes : List StepOutcome := []
  aborted : Bool := false
  deriving DecidableEq

def StepsRun.failedCount (r : StepsRun) : Nat := r.outcomes.countP (·.isFailed)

structure RunSummary where
  workflowId : WorkflowId
  steps : List StepOutcome
  durationMs : Nat
  aborted : Bool
  context : Context

namespace RunSummary

def isSuccess (r : RunSummary) : Bool := r.steps.all (·.isSuccess)

def failedSteps (r : RunSummary) : List StepOutcome := r.steps.filter (·.isFailed)

def outcome? (r : RunSummary) (stepId : String) : Option StepOutcome :=
  r.steps.find? (·.stepId == stepId)

def toValue (r : RunSummary) : Value :=
  .record [("workflow_id", .string r.workflowId.text),
    ("steps", .array (r.steps.map StepOutcome.toValue)), ("execution_time_ms", .count r.durationMs),
    ("aborted", .bool r.aborted), ("context", .object r.context)]

end RunSummary

end Stepflow
