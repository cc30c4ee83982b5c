/-
  Stepflow.Audit.Entry — the audit record of one invocation of a step.

  An entry is opened before the step runs (`started`, `withParent`) and completed once:
  a success writes its outputs, a failure its error, both how long it took. A terminal
  entry is refused.
-/

import Stepflow.Failure
import Stepflow.Time.Rfc3339
import Stepflow.Workflow.Id
import Stepflow.Value.Basic

namespace Stepflow.Audit

open Time

inductive Status where
  | started
  | success
  | failed
  deriving DecidableEq, Repr

namespace Status

def name : Status → String
  | started => "started"
  | success => "success"
  | failed => "failed"

def names : List (String × Status) :=
  [("started", started), ("success", success), ("failed", failed)]

def isTerminal : Status → Bool
  | started => false
  | _ => true

end Status

inductive Completion where
  | success (raw parsed : Value) (durationMs : Nat) (tokens : Option Nat) (cost : Option Float)
  | failed (error : String) (durationMs : Nat)

def Completion.status : Completion → Status
  | success .. => .success
  | failed .. => .failed

structure Entry where
  id : String
  workflowId : WorkflowId
  stepId : String
  stepType : String
  parent : Option String := none
  status : Status := .started
  input : Value
  raw : Option Value := none
  parsed : Option Value := none
  durationMs : Option Nat := none
  tokens : Option Nat := none
  cost : Option Float := none
  error : Option String := none
  createdAt : Timestamp
  completedAt : Option Timestamp := none

inductive EntryError where
  | invalidId (detail : String)
  | alreadyCompleted (id : String)
  deriving DecidableEq, Repr

namespace EntryError

def message : EntryError → String
  | invalidId detail => "Invalid execution log ID: " ++ detail
  | alreadyCompleted id => "Execution log '" ++ id ++ "' is already completed"

def toServiceError (e : EntryError) : ServiceError :=
  match e with
  | invalidId _ => .validation e.message
  | alreadyCompleted _ => .conflict e.message

end EntryError

/-- A text as the id of an entry: one to 64 bytes. -/
def checkId (s : String) : Except EntryError String :=
  if s.isEmpty then .error (.invalidId "ID cannot be empty")
  else if 64 < s.utf8ByteSize then .error (.invalidId "ID cannot exceed 64 characters")
  else .ok s

namespace Entry

def started (id : String) (workflowId : WorkflowId) (stepId stepType : String) (input : Value)
    (now : Timestamp) : Entry :=
  { id, workflowId, stepId, stepType, input, createdAt := now }

def withParent (e : Entry) (parent : Option String) : Entry := { e with parent }

/-- What a completion writes; all else is left as it is. -/
def closed (e : Entry) (now : Timestamp) (c : Completion) : Entry :=
  match c with
  | .success raw parsed durationMs tokens cost =>
    { e with
      status := c.status, raw := some raw, parsed := some parsed, durationMs := some durationMs,
      tokens, cost, completedAt := some now }
  | .failed error durationMs =>
    { e with
      status := c.status, error := some error, durationMs := some durationMs,
      completedAt := some now }

/-- The entry closed, unless it is closed already. -/
def complete (e : Entry) (now : Timestamp) (c : Completion) : Except EntryError Entry :=
  if e.status.isTerminal then .error (.alreadyCompleted e.id) else .ok (e.closed now c)

section

variable (e : Entry) (now : Timestamp) (c : Completion)

@[simp] theorem closed_id : (e.closed now c).id = e.id := by cases c <;> rfl

@[simp] theorem closed_stepType : (e.closed now c).stepType = e.stepType := by cases c <;> rfl

@[simp] theorem closed_parent : (e.closed now c).parent = e.parent := by cases c <;> rfl

@[simp] theorem closed_status : (e.closed now c).status = c.status := by cases c <;> rfl

end

def toValue (e : Entry) : Value :=
  .record [("id", .string e.id), ("workflow_id", .string e.workflowId.text),
    ("step_id", .string e.stepId), ("step_type", .string e.stepType),
    ("parent_execution_log_id", .ofOption .string e.parent), ("status", .string e.status.name),
    ("input_context", e.input), ("raw_output", e.raw.getD .null),
    ("parsed_output", e.parsed.getD .null), ("duration_ms", .ofOption .count e.durationMs),
    ("token_usage", .ofOption .count e.tokens), ("cost", .ofOption .double e.cost),
    ("error_message", .ofOption .string e.error), ("created_at", .string e.createdAt.zulu),
    ("completed_at", .ofOption (.string ∘ Timestamp.zulu) e.completedAt)]

end Entry

end Stepflow.Audit
