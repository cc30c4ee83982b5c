/-
  Stepflow.Failure — what can go wrong, and how it is worded.

  A service behind a step (records, mail, generator, API, log) reports a `ServiceError`;
  loading and running workflows report a `WorkflowError`.
-/

import Stepflow.Text.Cut

namespace Stepflow

inductive ServiceError where
  | notFound (detail : String)
  | validation (detail : String)
  | conflict (detail : String)
  /-- The answer of a named backend. -/
  | provider (backend detail : String)
  | configuration (detail : String)
  | storage (detail : String)
  deriving DecidableEq, Repr

def ServiceError.message : ServiceError → String
  | notFound detail => "Not found: " ++ detail
  | validation detail => "Validation error: " ++ detail
  | conflict detail => "Conflict: " ++ detail
  | provider backend detail => "Provider error: " ++ backend ++ " - " ++ detail
  | configuration detail => "Configuration error: " ++ detail
  | storage detail => "Storage error: " ++ detail

inductive WorkflowError where
  | handlerNotFound (key : String)
  | stepExecution (stepId detail : String)
  | validation (detail : String)
  | invalidInput (detail : String)
  | disabled (workflowId : String)
  | nestingTooDeep (depth : Nat)
  | unknownStepTypes (keys : List String)
  deriving DecidableEq, Repr

namespace WorkflowError

def message : WorkflowError → String
  | handlerNotFound key => "No handler registered for step type '" ++ key ++ "'"
  | stepExecution stepId detail => "Step execution failed in '" ++ stepId ++ "': " ++ detail
  | validation detail => "Validation error: " ++ detail
  | invalidInput detail => "Invalid input: " ++ detail
  | disabled workflowId => "Workflow is disabled: " ++ workflowId
  | nestingTooDeep depth => "Maximum nesting depth of " ++ toString depth ++ " exceeded"
  | unknownStepTypes keys => "Unknown step types: " ++ Text.join ", " keys

def isHandlerNotFound : WorkflowError → Bool
  | handlerNotFound _ => true
  | _ => false

end WorkflowError

end Stepflow
