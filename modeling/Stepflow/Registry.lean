/-
  Stepflow.Registry — handlers by key.

  Keys are kept without outer blanks and in upper case, a later handler in the place of
  an earlier one. A step resolves to what is registered under its handler key.
-/

import Stepflow.Failure
import Stepflow.Text.Quoted
import Stepflow.Workflow.Step

namespace Stepflow

abbrev Registry (α : Type) := Table α

namespace Registry

variable {α : Type}

def register (r : Registry α) (key : String) (handler : α) : Registry α :=
  Table.insert r (StepKind.normalKey key) handler

def ofHandlers (handlers : List (String × α)) : Registry α :=
  handlers.foldl (fun r h => r.register h.1 h.2) []

def contains (r : Registry α) (key : String) : Bool := Table.has r (StepKind.normalKey key)

def resolve (r : Registry α) (step : Step) : Except WorkflowError α :=
  match Table.get? r step.handlerKey with
  | some handler => .ok handler
  | none => .error (.handlerNotFound step.handlerKey)

/-- The keys that steps at any depth need and the registry lacks, in the order of the
    definition, none twice. -/
def unknownKeys (r : Registry α) (steps : List Step) : List String :=
  (((Step.trees steps).map Step.handlerKey).filter fun key => !Table.has r key).eraseDups

/-- Do all steps resolve, at any depth? -/
def validate (r : Registry α) (steps : List Step) : Except WorkflowError Unit :=
  match r.unknownKeys steps with
  | [] => .ok ()
  | keys => .error (.unknownStepTypes keys)

def describe (r : Registry α) : String :=
  "HandlerRegistry \x7b handlers: [" ++ Text.join ", " ((Table.keys r).map Text.Quoted.quote) ++
    "] \x7d"

end Registry

end Stepflow
