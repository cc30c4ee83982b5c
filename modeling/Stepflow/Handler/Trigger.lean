/-
  Stepflow.Handler.Trigger — the step that a workflow starts with, and plain actions.

  A trigger says which event it fires on: its own, or the one in the data that the run
  was started with. An action without a type of its own does nothing.
-/

import Stepflow.Handler.Task

namespace Stepflow.Handler

/-- The event of a trigger; null when there is none. -/
def triggerEvent (step : Step) (ctx : Context) : Value :=
  ((step.configSet? "trigger_event" <|> step.configSet? "event") <|>
    ((ctx.get? Context.triggerKey).bind (·.field? "event"))).getD .null

def trigger : Handler := .ofWork fun step ctx =>
  return .completed (.record [("trigger_event", triggerEvent step ctx)])

def plainAction : Handler := .ofWork fun step _ =>
  return { logs := ["Action step " ++ step.id ++ " has no action_type"] }

end Stepflow.Handler
