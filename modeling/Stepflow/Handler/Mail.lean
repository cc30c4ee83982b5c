/-
  Stepflow.Handler.Mail — the step that sends a message.
-/

import Stepflow.Handler.Task
import Stepflow.Template

namespace Stepflow.Handler

/-- Sends a message whose parts are filled in; it needs a recipient. -/
def sendEmail : Handler := .ofWork fun step ctx => do
  let recipient ← Work.need step "Recipient 'to' is required" (Text.trimmed? (step.configFilled "to" ctx))
  let subject := step.configFilled "subject" ctx
  let body := step.configFilled "body" ctx
  let id ← Work.service step (Task.of (.sendMail { recipient, subject, body }))
  return .completed (.record [("to", .string recipient), ("subject", .string subject),
    ("message_id", .string id)])

end Stepflow.Handler
