/-
  Stepflow.Mail — messages, and a mailbox that keeps what is sent.

  A message needs a recipient, and is kept under an id.
-/

import Stepflow.Failure
import Stepflow.Text.Blank
import Stepflow.Value.Basic

namespace Stepflow

structure Message where
  recipient : String
  subject : String
  body : String
  deriving DecidableEq

def Message.toValue (m : Message) : Value :=
  .record [("to", .string m.recipient), ("subject", .string m.subject), ("body", .string m.body)]

/-- Messages sent, with their ids, oldest first. -/
abbrev Mailbox := List (String × Message)

namespace Mailbox

def send (b : Mailbox) (id : String) (m : Message) : Except ServiceError (String × Mailbox) :=
  if Text.isBlankText m.recipient then .error (.validation "Email recipient cannot be empty")
  else .ok (id, b ++ [(id, m)])

end Mailbox

end Stepflow
