/-
  Stepflow.Handler.Builtin — the registry of the built-in handlers.
-/

import Stepflow.Handler.Condition
import Stepflow.Handler.FetchApi
import Stepflow.Handler.Loop
import Stepflow.Handler.Mail
import Stepflow.Handler.Prompt
import Stepflow.Handler.Query
import Stepflow.Handler.Record
import Stepflow.Handler.Transform
import Stepflow.Handler.Trigger
import Stepflow.Registry

namespace Stepflow.Handler

def builtin : List (String × Handler) :=
  [("TRIGGER", trigger), ("AI_PROMPT", aiPrompt), ("CONDITION", condition), ("FOR_EACH", forEach),
    ("ACTION", plainAction), ("ACTION_CREATE_RECORD", createRecord),
    ("ACTION_UPDATE_RECORD", updateRecord), ("QUERY_DATA", queryData),
    ("FETCH_RECORDS", queryData), ("FETCH_API_DATA", fetchApi), ("ACTION_SEND_EMAIL", sendEmail),
    ("DEFINE_VARIABLE", defineVariable), ("TRANSFORM_CONTENT", transformContent)]

def registry : Registry Handler := Registry.ofHandlers builtin

end Stepflow.Handler
