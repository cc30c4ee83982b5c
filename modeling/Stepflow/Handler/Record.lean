/-
  Stepflow.Handler.Record — the steps that create and update records.

  What a step writes is also kept in the context, in a slot named by the last part of the
  name of the model in lower case.
-/

import Stepflow.Handler.Fields

namespace Stepflow.Handler

def isModelSeparator (c : Char) : Bool := c == '\\' || c == ':' || c == '.'

def slotName (model : String) : String :=
  Text.lower (((Text.split isModelSeparator model).getLast?).getD model)

def targetModel (step : Step) : Work String :=
  Work.need step "target_model is required" (step.configWord? "target_model")

def writtenFields (step : Step) (ctx : Context) : Work Fields := do
  let now ← ExceptT.lift (Task.of .clock)
  return resolveFields now ctx (step.config.get? "fields")

def slot (model id : String) (fields : Fields) : Fields :=
  [(slotName model, .object (fields.insert Records.idKey (.string id)))]

def createRecord : Handler := .ofWork fun step ctx => do
  let model ← targetModel step
  let fields ← writtenFields step ctx
  if fields.isEmpty then
    Work.fail step ("No fields provided to create a " ++ model ++ " record")
  let ref ← Work.service step (Task.of (.createRecord model fields))
  return { raw := .record [("entity_type", .string ref.type), ("id", .string ref.id)]
           parsed := .record [("id", .string ref.id), ("new_record_id", .string ref.id),
             ("model", .string model)]
           context := slot model ref.id fields }

def updateRecord : Handler := .ofWork fun step ctx => do
  let model ← targetModel step
  let id ← Work.need step "record_id is required"
    (Text.trimmed? (step.configFilled "record_id" ctx))
  let fields ← writtenFields step ctx
  let _ ← Work.service step (Task.of (.updateRecord model id fields))
  return { StepResult.completed (.record [("id", .string id), ("model", .string model)]) with
           context := slot model id fields }

end Stepflow.Handler
