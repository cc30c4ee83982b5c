/-
  Stepflow.Workflow.Definition — workflows, and workflows as data.

  A definition has to name its id and its name; by default it has no steps, leaves the
  error policy to the engine, is enabled, has version 1 and was made now.
-/

import Stepflow.Time.Rfc3339
import Stepflow.Workflow.Id
import Stepflow.Workflow.Step

namespace Stepflow

open Json Time

structure Workflow where
  id : WorkflowId
  name : String
  description : Option String := none
  steps : List Step := []
  onError : Option OnError := none
  enabled : Bool := true
  version : UInt32 := 1
  createdAt : Timestamp
  updatedAt : Timestamp

namespace Workflow

def new (now : Timestamp) (id : WorkflowId) (name : String) : Workflow :=
  { id, name, createdAt := now, updatedAt := now }

def orderedSteps (w : Workflow) : List Step := ordered w.steps

def setSteps (w : Workflow) (now : Timestamp) (steps : List Step) : Workflow :=
  { w with steps, version := w.version + 1, updatedAt := now }

/-- The first step with an id, at any depth. -/
def findStep? (w : Workflow) (id : String) : Option Step := Step.find? w.steps id

def stepCount (w : Workflow) : Nat := (Step.trees w.steps).length

/-! ## Workflows as data -/

structure Draft where
  id : Option WorkflowId := none
  name : Option String := none
  description : Option String := none
  steps : List Step := []
  onError : Option OnError := none
  enabled : Bool := true
  version : UInt32 := 1
  createdAt : Option Timestamp := none
  updatedAt : Option Timestamp := none

def decodeId (t : Tree) : Except DecodeError WorkflowId := do
  let s ← Decode.string t
  (WorkflowId.ofString s).mapError fun e => .rejected e.message

def decodeTime : Tree → Except DecodeError Timestamp
  | .string s => (Timestamp.readLoosely s).mapError fun e => .rejected e.message
  | t => .error (Decode.mismatch t "an RFC 3339 formatted date and time string")

def recordSpec (origin : Origin) (budget : Nat) : Decode.RecordSpec Draft where
  name := "struct Workflow"
  fields := ["id", "name", "description", "steps", "on_error", "enabled", "version", "created_at",
    "updated_at"]
  set := fun name t r =>
    match name with
    | "id" => return { r with id := some (← decodeId t) }
    | "name" => return { r with name := some (← Decode.string t) }
    | "description" => return { r with description := ← Decode.optional Decode.string t }
    | "steps" => return { r with steps := ← Decode.list budget (Step.decode origin) t }
    | "on_error" =>
      return { r with onError := ← Decode.optional (Decode.choice origin budget OnError.names) t }
    | "enabled" => return { r with enabled := ← Decode.boolean t }
    | "version" => return { r with version := UInt32.ofNat (← Decode.natural UInt32.size "u32" t) }
    | "created_at" => return { r with createdAt := some (← decodeTime t) }
    | _ => return { r with updatedAt := some (← decodeTime t) }

def decode (now : Timestamp) (origin : Origin) (budget : Nat) : Tree → Except DecodeError Workflow :=
  Decode.record origin budget (recordSpec origin) {} fun r => do
    let id ← Decode.required "id" r.id
    let name ← Decode.required "name" r.name
    return { id, name, description := r.description, steps := r.steps, onError := r.onError,
             enabled := r.enabled, version := r.version, createdAt := r.createdAt.getD now,
             updatedAt := r.updatedAt.getD now }

/-- The data of a workflow: no description and no error policy are left out. -/
def toValue (w : Workflow) : Value :=
  .record ([("id", .string w.id.text), ("name", .string w.name),
      ("steps", .array (Step.toValues w.steps)), ("enabled", .bool w.enabled),
      ("version", .count w.version.toNat), ("created_at", .string w.createdAt.zulu),
      ("updated_at", .string w.updatedAt.zulu)] ++
    (w.description.map fun d => ("description", Value.string d)).toList ++
    (w.onError.map fun a => ("on_error", a.toValue)).toList)

end Workflow

end Stepflow
