/-
  Stepflow.Workflow.Step — the steps of a workflow.

  A step has a kind, a configuration and steps below it. Steps of one list run in the
  order of their ranks, those of one rank in the order in which they are declared
  (`ordered`). The handler of a step is found by its key: the kind in upper case, and
  for an action with a type of its own that type after it (`Step.handlerKey`).
-/

import Stepflow.Json.Decode
import Stepflow.Text.Blank
import Stepflow.Text.Casing

namespace Stepflow

inductive OnError where
  | continue
  | abort
  deriving DecidableEq, Repr

namespace OnError

def name : OnError → String
  | .continue => "continue"
  | .abort => "abort"

def names : List (String × OnError) := [("continue", .continue), ("abort", .abort)]

def toValue (a : OnError) : Value := .string a.name

end OnError

inductive StepKind where
  | trigger
  | aiPrompt
  | condition
  | forEach
  | action
  | defineVariable
  | transformContent
  | custom (key : String)
  deriving DecidableEq, Repr

namespace StepKind

def key : StepKind → String
  | trigger => "TRIGGER"
  | aiPrompt => "AI_PROMPT"
  | condition => "CONDITION"
  | forEach => "FOR_EACH"
  | action => "ACTION"
  | defineVariable => "DEFINE_VARIABLE"
  | transformContent => "TRANSFORM_CONTENT"
  | custom key => key

def normalKey (s : String) : String := Text.upper (Text.trim s)

def ofString (s : String) : StepKind :=
  match normalKey s with
  | "TRIGGER" => trigger
  | "AI_PROMPT" => aiPrompt
  | "CONDITION" => condition
  | "FOR_EACH" => forEach
  | "ACTION" => action
  | "DEFINE_VARIABLE" => defineVariable
  | "TRANSFORM_CONTENT" => transformContent
  | key => custom key

def isCustom : StepKind → Bool
  | custom _ => true
  | _ => false

end StepKind

structure Step where
  id : String
  kind : StepKind
  config : Fields := []
  children : List Step := []
  order : Int := 0
  onError : Option OnError := none

instance : Inhabited Step := ⟨{ id := "", kind := .trigger }⟩

def actionTypeKey : String := "action_type"

def handlerKeyOf (kind : String) (actionType : Option String) : String :=
  let key := StepKind.normalKey kind
  if key ≠ StepKind.action.key then key
  else
    match actionType.bind Text.trimmed? with
    | some action => "ACTION_" ++ Text.upper action
    | none => key

/-- A step put before the first one of its rank or a higher one. -/
def insertRanked (s : Step) : List Step → List Step
  | [] => [s]
  | t :: rest => if s.order ≤ t.order then s :: t :: rest else t :: insertRanked s rest

/-- Steps by rank, those of one rank in their order. -/
def ordered : List Step → List Step
  | [] => []
  | s :: rest => insertRanked s (ordered rest)

namespace Step

def configText? (s : Step) (key : String) : Option String := (s.config.get? key).bind (·.string?)

def handlerKey (s : Step) : String := handlerKeyOf s.kind.key (s.configText? actionTypeKey)

def orderedChildren (s : Step) : List Step := ordered s.children

mutual
/-- The step and all below it, each before those below it. -/
def tree : Step → List Step
  | ⟨id, kind, config, children, order, onError⟩ =>
    ⟨id, kind, config, children, order, onError⟩ :: trees children

def trees : List Step → List Step
  | [] => []
  | s :: rest => tree s ++ trees rest
end

def find? (steps : List Step) (id : String) : Option Step :=
  (trees steps).find? fun s => s.id == id

/-! ## Steps as data -/

open Json

/-- The id of a step: a text, or a whole number as its text. -/
def decodeId (budget : Nat) (t : Tree) : Except DecodeError String := do
  match ← Decode.value budget t with
  | .string s => return s
  | .number n =>
    match n.toInt? with
    | some i => return toString i
    | none => throw (.noVariant "Raw")
  | _ => throw (.noVariant "Raw")

structure Draft where
  id : Option String := none
  kind : Option StepKind := none
  config : Fields := []
  children : List Step := []
  order : Int := 0
  onError : Option OnError := none

/-- The fields of a step; `children` decodes the steps below. -/
def recordSpec (origin : Origin) (children : Tree → Except DecodeError (List Step)) (budget : Nat) :
    Decode.RecordSpec Draft where
  name := "struct WorkflowStep"
  fields := ["id", "type", "config", "children", "order", "on_error"]
  set := fun name t r =>
    match name with
    | "id" => return { r with id := some (← decodeId budget t) }
    | "type" => return { r with kind := some (StepKind.ofString (← Decode.string t)) }
    | "config" => return { r with config := ← Decode.table budget Decode.value t }
    | "children" => return { r with children := ← children t }
    | "order" => return { r with order := ← Decode.whole Int64.minValue.toInt Int64.maxValue.toInt "i64" t }
    | _ =>
      return { r with onError := ← Decode.optional (Decode.choice origin budget OnError.names) t }

def ofDraft (r : Draft) : Except String Step := do
  let id ← Decode.required "id" r.id
  let kind ← Decode.required "type" r.kind
  return { id, kind, config := r.config, children := r.children, order := r.order,
           onError := r.onError }

def decode (origin : Origin) : Nat → Tree → Except DecodeError Step
  | 0, t => .error (Decode.exhausted t "struct WorkflowStep")
  | 1, t =>
    let children t := .error (Decode.exhausted t "a sequence")
    (recordSpec origin children 0).read origin t {} ofDraft
  | budget + 2, t =>
    let children := Decode.listOf (decode origin budget)
    (recordSpec origin children (budget + 1)).read origin t {} ofDraft

mutual
/-- The data of a step: no children and no error policy are left out. -/
def toValue : Step → Value
  | ⟨id, kind, config, children, order, onError⟩ =>
    .record ([("id", .string id), ("type", .string kind.key), ("config", .object config),
        ("order", .number (.ofInt order))] ++
      (if children.isEmpty then [] else [("children", .array (toValues children))]) ++
      (onError.map fun a => ("on_error", a.toValue)).toList)

def toValues : List Step → List Value
  | [] => []
  | s :: rest => toValue s :: toValues rest
end

end Step

end Stepflow
