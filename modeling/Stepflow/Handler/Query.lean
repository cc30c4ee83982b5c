/-
  Stepflow.Handler.Query — the step that looks for records.

  It answers with a list of at most a limit, with the first record only, or with a count
  of all. What it answers is also put into the context when the step names a key.
-/

import Stepflow.Handler.Task

namespace Stepflow.Handler

open Records

/-- The text under the first of the keys that holds one, if it is not blank. -/
def firstText? (entry : Fields) (keys : List String) : Option String :=
  (keys.findSome? fun key => (entry.get? key).bind (·.string?)).bind Text.trimmed?

def entriesOf (step : Step) (key : String) : List Fields :=
  (((step.config.get? key).bind (·.items?)).getD []).filterMap (·.fields?)

/-- The filter of a condition; none when it names no field. -/
def filterOf? (now : Time.Timestamp) (ctx : Context) (entry : Fields) : Option Filter :=
  (firstText? entry ["field", "column"]).map fun field =>
    Filter.parse now field ((firstText? entry ["op", "operator"]).getD "=")
      (((entry.get? "value").map (·.templated ctx)).getD .null)

/-- The key of an entry to order by; none when it names no field. -/
def orderKeyOf? (entry : Fields) : Option OrderKey :=
  (firstText? entry ["field"]).map fun field =>
    ⟨field, (firstText? entry ["dir"]).any fun d => Text.sameAscii d "desc"⟩

def buildQuery (now : Time.Timestamp) (step : Step) (ctx : Context) : Query :=
  { filters := (entriesOf step "conditions").filterMap (filterOf? now ctx)
    order := (entriesOf step "order").filterMap orderKeyOf? }

def defaultLimit : Nat := 50

def maxLimit : Nat := 1000

/-- The limit of a step: a whole number or the text of one, between 1 and the greatest. -/
def limitOf (step : Step) : Nat :=
  let configured : Option Nat :=
    match step.config.get? "limit" with
    | some (.number n) => n.toNat?
    | some (.string s) => Decimal.uint64? (Text.trim s)
    | _ => none
  (configured.filter fun n => 1 ≤ n && n ≤ maxLimit).getD defaultLimit

def switch (step : Step) (key : String) : Bool :=
  ((step.config.get? key).bind (·.bool?)).getD false

inductive QueryMode where
  | list (limit : Nat)
  | single
  | countOnly
  deriving DecidableEq

namespace QueryMode

/-- The mode of a step: the first record goes before a count, a count before a list. -/
def of (step : Step) : QueryMode :=
  if switch step "single" || (step.configText? "mode").any fun m =>
      Text.sameAscii (Text.trim m) "single" then single
  else if switch step "count_only" then countOnly
  else list (limitOf step)

def limit? : QueryMode → Option Nat
  | list n => some n
  | single => some 1
  | countOnly => none

def answer (mode : QueryMode) (records : List Fields) : Value :=
  let items (rs : List Fields) : Value := .array (rs.map .object)
  match mode with
  | list _ => .record [("count", .count records.length), ("records", items records)]
  | countOnly => .record [("count", .count records.length), ("records", .array [])]
  | single =>
    let first := records.take 1
    .record [("count", .count first.length), ("records", items first),
      ("record", .ofOption .object first.head?)]

end QueryMode

def queryModel (step : Step) : Work String :=
  Work.need step "model is required for QUERY_DATA"
    ((step.configText? "model" <|> step.configText? "target_model").bind Text.trimmed?)

def queryData : Handler := .ofWork fun step ctx => do
  let model ← queryModel step
  let now ← ExceptT.lift (Task.of .clock)
  let mode := QueryMode.of step
  let query := { buildQuery now step ctx with limit := mode.limit? }
  let records ← Work.service step (Task.of (.findRecords model query))
  let parsed := mode.answer records
  return { StepResult.completed parsed with
           context := ((step.configWord? "output_key").map fun key => (key, parsed)).toList }

end Stepflow.Handler
