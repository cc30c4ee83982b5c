/-
  Stepflow.Engine — workflows run.

  Steps run one after the other on one context. Every invocation opens an audit entry,
  is handed to the handler of the step, and closes its entry: a failure changes nothing
  else, a success merges what the handler returns and records its output. A failure
  ends its list if the policy says abort: that of the step, else of the workflow, else
  of the engine.

  A handler may run the steps below its own. Each level takes one from the depth that is
  left (`runNested`), so nesting ends.
-/

import Stepflow.Handler.Builtin
import Stepflow.Workflow.Definition
import Stepflow.World

namespace Stepflow

open Json

structure EngineConfig where
  /-- The policy where neither the step nor the workflow has one. -/
  onError : OnError := .continue
  /-- Are workflows with unknown steps turned down before they run? -/
  strictValidation : Bool := false
  /-- How many levels of steps may be nested below the first. -/
  maxDepth : Nat := 16
  deriving DecidableEq

namespace EngineConfig

def fields : List String := ["default_on_error", "strict_validation", "max_depth"]

/-- Settings as data; what is missing has its default. -/
def decode (origin : Origin) (budget : Nat) : Tree → Except DecodeError EngineConfig :=
  Decode.record origin budget
    (fun budget =>
      { name := "struct WorkflowEngineConfig"
        fields
        set := fun name t r =>
          match name with
          | "default_on_error" =>
            return { r with onError := ← Decode.choice origin budget OnError.names t }
          | "strict_validation" => return { r with strictValidation := ← Decode.boolean t }
          | _ => return { r with maxDepth := ← Decode.natural UInt64.size "usize" t } })
    ({} : EngineConfig) .ok

def describe (c : EngineConfig) : String :=
  "WorkflowEngineConfig \x7b default_on_error: " ++
    (match c.onError with
      | .continue => "Continue"
      | .abort => "Abort") ++
    ", strict_validation: " ++ toString c.strictValidation ++ ", max_depth: " ++
    toString c.maxDepth ++ " \x7d"

end EngineConfig

/-- What runs workflows: handlers, services and settings. -/
structure Engine (σ : Type) where
  registry : Registry Handler
  services : Services σ
  config : EngineConfig := {}

structure Scope where
  workflowId : WorkflowId
  /-- The policy of the workflow. -/
  onError : Option OnError := none
  /-- The entry of the invocation that runs the list. -/
  parent : Option String := none

namespace Engine

variable {σ : Type}

def describe (e : Engine σ) : String :=
  "WorkflowEngine \x7b registry: " ++ e.registry.describe ++ ", config: " ++ e.config.describe ++
    ", .. \x7d"

def policy (e : Engine σ) (scope : Scope) (step : Step) : OnError :=
  (step.onError <|> scope.onError).getD e.config.onError

def absorb (ctx : Context) (stepId : String) (r : StepResult) : Context :=
  let ctx := Context.merge ctx r.context
  if r.skipped || r.parsed.isNull then ctx else Context.recordOutput ctx stepId r.parsed

def entryOf (scope : Scope) (step : Step) (ctx : Context) (w : World σ) : Audit.Entry :=
  (Audit.Entry.started w.journal.nextId scope.workflowId step.id step.handlerKey (.object ctx)
    w.now).withParent scope.parent

def invoke (e : Engine σ) (nested : Services.Nested σ) (step : Step) (ctx : Context) (w : World σ) :
    (Except WorkflowError StepResult × Context) × World σ :=
  match e.registry.resolve step with
  | .error err => ((.error err, ctx), w)
  | .ok handler => (handler step ctx).run (e.services.answer nested) w

def close (w : World σ) (id : String) (c : Audit.Completion) : World σ :=
  { w with journal := w.journal.closeEntry w.now id c }

/-- The invocation of a step; `nested` runs steps below it. -/
def runStep (e : Engine σ) (nested : Scope → Services.Nested σ) (scope : Scope) (step : Step)
    (ctx : Context) (w : World σ) : (StepOutcome × Context) × World σ :=
  let entry := entryOf scope step ctx w
  let opened := { w with journal := w.journal.openEntry entry }
  match e.invoke (nested { scope with parent := some entry.id }) step ctx opened with
  | ((.ok r, ctx), after) =>
    let durationMs := after.now.millisSince opened.now
    (({ stepId := step.id, skipped := r.skipped, durationMs, logId := entry.id },
        absorb ctx step.id r),
      close after entry.id (.success r.raw r.parsed durationMs r.tokens r.cost))
  | ((.error err, ctx), after) =>
    let durationMs := after.now.millisSince opened.now
    (({ stepId := step.id, error := some err.message, durationMs, logId := entry.id }, ctx),
      close after entry.id (.failed err.message durationMs))

def runList (e : Engine σ) (nested : Scope → Services.Nested σ) (scope : Scope) :
    List Step → Context → World σ → (StepsRun × Context) × World σ
  | [], ctx, w => (({}, ctx), w)
  | step :: rest, ctx, w =>
    match e.runStep nested scope step ctx w with
    | ((outcome, ctx), w) =>
      if outcome.isFailed && e.policy scope step == .abort then
        (({ outcomes := [outcome], aborted := true }, ctx), w)
      else
        match runList e nested scope rest ctx w with
        | ((run, ctx), w) => (({ run with outcomes := outcome :: run.outcomes }, ctx), w)

/-- Steps run below a step, with so many levels left. -/
def runNested (e : Engine σ) : Nat → Scope → Services.Nested σ
  | 0, _, _, ctx, w => ((.error (.nestingTooDeep e.config.maxDepth), ctx), w)
  | depth + 1, scope, steps, ctx, w =>
    match e.runList (runNested e depth) scope steps ctx w with
    | ((run, ctx), w) => ((.ok run, ctx), w)

def runTop (e : Engine σ) (scope : Scope) (steps : List Step) (ctx : Context) (w : World σ) :
    (StepsRun × Context) × World σ :=
  e.runList (e.runNested e.config.maxDepth) scope steps ctx w

def checkRunnable (e : Engine σ) (wf : Workflow) : Except WorkflowError Unit :=
  if !wf.enabled then .error (.disabled wf.id.text)
  else if e.config.strictValidation then e.registry.validate wf.steps
  else .ok ()

def runWorkflow (e : Engine σ) (wf : Workflow) (steps : List Step) (ctx : Context) (w : World σ) :
    RunSummary × World σ :=
  match e.runTop { workflowId := wf.id, onError := wf.onError } steps (Context.seedTrigger ctx) w with
  | ((run, ctx), after) =>
    ({ workflowId := wf.id, steps := run.outcomes, durationMs := after.now.millisSince w.now,
       aborted := run.aborted, context := ctx }, after)

def execute (e : Engine σ) (wf : Workflow) (ctx : Context) (w : World σ) :
    Except WorkflowError RunSummary × World σ :=
  match e.checkRunnable wf with
  | .error err => (.error err, w)
  | .ok () =>
    match e.runWorkflow wf wf.orderedSteps ctx w with
    | (summary, w) => (.ok summary, w)

def stepsFrom? (steps : List Step) (id : String) : Option (List Step) :=
  match steps.dropWhile (·.id != id) with
  | [] => none
  | rest => some rest

def executeFrom (e : Engine σ) (wf : Workflow) (ctx : Context) (start : String) (w : World σ) :
    Except WorkflowError RunSummary × World σ :=
  match e.checkRunnable wf with
  | .error err => (.error err, w)
  | .ok () =>
    match stepsFrom? wf.orderedSteps start with
    | none =>
      (.error (.invalidInput ("Step '" ++ start ++ "' is not a top-level step of workflow '" ++
        wf.id.text ++ "'")), w)
    | some steps =>
      match e.runWorkflow wf steps ctx w with
      | (summary, w) => (.ok summary, w)

/-- Steps that belong to no definition run in the order given. -/
def executeSteps (e : Engine σ) (workflowId : WorkflowId) (steps : List Step) (ctx : Context)
    (w : World σ) : (List StepOutcome × Context) × World σ :=
  match e.runTop { workflowId } steps ctx w with
  | ((run, ctx), w) => ((run.outcomes, ctx), w)

end Engine

end Stepflow
