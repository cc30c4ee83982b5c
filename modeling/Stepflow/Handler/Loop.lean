/-
  Stepflow.Handler.Loop — the step that runs the steps below it once per item.

  Each iteration works on a copy of the context that holds the data of the iteration.
  Of what it writes only the outputs of its steps flow back, in the order of the
  iterations. A step that fails inside does not end the loop.
-/

import Stepflow.Handler.Task
import Stepflow.Template

namespace Stepflow.Handler

/-- What the path of a loop leads to: a list, or a text that writes one. -/
def loopItems (path : String) (ctx : Context) : Except String (List Value) :=
  let unusable := "Source '" ++ path ++ "' is not an array"
  match Fields.resolve ctx path with
  | none => .error ("Source array '" ++ path ++ "' not found in context")
  | some (.array items) => .ok items
  | some (.string text) =>
    match Json.parse text with
    | .ok (.array items) => .ok items
    | _ => .error unusable
  | some _ => .error unusable

def loopData (item : Value) (index count : Nat) : Value :=
  .record [("item", item), ("index", .count index), ("is_first", .bool (index == 0)),
    ("is_last", .bool (index + 1 == count))]

def iterate (children : List Step) (count : Nat) :
    Nat → List Value → Context → Nat → Task (Except WorkflowError Nat × Context)
  | _, [], ctx, failed => .done (.ok failed, ctx)
  | index, item :: items, ctx, failed =>
    let inner := ctx.insert Context.loopKey (loopData item index count)
    .ask (.runSteps children inner) fun
      | (.error e, _) => .done (.error e, ctx)
      | (.ok run, after) =>
        let produced := (Context.stepEntries after).drop (Context.stepEntries inner).length
        iterate children count (index + 1) items (Context.appendEntries ctx produced)
          (failed + run.failedCount)

def loopResult (iterations failed : Nat) : StepResult :=
  .completed (.record [("iterations", .count iterations), ("failed_steps", .count failed)])

def loopPath? (step : Step) : Option String :=
  (step.configText? "sourceArray").bind fun p => Text.trimmed? (Template.barePath p)

def forEach : Handler := fun step ctx =>
  match loopPath? step with
  | none => .done (.error (Work.error step "sourceArray is required"), ctx)
  | some path =>
    match loopItems path ctx with
    | .error reason => .done (.ok (.skip reason), ctx)
    | .ok items => do
      let (result, ctx) ← iterate step.orderedChildren items.length 0 items ctx 0
      return (result.map (loopResult items.length), ctx)

/-- With a list to go over, a loop is its iterations, then its result. -/
theorem forEach_of_items {step : Step} {ctx : Context} {path : String} {items : List Value}
    (hpath : loopPath? step = some path) (hitems : loopItems path ctx = .ok items) :
    forEach step ctx = (iterate step.orderedChildren items.length 0 items ctx 0).bind
      fun a => .done (a.1.map (loopResult items.length), a.2) := by
  simp only [forEach, hpath, hitems]
  rfl

/-- A loop fails without a path, is skipped without a list, or goes over its list. -/
theorem forEach_cases (step : Step) (ctx : Context) :
    (loopPath? step = none ∧ forEach step ctx = .done (.error (Work.error step "sourceArray is required"), ctx)) ∨
    (∃ path reason, loopPath? step = some path ∧ loopItems path ctx = .error reason ∧
      forEach step ctx = .done (.ok (.skip reason), ctx)) ∨
    ∃ path items, loopPath? step = some path ∧ loopItems path ctx = .ok items ∧
      forEach step ctx = (iterate step.orderedChildren items.length 0 items ctx 0).bind
        fun a => .done (a.1.map (loopResult items.length), a.2) := by
  cases hpath : loopPath? step with
  | none => exact .inl ⟨rfl, by simp only [forEach, hpath]⟩
  | some path =>
    cases hitems : loopItems path ctx with
    | error reason => exact .inr (.inl ⟨path, reason, rfl, hitems, by simp only [forEach, hpath, hitems]⟩)
    | ok items => exact .inr (.inr ⟨path, items, rfl, hitems, forEach_of_items hpath hitems⟩)

end Stepflow.Handler
