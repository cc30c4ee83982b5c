/-
  Stepflow.Handler.Condition — the step that runs one of two branches.

  The condition holds when the value of its field is truthy and all its rules hold;
  either may be missing, not both. A step below belongs to the branch that it names,
  by default to the one for a condition that holds. The branch runs on the context of
  the condition, so what its steps write stays.
-/

import Stepflow.Condition
import Stepflow.Handler.Task

namespace Stepflow.Handler

def rules? (step : Step) : Except WorkflowError (List Rule) :=
  match step.configSet? "rules" with
  | none => .ok []
  | some v =>
    (Json.decodeValue (fun origin budget => Json.Decode.list budget (Rule.decode origin)) v).mapError
      fun e => Work.error step ("Invalid condition rules: " ++ e.message)

def evaluate (step : Step) (ctx : Context) : Except WorkflowError Bool := do
  let field := step.configWord? "field"
  let rules ← rules? step
  if field.isNone && rules.isEmpty then
    throw (Work.error step "Condition requires a field or at least one rule")
  let fieldHolds := field.all fun path =>
    ((Fields.resolve ctx (Template.barePath path)).map (·.isTruthy)).getD false
  return fieldHolds && rules.all (·.holds ctx)

def branchOf (child : Step) : Bool :=
  match child.configSet? "when" <|> child.configSet? "_branch" with
  | none => true
  | some (.bool b) => b
  | some (.string s) => not (["no", "false", "0", "else"].contains (Text.lower (Text.trim s)))
  | some v => v.isTruthy

def branch (step : Step) (holds : Bool) : List Step :=
  step.orderedChildren.filter fun child => branchOf child == holds

def conditionResult (step : Step) (holds : Bool) (executed : Nat) : StepResult :=
  { StepResult.completed (.record [("condition", .string (if holds then "YES" else "NO")),
      ("result", .bool holds), ("executed", .count executed)]) with
    context := [(Context.conditionKey, .object [(step.id, .bool holds)])] }

def condition : Handler := fun step ctx =>
  match evaluate step ctx with
  | .error e => .done (.error e, ctx)
  | .ok holds =>
    match branch step holds with
    | [] => .done (.ok (conditionResult step holds 0), ctx)
    | steps => .ask (.runSteps steps ctx) fun
      | (.error e, ctx) => .done (.error e, ctx)
      | (.ok run, ctx) => .done (.ok (conditionResult step holds run.outcomes.length), ctx)

/-- A condition fails at once, has nothing to run, or asks for a branch and ends with its
    outcome. -/
theorem condition_cases (step : Step) (ctx : Context) :
    (∃ err, evaluate step ctx = .error err ∧ condition step ctx = .done (.error err, ctx)) ∨
    (∃ holds, evaluate step ctx = .ok holds ∧ branch step holds = [] ∧
      condition step ctx = .done (.ok (conditionResult step holds 0), ctx)) ∨
    ∃ holds, evaluate step ctx = .ok holds ∧ branch step holds ≠ [] ∧
      condition step ctx = .ask (.runSteps (branch step holds) ctx) fun a =>
        .done (a.1.map fun run => conditionResult step holds run.outcomes.length, a.2) := by
  unfold condition
  cases hev : evaluate step ctx with
  | error err => exact .inl ⟨err, rfl, rfl⟩
  | ok holds =>
    cases hb : branch step holds with
    | nil => exact .inr (.inl ⟨holds, rfl, hb, by simp only [hb]⟩)
    | cons s rest =>
      refine .inr (.inr ⟨holds, rfl, by simp [hb], ?_⟩)
      simp only [hb, Task.ask.injEq, heq_eq_eq, true_and]
      funext a
      obtain ⟨result, left⟩ := a
      cases result <;> rfl

end Stepflow.Handler
