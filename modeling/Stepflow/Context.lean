/-
  Stepflow.Context — the state that the steps of a run share.

  A context is an object. Steps add to it by merging. Under `steps` it keeps what the
  steps put out, in order of completion, and under `step_` with the id of a step the
  last output of that step; `trigger` is a copy of the context that the run started
  with, `loop` the data of the iteration that is running.
-/

import Stepflow.Value.Merge

namespace Stepflow

abbrev Context := Fields

namespace Context

def stepsKey : String := "steps"

def loopKey : String := "loop"

def triggerKey : String := "trigger"

def variablesKey : String := "variables"

def conditionKey : String := "condition"

def outputKey (stepId : String) : String := "step_" ++ stepId

/-- A value as a context: objects are one already, null is an empty one, any other value
    goes under `input`. -/
def ofValue : Value → Context
  | .object fields => fields
  | .null => []
  | v => [("input", v)]

/-- The outputs so far; none when there is no list of them. -/
def stepEntries (ctx : Context) : List Value :=
  match ctx.get? stepsKey with
  | some (.array entries) => entries
  | _ => []

def appendEntries (ctx : Context) (entries : List Value) : Context :=
  if entries.isEmpty then ctx else ctx.insert stepsKey (.array (ctx.stepEntries ++ entries))

def entry (stepId : String) (output : Value) : Value :=
  .record [("step_id", .string stepId), ("output", output)]

def recordOutput (ctx : Context) (stepId : String) (output : Value) : Context :=
  appendEntries (ctx.insert (outputKey stepId) output) [entry stepId output]

def merge (ctx : Context) (part : Fields) : Context := Fields.merge ctx part

/-- The context with a copy of itself under `trigger`, if that is free. -/
def seedTrigger (ctx : Context) : Context :=
  if ctx.has triggerKey then ctx else ctx.insert triggerKey (.object ctx)

/-! ## The outputs so far -/

theorem outputKey_ne_stepsKey (stepId : String) : outputKey stepId ≠ stepsKey := by
  intro h
  have hchars : (outputKey stepId).toList = stepsKey.toList := by rw [h]
  simp [outputKey, stepsKey] at hchars

theorem stepEntries_congr {ctx ctx' : Context} (h : ctx'.get? stepsKey = ctx.get? stepsKey) :
    stepEntries ctx' = stepEntries ctx := by
  simp only [stepEntries, h]

theorem stepEntries_insert (ctx : Context) {key : String} (v : Value) (h : key ≠ stepsKey) :
    stepEntries (ctx.insert key v) = stepEntries ctx :=
  stepEntries_congr (by rw [Table.get?_insert, if_neg h])

theorem stepEntries_seedTrigger (ctx : Context) : stepEntries (seedTrigger ctx) = stepEntries ctx := by
  unfold seedTrigger
  split
  · rfl
  · exact stepEntries_insert ctx _ (by decide)

theorem stepEntries_merge (ctx : Context) {part : Fields} (h : part.has stepsKey = false) :
    stepEntries (merge ctx part) = stepEntries ctx := by
  have hnone : part.get? stepsKey = none := Option.isNone_iff_eq_none.mp (Option.isSome_eq_false_iff.mp h)
  exact stepEntries_congr (Fields.get?_merge_other ctx part hnone)

/-- An object merged over the outputs leaves none of them. -/
theorem stepEntries_merge_object (ctx : Context) (fields : Fields) :
    stepEntries (merge ctx [(stepsKey, .object fields)]) = [] := by
  obtain ⟨merged, hmerged⟩ : ∃ merged : Fields, (merge ctx [(stepsKey, .object fields)]).get? stepsKey =
      some (.object merged) := by
    simp only [merge, Fields.merge, Table.get?_insert, if_true]
    cases Table.get? ctx stepsKey with
    | none => exact ⟨fields, rfl⟩
    | some old => simpa using old.merge_object fields
  simp only [stepEntries, hmerged]

theorem stepEntries_appendEntries (ctx : Context) (entries : List Value) :
    stepEntries (appendEntries ctx entries) = stepEntries ctx ++ entries := by
  unfold appendEntries
  split
  · rename_i he
    rw [List.isEmpty_iff.mp he, List.append_nil]
  · simp only [stepEntries, Table.get?_insert, if_true]

/-- Outputs are put in nowhere else. -/
theorem get?_appendEntries (ctx : Context) (entries : List Value) {key : String} (h : key ≠ stepsKey) :
    (appendEntries ctx entries).get? key = ctx.get? key := by
  unfold appendEntries
  split
  · rfl
  · rw [Table.get?_insert, if_neg (Ne.symm h)]

theorem stepEntries_recordOutput (ctx : Context) (stepId : String) (output : Value) :
    stepEntries (recordOutput ctx stepId output) = stepEntries ctx ++ [entry stepId output] := by
  rw [recordOutput, stepEntries_appendEntries, stepEntries_insert ctx output (outputKey_ne_stepsKey stepId)]

/-! ## Keys -/

theorem has_appendEntries (ctx : Context) (entries : List Value) {key : String} (h : ctx.has key = true) :
    (appendEntries ctx entries).has key = true := by
  unfold appendEntries
  split
  · exact h
  · exact (Table.has_insert ctx _).mpr (.inr h)

theorem has_recordOutput (ctx : Context) (stepId : String) (output : Value) {key : String} (h : ctx.has key = true) :
    (recordOutput ctx stepId output).has key = true :=
  has_appendEntries _ _ ((Table.has_insert ctx output).mpr (.inr h))

theorem has_seedTrigger (ctx : Context) : (seedTrigger ctx).has triggerKey = true := by
  unfold seedTrigger
  split
  · assumption
  · exact (Table.has_insert ctx _).mpr (.inl rfl)

/-- A context that has its copy is not copied again. -/
theorem seedTrigger_of_has {ctx : Context} (h : ctx.has triggerKey = true) : seedTrigger ctx = ctx := by
  simp only [seedTrigger, h, if_true]

end Context

end Stepflow
