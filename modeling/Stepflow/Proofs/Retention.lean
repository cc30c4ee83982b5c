/-
  Stepflow.Proofs.Retention — which steps leave the outputs of earlier ones in place.

  The outputs so far stand under `steps`, and steps add to them at the end. A step that
  merges an object under a key of its configuration may be told to merge it under `steps`
  (`mergedKey?_eq_stepsKey_iff`); what stands there is then no list any more, and the next
  output starts a new one.

  (1) An invocation overwrites the outputs (`Overwrites`) if it succeeds and its key is
  `steps`, or if it is a condition and a step of its branch does. What is done in an
  iteration of a loop is done to a copy.

  (2) One that does not leaves the outputs that it found in front of its own
  (`retains_step`), and so does a list of such (`retains`). One whose own key is `steps`
  leaves nothing of them (`stepEntries_of_overwritten`).

  `run_keeps_outputs_unless_overwritten` says this of every way into the engine and of
  every invocation of a run. The outputs are not kept by every step:
  `query_overwrites_outputs` runs a query whose answer goes under `steps`.
-/

import Stepflow.Proofs.Deeds
import Stepflow.Proofs.Outputs

namespace Stepflow

open Services

/-! ## (1) Steps that write over the outputs -/

/-- Which steps merge something under `steps`: record steps by the name of their model,
    queries by the key for their answer. -/
theorem Handler.mergedKey?_eq_stepsKey_iff (step : Step) :
    mergedKey? step = some Context.stepsKey ↔
      (step.handlerKey = "ACTION_CREATE_RECORD" ∨ step.handlerKey = "ACTION_UPDATE_RECORD") ∧
          (step.configWord? "target_model").map slotName = some Context.stepsKey ∨
        (step.handlerKey = "QUERY_DATA" ∨ step.handlerKey = "FETCH_RECORDS") ∧
          step.configWord? "output_key" = some Context.stepsKey := by
  unfold mergedKey?
  split <;> simp_all [Context.stepsKey, Context.conditionKey, Context.variablesKey]

namespace Invocation

variable {σ : Type}

/-- Has the invocation put an object over the outputs of the context that it was handed? -/
inductive Overwrites : Invocation σ → Prop
  | own {i : Invocation σ} {r : StepResult} : i.result = .ok r →
      Handler.mergedKey? i.step = some Context.stepsKey → Overwrites i
  | branch {i j : Invocation σ} {c : Call σ} : i.step.handlerKey = "CONDITION" → c ∈ i.calls → j ∈ c.ran →
      Overwrites j → Overwrites i

/-- Nothing else is merged over the outputs. -/
theorem part_free {i : Invocation σ} (hmerges : Handler.Merges i.step i.result) (h : ¬ i.Overwrites) :
    i.part.has Context.stepsKey = false := by
  cases hr : i.result with
  | error err =>
    simp only [part, hr]
    rfl
  | ok r =>
    obtain ⟨fields, hpart⟩ := hmerges r hr
    simp only [part, hr, hpart]
    cases hkey : Handler.mergedKey? i.step with
    | none => rfl
    | some key =>
      have hne : key ≠ Context.stepsKey := by
        rintro rfl
        exact h (.own hr hkey)
      simp [Table.has, Table.get?, hne]

/-- What was merged over the outputs has taken their place. -/
theorem stepEntries_of_overwritten {i : Invocation σ} {r : StepResult} {ctx : Context}
    (hmerges : Handler.Merges i.step i.result) (hr : i.result = .ok r)
    (hkey : Handler.mergedKey? i.step = some Context.stepsKey)
    (hleft : i.left = Engine.leaving i.step (i.result, ctx)) : Context.stepEntries i.left = i.output?.toList := by
  obtain ⟨fields, hpart⟩ := hmerges r hr
  rw [hkey] at hpart
  rw [stepEntries_succeeding hr hleft, hpart]
  exact congrArg (· ++ i.output?.toList) (Context.stepEntries_merge_object ctx fields)

end Invocation

/-! ## (2) Steps and lists that leave the outputs in place -/

namespace Engine

variable {σ : Type} {e : Engine σ}

theorem retains_step (he : e.registry = Handler.registry) {depth : Nat}
    (hlists : ∀ scope steps ctx w, (∀ i ∈ e.recordNested depth scope steps ctx w, ¬ i.Overwrites) →
      Context.stepEntries ctx <+: Context.stepEntries (e.runNested depth scope steps ctx w).1.2)
    (scope : Scope) (step : Step) (ctx : Context) (w : World σ) :
    let i := e.recordStep (e.runNested depth) (e.recordNested depth) scope step ctx w
    ¬ i.Overwrites → Context.stepEntries i.given <+: Context.stepEntries i.left := by
  intro i hnot
  have hfree : i.part.has Context.stepsKey = false :=
    Invocation.part_free (merges_step _ _ scope step ctx w he) hnot
  have hbuilt : BuiltIn i := builtIn_step _ _ scope step ctx w he
  refine hbuilt.law (R := fun ctx ctx' => Context.stepEntries ctx <+: Context.stepEntries ctx')
    (fun _ => List.prefix_refl _) List.IsPrefix.trans (fun ctx entries => ?_) (fun c hc hkey => ?_) fun ctx hleft => ?_
  · rw [Context.stepEntries_appendEntries]
    exact List.prefix_append _ _
  · obtain ⟨v, -, hcleft, hran⟩ := e.of_mem_calls _ _ scope hc
    rw [hcleft]
    refine hlists _ _ _ _ fun j hj hover => hnot ?_
    exact .branch hkey hc (hran ▸ hj) hover
  · rw [Invocation.stepEntries_leaving hfree hleft]
    exact List.prefix_append _ _

theorem retains (he : e.registry = Handler.registry) (depth : Nat) (scope : Scope) (steps : List Step) (ctx : Context)
    (w : World σ) (hnot : ∀ i ∈ e.recordNested depth scope steps ctx w, ¬ i.Overwrites) :
    Context.stepEntries ctx <+: Context.stepEntries (e.runNested depth scope steps ctx w).1.2 := by
  refine e.record_law (P := fun _ ctx _ ran ctx' _ => (∀ i ∈ ran, ¬ i.Overwrites) →
    Context.stepEntries ctx <+: Context.stepEntries ctx') ?_ ?_ ?_ depth scope steps ctx w hnot
  · intro scope ctx w _
    exact List.prefix_refl _
  · intro scope ctx w i ctx₁ w₁ rest ctx₂ w₂ h₁ h₂ hnot
    have hfirst := h₁ fun j hj => hnot j (List.mem_singleton.mp hj ▸ List.mem_cons_self ..)
    exact hfirst.trans (h₂ fun j hj => hnot j (List.mem_cons_of_mem i hj))
  · intro depth ih scope step ctx w i hnot
    exact retains_step he ih scope step ctx w (hnot i (List.mem_cons_self ..))

/-- A step whose own key is `steps` leaves its own output only. -/
theorem overwritten_step (he : e.registry = Handler.registry) (nested : Scope → Nested σ) (below : Scope → Recorder σ)
    (scope : Scope) (step : Step) (ctx : Context) (w : World σ) :
    let i := e.recordStep nested below scope step ctx w
    ∀ r, i.result = .ok r → Handler.mergedKey? step = some Context.stepsKey →
      Context.stepEntries i.left = i.output?.toList :=
  fun _ hr hkey => Invocation.stepEntries_of_overwritten (merges_step _ _ scope step ctx w he) hr hkey rfl

/-- The run begins with the outputs of the context that the call was given. -/
theorem Served.stepEntries_start {ctx start ctx' : Context} {w w' : World σ} {scope : Scope}
    {steps : List Step} {run : StepsRun} (h : e.Served ctx w scope steps start run ctx' w') :
    Context.stepEntries start = Context.stepEntries ctx := by
  cases h with
  | execute _ => exact Context.stepEntries_seedTrigger ctx
  | executeFrom _ _ => exact Context.stepEntries_seedTrigger ctx
  | executeSteps _ => rfl

end Engine

/-- In a run over the built-in registry the outputs of the context that the run began with
    stand in front of those it leaves, unless a step of its list overwrote them; and so it
    is with every invocation of the run by itself. If the own key of an invocation is
    `steps`, its output, if it has one, is the only one left; this key is that of record
    steps with such a model and of queries that are told to answer there. -/
theorem run_keeps_outputs_unless_overwritten {σ : Type} {e : Engine σ} {ctx start ctx' : Context} {w w' : World σ}
    {scope : Scope} {steps : List Step} {run : StepsRun} (he : e.registry = Handler.registry)
    (h : e.Served ctx w scope steps start run ctx' w') :
    let ran := e.recordTop scope steps start w
    ((∀ i ∈ ran, ¬ i.Overwrites) → Context.stepEntries ctx <+: Context.stepEntries ctx') ∧
      (∀ i ∈ Invocation.preorder ran,
        (¬ i.Overwrites → Context.stepEntries i.given <+: Context.stepEntries i.left) ∧
        ∀ r, i.result = .ok r → Handler.mergedKey? i.step = some Context.stepsKey →
          Context.stepEntries i.left = i.output?.toList) ∧
      ∀ step, Handler.mergedKey? step = some Context.stepsKey ↔
        (step.handlerKey = "ACTION_CREATE_RECORD" ∨ step.handlerKey = "ACTION_UPDATE_RECORD") ∧
            (step.configWord? "target_model").map Handler.slotName = some Context.stepsKey ∨
          (step.handlerKey = "QUERY_DATA" ∨ step.handlerKey = "FETCH_RECORDS") ∧
            step.configWord? "output_key" = some Context.stepsKey := by
  intro ran
  refine ⟨fun hnot => ?_, ?_, Handler.mergedKey?_eq_stepsKey_iff⟩
  · have hkeeps := Engine.retains he (e.config.maxDepth + 1) scope steps start w hnot
    rw [h.runNested_eq, h.stepEntries_start] at hkeeps
    exact hkeeps
  · refine e.record_forall (Q := fun _ i =>
      (¬ i.Overwrites → Context.stepEntries i.given <+: Context.stepEntries i.left) ∧
      ∀ r, i.result = .ok r → Handler.mergedKey? i.step = some Context.stepsKey →
        Context.stepEntries i.left = i.output?.toList) (fun depth scope step ctx w => ?_) (fun _ _ _ h => h)
      (e.config.maxDepth + 1) scope steps start w
    exact ⟨Engine.retains_step he (Engine.retains he depth) scope step ctx w,
      Engine.overwritten_step he _ _ scope step ctx w⟩

namespace Sample

def census : Step :=
  { id := "census", kind := .custom "QUERY_DATA"
    config := [("model", .string "Task"), ("output_key", .string "steps")] }

def censuses : List Step := [{ loop with children := [census] }]

def grown : Context :=
  Context.recordOutput (Context.recordOutput context "a" (.bool true)) "b" (.bool true)

/-- The steps that the outputs in the context are of, after steps have run on that context. -/
def reported (steps : List Step) : List (Option String) :=
  (Context.stepEntries (engine.executeSteps workflow.id steps grown world).1.2).map fun v =>
    (v.field? "step_id").bind (·.string?)

end Sample

/-- In a loop the query overwrites the outputs of the copies only: the two outputs that
    the loop found stay in front of its own. -/
theorem sample_loop_keeps_outputs :
    Sample.engine.registry = Handler.registry ∧
      (∀ i ∈ Sample.engine.recordTop { workflowId := Sample.workflow.id } Sample.censuses Sample.grown Sample.world,
        ¬ i.Overwrites) ∧
      Context.stepEntries Sample.grown <+: Context.stepEntries
        (Sample.engine.executeSteps Sample.workflow.id Sample.censuses Sample.grown Sample.world).1.2 ∧
      Sample.reported Sample.censuses = [some "a", some "b", some "each"] := by
  have hkeys : ∀ i ∈ Sample.engine.recordTop { workflowId := Sample.workflow.id } Sample.censuses Sample.grown
      Sample.world, i.step.handlerKey = "FOR_EACH" := by decide +kernel
  have hnot : ∀ i ∈ Sample.engine.recordTop { workflowId := Sample.workflow.id } Sample.censuses Sample.grown
      Sample.world, ¬ i.Overwrites := by
    intro i hi hover
    cases hover with
    | own _ hsteps => simp [Handler.mergedKey?, hkeys i hi] at hsteps
    | branch hcondition _ _ _ => exact absurd ((hkeys i hi).symm.trans hcondition) (by decide)
  obtain ⟨hkept, -⟩ := run_keeps_outputs_unless_overwritten Sample.engine_registry (.executeSteps rfl)
  exact ⟨Sample.engine_registry, hnot, hkept hnot, by decide +kernel⟩

/-- A query may have its answer put over the outputs: of the two that it found it leaves
    none, and nothing says that it failed. -/
theorem query_overwrites_outputs :
    Sample.engine.registry = Handler.registry ∧
      (Sample.engine.executeSteps Sample.workflow.id [Sample.census] Sample.grown Sample.world).1.1.all
        (!·.isFailed) = true ∧
      Sample.reported [Sample.census] = [some "census"] ∧
      ¬ Context.stepEntries Sample.grown <+: Context.stepEntries
        (Sample.engine.executeSteps Sample.workflow.id [Sample.census] Sample.grown Sample.world).1.2 := by
  have hrun : (Sample.engine.executeSteps Sample.workflow.id [Sample.census] Sample.grown Sample.world).1.1.all
      (!·.isFailed) = true ∧ Sample.reported [Sample.census] = [some "census"] := by decide +kernel
  refine ⟨Sample.engine_registry, hrun.1, hrun.2, fun hkept => ?_⟩
  have hfound : (Context.stepEntries Sample.grown).length = 2 := by decide +kernel
  have hleft := congrArg List.length hrun.2
  rw [Sample.reported, List.length_map, List.length_singleton] at hleft
  have := hkept.length_le
  omega

end Stepflow
