/-
  Stepflow.Proofs.Outputs — the outputs in a context are those on record.

  Under `steps` a context keeps what steps put out. A loop hands each iteration a copy and
  takes back what the copy has beyond the outputs that it was handed; a condition hands on
  the context itself. However the two are nested:

  (1) A step that ends adds its own output, if it has one (`stepEntries_leaving`), and
  the outputs that were added below it come before.

  (2) An iteration gives back the outputs of its list and nothing else, because the list
  only adds to what it was handed (`Rounds.outputs`).

  (3) So a list of steps leaves the outputs that it found, then those of its invocations
  at all depths, in the order in which they ended (`outputs`).

  All of this is for contexts in which no step merges a key `steps` of its own making.
  `run_outputs_are_those_on_record` says it of every way into the engine.
-/

import Stepflow.Proofs.Handlers
import Stepflow.Proofs.Journal

namespace Stepflow

open Services

namespace Invocation

variable {σ : Type}

/-- What the context keeps of the invocation: the output that its entry has, if it is
    not null and the step was not skipped. -/
def output? (i : Invocation σ) : Option Value :=
  if i.outcome.skipped then none
  else (i.entry.parsed.filter (!·.isNull)).map (Context.entry i.entry.stepId)

/-- The outputs of invocations and all below them, in the order in which they ended. -/
def outputs (ran : List (Invocation σ)) : List Value := (postorder ran).filterMap (·.output?)

theorem outputs_append (xs ys : List (Invocation σ)) : outputs (xs ++ ys) = outputs xs ++ outputs ys := by
  rw [outputs, postorder_append, List.filterMap_append]
  rfl

theorem outputs_singleton (i : Invocation σ) : outputs [i] = outputs i.children ++ i.output?.toList := by
  rw [outputs, postorder_singleton, List.filterMap_append]
  cases h : i.output? <;> simp [outputs, h]

/-- A step that succeeds adds its own output to what the merge leaves of those it finds. -/
theorem stepEntries_succeeding {i : Invocation σ} {r : StepResult} (hr : i.result = .ok r) {ctx : Context}
    (hleft : i.left = Engine.leaving i.step (i.result, ctx)) :
    Context.stepEntries i.left = Context.stepEntries (Context.merge ctx r.context) ++ i.output?.toList := by
  have hout : i.output? = if r.skipped || r.parsed.isNull then none else some (Context.entry i.step.id r.parsed) := by
    cases hs : r.skipped <;> cases hn : r.parsed.isNull <;>
      simp [output?, outcome, entry, completion, Audit.Entry.closed, opened, Engine.entryOf,
        Audit.Entry.withParent, Audit.Entry.started, hr, hs, hn, Option.filter]
  rw [hleft]
  simp only [hr, Engine.leaving, Engine.absorb, hout]
  split
  · rw [Option.toList_none, List.append_nil]
  · rw [Context.stepEntries_recordOutput, Option.toList_some]

/-- A step that ends adds its own output to those it finds. -/
theorem stepEntries_leaving {i : Invocation σ} (hfree : i.part.has Context.stepsKey = false) {ctx : Context}
    (hleft : i.left = Engine.leaving i.step (i.result, ctx)) :
    Context.stepEntries i.left = Context.stepEntries ctx ++ i.output?.toList := by
  cases hr : i.result with
  | error err =>
    have hout : i.output? = none := by
      simp [output?, outcome, entry, completion, Audit.Entry.closed, opened, Engine.entryOf,
        Audit.Entry.withParent, Audit.Entry.started, hr]
    rw [hleft, hr]
    simp only [Engine.leaving, hout, Option.toList_none, List.append_nil]
  | ok r =>
    have hpart : r.context.has Context.stepsKey = false := by simpa only [part, hr] using hfree
    rw [stepEntries_succeeding hr hleft, Context.stepEntries_merge _ hpart]

end Invocation

namespace Rounds

variable {σ : Type} {children : List Step} {count index failed : Nat} {items : List Value} {ctx : Context}
  {calls : List (Call σ)} {out : Except WorkflowError Nat × Context}

/-- A loop takes back what its lists put out, if they add to the outputs that they find. -/
theorem outputs (h : Rounds children count index items ctx failed calls out)
    (hcalls : ∀ c ∈ calls, Context.stepEntries c.left = Context.stepEntries c.given ++ Invocation.outputs c.ran)
    (hrefused : ∀ c ∈ calls, ∀ err, c.answer = .error err → c.ran = []) :
    Context.stepEntries out.2 = Context.stepEntries ctx ++ Invocation.outputs (calls.flatMap (·.ran)) := by
  induction h with
  | done index ctx failed => simp [Invocation.outputs]
  | @refused index item items ctx failed c err hsteps hgiven herr =>
    have hran : c.ran = [] := hrefused c (List.mem_cons_self ..) err herr
    simp [Invocation.outputs, hran]
  | @next index item items ctx failed c run calls out hsteps hgiven hok hrest ih =>
    have hc := hcalls c (List.mem_cons_self ..)
    have ih := ih (fun d hd => hcalls d (List.mem_cons_of_mem _ hd))
      fun d hd => hrefused d (List.mem_cons_of_mem _ hd)
    -- what the list was handed has the outputs so far, so what lies beyond is its own
    rw [ih, Context.stepEntries_appendEntries, hc, List.drop_left, List.flatMap_cons, Invocation.outputs_append,
      List.append_assoc]

end Rounds

namespace Engine

variable {σ : Type} (e : Engine σ)

/-- A list that is refused invokes nothing. -/
theorem record_of_refused {depth : Nat} {scope : Scope} {steps : List Step} {ctx : Context} {w : World σ}
    {err : WorkflowError} (h : (e.runNested depth scope steps ctx w).1.1 = .error err) :
    e.recordNested depth scope steps ctx w = [] := by
  cases depth with
  | zero => rfl
  | succ depth => cases h

/-- Every list at every depth leaves the outputs that it found, then its own. -/
theorem outputs (he : e.registry = Handler.registry) (depth : Nat) (scope : Scope) (steps : List Step)
    (ctx : Context) (w : World σ)
    (hfree : ∀ i ∈ Invocation.preorder (e.recordNested depth scope steps ctx w), i.part.has Context.stepsKey = false) :
    Context.stepEntries (e.runNested depth scope steps ctx w).1.2 =
      Context.stepEntries ctx ++ Invocation.outputs (e.recordNested depth scope steps ctx w) := by
  refine e.record_law (P := fun _ ctx _ ran ctx' _ =>
    (∀ i ∈ Invocation.preorder ran, i.part.has Context.stepsKey = false) →
      Context.stepEntries ctx' = Context.stepEntries ctx ++ Invocation.outputs ran) ?_ ?_ ?_
    depth scope steps ctx w hfree
  · intro scope ctx w _
    simp [Invocation.outputs]
  · intro scope ctx w i ctx₁ w₁ rest ctx₂ w₂ h₁ h₂ hfree
    rw [Invocation.preorder_cons] at hfree
    rw [h₂ fun j hj => hfree j (List.mem_append_right _ hj), h₁ fun j hj => hfree j (List.mem_append_left _ hj),
      List.append_assoc, ← Invocation.outputs_append, List.singleton_append]
  · intro depth ih scope step ctx w i hfree
    rw [Invocation.preorder_singleton] at hfree
    have hself : i.part.has Context.stepsKey = false := hfree i (List.mem_cons_self ..)
    have hcalls : ∀ c ∈ i.calls,
        Context.stepEntries c.left = Context.stepEntries c.given ++ Invocation.outputs c.ran := by
      intro c hc
      obtain ⟨v, -, hleft, hran⟩ := e.of_mem_calls _ _ scope hc
      rw [hleft, hran]
      refine ih _ _ _ _ fun j hj => hfree j (List.mem_cons_of_mem i ?_)
      exact Invocation.mem_preorder_children.mpr ⟨c, hc, hran ▸ hj⟩
    have hrefused : ∀ c ∈ i.calls, ∀ err, c.answer = .error err → c.ran = [] := by
      intro c hc err herr
      obtain ⟨v, hanswer, -, hran⟩ := e.of_mem_calls _ _ scope hc
      rw [hran]
      exact e.record_of_refused (hanswer.symm.trans herr)
    rw [Invocation.outputs_singleton, ← List.append_assoc]
    have hbuilt : BuiltIn i := builtIn_step _ _ scope step ctx w he
    have hgiven : i.given = ctx := rfl
    cases hbuilt with
    | leaf hnone hleft =>
      rw [Invocation.stepEntries_leaving hself hleft, hgiven]
      simp [Invocation.children, hnone, Invocation.outputs]
    | @branch holds c _ _ hone _ hc _ hleft =>
      rw [Invocation.stepEntries_leaving hself hleft, hcalls c (by simp [hone]), hc, hgiven]
      simp [Invocation.children, hone]
    | @loop path items out _ _ _ hrounds _ hleft =>
      rw [Invocation.stepEntries_leaving hself hleft, hrounds.outputs hcalls hrefused, hgiven]
      rfl

end Engine

/-- Whatever is nested in whatever, a run over the built-in registry in which no step
    merges a key `steps` leaves the outputs that it found, then one for each invocation
    whose entry has one, in the order in which the invocations ended. Those are the ones
    that began, whose entries a journal that keeps what it is told has in its book. -/
theorem run_outputs_are_those_on_record {σ : Type} {e : Engine σ} {ctx start ctx' : Context} {w w' : World σ}
    {scope : Scope} {steps : List Step} {run : StepsRun} (he : e.registry = Handler.registry)
    (h : e.Served ctx w scope steps start run ctx' w')
    (hfree : ∀ i ∈ Invocation.preorder (e.recordTop scope steps start w), i.part.has Context.stepsKey = false) :
    let ran := e.recordTop scope steps start w
    Context.stepEntries ctx' = Context.stepEntries ctx ++ (Invocation.postorder ran).filterMap (·.output?) ∧
      (Invocation.postorder ran).Perm (Invocation.preorder ran) ∧
      (w.journal.Keeps → w'.journal.book = w.journal.book ++ (Invocation.preorder ran).map (·.entry)) := by
  intro ran
  have hrun := h.runNested_eq
  have hstart : Context.stepEntries start = Context.stepEntries ctx := by
    cases h with
    | execute _ => exact Context.stepEntries_seedTrigger ctx
    | executeFrom _ _ => exact Context.stepEntries_seedTrigger ctx
    | executeSteps _ => rfl
  refine ⟨?_, Invocation.postorder_perm ran, fun hw => ?_⟩
  · have hout := e.outputs he (e.config.maxDepth + 1) scope steps start w hfree
    rw [hrun, hstart] at hout
    exact hout
  · have hkept := e.kept (e.config.maxDepth + 1) scope steps start w hw
    rw [hrun] at hkept
    exact hkept.book

/-- The outputs of the sample run: an iteration before the next, the loop before its
    condition, none of the steps that failed. -/
theorem sample_run_keeps_its_outputs :
    Sample.engine.registry = Handler.registry ∧
      Sample.engine.execute Sample.workflow Sample.context Sample.world = (.ok Sample.summary, Sample.after) ∧
      (∀ i ∈ Sample.ran, i.part.has Context.stepsKey = false) ∧
      Context.stepEntries Sample.summary.context = (Invocation.postorder (Sample.engine.recordTop
        { workflowId := Sample.workflow.id, onError := Sample.workflow.onError } Sample.workflow.orderedSteps
        (Context.seedTrigger Sample.context) Sample.world)).filterMap (·.output?) ∧
      (Context.stepEntries Sample.summary.context).map (fun v => (v.field? "step_id").bind (·.string?)) =
        [some "first", some "first", some "each", some "check", some "last"] := by
  have hfree : ∀ i ∈ Sample.ran, i.part.has Context.stepsKey = false := by decide +kernel
  obtain ⟨hentries, -, -⟩ := run_outputs_are_those_on_record rfl (.execute Sample.executes) hfree
  rw [show Context.stepEntries Sample.context = [] from rfl, List.nil_append] at hentries
  exact ⟨rfl, Sample.executes, hfree, hentries, by decide +kernel⟩

end Stepflow
