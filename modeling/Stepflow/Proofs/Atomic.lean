/-
  Stepflow.Proofs.Atomic — an invocation that fails has done nothing.

  Over the built-in registry a failure has one of two causes:

  (1) The step has no handler, or one that asks for no steps: then whatever was asked for
  before the failure left records and mail as they are (`Deed.of_failed`), and the
  context is the one that was handed over.

  (2) A list of steps was refused, because no level is left. Whether there is one depends
  on the depth alone, so if a list of a step is refused, all are
  (`Engine.settled_step`), the first one included: a loop that fails has not had an
  iteration (`Rounds.refused_at_once`). And a list that is refused does nothing
  (`Engine.idle_of_none`).

  `failed_invocation_changes_nothing` says it of every invocation of every run: context,
  records and mail are as they were, and no entry of the audit book stands under its own.
-/

import Stepflow.Proofs.Deeds
import Stepflow.Proofs.Journal
import Stepflow.Proofs.Siblings

namespace Stepflow

open Services

/-! ## Refused lists -/

theorem Rounds.refused_at_once {σ : Type} {children : List Step} {count index failed : Nat} {items : List Value}
    {ctx : Context} {calls : List (Call σ)} {out : Except WorkflowError Nat × Context}
    (h : Rounds children count index items ctx failed calls out)
    (hrefused : ∀ c ∈ calls, ∃ err, c.answer = .error err) : out.2 = ctx := by
  cases h with
  | done index ctx failed => rfl
  | refused _ _ _ => rfl
  | @next index item items ctx failed c run calls out _ _ hok _ =>
    obtain ⟨err, herr⟩ := hrefused c (List.mem_cons_self ..)
    rw [hok] at herr
    cases herr

/-- A built-in step whose lists were all refused, and left the context they were handed,
    leaves the context that it found, if it fails. -/
theorem BuiltIn.left_of_refused {σ : Type} {i : Invocation σ} (h : BuiltIn i) (hfailed : i.outcome.isFailed = true)
    (hrefused : ∀ c ∈ i.calls, ∃ err, c.answer = .error err) (hleft : ∀ c ∈ i.calls, c.left = c.given) :
    i.left = i.given := by
  obtain ⟨err, herr⟩ : ∃ err, i.result = .error err := by
    cases hr : i.result with
    | error err => exact ⟨err, rfl⟩
    | ok r => simp [Invocation.outcome, hr, StepOutcome.isFailed] at hfailed
  cases h with
  | leaf _ h =>
    rw [h, herr]
    rfl
  | @branch holds c _ _ hone _ hgiven _ h =>
    have hc : c ∈ i.calls := hone ▸ List.mem_cons_self ..
    rw [h, herr]
    exact (hleft c hc).trans hgiven
  | loop _ _ _ hrounds _ h =>
    rw [h, herr]
    exact hrounds.refused_at_once hrefused

namespace Engine

variable {σ : Type} (e : Engine σ)

/-- A list that invokes nothing does nothing. -/
theorem idle_of_none (depth : Nat) (scope : Scope) (steps : List Step) (ctx : Context) (w : World σ)
    (hnone : e.recordNested depth scope steps ctx w = []) :
    (e.runNested depth scope steps ctx w).1.2 = ctx ∧ (e.runNested depth scope steps ctx w).2.records = w.records ∧
      (e.runNested depth scope steps ctx w).2.mailbox = w.mailbox :=
  e.record_law (P := fun _ ctx w ran ctx' w' => ran = [] → ctx' = ctx ∧ w'.records = w.records ∧ w'.mailbox = w.mailbox)
    (fun _ _ _ _ => ⟨rfl, rfl, rfl⟩) (fun _ _ => nofun) (fun _ _ _ _ _ _ => nofun) depth scope steps ctx w hnone

/-- A task that asks for steps only, and gets none of them run, leaves records and mail. -/
theorem idle_task {α : Type} {depth : Nat} {scope : Scope} {t : Task α} (ht : t.AsksOnly (·.isNested = true))
    (w : World σ)
    (hnone : ((t.exchanges (e.services.answer (e.runNested depth scope)) w).filterMap
      (Exchange.call? (e.recordNested depth scope))).flatMap (·.ran) = []) :
    (t.run (e.services.answer (e.runNested depth scope)) w).2.records = w.records ∧
      (t.run (e.services.answer (e.runNested depth scope)) w).2.mailbox = w.mailbox := by
  refine Task.lists_law (R := fun w ran w' => ran = [] → w'.records = w.records ∧ w'.mailbox = w.mailbox)
    (fun _ _ => ⟨rfl, rfl⟩) (fun h₁ h₂ hran => ?_) (fun h => h)
    (fun steps ctx w hran => (e.idle_of_none depth scope steps ctx w hran).2) ht w hnone
  obtain ⟨hran₁, hran₂⟩ := List.append_eq_nil_iff.mp hran
  obtain ⟨hr₁, hm₁⟩ := h₁ hran₁
  obtain ⟨hr₂, hm₂⟩ := h₂ hran₂
  exact ⟨hr₂.trans hr₁, hm₂.trans hm₁⟩

variable {e}

/-- A built-in step that fails has changed nothing and had nothing run. -/
theorem failed_step (he : e.registry = Handler.registry) (depth : Nat) (scope : Scope) (step : Step) (ctx : Context)
    (w : World σ) :
    let i := e.recordStep (e.runNested depth) (e.recordNested depth) scope step ctx w
    i.outcome.isFailed = true → i.left = i.given ∧ i.after.records = i.before.records ∧
      i.after.mailbox = i.before.mailbox ∧ i.children = [] := by
  intro i hfailed
  have hbuilt : BuiltIn i := builtIn_step _ _ scope step ctx w he
  -- lists that were run would have made the step succeed
  have hrefused : ∀ c ∈ i.calls, c.Refused e.config.maxDepth := by
    rcases e.settled_step depth scope step ctx w with hran | hrefused
    · by_cases hsome : i.calls = []
      · intro c hc
        rw [hsome] at hc
        cases hc
      · obtain ⟨hok, -⟩ := hbuilt.goes_on hsome fun c hc => (hran c hc).imp fun _ h => h.1
        rw [hok] at hfailed
        cases hfailed
    · exact hrefused
  have hchildren : i.children = [] := by
    refine List.flatMap_eq_nil_iff.mpr fun c hc => ?_
    exact (hrefused c hc).2
  have hleft : ∀ c ∈ i.calls, c.left = c.given := by
    intro c hc
    obtain ⟨v, -, hleft, hran⟩ := e.of_mem_calls _ _ scope hc
    rw [hleft]
    exact (e.idle_of_none depth (inside scope w) c.steps c.given v (hran.symm.trans (hrefused c hc).2)).1
  have hworld : i.after.records = i.before.records ∧ i.after.mailbox = i.before.mailbox := by
    rcases deed_step (e.runNested depth) (e.recordNested depth) scope step ctx w he with ⟨-, hdeed⟩ | ⟨-, hasks⟩
    · change Deed e.services i.step.handlerKey i.before i.after i.result at hdeed
      cases hr : i.result with
      | error err =>
        rw [hr] at hdeed
        exact hdeed.of_failed
      | ok r => simp [Invocation.outcome, hr, StepOutcome.isFailed] at hfailed
    · exact e.idle_task hasks (opening scope step ctx w) hchildren
  exact ⟨hbuilt.left_of_refused hfailed (fun c hc => ⟨_, (hrefused c hc).1⟩) hleft, hworld.1, hworld.2, hchildren⟩

end Engine

/-! ## Entries below an entry -/

/-- Only what the handler of an invocation asked for has its entry as parent. -/
theorem Engine.mem_children_of_parent {σ : Type} (e : Engine σ) {depth : Nat} {scope : Scope} {steps : List Step}
    {ctx : Context} {w : World σ} (hs : scope.parent = none) (hw : w.journal.Keeps) {i k : Invocation σ}
    (hi : i ∈ Invocation.preorder (e.recordNested depth scope steps ctx w))
    (hk : k ∈ Invocation.preorder (e.recordNested depth scope steps ctx w))
    (hparent : k.entry.parent = some i.entry.id) :
    k ∈ i.children := by
  rcases e.mem_or_mem_children depth scope steps ctx w k hk with htop | ⟨p, hp, hkp⟩
  · rw [k.entry_parent, e.scope_of_mem htop, hs] at hparent
    cases hparent
  · have hid : p.entry.id = i.entry.id := by
      rw [e.parent_of_mem_children depth scope steps ctx w hp hkp] at hparent
      exact Option.some.inj hparent
    have hnodup := (e.kept depth scope steps ctx w hw).ids_nodup hw
    exact List.inj_on_of_nodup_map hnodup hp hi hid ▸ hkp

/-! ## Failed invocations of a run -/

/-- Whatever the cause and however deep, an invocation over the built-in registry that
    fails leaves the context, the records and the mail that it found, and no invocation
    came of it. In a journal that keeps what it is told none of the new entries has its
    entry as parent, and no entry at all has if the older ones name no id to come. -/
theorem failed_invocation_changes_nothing {σ : Type} {e : Engine σ} {ctx start ctx' : Context} {w w' : World σ}
    {scope : Scope} {steps : List Step} {run : StepsRun} (he : e.registry = Handler.registry)
    (h : e.Served ctx w scope steps start run ctx' w') :
    ∀ i ∈ Invocation.preorder (e.recordTop scope steps start w), i.outcome.isFailed = true →
      i.left = i.given ∧ (Engine.closed i).records = i.before.records ∧ (Engine.closed i).mailbox = i.before.mailbox ∧
      i.children = [] ∧
      (w.journal.Keeps →
        (∃ new, w'.journal.book = w.journal.book ++ new ∧ i.entry ∈ new ∧ ∀ x ∈ new, x.parent ≠ some i.entry.id) ∧
        ((∀ x ∈ w.journal.book, ∀ n, w.journal.opened ≤ n → x.parent ≠ some (w.journal.ids n)) →
          ∀ x ∈ w'.journal.book, x.parent ≠ some i.entry.id)) := by
  intro i hi hfailed
  have hstep := e.record_forall
    (Q := fun _ i => i.outcome.isFailed = true → i.left = i.given ∧ i.after.records = i.before.records ∧
      i.after.mailbox = i.before.mailbox ∧ i.children = [])
    (Engine.failed_step he) (fun _ _ _ h => h) (e.config.maxDepth + 1) scope steps start w i hi hfailed
  obtain ⟨hleft, hrecords, hmailbox, hchildren⟩ := hstep
  refine ⟨hleft, hrecords, hmailbox, hchildren, fun hw => ?_⟩
  have hkept : w.journal.Kept (e.recordTop scope steps start w) w'.journal := by
    have := e.kept (e.config.maxDepth + 1) scope steps start w hw
    rwa [h.runNested_eq] at this
  have hnew : ∀ x ∈ (Invocation.preorder (e.recordTop scope steps start w)).map (·.entry),
      x.parent ≠ some i.entry.id := by
    intro x hx hparent
    obtain ⟨k, hk, rfl⟩ := List.mem_map.mp hx
    have hki := e.mem_children_of_parent (h.parent_eq_none e) hw hi hk hparent
    rw [hchildren] at hki
    cases hki
  refine ⟨⟨_, hkept.book, List.mem_map_of_mem hi, hnew⟩, fun hold x hx => ?_⟩
  rw [hkept.book] at hx
  rcases List.mem_append.mp hx with hx | hx
  · obtain ⟨n, hn, -, hid⟩ := hkept.id_of_mem hi
    exact hid ▸ hold x hx n hn
  · exact hnew x hx

namespace Sample

def shallow : Engine Unit := { engine with config := { maxDepth := 1 } }

/-- What the sample workflow invokes with one level only. -/
def shallowRan : List (Invocation Unit) :=
  Invocation.preorder (shallow.recordTop { workflowId := workflow.id, onError := workflow.onError }
    workflow.orderedSteps (Context.seedTrigger context) world)

end Sample

/-- With one level the loop of the sample workflow fails at its first iteration: no entry
    stands under that of the loop. -/
theorem shallow_run_leaves_no_trace_of_its_loop :
    Sample.shallow.registry = Handler.registry ∧
      Sample.shallow.execute Sample.workflow Sample.context Sample.world =
        (.ok (Sample.shallow.runWorkflow Sample.workflow Sample.workflow.orderedSteps Sample.context Sample.world).1,
          (Sample.shallow.runWorkflow Sample.workflow Sample.workflow.orderedSteps Sample.context Sample.world).2) ∧
      Sample.shallowRan.map (fun i => (i.step.id, i.outcome.error)) =
        [("check", none), ("each", some "Maximum nesting depth of 1 exceeded"),
          ("poor", some "Step execution failed in 'poor': sourceArray is required"), ("last", none)] ∧
      ∀ i ∈ Sample.shallowRan, i.outcome.isFailed = true → i.left = i.given ∧ i.children = [] := by
  have hregistry : Sample.shallow.registry = Handler.registry := by simp only [Sample.shallow, Sample.engine]
  have hrunnable : Sample.shallow.checkRunnable Sample.workflow = .ok () := rfl
  have hrun := Sample.shallow.execute_eq Sample.context Sample.world hrunnable
  refine ⟨hregistry, hrun, by decide +kernel, fun i hi hfailed => ?_⟩
  obtain ⟨hleft, -, -, hchildren, -⟩ := failed_invocation_changes_nothing hregistry (.execute hrun) i hi hfailed
  exact ⟨hleft, hchildren⟩

end Stepflow
