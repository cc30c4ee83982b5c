/-
  Stepflow.Proofs.Siblings — how far a list of steps gets.

  (1) `ordered` puts steps in the order of their ranks and keeps those of one rank as
  they are declared (`Ranked`); a branch, which is part of such a list, is in that order
  too (`Ranked.filter`).

  (2) A list of steps is invoked from its first step on, each step once, up to the first
  that fails under a policy of abort; without one, to the end (`Cut`). The flag of the list
  says which of the two it was. `list_cut` follows the list step by step, and
  `calls_settled` has it for every list that a handler asks for, at any depth, unless
  there was no level left for the list.

  (3) The built-in handlers pass over the flag of the lists below: a step whose lists were
  all run succeeds, and a loop runs one list per item (`BuiltIn.goes_on`). What ends a
  list therefore never ends the list above.

  (4) The policy for a step has three levels (`InForce`): its own, that of the workflow,
  which lists below keep (`Engine.onError_of_mem`), and that of the engine.

  `run_cuts_lists_at_the_first_abort` says all this of every way into the engine.
-/

import Stepflow.Proofs.Handlers

namespace Stepflow

open Services

/-! ## The order of siblings -/

/-- `sorted` are the declared steps by rank, those of one rank in the order declared. -/
structure Ranked (declared sorted : List Step) : Prop where
  perm : sorted.Perm declared
  ranks : sorted.Pairwise (·.order ≤ ·.order)
  ties : ∀ r, sorted.filter (·.order == r) = declared.filter (·.order == r)

theorem insertRanked_perm (s : Step) (l : List Step) : (insertRanked s l).Perm (s :: l) := by
  induction l with
  | nil => exact .refl _
  | cons t rest ih =>
    unfold insertRanked
    split
    · exact .refl _
    · exact (ih.cons t).trans (.swap s t rest)

theorem insertRanked_ranks (s : Step) {l : List Step} (hl : l.Pairwise (·.order ≤ ·.order)) :
    (insertRanked s l).Pairwise (·.order ≤ ·.order) := by
  induction l with
  | nil => simp [insertRanked]
  | cons t rest ih =>
    obtain ⟨ht, hrest⟩ := List.pairwise_cons.mp hl
    unfold insertRanked
    split
    · rename_i hle
      refine List.pairwise_cons.mpr ⟨fun u hu => ?_, hl⟩
      rcases List.mem_cons.mp hu with rfl | hu
      · exact hle
      · exact Int.le_trans hle (ht u hu)
    · rename_i hlt
      refine List.pairwise_cons.mpr ⟨fun u hu => ?_, ih hrest⟩
      rcases List.mem_cons.mp ((insertRanked_perm s rest).mem_iff.mp hu) with rfl | hu
      · omega
      · exact ht u hu

theorem insertRanked_ties (s : Step) (l : List Step) (r : Int) :
    (insertRanked s l).filter (·.order == r) = (s :: l).filter (·.order == r) := by
  induction l with
  | nil => rfl
  | cons t rest ih =>
    unfold insertRanked
    split
    · rfl
    · rename_i hlt
      -- only a step of a lower rank is passed over, so not both are of rank `r`
      by_cases hs : s.order = r
      · have ht : t.order ≠ r := by omega
        simp [ih, hs, ht]
      · simp [List.filter_cons, ih, hs]

theorem ordered_ranked (declared : List Step) : Ranked declared (ordered declared) := by
  induction declared with
  | nil => exact ⟨.refl _, .nil, fun _ => rfl⟩
  | cons s rest ih =>
    refine ⟨(insertRanked_perm s _).trans (ih.perm.cons s), insertRanked_ranks s ih.ranks, fun r => ?_⟩
    simp only [ordered, insertRanked_ties, List.filter_cons, ih.ties r]

/-- Part of the steps are by rank when all are. -/
theorem Ranked.filter {declared sorted : List Step} (h : Ranked declared sorted) (p : Step → Bool) :
    Ranked (declared.filter p) (sorted.filter p) := by
  refine ⟨h.perm.filter p, h.ranks.filter p, fun r => ?_⟩
  have hcomm : ∀ l : List Step, (l.filter p).filter (·.order == r) = (l.filter (·.order == r)).filter p := by
    intro l
    rw [List.filter_filter, List.filter_filter]
    exact List.filter_congr fun s _ => Bool.and_comm _ _
  rw [hcomm, hcomm, h.ties r]

/-! ## Lists cut short -/

/-- An invocation that ends its list: it failed, and the policy for its step is abort. -/
def Invocation.Stops {σ : Type} (policy : Step → OnError) (i : Invocation σ) : Prop :=
  i.outcome.isFailed = true ∧ policy i.step = .abort

/-- What is invoked of a list of steps, and whether the list was cut short. -/
inductive Cut {σ : Type} (policy : Step → OnError) : List Step → List (Invocation σ) → Bool → Prop
  | whole {ran : List (Invocation σ)} : (∀ i ∈ ran, ¬ i.Stops policy) → Cut policy (ran.map (·.step)) ran false
  /-- The last invocation is the first that ends the list. -/
  | short {before : List (Invocation σ)} {i : Invocation σ} {rest : List Step} : (∀ j ∈ before, ¬ j.Stops policy) →
      i.Stops policy → Cut policy (before.map (·.step) ++ i.step :: rest) (before ++ [i]) true

namespace Cut

variable {σ : Type} {policy : Step → OnError} {steps : List Step} {ran : List (Invocation σ)} {aborted : Bool}

theorem nil : Cut policy [] ([] : List (Invocation σ)) false := by
  have hnone : ∀ i ∈ ([] : List (Invocation σ)), ¬ i.Stops policy := fun i hi => nomatch hi
  exact .whole hnone

theorem stop {i : Invocation σ} (hi : i.Stops policy) (rest : List Step) : Cut policy (i.step :: rest) [i] true := by
  have hnone : ∀ j ∈ ([] : List (Invocation σ)), ¬ j.Stops policy := fun j hj => nomatch hj
  exact .short hnone hi

theorem cons {i : Invocation σ} (hi : ¬ i.Stops policy) (h : Cut policy steps ran aborted) :
    Cut policy (i.step :: steps) (i :: ran) aborted := by
  cases h with
  | whole hran =>
    have hall : ∀ j ∈ i :: ran, ¬ j.Stops policy := List.forall_mem_cons.mpr ⟨hi, hran⟩
    rw [← List.map_cons]
    exact .whole hall
  | @short before k rest hbefore hk =>
    have hall : ∀ j ∈ i :: before, ¬ j.Stops policy := List.forall_mem_cons.mpr ⟨hi, hbefore⟩
    have hshort : Cut policy ((i :: before).map (·.step) ++ k.step :: rest) (i :: before ++ [k]) true := .short hall hk
    exact hshort

/-- The flag says whether one of the invocations ends the list. -/
theorem aborted_iff (h : Cut policy steps ran aborted) : aborted = true ↔ ∃ i ∈ ran, i.Stops policy := by
  cases h with
  | whole hran =>
    refine ⟨fun h => (nomatch h), fun ⟨i, hi, hs⟩ => absurd hs (hran i hi)⟩
  | @short before i rest hbefore hi =>
    exact ⟨fun _ => ⟨i, by simp, hi⟩, fun _ => rfl⟩

end Cut

def Call.Ran {σ : Type} (policy : Step → OnError) (c : Call σ) : Prop :=
  ∃ run, c.answer = .ok run ∧ Cut policy c.steps c.ran run.aborted

def Call.Refused {σ : Type} (maxDepth : Nat) (c : Call σ) : Prop :=
  c.answer = .error (.nestingTooDeep maxDepth) ∧ c.ran = []

namespace Engine

variable {σ : Type} (e : Engine σ)

theorem aborts_iff (scope : Scope) (i : Invocation σ) : e.aborts scope i = true ↔ i.Stops (e.policy scope) := by
  simp only [aborts, Invocation.Stops, Bool.and_eq_true, beq_iff_eq]

theorem list_cut (nested : Scope → Nested σ) (below : Scope → Recorder σ) (scope : Scope) (steps : List Step)
    (ctx : Context) (w : World σ) : Cut (e.policy scope) steps (e.recordList nested below scope steps ctx w)
      (e.runList nested scope steps ctx w).1.1.aborted := by
  induction steps generalizing ctx w with
  | nil => exact .nil
  | cons step rest ih =>
    rw [e.runList_cons nested below, recordList_cons]
    have hstep : (e.recordStep nested below scope step ctx w).step = step := rfl
    generalize e.recordStep nested below scope step ctx w = i at hstep
    by_cases ha : e.aborts scope i = true
    · simp only [ha, if_true, ← hstep]
      exact .stop ((e.aborts_iff scope i).mp ha) rest
    · simp only [ha, Bool.false_eq_true, if_false, ← hstep]
      exact (ih i.left (closed i)).cons fun hs => ha ((e.aborts_iff scope i).mpr hs)

/-- The lists that the handler of a step asks for are run, all under the policy that
    holds at the top, or all refused. -/
theorem settled_step (depth : Nat) (scope : Scope) (step : Step) (ctx : Context) (w : World σ) :
    let i := e.recordStep (e.runNested depth) (e.recordNested depth) scope step ctx w
    (∀ c ∈ i.calls, c.Ran (e.policy scope)) ∨ ∀ c ∈ i.calls, c.Refused e.config.maxDepth := by
  cases depth with
  | zero =>
    refine .inr fun c hc => ?_
    obtain ⟨v, hanswer, -, hran⟩ := e.of_mem_calls _ _ scope hc
    exact ⟨hanswer, hran⟩
  | succ depth =>
    refine .inl fun c hc => ?_
    obtain ⟨v, hanswer, -, hran⟩ := e.of_mem_calls _ _ scope hc
    have hcut := e.list_cut (e.runNested depth) (e.recordNested depth) (inside scope w) c.steps c.given v
    exact ⟨_, hanswer, hran ▸ hcut⟩

theorem calls_settled (depth : Nat) (scope : Scope) (steps : List Step) (ctx : Context) (w : World σ) :
    ∀ p ∈ Invocation.preorder (e.recordNested depth scope steps ctx w),
      (∀ c ∈ p.calls, c.Ran (e.policy scope)) ∨ ∀ c ∈ p.calls, c.Refused e.config.maxDepth :=
  e.record_forall (Q := fun scope p =>
    (∀ c ∈ p.calls, c.Ran (e.policy scope)) ∨ ∀ c ∈ p.calls, c.Refused e.config.maxDepth)
    e.settled_step (fun _ _ _ h => h) depth scope steps ctx w

end Engine

/-! ## The policy for a step -/

/-- The policy for a step: its own, else the one above it, else the default. -/
inductive InForce (own above : Option OnError) (default : OnError) : OnError → Prop
  | own {p : OnError} : own = some p → InForce own above default p
  | above {p : OnError} : own = none → above = some p → InForce own above default p
  | default : own = none → above = none → InForce own above default default

/-- What a call puts above the policies of its steps: the policy of the workflow that is
    executed, from its first step or a later one, and nothing for steps that belong to no
    workflow. -/
inductive Engine.PolicyAbove {σ : Type} (e : Engine σ) (ctx : Context) (w : World σ) (steps : List Step)
    (w' : World σ) : Option OnError → Prop
  | execute {wf : Workflow} {s : RunSummary} : e.execute wf ctx w = (.ok s, w') → steps = wf.orderedSteps →
      PolicyAbove e ctx w steps w' wf.onError
  | executeFrom {wf : Workflow} {id : String} {s : RunSummary} : e.executeFrom wf ctx id w = (.ok s, w') →
      stepsFrom? wf.orderedSteps id = some steps → PolicyAbove e ctx w steps w' wf.onError
  | executeSteps {id : WorkflowId} {outcomes : List StepOutcome} {ctx' : Context} :
      e.executeSteps id steps ctx w = ((outcomes, ctx'), w') → PolicyAbove e ctx w steps w' none

namespace Engine

variable {σ : Type} {e : Engine σ}

theorem policy_inForce (scope : Scope) (step : Step) :
    InForce step.onError scope.onError e.config.onError (e.policy scope step) := by
  unfold policy
  cases hown : step.onError with
  | some p => exact .own rfl
  | none =>
    cases habove : scope.onError with
    | some p => exact .above rfl rfl
    | none => exact .default rfl rfl

theorem Served.policyAbove {ctx start ctx' : Context} {w w' : World σ} {scope : Scope} {steps : List Step}
    {run : StepsRun} (h : e.Served ctx w scope steps start run ctx' w') :
    e.PolicyAbove ctx w steps w' scope.onError := by
  cases h with
  | execute h => exact .execute h rfl
  | executeFrom hs h => exact .executeFrom h hs
  | executeSteps h => exact .executeSteps h

/-- Lists below keep what stands above the policies of their steps. -/
theorem onError_of_mem (depth : Nat) (scope : Scope) (steps : List Step) (ctx : Context) (w : World σ) :
    ∀ p ∈ Invocation.preorder (e.recordNested depth scope steps ctx w), p.scope.onError = scope.onError :=
  e.record_forall (Q := fun scope p => p.scope.onError = scope.onError) (fun _ _ _ _ _ => rfl) (fun _ _ _ h => h)
    depth scope steps ctx w

end Engine

/-! ## Lists below the built-in handlers -/

namespace Rounds

variable {σ : Type} {children : List Step} {count index failed : Nat} {items : List Value} {ctx : Context}
  {calls : List (Call σ)} {out : Except WorkflowError Nat × Context}

theorem steps_eq (h : Rounds children count index items ctx failed calls out) : ∀ c ∈ calls, c.steps = children := by
  induction h with
  | done index ctx failed => exact fun c hc => nomatch hc
  | refused hsteps _ _ => simpa using hsteps
  | next hsteps _ _ _ ih => exact List.forall_mem_cons.mpr ⟨hsteps, ih⟩

/-- A loop goes on to its last item, whatever its lists report, unless one is refused. -/
theorem goes_on (h : Rounds children count index items ctx failed calls out)
    (hran : ∀ c ∈ calls, ∃ run, c.answer = .ok run) : calls.length = items.length ∧ ∃ n, out.1 = .ok n := by
  induction h with
  | done index ctx failed => exact ⟨rfl, failed, rfl⟩
  | @refused index item items ctx failed c err _ _ herr =>
    obtain ⟨run, hok⟩ := hran c (List.mem_cons_self ..)
    rw [herr] at hok
    cases hok
  | @next index item items ctx failed c run calls out _ _ _ _ ih =>
    obtain ⟨hlen, n, hn⟩ := ih fun d hd => hran d (List.mem_cons_of_mem _ hd)
    exact ⟨by rw [List.length_cons, List.length_cons, hlen], n, hn⟩

end Rounds

/-- The list that a built-in step asks for: the branch that its condition selects, or all
    the steps below a loop; either in their order. -/
inductive Asked {σ : Type} (i : Invocation σ) (c : Call σ) : Prop
  | branch {holds : Bool} : i.step.handlerKey = "CONDITION" → Handler.evaluate i.step i.given = .ok holds →
      Ranked (i.step.children.filter fun child => Handler.branchOf child == holds) c.steps → Asked i c
  | iteration : i.step.handlerKey = "FOR_EACH" → Ranked i.step.children c.steps → Asked i c

namespace BuiltIn

variable {σ : Type} {i : Invocation σ}

theorem asked (h : BuiltIn i) : ∀ c ∈ i.calls, Asked i c := by
  intro c hc
  cases h with
  | leaf hnone _ =>
    rw [hnone] at hc
    cases hc
  | @branch holds d hkey hev hone hsteps _ _ _ =>
    rw [hone, List.mem_singleton] at hc
    subst hc
    refine .branch hkey hev ?_
    rw [hsteps]
    exact (ordered_ranked i.step.children).filter _
  | loop hkey _ _ hrounds _ _ =>
    refine .iteration hkey ?_
    rw [hrounds.steps_eq c hc]
    exact ordered_ranked i.step.children

/-- A step whose lists were run succeeds, whatever came of them; a loop has then run one
    list for each item. -/
theorem goes_on (h : BuiltIn i) (hsome : i.calls ≠ []) (hran : ∀ c ∈ i.calls, ∃ run, c.answer = .ok run) :
    i.outcome.isFailed = false ∧ ∀ path items, i.step.handlerKey = "FOR_EACH" →
      Handler.loopPath? i.step = some path → Handler.loopItems path i.given = .ok items →
      i.calls.length = items.length := by
  have hok : ∀ r, i.result = .ok r → i.outcome.isFailed = false := fun r hr => by
    simp only [Invocation.outcome, hr, StepOutcome.isFailed, Option.isSome_none]
  cases h with
  | leaf hnone _ => exact absurd hnone hsome
  | @branch holds c hkey _ hone _ _ hresult _ =>
    obtain ⟨run, hanswer⟩ := hran c (by simp [hone])
    rw [hanswer] at hresult
    refine ⟨hok _ hresult, fun _ _ hloop => ?_⟩
    rw [hkey] at hloop
    exact absurd hloop (by decide)
  | @loop path items out _ hpath hitems hrounds hresult _ =>
    obtain ⟨hlen, n, hn⟩ := hrounds.goes_on hran
    rw [hn] at hresult
    refine ⟨hok _ hresult, fun path' items' _ hpath' hitems' => ?_⟩
    rw [hpath, Option.some.injEq] at hpath'
    subst hpath'
    rw [hitems, Except.ok.injEq] at hitems'
    rw [← hitems', hlen]

end BuiltIn

/-! ## The lists of a run -/

/-- In a run every list of steps, at the top and below, is invoked in its order up to the
    first failure under a policy of abort, and its flag says whether there was one. The
    policy is that of the step, else of the workflow if one is executed, else of the
    engine, at every depth. Over the built-in registry a list below is in the order of its
    ranks, and a step that had a list run for it succeeds, aborted or not, a loop with a
    list for each of its items. -/
theorem run_cuts_lists_at_the_first_abort {σ : Type} {e : Engine σ} {ctx start ctx' : Context} {w w' : World σ}
    {scope : Scope} {steps : List Step} {run : StepsRun} (h : e.Served ctx w scope steps start run ctx' w') :
    let ran := e.recordTop scope steps start w
    run.outcomes = ran.map (·.outcome) ∧ Cut (e.policy scope) steps ran run.aborted ∧
      (run.aborted = true ↔ ∃ i ∈ ran, i.outcome.isFailed = true ∧ e.policy scope i.step = .abort) ∧
      e.PolicyAbove ctx w steps w' scope.onError ∧
      (∀ step, InForce step.onError scope.onError e.config.onError (e.policy scope step)) ∧
      (∀ p ∈ Invocation.preorder ran, p.scope.onError = scope.onError) ∧
      (∀ wf : Workflow, Ranked wf.steps wf.orderedSteps) ∧
      (∀ p ∈ Invocation.preorder ran,
        (∀ c ∈ p.calls, c.Ran (e.policy scope)) ∨ ∀ c ∈ p.calls, c.Refused e.config.maxDepth) ∧
      (e.registry = Handler.registry → ∀ p ∈ Invocation.preorder ran, ∀ c ∈ p.calls, Asked p c ∧
        ∀ r, c.answer = .ok r → p.outcome.isFailed = false ∧ ∀ path items, p.step.handlerKey = "FOR_EACH" →
          Handler.loopPath? p.step = some path → Handler.loopItems path p.given = .ok items →
          p.calls.length = items.length) := by
  intro ran
  have hrun := h.runNested_eq
  rw [e.runNested_succ] at hrun
  have hout := e.runList_outcomes (e.runNested e.config.maxDepth) (e.recordNested e.config.maxDepth) scope steps start w
  have hcut := e.list_cut (e.runNested e.config.maxDepth) (e.recordNested e.config.maxDepth) scope steps start w
  have hsettled := e.calls_settled (e.config.maxDepth + 1) scope steps start w
  have habove := h.policyAbove
  have hbelow := e.onError_of_mem (e.config.maxDepth + 1) scope steps start w
  cases hrun
  refine ⟨hout, hcut, hcut.aborted_iff, habove, Engine.policy_inForce scope, hbelow,
    fun wf => ordered_ranked wf.steps, hsettled, fun he p hp c hc => ?_⟩
  have hbuilt : BuiltIn p := Engine.builtIn_of_mem scope start w he (e.config.maxDepth + 1) steps hp
  refine ⟨hbuilt.asked c hc, fun r hr => ?_⟩
  have hran : ∀ d ∈ p.calls, ∃ run, d.answer = .ok run := by
    rcases hsettled p hp with hran | hrefused
    · exact fun d hd => (hran d hd).imp fun _ h => h.1
    · have herr := (hrefused c hc).1
      rw [hr] at herr
      cases herr
  exact hbuilt.goes_on (List.ne_nil_of_mem hc) hran

/-- In the sample run both iterations of the loop end before their last step; the loop, the
    branch that it stands in and the workflow go on. -/
theorem sample_run_cuts_its_iterations :
    Sample.engine.execute Sample.workflow Sample.context Sample.world = (.ok Sample.summary, Sample.after) ∧
      Cut (Sample.engine.policy { workflowId := Sample.workflow.id, onError := Sample.workflow.onError })
        Sample.workflow.orderedSteps (Sample.engine.recordTop
          { workflowId := Sample.workflow.id, onError := Sample.workflow.onError } Sample.workflow.orderedSteps
          (Context.seedTrigger Sample.context) Sample.world) Sample.summary.aborted ∧
      (∀ step : Step, InForce step.onError Sample.workflow.onError Sample.engine.config.onError
        (Sample.engine.policy { workflowId := Sample.workflow.id, onError := Sample.workflow.onError } step)) ∧
      (∀ p ∈ Sample.ran, ∀ c ∈ p.calls, Asked p c) ∧ Sample.summary.aborted = false ∧
      Sample.ran.flatMap (fun p => p.calls.map fun c => (c.steps.map (·.id), c.ran.map (·.step.id))) =
        [(["each"], ["each"]), (["first", "lost", "never"], ["first", "lost"]),
          (["first", "lost", "never"], ["first", "lost"])] := by
  obtain ⟨-, hcut, -, -, hpolicy, -, -, -, hbuilt⟩ := run_cuts_lists_at_the_first_abort (.execute Sample.executes)
  exact ⟨Sample.executes, hcut, hpolicy, fun p hp c hc => (hbuilt rfl p hp c hc).1, by decide +kernel,
    by decide +kernel⟩

end Stepflow
