/-
  Stepflow.Proofs.Validation — what keeps a workflow from running, and what is known of
  one that runs.

  (1) A registry lacks the keys of the steps that do not resolve. `Registry.Lacks` says
  which those are and in which order they stand, which leaves one list only
  (`Lacks.unique`): that is the one reported (`lacks_unknownKeys`).

  (2) A call is turned down for one of three reasons, the first one of them that there is
  (`Engine.Rejected`), and for nothing else (`executeAt_rejected`). One that is turned
  down changes nothing.

  (3) An invocation over built-in handlers fails because its step does not resolve, with
  an error of its own step, or because it may not go deeper (`failure_of_mem`). What a run
  invokes is among the steps of the workflow (`Reach`), so where all of those resolve the
  first reason falls away.
-/

import Mathlib.Data.List.Basic
import Mathlib.Data.List.TakeWhile
import Stepflow.Proofs.Deeds
import Stepflow.Proofs.Reach

namespace Stepflow

open Services

/-! ## (1) Keys that are not registered -/

theorem pairwise_first_idxOf {α : Type} [BEq α] [LawfulBEq α] (l : List α) (p : α → Bool) :
    (l.filter p).eraseDups.Pairwise fun a b => l.idxOf a < l.idxOf b := by
  induction l generalizing p with
  | nil => exact .nil
  | cons x l ih =>
    have hlater : ∀ q : α → Bool, q x = false →
        (l.filter q).eraseDups.Pairwise fun a b => (x :: l).idxOf a < (x :: l).idxOf b := by
      intro q hq
      refine (ih q).imp_of_mem fun {a b} ha hb hab => ?_
      have hne : ∀ c ∈ (l.filter q).eraseDups, x ≠ c := by
        rintro c hc rfl
        rw [List.mem_eraseDups, List.mem_filter, hq] at hc
        cases hc.2
      rw [List.idxOf_cons_ne l (hne a ha), List.idxOf_cons_ne l (hne b hb)]
      exact Nat.succ_lt_succ hab
    cases hx : p x with
    | false =>
      rw [List.filter_cons_of_neg (by simp [hx])]
      exact hlater p hx
    | true =>
      rw [List.filter_cons_of_pos hx, List.eraseDups_cons, List.filter_filter]
      refine .cons (fun b hb => ?_) (hlater _ (by simp))
      have hne : x ≠ b := by
        rintro rfl
        simp [List.mem_eraseDups] at hb
      rw [List.idxOf_cons_self, List.idxOf_cons_ne l hne]
      exact Nat.succ_pos _

namespace Registry

variable {α : Type} {r : Registry α} {steps : List Step} {keys : List String}

/-- The keys are those of the steps, at any depth, that do not resolve, none twice, in the
    order in which they first occur when each step goes before those below it. -/
structure Lacks (r : Registry α) (steps : List Step) (keys : List String) : Prop where
  mem : ∀ key, key ∈ keys ↔ ∃ s, Step.Among steps s ∧ r.resolve s = .error (.handlerNotFound key)
  nodup : keys.Nodup
  firsts : keys.Pairwise fun a b =>
    ((Step.trees steps).map Step.handlerKey).idxOf a < ((Step.trees steps).map Step.handlerKey).idxOf b

theorem resolve_error {s : Step} {err : WorkflowError} :
    r.resolve s = .error err ↔ Table.has r s.handlerKey = false ∧ err = .handlerNotFound s.handlerKey := by
  unfold resolve Table.has
  cases Table.get? r s.handlerKey with
  | none => simp [eq_comm]
  | some h => simp

theorem lacks_unknownKeys (r : Registry α) (steps : List Step) : r.Lacks steps (r.unknownKeys steps) := by
  have hfirsts := pairwise_first_idxOf ((Step.trees steps).map Step.handlerKey) fun key => !Table.has r key
  refine ⟨fun key => ?_, hfirsts.imp fun hab => ?_, hfirsts⟩
  · simp only [unknownKeys, List.mem_eraseDups, List.mem_filter, List.mem_map, Step.mem_trees, Bool.not_eq_true',
      resolve_error, WorkflowError.handlerNotFound.injEq]
    constructor
    · rintro ⟨⟨s, hs, hkey⟩, hnone⟩
      exact ⟨s, hs, hkey ▸ hnone, hkey.symm⟩
    · rintro ⟨s, hs, hnone, hkey⟩
      exact ⟨⟨s, hs, hkey.symm⟩, hkey ▸ hnone⟩
  · rintro rfl
    exact Nat.lt_irrefl _ hab

/-- There is one such list only. -/
theorem Lacks.unique {keys' : List String} (h : r.Lacks steps keys) (h' : r.Lacks steps keys') : keys = keys' := by
  have hperm : keys.Perm keys' :=
    (List.perm_ext_iff_of_nodup h.nodup h'.nodup).mpr fun key => (h.mem key).trans (h'.mem key).symm
  exact hperm.eq_of_pairwise (fun _ _ _ _ hab hba => absurd hab (Nat.lt_asymm hba)) h.firsts h'.firsts

/-- Nothing is lacking where all steps resolve. -/
theorem Lacks.eq_nil (h : r.Lacks steps keys) : keys = [] ↔ ∀ s, Step.Among steps s → ∃ a, r.resolve s = .ok a := by
  rw [List.eq_nil_iff_forall_not_mem]
  constructor
  · intro hnone s hs
    cases hr : r.resolve s with
    | ok a => exact ⟨a, rfl⟩
    | error err =>
      obtain ⟨-, rfl⟩ := resolve_error.mp hr
      exact absurd ((h.mem _).mpr ⟨s, hs, hr⟩) (hnone _)
  · intro hall key hkey
    obtain ⟨s, hs, hr⟩ := (h.mem key).mp hkey
    obtain ⟨a, ha⟩ := hall s hs
    rw [ha] at hr
    cases hr

theorem validate_error {err : WorkflowError} :
    r.validate steps = .error err ↔ ∃ keys, keys ≠ [] ∧ r.Lacks steps keys ∧ err = .unknownStepTypes keys := by
  unfold validate
  split
  · rename_i hnone
    refine ⟨nofun, ?_⟩
    rintro ⟨keys, hsome, hkeys, -⟩
    exact absurd ((hkeys.unique (r.lacks_unknownKeys steps)).trans hnone) hsome
  · rename_i hsome
    refine ⟨fun h => ⟨_, hsome, r.lacks_unknownKeys steps, (Except.error.inj h).symm⟩, ?_⟩
    rintro ⟨keys, -, hkeys, rfl⟩
    rw [hkeys.unique (r.lacks_unknownKeys steps)]

theorem validate_ok : r.validate steps = .ok () ↔ ∀ s, Step.Among steps s → ∃ a, r.resolve s = .ok a := by
  rw [← (r.lacks_unknownKeys steps).eq_nil]
  unfold validate
  split
  · rename_i hnone
    exact ⟨fun _ => hnone, fun _ => rfl⟩
  · rename_i hsome
    exact ⟨nofun, fun hnone => absurd hnone hsome⟩

end Registry

/-! ## (2) Calls that are turned down -/

def Workflow.stepsAt? (wf : Workflow) : Option String → Option (List Step)
  | none => some wf.orderedSteps
  | some id => Engine.stepsFrom? wf.orderedSteps id

theorem Workflow.stepsAt?_subset {wf : Workflow} {start : Option String} {steps : List Step}
    (h : wf.stepsAt? start = some steps) : steps ⊆ wf.steps := by
  have hsub : steps ⊆ wf.orderedSteps := by
    cases start with
    | none => exact Option.some.inj h ▸ List.Subset.refl _
    | some id => exact Engine.stepsFrom?_subset h
  exact fun s hs => mem_ordered.mp (hsub hs)

namespace Engine

variable {σ : Type}

/-- A workflow run from its first step on, or from the one of an id. -/
def executeAt (e : Engine σ) (wf : Workflow) (ctx : Context) : Option String → World σ →
    Except WorkflowError RunSummary × World σ
  | none, w => e.execute wf ctx w
  | some id, w => e.executeFrom wf ctx id w

/-- Why a call is turned down. A reason counts only if none of those before it is given. -/
inductive Rejected (e : Engine σ) (wf : Workflow) (start : Option String) : WorkflowError → Prop
  | disabled : wf.enabled = false → Rejected e wf start (.disabled wf.id.text)
  | unknown {keys} : wf.enabled = true → e.config.strictValidation = true → keys ≠ [] →
      e.registry.Lacks wf.steps keys → Rejected e wf start (.unknownStepTypes keys)
  | noStart {id} : wf.enabled = true →
      (e.config.strictValidation = true → ∀ s, Step.Among wf.steps s → ∃ h, e.registry.resolve s = .ok h) →
      start = some id → (∀ s ∈ wf.steps, s.id ≠ id) →
      Rejected e wf start (.invalidInput ("Step '" ++ id ++ "' is not a top-level step of workflow '" ++
        wf.id.text ++ "'"))

variable {e : Engine σ} {wf : Workflow} {ctx : Context} {w : World σ} {start : Option String}

theorem checkRunnable_ok : e.checkRunnable wf = .ok () ↔ wf.enabled = true ∧
    (e.config.strictValidation = true → ∀ s, Step.Among wf.steps s → ∃ h, e.registry.resolve s = .ok h) := by
  unfold checkRunnable
  cases wf.enabled with
  | false => simp
  | true => cases e.config.strictValidation <;> simp [Registry.validate_ok]

theorem stepsFrom?_eq_none {steps : List Step} {id : String} : stepsFrom? steps id = none ↔ ∀ s ∈ steps, s.id ≠ id := by
  unfold stepsFrom?
  split
  · rename_i hnone
    simpa [List.dropWhile_eq_nil_iff] using hnone
  · rename_i hsome
    refine ⟨nofun, fun h => absurd ?_ hsome⟩
    simpa [List.dropWhile_eq_nil_iff] using h

/-- A call runs the steps from its start on if the workflow may run and has such steps. -/
theorem executeAt_eq : e.executeAt wf ctx start w =
    match e.checkRunnable wf, wf.stepsAt? start with
    | .error err, _ => (.error err, w)
    | .ok (), some steps => (.ok (e.runWorkflow wf steps ctx w).1, (e.runWorkflow wf steps ctx w).2)
    | .ok (), none => (.error (.invalidInput ("Step '" ++ start.getD "" ++ "' is not a top-level step of workflow '" ++
        wf.id.text ++ "'")), w) := by
  cases start with
  | none =>
    simp only [executeAt, execute, Workflow.stepsAt?]
    cases e.checkRunnable wf <;> rfl
  | some id =>
    simp only [executeAt, executeFrom, Workflow.stepsAt?]
    cases e.checkRunnable wf with
    | error err => rfl
    | ok u => cases stepsFrom? wf.orderedSteps id <;> rfl

theorem rejected_of_checkRunnable {err : WorkflowError} (h : e.checkRunnable wf = .error err) :
    e.Rejected wf start err := by
  unfold checkRunnable at h
  split at h
  · rename_i hoff
    cases h
    exact .disabled (by simpa using hoff)
  · rename_i hon
    split at h
    · rename_i hstrict
      obtain ⟨keys, hsome, hkeys, rfl⟩ := Registry.validate_error.mp h
      exact .unknown (by simpa using hon) hstrict hsome hkeys
    · cases h

theorem checkRunnable_disabled (h : wf.enabled = false) : e.checkRunnable wf = .error (.disabled wf.id.text) := by
  simp [checkRunnable, h]

theorem checkRunnable_unknown {keys : List String} (hon : wf.enabled = true)
    (hstrict : e.config.strictValidation = true) (hsome : keys ≠ []) (hkeys : e.registry.Lacks wf.steps keys) :
    e.checkRunnable wf = .error (.unknownStepTypes keys) := by
  simp only [checkRunnable, hon, hstrict, Bool.not_true, Bool.false_eq_true, if_false, if_true]
  exact Registry.validate_error.mpr ⟨keys, hsome, hkeys, rfl⟩

/-- A call is turned down for these reasons and for no other. -/
theorem executeAt_rejected {err : WorkflowError} :
    (e.executeAt wf ctx start w).1 = .error err ↔ e.Rejected wf start err := by
  rw [executeAt_eq]
  constructor
  · intro h
    cases hc : e.checkRunnable wf with
    | error err' =>
      simp only [hc, Except.error.injEq] at h
      exact h ▸ rejected_of_checkRunnable hc
    | ok u =>
      obtain ⟨hon, hresolve⟩ := checkRunnable_ok.mp hc
      cases hs : wf.stepsAt? start with
      | some steps => simp [hc, hs] at h
      | none =>
        cases start with
        | none => cases hs
        | some id =>
          simp only [hc, hs, Option.getD_some, Except.error.injEq] at h
          subst h
          refine .noStart hon hresolve rfl fun s hmem => ?_
          exact stepsFrom?_eq_none.mp hs s (mem_ordered.mpr hmem)
  · intro h
    cases h with
    | disabled hoff => rw [checkRunnable_disabled hoff]
    | unknown hon hstrict hsome hkeys => rw [checkRunnable_unknown hon hstrict hsome hkeys]
    | @noStart id hon hresolve hstart hno =>
      subst hstart
      have hs : wf.stepsAt? (some id) = none := stepsFrom?_eq_none.mpr fun s hmem => hno s (mem_ordered.mp hmem)
      simp only [checkRunnable_ok.mpr ⟨hon, hresolve⟩, hs, Option.getD_some]

/-- A call that is turned down changes nothing. -/
theorem unchanged_of_rejected {err : WorkflowError} (h : (e.executeAt wf ctx start w).1 = .error err) :
    (e.executeAt wf ctx start w).2 = w := by
  rw [executeAt_eq] at h ⊢
  split at h <;> first | rfl | cases h

end Engine

/-! ## (3) Why steps fail -/

namespace Work

variable {α β : Type} {step : Step} {detail : String}

/-- Whatever it is answered, the work fails with an error of the step only. -/
def FailsAs (step : Step) (x : Work α) : Prop :=
  ∀ {S : Type} (answer : (q : Ask) → S → q.Answer × S) (s : S),
    Ends answer x s fun r _ => ∀ err, r = .error err → ∃ detail, err = error step detail

theorem fails_pure (a : α) : FailsAs step (pure a) := fun _ _ => ends_pure nofun

theorem fails_fail : FailsAs step (fail step detail : Work α) := by
  refine fun _ _ => ends_fail ?_
  rintro err ⟨⟩
  exact ⟨detail, rfl⟩

theorem fails_bind {x : Work α} {f : α → Work β} (hx : FailsAs step x) (hf : ∀ a, FailsAs step (f a)) :
    FailsAs step (x >>= f) := by
  intro S answer s
  have hends := hx answer s
  refine ends_bind ⟨fun a _ => hf a answer _, fun err herr err' => ?_⟩
  rintro ⟨⟩
  exact hends err herr

theorem fails_need (o : Option α) : FailsAs step (need step detail o) := by
  cases o with
  | none => exact fails_fail
  | some a => exact fails_pure a

theorem fails_lift (t : Task α) : FailsAs step (ExceptT.lift t : Work α) := by
  intro S answer s
  have hrun : (ExceptT.lift t : Work α).run.run answer s = _ := Task.run_bind answer t _ s
  unfold Ends
  rw [hrun]
  nofun

theorem fails_service (t : Task (Except ServiceError α)) : FailsAs step (service step t) := by
  intro S answer s
  have hrun : (service step t).run.run answer s = _ := Task.run_bind answer t _ s
  unfold Ends
  rw [hrun]
  generalize t.run answer s = out
  obtain ⟨r, s'⟩ := out
  cases r with
  | ok a => nofun
  | error e =>
    rintro err ⟨⟩
    exact ⟨_, rfl⟩

end Work

namespace Handler

open Work

/-- A handler that fails with errors of its step only. -/
def FailsOwn (h : Handler) : Prop := ∃ work, h = ofWork work ∧ ∀ step ctx, FailsAs step (work step ctx)

theorem trigger_fails : FailsOwn trigger := ⟨_, rfl, fun _ _ => fails_pure _⟩

theorem plainAction_fails : FailsOwn plainAction := ⟨_, rfl, fun _ _ => fails_pure _⟩

theorem defineVariable_fails : FailsOwn defineVariable := ⟨_, rfl, fun _ _ => fails_pure _⟩

theorem aiPrompt_fails : FailsOwn aiPrompt := by
  refine ⟨_, rfl, fun step ctx => ?_⟩
  split
  · exact fails_fail
  · exact fails_bind (fails_service _) fun _ => fails_pure _

theorem writtenFields_fails (step : Step) (ctx : Context) : FailsAs step (writtenFields step ctx) :=
  fails_bind (fails_lift _) fun _ => fails_pure _

theorem createRecord_fails : FailsOwn createRecord := by
  refine ⟨_, rfl, fun step ctx => fails_bind (fails_need _) fun model => ?_⟩
  refine fails_bind (writtenFields_fails step ctx) fun fields => ?_
  dsimp only
  split
  · exact fails_bind fails_fail fun _ => fails_bind (fails_service _) fun _ => fails_pure _
  · exact fails_bind (fails_service _) fun _ => fails_pure _

theorem updateRecord_fails : FailsOwn updateRecord := by
  refine ⟨_, rfl, fun step ctx => fails_bind (fails_need _) fun model => fails_bind (fails_need _) fun id => ?_⟩
  refine fails_bind (writtenFields_fails step ctx) fun fields => ?_
  exact fails_bind (fails_service _) fun _ => fails_pure _

theorem queryData_fails : FailsOwn queryData := by
  refine ⟨_, rfl, fun step ctx => fails_bind (fails_need _) fun model => fails_bind (fails_lift _) fun now => ?_⟩
  exact fails_bind (fails_service _) fun _ => fails_pure _

theorem fetchApi_fails : FailsOwn fetchApi := by
  refine ⟨_, rfl, fun step ctx => ?_⟩
  split
  · exact fails_fail
  · refine fails_bind (fails_lift _) fun started => fails_bind (fails_lift _) fun answer => ?_
    split
    · exact fails_fail
    · exact fails_bind (fails_lift _) fun _ => fails_pure _

theorem sendEmail_fails : FailsOwn sendEmail := by
  refine ⟨_, rfl, fun step ctx => fails_bind (fails_need _) fun recipient => ?_⟩
  exact fails_bind (fails_service _) fun _ => fails_pure _

theorem transformContent_fails : FailsOwn transformContent := by
  refine ⟨_, rfl, fun step ctx => fails_bind (fails_need _) fun name => ?_⟩
  exact fails_bind (fails_need _) fun transform => fails_pure _

section Causes

variable {S : Type} (answer : (q : Ask) → S → q.Answer × S) (step : Step) (ctx : Context) (s : S)

/-- The error is one of the step, or the one with which a list was refused. -/
def Cause (err : WorkflowError) : Prop :=
  (∃ detail, err = Work.error step detail) ∨ ∃ steps given s, (answer (.runSteps steps given) s).1.1 = .error err

variable {err : WorkflowError}

theorem FailsOwn.cause {h : Handler} (hh : FailsOwn h) (herr : ((h step ctx).run answer s).1.1 = .error err) :
    Cause answer step err := by
  obtain ⟨work, rfl, hfails⟩ := hh
  exact .inl (ends_ofWork (Q := fun r _ => ∀ err, r = .error err → ∃ detail, err = Work.error step detail)
    (hfails step ctx answer s) err herr)

theorem rules_error (herr : rules? step = .error err) : ∃ detail, err = Work.error step detail := by
  unfold rules? at herr
  split at herr
  · cases herr
  · rename_i v _
    generalize Json.decodeValue _ v = decoded at herr
    cases decoded with
    | ok rules => cases herr
    | error e =>
      cases herr
      exact ⟨_, rfl⟩

theorem evaluate_error (herr : evaluate step ctx = .error err) : ∃ detail, err = Work.error step detail := by
  unfold evaluate at herr
  cases hrules : rules? step with
  | error e =>
    rw [hrules] at herr
    cases herr
    exact rules_error step hrules
  | ok rules =>
    simp only [hrules, bind, Except.bind] at herr
    split at herr
    · cases herr
      exact ⟨_, rfl⟩
    · cases herr

theorem condition_cause (herr : ((condition step ctx).run answer s).1.1 = .error err) : Cause answer step err := by
  obtain ⟨e, hev, h⟩ | ⟨holds, -, -, h⟩ | ⟨holds, -, -, h⟩ := condition_cases step ctx
  · rw [h] at herr
    cases herr
    exact .inl (evaluate_error step ctx hev)
  · rw [h] at herr
    cases herr
  · rw [h, Task.run_ask, Task.run_done] at herr
    exact .inr ⟨branch step holds, ctx, s, Except.error_of_map herr⟩

theorem iterate_cause (children : List Step) (count index : Nat) (items : List Value) (ctx : Context) (failed : Nat)
    (herr : ((iterate children count index items ctx failed).run answer s).1.1 = .error err) :
    ∃ steps given s, (answer (.runSteps steps given) s).1.1 = .error err := by
  induction items generalizing index ctx failed s with
  | nil => cases herr
  | cons item items ih =>
    rw [iterate, Task.run_ask] at herr
    generalize ha : answer (.runSteps children (ctx.insert Context.loopKey (loopData item index count))) s = a at herr
    obtain ⟨⟨result, left⟩, s'⟩ := a
    cases result with
    | error e =>
      cases herr
      exact ⟨_, _, s, congrArg (·.1.1) ha⟩
    | ok run => exact ih _ _ _ _ herr

theorem forEach_cause (herr : ((forEach step ctx).run answer s).1.1 = .error err) : Cause answer step err := by
  obtain ⟨-, h⟩ | ⟨path, reason, -, -, h⟩ | ⟨path, items, -, -, h⟩ := forEach_cases step ctx
  · rw [h] at herr
    cases herr
    exact .inl ⟨_, rfl⟩
  · rw [h] at herr
    cases herr
  · rw [h, Task.run_bind, Task.run_done] at herr
    exact .inr (iterate_cause answer s step.orderedChildren items.length 0 items ctx 0 (Except.error_of_map herr))

/-- A built-in handler fails with an error of its step, or because a list was refused. -/
theorem Registered.cause {key : String} {h : Handler} (hh : Registered key h)
    (herr : ((h step ctx).run answer s).1.1 = .error err) : Cause answer step err := by
  cases hh with
  | trigger => exact trigger_fails.cause answer step ctx s herr
  | aiPrompt => exact aiPrompt_fails.cause answer step ctx s herr
  | condition => exact condition_cause answer step ctx s herr
  | forEach => exact forEach_cause answer step ctx s herr
  | plainAction => exact plainAction_fails.cause answer step ctx s herr
  | createRecord => exact createRecord_fails.cause answer step ctx s herr
  | updateRecord => exact updateRecord_fails.cause answer step ctx s herr
  | queryData => exact queryData_fails.cause answer step ctx s herr
  | fetchRecords => exact queryData_fails.cause answer step ctx s herr
  | fetchApi => exact fetchApi_fails.cause answer step ctx s herr
  | sendEmail => exact sendEmail_fails.cause answer step ctx s herr
  | defineVariable => exact defineVariable_fails.cause answer step ctx s herr
  | transformContent => exact transformContent_fails.cause answer step ctx s herr

end Causes

end Handler

namespace Engine

variable {σ : Type} {e : Engine σ}

theorem runNested_error {depth : Nat} {scope : Scope} {steps : List Step} {ctx : Context} {w : World σ}
    {err : WorkflowError} (h : (e.runNested depth scope steps ctx w).1.1 = .error err) :
    err = .nestingTooDeep e.config.maxDepth := by
  cases depth with
  | zero =>
    cases h
    rfl
  | succ depth => cases h

/-- Why an invocation fails: its step does not resolve, it fails by itself, or it may not
    go deeper. -/
theorem failure_of_mem (he : e.registry.OfBuiltIns) (depth : Nat) (scope : Scope) (steps : List Step) (ctx : Context)
    (w : World σ) : ∀ i ∈ Invocation.preorder (e.recordNested depth scope steps ctx w), ∀ err, i.result = .error err →
      e.registry.resolve i.step = .error err ∨ (∃ detail, err = Work.error i.step detail) ∨
        err = .nestingTooDeep e.config.maxDepth := by
  refine e.record_forall (Q := fun _ i => ∀ err, i.result = .error err → e.registry.resolve i.step = .error err ∨
    (∃ detail, err = Work.error i.step detail) ∨ err = .nestingTooDeep e.config.maxDepth) ?_ (fun _ _ _ h => h)
    depth scope steps ctx w
  intro depth scope step ctx w err herr
  change e.registry.resolve step = .error err ∨ (∃ detail, err = Work.error step detail) ∨ _
  have hresult : ((e.handling step ctx).run (e.services.answer (e.runNested depth (inside scope w)))
    (opening scope step ctx w)).1.1 = .error err := herr
  unfold handling at hresult
  split at hresult
  · rename_i hr
    cases hresult
    exact .inl hr
  · rename_i h hr
    obtain ⟨key, hh⟩ := he step h hr
    rcases hh.cause _ step ctx _ hresult with hown | ⟨steps, given, v, hrefused⟩
    · exact .inr (.inl hown)
    · exact .inr (.inr (runNested_error hrefused))

/-- A call that is not turned down runs the steps from its start on. -/
theorem served_executeAt {wf : Workflow} {ctx : Context} {start : Option String} {w w' : World σ} {s : RunSummary}
    (h : e.executeAt wf ctx start w = (.ok s, w')) : e.checkRunnable wf = .ok () ∧
      ∃ steps, wf.stepsAt? start = some steps ∧
        e.Served ctx w { workflowId := wf.id, onError := wf.onError } steps (Context.seedTrigger ctx)
          ⟨s.steps, s.aborted⟩ s.context w' := by
  have hrun := h
  rw [executeAt_eq] at hrun
  split at hrun
  · cases hrun
  · rename_i steps hc hs
    refine ⟨hc, steps, hs, ?_⟩
    cases start with
    | none =>
      cases hs
      exact .execute h
    | some id => exact .executeFrom hs h
  · cases hrun

end Engine

/-! ## Validation and runs -/

/-- Whatever the registry, the workflow, the context and the start, a call is turned down
    for the first reason there is, and for having unknown steps exactly if the workflow is
    enabled, steps are validated and one of them, at any depth, does not resolve. It then
    names the keys that the registry lacks. A call that is turned down changes nothing. In
    the run of one that is not, over built-in handlers and with steps validated, no
    invocation at any depth fails for want of a handler. -/
theorem strict_validation_is_sound_and_complete {σ : Type} (e : Engine σ) (wf : Workflow) (ctx : Context)
    (start : Option String) (w : World σ) :
    (∀ err, (e.executeAt wf ctx start w).1 = .error err ↔ e.Rejected wf start err) ∧
    ((∃ keys, (e.executeAt wf ctx start w).1 = .error (.unknownStepTypes keys)) ↔
      wf.enabled = true ∧ e.config.strictValidation = true ∧
        ∃ s, Step.Among wf.steps s ∧ ∀ h, e.registry.resolve s ≠ .ok h) ∧
    (∀ keys, (e.executeAt wf ctx start w).1 = .error (.unknownStepTypes keys) → e.registry.Lacks wf.steps keys) ∧
    (∀ err, (e.executeAt wf ctx start w).1 = .error err → (e.executeAt wf ctx start w).2 = w) ∧
    (e.config.strictValidation = true → e.registry.OfBuiltIns →
      ∀ s w', e.executeAt wf ctx start w = (.ok s, w') → ∃ steps, wf.stepsAt? start = some steps ∧
        e.Served ctx w { workflowId := wf.id, onError := wf.onError } steps (Context.seedTrigger ctx)
          ⟨s.steps, s.aborted⟩ s.context w' ∧
        ∀ i ∈ Invocation.preorder (e.recordTop { workflowId := wf.id, onError := wf.onError } steps
          (Context.seedTrigger ctx) w), ∀ err, i.result = .error err → err.isHandlerNotFound = false) := by
  have hlacks := e.registry.lacks_unknownKeys wf.steps
  refine ⟨fun err => Engine.executeAt_rejected, ⟨?_, ?_⟩, ?_, fun err => Engine.unchanged_of_rejected, ?_⟩
  · rintro ⟨keys, h⟩
    cases Engine.executeAt_rejected.mp h with
    | unknown hon hstrict hsome hkeys =>
      obtain ⟨key, hkey⟩ := List.exists_mem_of_ne_nil keys hsome
      obtain ⟨s, hs, hr⟩ := (hkeys.mem key).mp hkey
      refine ⟨hon, hstrict, s, hs, fun h hok => ?_⟩
      rw [hr] at hok
      cases hok
  · rintro ⟨hon, hstrict, s, hs, hr⟩
    refine ⟨_, Engine.executeAt_rejected.mpr (.unknown hon hstrict (fun hnone => ?_) hlacks)⟩
    obtain ⟨h, hok⟩ := hlacks.eq_nil.mp hnone s hs
    exact hr h hok
  · intro keys h
    cases Engine.executeAt_rejected.mp h with
    | unknown _ _ _ hkeys => exact hkeys
  · intro hstrict he s w' h
    obtain ⟨hc, steps, hs, hserved⟩ := Engine.served_executeAt h
    obtain ⟨-, hresolve⟩ := Engine.checkRunnable_ok.mp hc
    refine ⟨steps, hs, hserved, fun i hi err herr => ?_⟩
    have hamong : Step.Among wf.steps i.step :=
      (Engine.among_of_mem he _ _ steps _ w i hi).mono (Workflow.stepsAt?_subset hs)
    rcases Engine.failure_of_mem he _ _ steps _ w i hi err herr with hnone | ⟨detail, rfl⟩ | rfl
    · obtain ⟨h, hok⟩ := hresolve hstrict i.step hamong
      rw [hok] at hnone
      cases hnone
    · rfl
    · rfl

namespace Sample

def strict : Engine Unit := { engine with config := { strictValidation := true } }

/-- The sample workflow without its branches: one step that fails and one that does not. -/
def flat : Workflow := { workflow with steps := workflow.steps.drop 1 }

end Sample

/-- The step without a handler is found in the loop of a branch; without it the workflow
    runs, and the step that fails has a handler. -/
theorem sample_workflow_is_validated :
    (Sample.strict.executeAt Sample.workflow Sample.context none Sample.world).1 =
        .error (.unknownStepTypes ["MYSTERY"]) ∧
      (Sample.strict.executeAt Sample.workflow Sample.context none Sample.world).2 = Sample.world ∧
      Sample.strict.registry.Lacks Sample.workflow.steps ["MYSTERY"] ∧
      Sample.strict.registry.OfBuiltIns ∧
      ∃ s w' steps, Sample.strict.executeAt Sample.flat Sample.context (some "poor") Sample.world = (.ok s, w') ∧
        Sample.flat.stepsAt? (some "poor") = some steps ∧
        s.steps.map (·.error) = [some "Step execution failed in 'poor': sourceArray is required", none] ∧
        ∀ i ∈ Invocation.preorder (Sample.strict.recordTop { workflowId := Sample.flat.id } steps
          (Context.seedTrigger Sample.context) Sample.world),
          ∀ err, i.result = .error err → err.isHandlerNotFound = false := by
  have hunknown : (Sample.strict.executeAt Sample.workflow Sample.context none Sample.world).1 =
      .error (.unknownStepTypes ["MYSTERY"]) := rfl
  have hbuilt : Sample.strict.registry.OfBuiltIns := Handler.registry_ofBuiltIns
  obtain ⟨-, -, hkeys, hclean, -⟩ :=
    strict_validation_is_sound_and_complete Sample.strict Sample.workflow Sample.context none Sample.world
  obtain ⟨-, -, -, -, hsound⟩ :=
    strict_validation_is_sound_and_complete Sample.strict Sample.flat Sample.context (some "poor") Sample.world
  have hok : Sample.strict.executeAt Sample.flat Sample.context (some "poor") Sample.world = (.ok _, _) := rfl
  obtain ⟨steps, hs, -, hfound⟩ := hsound rfl hbuilt _ _ hok
  refine ⟨hunknown, hclean _ hunknown, hkeys _ hunknown, hbuilt, _, _, steps, hok, hs, ?_, hfound⟩
  decide +kernel

end Stepflow
