/-
  Stepflow.Proofs.Depth — how deep steps are nested.

  (1) Above an invocation stand those whose handlers asked for the list it is in, for the
  list that one is in, and so on up to the top (`Invocation.Under`). A level is lost with
  each of them (`Engine.levels_of_under`), so there are at most as many as the engine
  has levels. An invocation with fewer has its lists run; one with that many has every
  list refused and nothing comes of it. A condition or a loop that asks for one then fails
  with the same error (`Engine.fails_of_refused`).

  (2) In the audit book an entry has the entry of its parent above it, and so on
  (`Audit.Entry.Ancestry`). For the entries of a run those are the entries of the
  invocations above (`Engine.ancestry_of_under`).

  (3) Built-in handlers ask for steps right below their own only, so a run never comes
  deeper than its steps are nested. With as many levels as the steps have, one more or
  many more make no difference (`runTop_withDepth`).
-/

import Stepflow.Proofs.Atomic
import Stepflow.Proofs.Reach

namespace Stepflow

open Services

/-! ## (1) Invocations above one -/

namespace Invocation

variable {σ : Type} {ran above : List (Invocation σ)} {i : Invocation σ}

/-- The invocations above one of those that a list comes to, the nearest first. -/
inductive Under (ran : List (Invocation σ)) : List (Invocation σ) → Invocation σ → Prop
  | top {i : Invocation σ} : i ∈ ran → Under ran [] i
  | child {above : List (Invocation σ)} {p i : Invocation σ} : Under ran above p → i ∈ p.children →
      Under ran (p :: above) i

theorem exists_under (ran : List (Invocation σ)) : ∀ i ∈ preorder ran, ∃ above, Under ran above i :=
  forall_of_descent ran (fun _ hi => ⟨[], .top hi⟩) fun p _ ⟨above, hp⟩ _ hk => ⟨p :: above, .child hp hk⟩

theorem Under.mem_preorder (h : Under ran above i) : i ∈ preorder ran := by
  induction h with
  | top hi => exact (sublist_preorder ran).subset hi
  | child _ hi ih => exact (children_sublist_preorder ih).subset hi

end Invocation

namespace Engine

variable {σ : Type} (e : Engine σ)

/-- Each invocation above one has taken a level. -/
theorem levels_of_under {depth : Nat} {scope : Scope} {steps : List Step} {ctx : Context} {w : World σ}
    {above : List (Invocation σ)} {i : Invocation σ}
    (h : Invocation.Under (e.recordNested depth scope steps ctx w) above i) :
    ∃ left scope step given before, depth = above.length + left + 1 ∧
      i = e.recordStep (e.runNested left) (e.recordNested left) scope step given before := by
  induction h with
  | top hi =>
    obtain ⟨left, step, given, before, hdepth, -, rfl⟩ := e.recordStep_of_mem hi
    exact ⟨left, scope, step, given, before, by simpa using hdepth, rfl⟩
  | child _ hi ih =>
    obtain ⟨left, scope, step, given, before, hdepth, rfl⟩ := ih
    obtain ⟨c, hc, hic⟩ := List.mem_flatMap.mp hi
    obtain ⟨v, -, -, hran⟩ := e.of_mem_calls _ _ scope hc
    obtain ⟨left', step', given', before', hleft, -, rfl⟩ := e.recordStep_of_mem (hran ▸ hic)
    refine ⟨left', _, step', given', before', ?_, rfl⟩
    rw [hdepth, hleft, List.length_cons]
    omega

/-- With no level left a list is refused and nothing is done, else it is run. -/
theorem answer_of_mem_calls {left : Nat} {scope : Scope} {step : Step} {ctx : Context} {w : World σ} {c : Call σ}
    (hc : c ∈ (e.recordStep (e.runNested left) (e.recordNested left) scope step ctx w).calls) :
    (left = 0 → c.answer = .error (.nestingTooDeep e.config.maxDepth) ∧ c.left = c.given ∧ c.ran = []) ∧
      (0 < left → ∃ run, c.answer = .ok run) := by
  obtain ⟨v, hanswer, hleft, hran⟩ := e.of_mem_calls _ _ scope hc
  cases left with
  | zero => exact ⟨fun _ => ⟨hanswer, hleft, hran⟩, fun h => absurd h (Nat.lt_irrefl 0)⟩
  | succ left => exact ⟨nofun, fun _ => ⟨_, hanswer⟩⟩

end Engine

namespace Handler

section Refused

variable {S : Type} {answer : (q : Ask) → S → q.Answer × S} {err : WorkflowError} {step : Step} {ctx : Context} {s : S}

theorem condition_refused (href : ∀ steps given s, (answer (.runSteps steps given) s).1.1 = .error err)
    (hasks : (condition step ctx).exchanges answer s ≠ []) : ((condition step ctx).run answer s).1.1 = .error err := by
  obtain ⟨e, -, h⟩ | ⟨holds, -, -, h⟩ | ⟨holds, -, -, h⟩ := condition_cases step ctx
  · exact absurd (h ▸ rfl) hasks
  · exact absurd (h ▸ rfl) hasks
  · rw [h, Task.run_ask, Task.run_done, href]
    rfl

theorem forEach_refused (href : ∀ steps given s, (answer (.runSteps steps given) s).1.1 = .error err)
    (hasks : (forEach step ctx).exchanges answer s ≠ []) : ((forEach step ctx).run answer s).1.1 = .error err := by
  obtain ⟨-, h⟩ | ⟨path, reason, -, -, h⟩ | ⟨path, items, -, -, h⟩ := forEach_cases step ctx
  · exact absurd (h ▸ rfl) hasks
  · exact absurd (h ▸ rfl) hasks
  · rw [h] at hasks ⊢
    cases items with
    | nil => exact absurd rfl hasks
    | cons item items =>
      -- the first iteration is refused, whatever steps there are below the loop
      have hfirst := href step.orderedChildren (ctx.insert Context.loopKey (loopData item 0 (item :: items).length)) s
      rw [iterate, Task.run_bind, Task.run_ask]
      generalize answer _ s = a at hfirst ⊢
      obtain ⟨⟨result, left⟩, s'⟩ := a
      cases hfirst
      rfl

end Refused

end Handler

namespace Engine

variable {σ : Type} (e : Engine σ)

/-- With no level left a condition or a loop that asks for a list fails. -/
theorem fails_of_refused (scope : Scope) (step : Step) (ctx : Context) (w : World σ) :
    let i := e.recordStep (e.runNested 0) (e.recordNested 0) scope step ctx w
    i.calls ≠ [] → (e.registry.resolve step = .ok Handler.condition ∨ e.registry.resolve step = .ok Handler.forEach) →
      i.result = .error (.nestingTooDeep e.config.maxDepth) ∧
        i.outcome.error = some (WorkflowError.nestingTooDeep e.config.maxDepth).message := by
  intro i hcalls hresolve
  let answer := e.services.answer (e.runNested 0 (inside scope w))
  have href : ∀ steps given v, (answer (.runSteps steps given) v).1.1 = .error (.nestingTooDeep e.config.maxDepth) :=
    fun _ _ _ => rfl
  have hasks : (e.handling step ctx).exchanges answer (opening scope step ctx w) ≠ [] := by
    intro hnone
    exact hcalls (congrArg (List.filterMap (Exchange.call? (e.recordNested 0 (inside scope w)))) hnone)
  have hresult : i.result = .error (.nestingTooDeep e.config.maxDepth) := by
    change ((e.handling step ctx).run answer (opening scope step ctx w)).1.1 = _
    rcases hresolve with hr | hr
    · have hh : e.handling step ctx = Handler.condition step ctx := by simp only [handling, hr]
      rw [hh] at hasks ⊢
      exact Handler.condition_refused href hasks
    · have hh : e.handling step ctx = Handler.forEach step ctx := by simp only [handling, hr]
      rw [hh] at hasks ⊢
      exact Handler.forEach_refused href hasks
  exact ⟨hresult, by simp only [Invocation.outcome, hresult]⟩

end Engine

/-! ## (2) Entries above one -/

/-- The entries above one of a book, the nearest first: that of its parent, that of the
    parent of that, up to one that has none. -/
inductive Audit.Entry.Ancestry (book : Audit.Book) : Audit.Entry → List Audit.Entry → Prop
  | top {x : Audit.Entry} : x.parent = none → Ancestry book x []
  | child {x p : Audit.Entry} {above : List Audit.Entry} : p ∈ book → x.parent = some p.id → Ancestry book p above →
      Ancestry book x (p :: above)

namespace Engine

variable {σ : Type} (e : Engine σ)

/-- Above the entry of an invocation stand those of the invocations above it, and no
    others. -/
theorem ancestry_of_under {depth : Nat} {scope : Scope} {steps : List Step} {ctx : Context} {w : World σ}
    {book : Audit.Book} (hs : scope.parent = none)
    (hbook : ∀ i ∈ Invocation.preorder (e.recordNested depth scope steps ctx w), i.entry ∈ book)
    (hid : ∀ i ∈ Invocation.preorder (e.recordNested depth scope steps ctx w),
      ∀ x ∈ book, x.id = i.entry.id → x = i.entry)
    {above : List (Invocation σ)} {i : Invocation σ}
    (h : Invocation.Under (e.recordNested depth scope steps ctx w) above i) :
    ∀ other, i.entry.Ancestry book other ↔ other = above.map (·.entry) := by
  induction h with
  | top hi =>
    have hparent : ∀ {i : Invocation σ}, i ∈ e.recordNested depth scope steps ctx w → i.entry.parent = none := by
      intro i hi
      rw [i.entry_parent, e.scope_of_mem hi, hs]
    intro other
    constructor
    · intro hother
      cases hother with
      | top _ => rfl
      | child _ hsome _ =>
        rw [hparent hi] at hsome
        cases hsome
    · rintro rfl
      exact .top (hparent hi)
  | @child above p i hp hi ih =>
    have hmem := hp.mem_preorder
    have hparent : i.entry.parent = some p.entry.id := e.parent_of_mem_children depth scope steps ctx w hmem hi
    intro other
    constructor
    · intro hother
      cases hother with
      | top hnone =>
        rw [hparent] at hnone
        cases hnone
      | @child _ q rest hq hsome hrest =>
        rw [hparent] at hsome
        obtain rfl := hid p hmem q hq (Option.some.inj hsome).symm
        rw [(ih rest).mp hrest, List.map_cons]
    · rintro rfl
      exact .child (hbook p hmem) hparent ((ih _).mpr rfl)

end Engine

/-! ## (3) Levels to spare -/

theorem Task.AsksOnly.run_congr {α S : Type} {ok : Ask → Prop} {t : Task α} (ht : t.AsksOnly ok)
    {answer answer' : (q : Ask) → S → q.Answer × S} (hsame : ∀ q, ok q → ∀ s, answer q s = answer' q s) (s : S) :
    t.run answer s = t.run answer' s := by
  induction ht generalizing s with
  | done a => rfl
  | ask hq _ ih => rw [run_ask, run_ask, hsame _ hq, ih]

namespace Engine

variable {σ : Type} {e : Engine σ}

def withDepth (e : Engine σ) (depth : Nat) : Engine σ := { e with config := { e.config with maxDepth := depth } }

variable (he : e.registry.OfBuiltIns) (depth : Nat)

include he

theorem runStep_withDepth {nested nested' : Scope → Nested σ} {step : Step}
    (hsame : ∀ scope, ∀ list ⊆ step.children, ∀ ctx w, nested scope list ctx w = nested' scope list ctx w)
    (scope : Scope) (ctx : Context) (w : World σ) :
    e.runStep nested scope step ctx w = (e.withDepth depth).runStep nested' scope step ctx w := by
  have hinvoke : ∀ scope w,
      e.invoke (nested scope) step ctx w = (e.withDepth depth).invoke (nested' scope) step ctx w := by
    intro scope w
    change e.invoke (nested scope) step ctx w = e.invoke (nested' scope) step ctx w
    unfold invoke
    cases hr : e.registry.resolve step with
    | error err => rfl
    | ok h =>
      obtain ⟨key, hh⟩ := he step h hr
      refine (hh.asks_below step ctx).run_congr (fun q hq v => ?_) w
      cases q with
      | runSteps list given => exact congrArg (fun a => (a.1, a.2.later)) (hsame scope list hq given v)
      | _ => rfl
  unfold runStep
  dsimp only
  rw [hinvoke]

theorem runList_withDepth {nested nested' : Scope → Nested σ} {steps : List Step}
    (hsame : ∀ s ∈ steps, ∀ scope, ∀ list ⊆ s.children, ∀ ctx w, nested scope list ctx w = nested' scope list ctx w)
    (scope : Scope) (ctx : Context) (w : World σ) :
    e.runList nested scope steps ctx w = (e.withDepth depth).runList nested' scope steps ctx w := by
  induction steps generalizing ctx w with
  | nil => rfl
  | cons s rest ih =>
    have hstep := runStep_withDepth he depth (hsame s (List.mem_cons_self ..)) scope ctx w
    have hrest := ih fun t ht => hsame t (List.mem_cons_of_mem _ ht)
    simp only [runList, hstep, hrest]
    rfl

/-- Steps that have fewer levels than are left run as with any other number of levels that
    is greater than theirs. -/
theorem runNested_withDepth (left left' : Nat) (scope : Scope) (steps : List Step) (ctx : Context) (w : World σ)
    (h : Step.levels steps < left) (h' : Step.levels steps < left') :
    e.runNested left scope steps ctx w = (e.withDepth depth).runNested left' scope steps ctx w := by
  induction left generalizing left' scope steps ctx w with
  | zero => exact absurd h (Nat.not_lt_zero _)
  | succ left ih =>
    cases left' with
    | zero => exact absurd h' (Nat.not_lt_zero _)
    | succ left' =>
      rw [runNested_succ, runNested_succ, runList_withDepth he depth]
      intro s hs scope list hlist ctx w
      have hbelow := Step.levels_lt_of_below hs hlist
      exact ih left' scope list ctx w (by omega) (by omega)

theorem runTop_withDepth {steps : List Step} (h : Step.levels steps ≤ e.config.maxDepth)
    (hmore : e.config.maxDepth ≤ depth) (scope : Scope) (ctx : Context) (w : World σ) :
    (e.withDepth depth).runTop scope steps ctx w = e.runTop scope steps ctx w := by
  refine (runList_withDepth he depth (fun s hs scope list hlist ctx w => ?_) scope ctx w).symm
  have hbelow := Step.levels_lt_of_below hs hlist
  exact runNested_withDepth he depth _ _ scope list ctx w (by omega) (by simp only [withDepth]; omega)

/-- So whole calls do not change. -/
theorem execute_withDepth {wf : Workflow} (h : Step.levels wf.steps ≤ e.config.maxDepth)
    (hmore : e.config.maxDepth ≤ depth) (ctx : Context) (w : World σ) :
    (e.withDepth depth).execute wf ctx w = e.execute wf ctx w := by
  have hlevels : Step.levels wf.orderedSteps ≤ e.config.maxDepth :=
    (Step.levels_mono fun s hs => mem_ordered.mp hs).trans h
  have hcheck : (e.withDepth depth).checkRunnable wf = e.checkRunnable wf := rfl
  simp only [execute, runWorkflow, hcheck, runTop_withDepth he depth hlevels hmore]

theorem executeFrom_withDepth {wf : Workflow} (h : Step.levels wf.steps ≤ e.config.maxDepth)
    (hmore : e.config.maxDepth ≤ depth) (ctx : Context) (start : String) (w : World σ) :
    (e.withDepth depth).executeFrom wf ctx start w = e.executeFrom wf ctx start w := by
  have hcheck : (e.withDepth depth).checkRunnable wf = e.checkRunnable wf := rfl
  cases hsteps : stepsFrom? wf.orderedSteps start with
  | none => simp only [executeFrom, hcheck, hsteps]
  | some steps =>
    have hlevels : Step.levels steps ≤ e.config.maxDepth :=
      (Step.levels_mono fun s hs => mem_ordered.mp (stepsFrom?_subset hsteps hs)).trans h
    simp only [executeFrom, runWorkflow, hcheck, hsteps, runTop_withDepth he depth hlevels hmore]

theorem executeSteps_withDepth {steps : List Step} (h : Step.levels steps ≤ e.config.maxDepth)
    (hmore : e.config.maxDepth ≤ depth) (id : WorkflowId) (ctx : Context) (w : World σ) :
    (e.withDepth depth).executeSteps id steps ctx w = e.executeSteps id steps ctx w := by
  simp only [executeSteps, runTop_withDepth he depth h hmore]

end Engine

/-! ## The depth of a run -/

/-- Whatever the handlers, the steps and the context, each invocation of a run has at most
    as many others above it as the engine has levels. One with fewer has the lists that it
    asks for run. One with that many has every list refused, an empty one too: no
    invocation comes of it and its context stays, and a condition or a loop fails with the
    same error. In a journal that keeps what it is told the entries above the new ones are
    those of the invocations above. Over built-in handlers a call whose steps have no more
    levels than the engine does not change with more of them. -/
theorem nesting_is_bounded {σ : Type} (e : Engine σ) (ctx : Context) (w : World σ) :
    let d := e.config.maxDepth
    (∀ scope steps start run ctx' w', e.Served ctx w scope steps start run ctx' w' →
      let ran := e.recordTop scope steps start w
      (∀ i ∈ Invocation.preorder ran, ∃ above, Invocation.Under ran above i) ∧
      (∀ above i, Invocation.Under ran above i → above.length ≤ d ∧
        (above.length < d → ∀ c ∈ i.calls, ∃ run, c.answer = .ok run) ∧
        (above.length = d →
          (∀ c ∈ i.calls, c.answer = .error (.nestingTooDeep d) ∧ c.left = c.given ∧ c.ran = []) ∧
          (i.calls ≠ [] → (e.registry.resolve i.step = .ok Handler.condition ∨
              e.registry.resolve i.step = .ok Handler.forEach) →
            i.result = .error (.nestingTooDeep d) ∧ i.outcome.error = some (WorkflowError.nestingTooDeep d).message))) ∧
      (w.journal.Keeps → w'.journal.book = w.journal.book ++ (Invocation.preorder ran).map (·.entry) ∧
        ∀ above i, Invocation.Under ran above i →
          ∀ other, i.entry.Ancestry w'.journal.book other ↔ other = above.map (·.entry))) ∧
    (e.registry.OfBuiltIns → ∀ m, d ≤ m →
      (∀ wf, Step.levels wf.steps ≤ d → (e.withDepth m).execute wf ctx w = e.execute wf ctx w ∧
        ∀ start, (e.withDepth m).executeFrom wf ctx start w = e.executeFrom wf ctx start w) ∧
      ∀ id steps, Step.levels steps ≤ d →
        (e.withDepth m).executeSteps id steps ctx w = e.executeSteps id steps ctx w) := by
  intro d
  refine ⟨fun scope steps start run ctx' w' h => ?_, fun he m hm => ⟨fun wf hwf => ?_, fun id steps hsteps => ?_⟩⟩
  · intro ran
    refine ⟨Invocation.exists_under ran, fun above i hi => ?_, fun hw => ?_⟩
    · obtain ⟨left, scope, step, given, before, hlevels, rfl⟩ := e.levels_of_under hi
      refine ⟨by omega, fun hlt c hc => (e.answer_of_mem_calls hc).2 (by omega), fun heq => ?_⟩
      obtain rfl : left = 0 := by omega
      exact ⟨fun c hc => (e.answer_of_mem_calls hc).1 rfl, fun hcalls hresolve =>
        e.fails_of_refused scope step given before hcalls hresolve⟩
    · have hkept := h.kept e hw
      exact ⟨hkept.book, fun above i hi => e.ancestry_of_under (h.parent_eq_none e) (fun j hj => hkept.entry_mem hj)
        (fun j hj x hx => hkept.entry_of_id hw hj hx) hi⟩
  · exact ⟨Engine.execute_withDepth he m hwf hm ctx w,
      fun start => Engine.executeFrom_withDepth he m hwf hm ctx start w⟩
  · exact Engine.executeSteps_withDepth he m hsteps hm id ctx w

/-- With one level the loop of the sample workflow stands as deep as it may and its first
    list is refused; with three the workflow runs as with sixteen. -/
theorem sample_runs_are_bounded :
    (∃ above i, Invocation.Under (Sample.shallow.recordTop { workflowId := Sample.workflow.id }
        Sample.workflow.orderedSteps (Context.seedTrigger Sample.context) Sample.world) above i ∧
      above.map (·.step.id) = ["check"] ∧ i.step.id = "each" ∧ i.result = .error (.nestingTooDeep 1)) ∧
    Step.levels Sample.workflow.steps = 3 ∧
      Sample.engine.execute Sample.workflow Sample.context Sample.world =
        (Sample.engine.withDepth 3).execute Sample.workflow Sample.context Sample.world := by
  have hrunnable : Sample.shallow.checkRunnable Sample.workflow = .ok () := rfl
  obtain ⟨hserved, -⟩ := nesting_is_bounded Sample.shallow Sample.context Sample.world
  obtain ⟨-, hbound, -⟩ := hserved _ _ _ _ _ _ (.execute (Sample.shallow.execute_eq _ _ hrunnable))
  have hloop : ∃ p ∈ Sample.shallow.recordTop { workflowId := Sample.workflow.id } Sample.workflow.orderedSteps
      (Context.seedTrigger Sample.context) Sample.world, ∃ i ∈ p.children, p.step.id = "check" ∧ i.step.id = "each" ∧
        i.step.handlerKey = "FOR_EACH" ∧ i.calls.isEmpty = false := by decide +kernel
  obtain ⟨p, hp, i, hi, hcheck, heach, hkey, hcalls⟩ := hloop
  have hresolve : Sample.shallow.registry.resolve i.step = .ok Handler.forEach := Handler.resolve_loop hkey
  have hunder := Invocation.Under.child (.top hp) hi
  obtain ⟨-, -, hdeepest⟩ := hbound _ _ hunder
  obtain ⟨-, hfails⟩ := hdeepest rfl
  have hresult := (hfails (List.isEmpty_eq_false_iff.mp hcalls) (.inr hresolve)).1
  have hlevels : Step.levels Sample.workflow.steps = 3 := rfl
  obtain ⟨-, henough⟩ := nesting_is_bounded (Sample.engine.withDepth 3) Sample.context Sample.world
  obtain ⟨hwhole, -⟩ := henough Handler.registry_ofBuiltIns 16 (by decide)
  refine ⟨⟨_, _, hunder, by rw [List.map_singleton, hcheck], heach, hresult⟩, hlevels, ?_⟩
  exact (hwhole Sample.workflow (Nat.le_of_eq hlevels)).1

end Stepflow
