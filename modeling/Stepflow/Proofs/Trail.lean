/-
  Stepflow.Proofs.Trail — what a run invokes, on record.

  A record is read off the engine and changes nothing: `recordStep`, `recordList` and
  `recordNested` follow `runStep`, `runList` and `runNested` call by call. An invocation
  on record says where it stood (scope, context, world), what its handler returned and
  what was left, and holds the lists of steps that its handler asked for, each with the
  invocations of its own. `preorder` lists the invocations at all depths in the order in
  which they begin, `postorder` in the order in which they end.

  (1) One level at a time. A step does what its record says (`runStep_eq`), a list what
  its first step and the rest do (`runList_cons`), and what a handler asks for is
  answered one level further down (`of_mem_calls`).

  (2) One induction for all depths (`record_law`). A relation between the state before a
  list, its invocations and the state after it holds of every list at every depth if it
  holds of no invocation, of one after another, and of one invocation when it holds of
  the lists below. What is said of single invocations follows (`record_forall`).

  (3) What no question ends, such as a panic, lasts from the invocation in which it came
  about to the end of the run (`lasts`).

  (4) The ways into the engine (`Served`): a call that is not turned down runs one list
  at the greatest depth (`Served.runNested_eq`).
-/

import Stepflow.Engine

namespace Stepflow

open Services

/-! ## Questions on record -/

/-- A question of a task: the state it was asked in, and what it was answered with. -/
structure Exchange (S : Type) where
  state : S
  question : Ask
  answer : question.Answer

namespace Task

variable {α β S : Type}

def exchanges (answer : (q : Ask) → S → q.Answer × S) : Task α → S → List (Exchange S)
  | done _, _ => []
  | ask q next, s =>
    ⟨s, q, (answer q s).1⟩ :: (next (answer q s).1).exchanges answer (answer q s).2

variable (answer : (q : Ask) → S → q.Answer × S)

@[simp] theorem run_done (a : α) (s : S) : (done a).run answer s = (a, s) := rfl
@[simp] theorem exchanges_done (a : α) (s : S) : (done a).exchanges answer s = [] := rfl

theorem run_ask (q : Ask) (next : q.Answer → Task α) (s : S) :
    (ask q next).run answer s = (next (answer q s).1).run answer (answer q s).2 := rfl

theorem exchanges_ask (q : Ask) (next : q.Answer → Task α) (s : S) :
    (ask q next).exchanges answer s =
      ⟨s, q, (answer q s).1⟩ :: (next (answer q s).1).exchanges answer (answer q s).2 := rfl

/-- One task after another runs where the first one ends. -/
theorem run_bind (t : Task α) (f : α → Task β) (s : S) :
    (t.bind f).run answer s = (f (t.run answer s).1).run answer (t.run answer s).2 := by
  induction t generalizing s with
  | done a => rfl
  | ask q next ih => exact ih (answer q s).1 (answer q s).2

theorem exchanges_bind (t : Task α) (f : α → Task β) (s : S) :
    (t.bind f).exchanges answer s =
      t.exchanges answer s ++ (f (t.run answer s).1).exchanges answer (t.run answer s).2 := by
  induction t generalizing s with
  | done a => rfl
  | ask q next ih =>
    simp only [Task.bind, exchanges_ask, run_ask, List.cons_append, ih]

theorem answer_of_mem_exchanges {t : Task α} {s : S} {x : Exchange S} (h : x ∈ t.exchanges answer s) :
    x.answer = (answer x.question x.state).1 := by
  induction t generalizing s with
  | done a => cases h
  | ask q next ih =>
    rcases List.mem_cons.mp h with rfl | h
    · rfl
    · exact ih _ h

end Task

/-! ## Invocations on record -/

mutual

/-- An invocation: where it began, what its handler returned, what was left. `after` is
    the world in which the handler ended. -/
structure Invocation (σ : Type) where
  scope : Scope
  step : Step
  given : Context
  before : World σ
  result : Except WorkflowError StepResult
  left : Context
  after : World σ
  calls : List (Call σ)

/-- A list of steps that a handler asked for, the answer it got, and the invocations
    that came of it. -/
structure Call (σ : Type) where
  steps : List Step
  given : Context
  answer : Except WorkflowError StepsRun
  left : Context
  ran : List (Invocation σ)

end

namespace Invocation

variable {σ : Type}

def opened (i : Invocation σ) : Audit.Entry := Engine.entryOf i.scope i.step i.given i.before

def durationMs (i : Invocation σ) : Nat := i.after.now.millisSince i.before.now

def completion (i : Invocation σ) : Audit.Completion :=
  match i.result with
  | .ok r => .success r.raw r.parsed i.durationMs r.tokens r.cost
  | .error err => .failed err.message i.durationMs

def entry (i : Invocation σ) : Audit.Entry := i.opened.closed i.after.now i.completion

theorem entry_id (i : Invocation σ) : i.entry.id = i.opened.id := by
  rw [entry, Audit.Entry.closed_id]

theorem entry_parent (i : Invocation σ) : i.entry.parent = i.scope.parent := by
  rw [entry, Audit.Entry.closed_parent]
  simp only [opened, Engine.entryOf, Audit.Entry.withParent]

theorem entry_stepType (i : Invocation σ) : i.entry.stepType = i.step.handlerKey := by
  rw [entry, Audit.Entry.closed_stepType]
  simp only [opened, Engine.entryOf, Audit.Entry.withParent, Audit.Entry.started]

def outcome (i : Invocation σ) : StepOutcome :=
  match i.result with
  | .ok r =>
    { stepId := i.step.id, skipped := r.skipped, durationMs := i.durationMs, logId := i.opened.id }
  | .error err =>
    { stepId := i.step.id, error := some err.message, durationMs := i.durationMs, logId := i.opened.id }

def part (i : Invocation σ) : Fields :=
  match i.result with
  | .ok r => r.context
  | .error _ => []

def children (i : Invocation σ) : List (Invocation σ) := i.calls.flatMap (·.ran)

mutual

/-- The invocation and all below it, each before those below it. -/
def pre : Invocation σ → List (Invocation σ)
  | ⟨scope, step, given, before, result, left, after, calls⟩ =>
    ⟨scope, step, given, before, result, left, after, calls⟩ :: preCalls calls

def preCalls : List (Call σ) → List (Invocation σ)
  | [] => []
  | ⟨_, _, _, _, ran⟩ :: rest => preorder ran ++ preCalls rest

/-- The invocations of a list and all below them, in the order in which they begin. -/
def preorder : List (Invocation σ) → List (Invocation σ)
  | [] => []
  | i :: rest => pre i ++ preorder rest

end

mutual

/-- The invocation and all below it, each after those below it. -/
def post : Invocation σ → List (Invocation σ)
  | ⟨scope, step, given, before, result, left, after, calls⟩ =>
    postCalls calls ++ [⟨scope, step, given, before, result, left, after, calls⟩]

def postCalls : List (Call σ) → List (Invocation σ)
  | [] => []
  | ⟨_, _, _, _, ran⟩ :: rest => postorder ran ++ postCalls rest

/-- The invocations of a list and all below them, in the order in which they end. -/
def postorder : List (Invocation σ) → List (Invocation σ)
  | [] => []
  | i :: rest => post i ++ postorder rest

end

/-! The two orders, list by list -/

@[simp] theorem preorder_nil : preorder ([] : List (Invocation σ)) = [] := by simp only [preorder]
@[simp] theorem postorder_nil : postorder ([] : List (Invocation σ)) = [] := by simp only [postorder]

theorem preorder_append (xs ys : List (Invocation σ)) : preorder (xs ++ ys) = preorder xs ++ preorder ys := by
  induction xs with
  | nil => simp
  | cons i xs ih => simp only [List.cons_append, preorder, ih, List.append_assoc]

theorem postorder_append (xs ys : List (Invocation σ)) : postorder (xs ++ ys) = postorder xs ++ postorder ys := by
  induction xs with
  | nil => simp
  | cons i xs ih => simp only [List.cons_append, postorder, ih, List.append_assoc]

theorem preCalls_eq (calls : List (Call σ)) : preCalls calls = preorder (calls.flatMap (·.ran)) := by
  induction calls with
  | nil => simp [preCalls]
  | cons c calls ih =>
    cases c
    simp only [preCalls, List.flatMap_cons, preorder_append, ih]

theorem postCalls_eq (calls : List (Call σ)) : postCalls calls = postorder (calls.flatMap (·.ran)) := by
  induction calls with
  | nil => simp [postCalls]
  | cons c calls ih =>
    cases c
    simp only [postCalls, List.flatMap_cons, postorder_append, ih]

theorem preorder_singleton (i : Invocation σ) : preorder [i] = i :: preorder i.children := by
  cases i
  simp only [preorder, pre, preCalls_eq, List.append_nil, children]

theorem postorder_singleton (i : Invocation σ) : postorder [i] = postorder i.children ++ [i] := by
  cases i
  simp only [postorder, post, postCalls_eq, List.append_nil, children]

theorem preorder_cons (i : Invocation σ) (rest : List (Invocation σ)) :
    preorder (i :: rest) = preorder [i] ++ preorder rest := by
  rw [← preorder_append, List.singleton_append]

/-- What holds of no invocation, and of one and others after it when it holds of those below
    the one and of the others, holds of every list. -/
theorem forest_induction {P : List (Invocation σ) → Prop} (nil : P [])
    (cons : ∀ i rest, P i.children → P rest → P (i :: rest)) (ran : List (Invocation σ)) : P ran := by
  -- a list has fewer invocations below it than the one that it lies below
  induction hn : (preorder ran).length using Nat.strongRecOn generalizing ran with
  | ind n ih =>
    cases ran with
    | nil => exact nil
    | cons i rest =>
      have hlen : n = (preorder i.children).length + 1 + (preorder rest).length := by
        rw [← hn, preorder_cons, preorder_singleton, List.length_append, List.length_cons]
      exact cons i rest (ih _ (by omega) i.children rfl) (ih _ (by omega) rest rfl)

/-- The invocations of a list stand among those at all depths, in their order. -/
theorem sublist_preorder (ran : List (Invocation σ)) : ran.Sublist (preorder ran) := by
  induction ran with
  | nil => exact List.nil_sublist _
  | cons i rest ih =>
    rw [preorder_cons, preorder_singleton]
    exact (ih.trans (List.sublist_append_right (preorder i.children) _)).cons_cons i

/-- So do those that the handler of one of them asked for. -/
theorem children_sublist_preorder {ran : List (Invocation σ)} {p : Invocation σ} (hp : p ∈ preorder ran) :
    p.children.Sublist (preorder ran) := by
  induction ran using forest_induction with
  | nil => simp at hp
  | cons i rest ihbelow ihrest =>
    rw [preorder_cons, preorder_singleton] at hp ⊢
    rcases List.mem_append.mp hp with hp | hp
    · rcases List.mem_cons.mp hp with rfl | hp
      · exact ((sublist_preorder p.children).cons p).trans (List.sublist_append_left ..)
      · exact ((ihbelow hp).cons i).trans (List.sublist_append_left ..)
    · exact (ihrest hp).trans (List.sublist_append_right ..)

/-- What holds of the invocations of a list, and passes from each invocation to those that
    its handler asked for, holds of all. -/
theorem forall_of_descent {Q : Invocation σ → Prop} (ran : List (Invocation σ)) (top : ∀ i ∈ ran, Q i)
    (down : ∀ p ∈ preorder ran, Q p → ∀ k ∈ p.children, Q k) : ∀ i ∈ preorder ran, Q i := by
  induction ran using forest_induction with
  | nil => simp
  | cons i rest ihbelow ihrest =>
    rw [preorder_cons, preorder_singleton] at down ⊢
    have hi : Q i := top i (List.mem_cons_self ..)
    intro j hj
    rcases List.mem_append.mp hj with hj | hj
    · rcases List.mem_cons.mp hj with rfl | hj
      · exact hi
      · refine ihbelow (down i (List.mem_append_left _ (List.mem_cons_self ..)) hi) (fun p hp => ?_) j hj
        exact down p (List.mem_append_left _ (List.mem_cons_of_mem _ hp))
    · refine ihrest (fun k hk => top k (List.mem_cons_of_mem _ hk)) (fun p hp => ?_) j hj
      exact down p (List.mem_append_right _ hp)

/-- What lies below an invocation lies in one of the lists that its handler asked for. -/
theorem mem_preorder_children {i j : Invocation σ} :
    j ∈ preorder i.children ↔ ∃ c ∈ i.calls, j ∈ preorder c.ran := by
  have hlists : ∀ calls : List (Call σ), j ∈ preorder (calls.flatMap (·.ran)) ↔ ∃ c ∈ calls, j ∈ preorder c.ran := by
    intro calls
    induction calls with
    | nil => simp
    | cons c calls ih => simp [preorder_append, ih]
  exact hlists i.calls

mutual

theorem post_perm : (i : Invocation σ) → (post i).Perm (pre i)
  | ⟨_, _, _, _, _, _, _, calls⟩ => by
    simp only [post, pre]
    exact (List.perm_append_singleton _ _).trans ((postCalls_perm calls).cons _)

theorem postCalls_perm : (calls : List (Call σ)) → (postCalls calls).Perm (preCalls calls)
  | [] => by simp [postCalls, preCalls]
  | ⟨_, _, _, _, ran⟩ :: rest => by
    simp only [postCalls, preCalls]
    exact (postorder_perm ran).append (postCalls_perm rest)

/-- What ends is what begins. -/
theorem postorder_perm : (ran : List (Invocation σ)) → (postorder ran).Perm (preorder ran)
  | [] => by simp
  | i :: rest => by
    simp only [postorder, preorder]
    exact (post_perm i).append (postorder_perm rest)

end

end Invocation

/-! ## A run on record -/

/-- The steps that a question asks for, as a list on record; `below` records what runs. -/
def Exchange.call? {σ : Type} (below : List Step → Context → World σ → List (Invocation σ)) :
    Exchange (World σ) → Option (Call σ)
  | ⟨w, .runSteps steps ctx, (answer, left)⟩ => some ⟨steps, ctx, answer, left, below steps ctx w⟩
  | _ => none

/-- What holds of no question, of one after another, and of each that a task asks, holds
    of the task: of the state before it, the invocations that came of it, and the state
    after it. -/
theorem Task.exchanges_law {σ α : Type} {answer : (q : Ask) → World σ → q.Answer × World σ}
    {below : List Step → Context → World σ → List (Invocation σ)}
    {R : World σ → List (Invocation σ) → World σ → Prop} (nil : ∀ w, R w [] w)
    (append : ∀ {w₁ ran w₂ more w₃}, R w₁ ran w₂ → R w₂ more w₃ → R w₁ (ran ++ more) w₃) (t : Task α) (w : World σ)
    (each : ∀ x ∈ t.exchanges answer w,
      R x.state ((x.call? below).toList.flatMap (·.ran)) (answer x.question x.state).2) :
    R w (((t.exchanges answer w).filterMap (Exchange.call? below)).flatMap (·.ran)) (t.run answer w).2 := by
  induction t generalizing w with
  | done a => exact nil w
  | ask q next ih =>
    rw [exchanges_ask] at each ⊢
    have hfirst := each _ (List.mem_cons_self ..)
    have hrest := ih (answer q w).1 (answer q w).2 fun x hx => each x (List.mem_cons_of_mem _ hx)
    have hboth := append hfirst hrest
    rw [List.filterMap_cons]
    cases hc : Exchange.call? below ⟨w, q, (answer q w).1⟩ with
    | none =>
      rw [hc] at hboth
      exact hboth
    | some c =>
      rw [hc, Option.toList_some, List.flatMap_cons, List.flatMap_nil, List.append_nil] at hboth
      rw [List.flatMap_cons]
      exact hboth

namespace Engine

variable {σ : Type} (e : Engine σ)

abbrev Recorder (σ : Type) := List Step → Context → World σ → List (Invocation σ)

def handling (step : Step) (ctx : Context) : Task (Except WorkflowError StepResult × Context) :=
  match e.registry.resolve step with
  | .error err => .done (.error err, ctx)
  | .ok handler => handler step ctx

def opening (scope : Scope) (step : Step) (ctx : Context) (w : World σ) : World σ :=
  { w with journal := w.journal.openEntry (entryOf scope step ctx w) }

def inside (scope : Scope) (w : World σ) : Scope := { scope with parent := some w.journal.nextId }

def leaving (step : Step) : Except WorkflowError StepResult × Context → Context
  | (.ok r, ctx) => absorb ctx step.id r
  | (.error _, ctx) => ctx

def recordStep (nested : Scope → Nested σ) (below : Scope → Recorder σ) (scope : Scope) (step : Step)
    (ctx : Context) (w : World σ) : Invocation σ :=
  let answer := e.services.answer (nested (inside scope w))
  let done := (e.handling step ctx).run answer (opening scope step ctx w)
  { scope, step, given := ctx, before := w, result := done.1.1, left := leaving step done.1,
    after := done.2
    calls := ((e.handling step ctx).exchanges answer (opening scope step ctx w)).filterMap
      (Exchange.call? (below (inside scope w))) }

def closed (i : Invocation σ) : World σ := close i.after i.opened.id i.completion

def aborts (scope : Scope) (i : Invocation σ) : Bool :=
  i.outcome.isFailed && e.policy scope i.step == .abort

def recordList (nested : Scope → Nested σ) (below : Scope → Recorder σ) (scope : Scope) : Recorder σ
  | [], _, _ => []
  | step :: rest, ctx, w =>
    let i := e.recordStep nested below scope step ctx w
    if e.aborts scope i then [i] else i :: recordList nested below scope rest i.left (closed i)

def recordNested : Nat → Scope → Recorder σ
  | 0, _, _, _, _ => []
  | depth + 1, scope, steps, ctx, w =>
    e.recordList (e.runNested depth) (recordNested depth) scope steps ctx w

def recordTop : Scope → Recorder σ := e.recordNested (e.config.maxDepth + 1)

/-! ## One level at a time -/

section Level

variable (nested : Scope → Nested σ) (below : Scope → Recorder σ) (scope : Scope)

/-- A step does what its record says. -/
theorem runStep_eq (step : Step) (ctx : Context) (w : World σ) :
    e.runStep nested scope step ctx w =
      (((e.recordStep nested below scope step ctx w).outcome, (e.recordStep nested below scope step ctx w).left),
        closed (e.recordStep nested below scope step ctx w)) := by
  have hi : e.invoke (nested (inside scope w)) step ctx (opening scope step ctx w) =
      (e.handling step ctx).run (e.services.answer (nested (inside scope w))) (opening scope step ctx w) := by
    unfold invoke handling
    cases e.registry.resolve step <;> rfl
  unfold runStep
  dsimp only
  split
  · rename_i r left after hok
    have hd : (e.handling step ctx).run (e.services.answer (nested (inside scope w))) (opening scope step ctx w) =
        ((.ok r, left), after) := hi.symm.trans hok
    simp only [recordStep, hd, Invocation.outcome, Invocation.completion, Invocation.durationMs, Invocation.opened,
      leaving, closed]
  · rename_i err left after herr
    have hd : (e.handling step ctx).run (e.services.answer (nested (inside scope w))) (opening scope step ctx w) =
        ((.error err, left), after) := hi.symm.trans herr
    simp only [recordStep, hd, Invocation.outcome, Invocation.completion, Invocation.durationMs, Invocation.opened,
      leaving, closed]

/-- A list does what its first step does and, unless that ends it, what the rest does. -/
theorem runList_cons (step : Step) (rest : List Step) (ctx : Context) (w : World σ) :
    e.runList nested scope (step :: rest) ctx w =
      let i := e.recordStep nested below scope step ctx w
      let after := e.runList nested scope rest i.left (closed i)
      if e.aborts scope i then (({ outcomes := [i.outcome], aborted := true }, i.left), closed i)
      else (({ after.1.1 with outcomes := i.outcome :: after.1.1.outcomes }, after.1.2), after.2) := by
  simp only [runList, e.runStep_eq nested below]
  rfl

theorem recordList_cons (step : Step) (rest : List Step) (ctx : Context) (w : World σ) :
    e.recordList nested below scope (step :: rest) ctx w =
      let i := e.recordStep nested below scope step ctx w
      if e.aborts scope i then [i] else i :: e.recordList nested below scope rest i.left (closed i) := rfl

/-- What a list reports are the outcomes of what it invokes. -/
theorem runList_outcomes (steps : List Step) (ctx : Context) (w : World σ) :
    (e.runList nested scope steps ctx w).1.1.outcomes =
      (e.recordList nested below scope steps ctx w).map (·.outcome) := by
  induction steps generalizing ctx w with
  | nil => rfl
  | cons step rest ih =>
    rw [e.runList_cons nested below, recordList_cons]
    by_cases ha : e.aborts scope (e.recordStep nested below scope step ctx w) = true
    · simp only [ha, if_true, List.map_cons, List.map_nil]
    · simp only [ha, Bool.false_eq_true, if_false, List.map_cons, ih]

/-- A list that a handler asks for is answered, and recorded, one level down. -/
theorem of_mem_calls {step : Step} {ctx : Context} {w : World σ} {c : Call σ}
    (hc : c ∈ (e.recordStep nested below scope step ctx w).calls) :
    ∃ v, c.answer = (nested (inside scope w) c.steps c.given v).1.1 ∧
      c.left = (nested (inside scope w) c.steps c.given v).1.2 ∧
      c.ran = below (inside scope w) c.steps c.given v := by
  obtain ⟨x, hx, hcall⟩ := List.mem_filterMap.mp hc
  have ha := Task.answer_of_mem_exchanges _ hx
  obtain ⟨v, q, a⟩ := x
  cases q with
  | runSteps steps given =>
    obtain ⟨answer, left⟩ := a
    simp only [Exchange.call?, Option.some.injEq] at hcall
    subst hcall
    have hn : (answer, left) = (nested (inside scope w) steps given v).1 := ha
    exact ⟨v, congrArg Prod.fst hn, congrArg Prod.snd hn, rfl⟩
  | _ => simp [Exchange.call?] at hcall

end Level

/-! ## All levels -/

theorem runNested_succ (depth : Nat) (scope : Scope) (steps : List Step) (ctx : Context) (w : World σ) :
    e.runNested (depth + 1) scope steps ctx w =
      ((.ok (e.runList (e.runNested depth) scope steps ctx w).1.1,
        (e.runList (e.runNested depth) scope steps ctx w).1.2),
        (e.runList (e.runNested depth) scope steps ctx w).2) := rfl

/-- What holds of no invocation, of one after another, and of one invocation when it
    holds of the lists below, holds of every list at every depth. -/
theorem record_law {P : Scope → Context → World σ → List (Invocation σ) → Context → World σ → Prop}
    (nil : ∀ scope ctx w, P scope ctx w [] ctx w)
    (cons : ∀ {scope ctx w i ctx₁ w₁ rest ctx₂ w₂}, P scope ctx w [i] ctx₁ w₁ → P scope ctx₁ w₁ rest ctx₂ w₂ →
      P scope ctx w (i :: rest) ctx₂ w₂)
    (step : ∀ depth, (∀ scope steps ctx w, P scope ctx w (e.recordNested depth scope steps ctx w)
        (e.runNested depth scope steps ctx w).1.2 (e.runNested depth scope steps ctx w).2) →
      ∀ scope step ctx w, let i := e.recordStep (e.runNested depth) (e.recordNested depth) scope step ctx w
        P scope ctx w [i] i.left (closed i)) :
    ∀ depth scope steps ctx w, P scope ctx w (e.recordNested depth scope steps ctx w)
      (e.runNested depth scope steps ctx w).1.2 (e.runNested depth scope steps ctx w).2 := by
  intro depth
  induction depth with
  | zero => intro scope steps ctx w; exact nil scope ctx w
  | succ depth ih =>
    intro scope steps
    -- the list goes on where its first step ends, one level above the lists of `ih`
    induction steps with
    | nil => intro ctx w; exact nil scope ctx w
    | cons s rest ihl =>
      intro ctx w
      have h1 := step depth ih scope s ctx w
      simp only [recordNested, runNested_succ, e.runList_cons (e.runNested depth) (e.recordNested depth),
        recordList_cons] at ihl ⊢
      by_cases ha : e.aborts scope (e.recordStep (e.runNested depth) (e.recordNested depth) scope s ctx w) = true
      · simpa only [ha, if_true] using h1
      · simp only [ha, Bool.false_eq_true, if_false]
        exact cons h1 (ihl _ _)

/-- What holds of the invocation of any step, and of what stands below a scope when it
    holds there, holds of the invocations of every list at every depth. -/
theorem record_forall {Q : Scope → Invocation σ → Prop}
    (step : ∀ depth scope step ctx w,
      Q scope (e.recordStep (e.runNested depth) (e.recordNested depth) scope step ctx w))
    (up : ∀ scope (w : World σ) i, Q (inside scope w) i → Q scope i)
    (depth : Nat) (scope : Scope) (steps : List Step) (ctx : Context) (w : World σ) :
    ∀ i ∈ Invocation.preorder (e.recordNested depth scope steps ctx w), Q scope i := by
  refine e.record_law (P := fun scope _ _ ran _ _ => ∀ i ∈ Invocation.preorder ran, Q scope i) ?_ ?_ ?_
    depth scope steps ctx w
  · intro scope ctx w
    simp
  · intro scope ctx w i ctx₁ w₁ rest ctx₂ w₂ h₁ h₂
    rw [Invocation.preorder_cons]
    exact fun j hj => (List.mem_append.mp hj).elim (h₁ j) (h₂ j)
  · intro depth ih scope s ctx w i j hj
    rw [Invocation.preorder_singleton] at hj
    rcases List.mem_cons.mp hj with rfl | hj
    · exact step depth scope s ctx w
    · obtain ⟨c, hc, hjc⟩ := Invocation.mem_preorder_children.mp hj
      obtain ⟨v, -, -, hran⟩ := e.of_mem_calls _ _ scope hc
      exact up scope w j (ih (inside scope w) c.steps c.given v j (hran ▸ hjc))

/-- An invocation stands at the top of its list or was asked for by the handler of another. -/
theorem mem_or_mem_children (depth : Nat) (scope : Scope) (steps : List Step) (ctx : Context) (w : World σ) :
    ∀ k ∈ Invocation.preorder (e.recordNested depth scope steps ctx w), k ∈ e.recordNested depth scope steps ctx w ∨
      ∃ p ∈ Invocation.preorder (e.recordNested depth scope steps ctx w), k ∈ p.children := by
  refine e.record_law (P := fun _ _ _ ran _ _ => ∀ k ∈ Invocation.preorder ran, k ∈ ran ∨
    ∃ p ∈ Invocation.preorder ran, k ∈ p.children) ?_ ?_ ?_ depth scope steps ctx w
  · intro scope ctx w
    simp
  · intro scope ctx w i ctx₁ w₁ rest ctx₂ w₂ h₁ h₂ k hk
    rw [Invocation.preorder_cons] at hk ⊢
    rcases List.mem_append.mp hk with hk | hk
    · rcases h₁ k hk with hk | ⟨p, hp, hkp⟩
      · exact .inl (List.mem_singleton.mp hk ▸ List.mem_cons_self ..)
      · exact .inr ⟨p, List.mem_append_left _ hp, hkp⟩
    · rcases h₂ k hk with hk | ⟨p, hp, hkp⟩
      · exact .inl (List.mem_cons_of_mem _ hk)
      · exact .inr ⟨p, List.mem_append_right _ hp, hkp⟩
  · intro depth ih scope step ctx w i k hk
    rw [Invocation.preorder_singleton] at hk ⊢
    rcases List.mem_cons.mp hk with rfl | hk
    · exact .inl (List.mem_cons_self ..)
    · obtain ⟨c, hc, hkc⟩ := Invocation.mem_preorder_children.mp hk
      obtain ⟨v, -, -, hran⟩ := e.of_mem_calls _ _ scope hc
      right
      rcases ih (inside scope w) c.steps c.given v k (hran ▸ hkc) with hk | ⟨p, hp, hkp⟩
      · exact ⟨i, List.mem_cons_self .., List.mem_flatMap.mpr ⟨c, hc, hran ▸ hk⟩⟩
      · have hmem := Invocation.mem_preorder_children.mpr ⟨c, hc, hran ▸ hp⟩
        exact ⟨p, List.mem_cons_of_mem _ hmem, hkp⟩

/-- An invocation of a list is that of one of its steps, with the lists below it one level
    down. -/
theorem recordStep_of_mem {depth : Nat} {scope : Scope} {steps : List Step} {ctx : Context} {w : World σ}
    {i : Invocation σ} (hi : i ∈ e.recordNested depth scope steps ctx w) : ∃ left step given before,
      depth = left + 1 ∧ step ∈ steps ∧
        i = e.recordStep (e.runNested left) (e.recordNested left) scope step given before := by
  cases depth with
  | zero => cases hi
  | succ left =>
    induction steps generalizing ctx w with
    | nil => cases hi
    | cons step rest ih =>
      simp only [recordNested, recordList_cons] at hi ih
      split at hi
      · exact ⟨left, step, ctx, w, rfl, List.mem_cons_self .., List.mem_singleton.mp hi⟩
      · rcases List.mem_cons.mp hi with rfl | hi
        · exact ⟨left, step, ctx, w, rfl, List.mem_cons_self .., rfl⟩
        · obtain ⟨left, s, given, before, hdepth, hs, rfl⟩ := ih hi
          exact ⟨left, s, given, before, hdepth, List.mem_cons_of_mem _ hs, rfl⟩

/-- The invocations of a list stand in its scope. -/
theorem scope_of_mem {depth : Nat} {scope : Scope} {steps : List Step} {ctx : Context} {w : World σ}
    {i : Invocation σ} (hi : i ∈ e.recordNested depth scope steps ctx w) : i.scope = scope := by
  obtain ⟨left, step, given, before, -, -, rfl⟩ := e.recordStep_of_mem hi
  rfl

/-- The invocations of a list are of its steps. -/
theorem step_of_mem {depth : Nat} {scope : Scope} {steps : List Step} {ctx : Context} {w : World σ}
    {i : Invocation σ} (hi : i ∈ e.recordNested depth scope steps ctx w) : i.step ∈ steps := by
  obtain ⟨left, step, given, before, -, hs, rfl⟩ := e.recordStep_of_mem hi
  exact hs

/-- The lists that a handler asks for stand under the entry of its invocation. -/
theorem scope_of_mem_children (depth : Nat) (scope : Scope) (steps : List Step) (ctx : Context) (w : World σ) :
    ∀ p ∈ Invocation.preorder (e.recordNested depth scope steps ctx w), ∀ k ∈ p.children,
      k.scope = inside p.scope p.before := by
  refine e.record_forall (Q := fun _ p => ∀ k ∈ p.children, k.scope = inside p.scope p.before) ?_
    (fun _ _ _ h => h) depth scope steps ctx w
  intro depth scope step ctx w k hk
  obtain ⟨c, hc, hkc⟩ := List.mem_flatMap.mp hk
  obtain ⟨v, -, -, hran⟩ := e.of_mem_calls _ _ scope hc
  exact e.scope_of_mem (hran ▸ hkc)

theorem parent_of_mem_children (depth : Nat) (scope : Scope) (steps : List Step) (ctx : Context) (w : World σ)
    {p k : Invocation σ} (hp : p ∈ Invocation.preorder (e.recordNested depth scope steps ctx w))
    (hk : k ∈ p.children) : k.entry.parent = some p.entry.id := by
  rw [k.entry_parent, e.scope_of_mem_children depth scope steps ctx w p hp k hk, p.entry_id]
  rfl

end Engine

/-! ## What lasts -/

/-- What holds for good: it is the clock that decides it, or a panic that has happened. -/
structure World.Lasting {σ : Type} (P : World σ → Prop) : Prop where
  change : ∀ {w w' : World σ}, w'.now = w.now → w'.clock = w.clock → (w.panicked = true → w'.panicked = true) →
    P w → P w'
  later : ∀ {w : World σ}, P w → P w.later

/-- What holds before the invocations, or where one of them ended, holds after them. -/
structure World.Lasts {σ : Type} (P : World σ → Prop) (w : World σ) (ran : List (Invocation σ)) (w' : World σ) :
    Prop where
  start : P w → P w'
  within : ∀ i ∈ Invocation.preorder ran, P i.after → P w'

namespace World

variable {σ : Type} {P : World σ → Prop} {w w₁ w₂ w₃ : World σ} {ran more : List (Invocation σ)}

theorem Lasts.none (h : P w₁ → P w₂) : Lasts P w₁ [] w₂ := ⟨h, by simp⟩

theorem Lasts.append (h₁ : Lasts P w₁ ran w₂) (h₂ : Lasts P w₂ more w₃) : Lasts P w₁ (ran ++ more) w₃ := by
  refine ⟨fun h => h₂.start (h₁.start h), fun i hi h => ?_⟩
  rw [Invocation.preorder_append] at hi
  rcases List.mem_append.mp hi with hi | hi
  · exact h₂.start (h₁.within i hi h)
  · exact h₂.within i hi h

theorem Lasting.guarded (hP : Lasting P) {α β : Type} {fault : Option ServiceError}
    {result : Except ServiceError (α × β)} {put : β → World σ} (hnow : ∀ b, (put b).now = w.now)
    (hclock : ∀ b, (put b).clock = w.clock) (hpanicked : ∀ b, w.panicked = true → (put b).panicked = true) (h : P w) :
    P (Services.guarded fault result put w).2 := by
  unfold Services.guarded
  split
  · exact h
  · exact h
  · exact hP.change (hnow _) (hclock _) (hpanicked _) h

/-- A question, and the list that runs if it asks for one. -/
theorem Lasting.exchange (hP : Lasting P) (s : Services σ) {nested : Nested σ}
    {below : List Step → Context → World σ → List (Invocation σ)}
    (hnested : ∀ steps ctx w, Lasts P w (below steps ctx w) (nested steps ctx w).2) (x : Exchange (World σ)) :
    Lasts P x.state ((x.call? below).toList.flatMap (·.ran)) (s.answer nested x.question x.state).2 := by
  obtain ⟨w, q, a⟩ := x
  have hkept : ∀ {w' : World σ}, w'.now = w.now → w'.clock = w.clock →
      (w.panicked = true → w'.panicked = true) → P w → P w'.later := fun hnow hclock hpanicked h =>
    hP.later (hP.change hnow hclock hpanicked h)
  cases q with
  | createRecord type fields =>
    exact .none fun h => hP.later (hP.guarded (fun _ => rfl) (fun _ => rfl) (fun _ hp => hp) h)
  | updateRecord type id fields =>
    exact .none fun h => hP.later (hP.guarded (fun _ => rfl) (fun _ => rfl) (fun _ hp => hp) h)
  | findRecords type query =>
    refine .none fun h => hP.later (hP.guarded (fun _ => rfl) (fun _ => rfl) (fun _ hp => ?_) h)
    exact Bool.or_eq_true_iff.mpr (.inl hp)
  | sendMail message =>
    exact .none fun h => hP.later (hP.guarded (fun _ => rfl) (fun _ => rfl) (fun _ hp => hp) h)
  | callApi request => exact .none (hkept rfl rfl id)
  | generate request => exact .none (hkept rfl rfl id)
  | clock => exact .none (hkept rfl rfl id)
  | runSteps steps ctx =>
    obtain ⟨answer, left⟩ := a
    have hran := hnested steps ctx w
    rw [Exchange.call?, Option.toList_some, List.flatMap_singleton]
    exact ⟨fun h => hP.later (hran.start h), fun i hi h => hP.later (hran.within i hi h)⟩

end World

namespace Engine

variable {σ : Type} (e : Engine σ) {P : World σ → Prop}

/-- What holds for good when a list begins, or when one of its invocations ends, holds when the list ends. -/
theorem lasts (hP : World.Lasting P) : ∀ depth scope steps ctx (w : World σ),
    World.Lasts P w (e.recordNested depth scope steps ctx w) (e.runNested depth scope steps ctx w).2 := by
  refine e.record_law (P := fun _ _ w ran _ w' => World.Lasts P w ran w') ?_ ?_ ?_
  · intro scope ctx w
    exact .none id
  · intro scope ctx w i ctx₁ w₁ rest ctx₂ w₂ h₁ h₂
    exact h₁.append h₂
  · intro depth ih scope step ctx w i
    have hopen : P w → P (opening scope step ctx w) := hP.change rfl rfl id
    have hclosed : P i.after → P (closed i) := hP.change rfl rfl id
    have hbelow : World.Lasts P (opening scope step ctx w) i.children i.after :=
      Task.exchanges_law (fun _ => .none id) World.Lasts.append (e.handling step ctx) _ fun x _ =>
        hP.exchange e.services (fun steps ctx w' => ih (inside scope w) steps ctx w') x
    refine ⟨fun h => hclosed (hbelow.start (hopen h)), fun j hj h => hclosed ?_⟩
    rw [Invocation.preorder_singleton] at hj
    rcases List.mem_cons.mp hj with rfl | hj
    · exact h
    · exact hbelow.within j hj h

/-! ## The ways into the engine -/

/-- A call that is not turned down, on a context and a world: the list that it runs, the
    context that the list starts in, what is reported of the list, and what is left.
    Steps that belong to no workflow are run without saying whether the list was cut. -/
inductive Served (ctx : Context) (w : World σ) :
    Scope → List Step → Context → StepsRun → Context → World σ → Prop
  | execute {wf : Workflow} {s : RunSummary} {w' : World σ} : e.execute wf ctx w = (.ok s, w') →
      Served ctx w { workflowId := wf.id, onError := wf.onError } wf.orderedSteps (Context.seedTrigger ctx)
        ⟨s.steps, s.aborted⟩ s.context w'
  | executeFrom {wf : Workflow} {id : String} {steps : List Step} {s : RunSummary} {w' : World σ} :
      stepsFrom? wf.orderedSteps id = some steps → e.executeFrom wf ctx id w = (.ok s, w') →
      Served ctx w { workflowId := wf.id, onError := wf.onError } steps (Context.seedTrigger ctx)
        ⟨s.steps, s.aborted⟩ s.context w'
  | executeSteps {id : WorkflowId} {steps : List Step} {outcomes : List StepOutcome} {ctx' : Context}
      {w' : World σ} : e.executeSteps id steps ctx w = ((outcomes, ctx'), w') →
      Served ctx w { workflowId := id } steps ctx
        ⟨outcomes, (e.runTop { workflowId := id } steps ctx w).1.1.aborted⟩ ctx' w'

/-- A workflow that is not turned down runs its steps in their order. -/
theorem execute_eq {wf : Workflow} (ctx : Context) (w : World σ) (h : e.checkRunnable wf = .ok ()) :
    e.execute wf ctx w =
      (.ok (e.runWorkflow wf wf.orderedSteps ctx w).1, (e.runWorkflow wf wf.orderedSteps ctx w).2) := by
  simp only [execute, h]

namespace Served

variable {e} {ctx start ctx' : Context} {w w' : World σ} {scope : Scope} {steps : List Step} {run : StepsRun}

/-- A call that is not turned down runs its list one level above the deepest nesting. -/
theorem runNested_eq (h : e.Served ctx w scope steps start run ctx' w') :
    e.runNested (e.config.maxDepth + 1) scope steps start w = ((.ok run, ctx'), w') := by
  cases h with
  | @execute wf s w' h =>
    simp only [Engine.execute] at h
    split at h
    · cases h
    · cases h; rfl
  | @executeFrom wf id steps s w' hs h =>
    simp only [Engine.executeFrom, hs] at h
    split at h
    · cases h
    · cases h; rfl
  | executeSteps h => cases h; rfl

end Served

end Engine

/-! ## A run with branches, loops, failures and aborts -/

namespace Sample

def services : Services Unit where
  callApi := fun _ u => (.error (.storage "unreachable"), u)
  generate := fun _ u => (.error (.storage "unreachable"), u)

def engine : Engine Unit := { registry := Handler.registry, services }

/-- A loop whose second step has no handler and ends each iteration before the third. -/
def loop : Step :=
  { id := "each", kind := .forEach, config := [("sourceArray", .string "items")]
    children := [{ id := "lost", kind := .custom "MYSTERY", onError := some .abort },
      { id := "first", kind := .trigger, order := -1 }, { id := "never", kind := .trigger, order := 1 }] }

/-- The loop in a branch, a step of the other branch, and a step that fails before the last. -/
def workflow : Workflow :=
  { id := ⟨"sample", by decide⟩, name := "Sample", createdAt := ⟨0, 0⟩, updatedAt := ⟨0, 0⟩
    steps := [
      { id := "check", kind := .condition, config := [("field", .string "items")]
        children := [loop, { id := "other", kind := .trigger, config := [("when", .bool false)] }] },
      { id := "poor", kind := .forEach },
      { id := "last", kind := .trigger }] }

def context : Context := [("items", .array [.bool true, .bool false])]

def world : World Unit := { now := ⟨0, 0⟩, outside := () }

def ran : List (Invocation Unit) :=
  Invocation.preorder (engine.recordTop { workflowId := workflow.id, onError := workflow.onError }
    workflow.orderedSteps (Context.seedTrigger context) world)

def summary : RunSummary := (engine.runWorkflow workflow workflow.orderedSteps context world).1

def after : World Unit := (engine.runWorkflow workflow workflow.orderedSteps context world).2

theorem engine_registry : engine.registry = Handler.registry := by simp only [engine]

theorem executes : engine.execute workflow context world = (.ok summary, after) :=
  engine.execute_eq context world rfl

end Sample

end Stepflow
