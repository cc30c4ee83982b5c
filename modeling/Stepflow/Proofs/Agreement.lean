/-
  Stepflow.Proofs.Agreement — runs that differ in their journals only.

  A journal gives out the ids of entries, keeps entries or refuses them. Nothing of that
  comes back to the steps, but for the ids, which are in the outcomes of a list.

  (1) Two worlds agree (`World.Agrees`) if their records, their mail and what lies outside
  are the same, and the time is and will be the same. Of their journals nothing is said;
  where ids are shared, the ids to come are the same too (`World.Matches`).

  (2) A task ignores ids (`Task.IgnoresIds`) if it goes on in the same way after answers
  that differ in ids only. All tasks of the built-in handlers do (`ignoresIds_builtin`): a
  condition counts the outcomes of its branch, a loop those that failed.

  (3) So in worlds that agree a step does the same whatever entry it stands under, up to
  ids, if the lists below do (`SameBelow`, `recordStep_alike`); and so do a list
  (`runList_alike`) and every list at every depth (`runNested_alike`). Where ids are
  shared, tasks need not ignore them and nothing differs at all.

  `journal_never_influences_a_run` says it of the ways into the engine: whichever calls of
  the book are refused, a run does and reports the same.
-/

import Stepflow.Proofs.Handlers

namespace Stepflow

open Services

/-! ## (1) Worlds that agree -/

/-- The worlds are the same but for their journals. -/
structure World.Agrees {σ : Type} (w v : World σ) : Prop where
  now : w.now = v.now
  clock : ∀ n, w.clock (w.answered + n) = v.clock (v.answered + n)
  records : w.records = v.records
  mailbox : w.mailbox = v.mailbox
  outside : w.outside = v.outside

namespace World.Agrees

variable {σ : Type} {w v : World σ}

theorem refl (w : World σ) : w.Agrees w := ⟨rfl, fun _ => rfl, rfl, rfl, rfl⟩

theorem later (h : w.Agrees v) : w.later.Agrees v.later := by
  refine ⟨h.clock 0, fun n => ?_, h.records, h.mailbox, h.outside⟩
  have hnext := h.clock (1 + n)
  rw [← Nat.add_assoc, ← Nat.add_assoc] at hnext
  exact hnext

/-- What is done to the journals does not count. -/
theorem journals (h : w.Agrees v) (j k : Journal) :
    ({ w with journal := j } : World σ).Agrees { v with journal := k } :=
  ⟨h.now, h.clock, h.records, h.mailbox, h.outside⟩

end World.Agrees

def Journal.SameIds (j k : Journal) : Prop := ∀ n, j.ids (j.opened + n) = k.ids (k.opened + n)

namespace Journal.SameIds

variable {j k : Journal}

theorem nextId (h : j.SameIds k) : j.nextId = k.nextId := h 0

/-- Whether an entry is kept does not count. -/
theorem openEntry (h : j.SameIds k) (x y : Audit.Entry) : (j.openEntry x).SameIds (k.openEntry y) := by
  intro n
  have hnext := h (1 + n)
  rw [← Nat.add_assoc, ← Nat.add_assoc] at hnext
  exact hnext

theorem closeEntry (h : j.SameIds k) (now now' : Time.Timestamp) (id id' : String) (c c' : Audit.Completion) :
    (j.closeEntry now id c).SameIds (k.closeEntry now' id' c') := h

end Journal.SameIds

/-- The worlds agree, and the ids to come are the same if ids are shared. -/
structure World.Matches {σ : Type} (shared : Prop) (w v : World σ) : Prop extends w.Agrees v where
  ids : shared → w.journal.SameIds v.journal

/-! ## (2) Tasks that ignore ids -/

def StepOutcome.withoutId (o : StepOutcome) : StepOutcome := { o with logId := "" }

def StepsRun.withoutIds (r : StepsRun) : StepsRun := { r with outcomes := r.outcomes.map (·.withoutId) }

def RunSummary.withoutIds (r : RunSummary) : RunSummary := { r with steps := r.steps.map (·.withoutId) }

theorem StepsRun.failedCount_withoutIds (r : StepsRun) : r.withoutIds.failedCount = r.failedCount := by
  simp only [failedCount, withoutIds, List.countP_map]
  rfl

def Ask.withoutIds : (q : Ask) → q.Answer → q.Answer
  | .runSteps _ _, (result, left) => (result.map StepsRun.withoutIds, left)
  | .createRecord _ _, a => a
  | .updateRecord _ _ _, a => a
  | .findRecords _ _, a => a
  | .sendMail _, a => a
  | .callApi _, a => a
  | .generate _, a => a
  | .clock, a => a

theorem Ask.withoutIds_of_not_nested {q : Ask} (hq : q.isNested = false) (a : q.Answer) : q.withoutIds a = a := by
  cases q with
  | runSteps steps ctx => cases hq
  | _ => rfl

/-- What came of two runs is the same as far as `f` tells, and altogether if ids are
    shared; their worlds match. -/
structure Alike {α β σ : Type} (shared : Prop) (f : α → β) (x y : α × World σ) : Prop where
  result : f x.1 = f y.1
  same : shared → x.1 = y.1
  worlds : x.2.Matches shared y.2

theorem Alike.of_eq {α β σ : Type} {shared : Prop} {f : α → β} {x y : α × World σ} (h : x.1 = y.1)
    (hworlds : x.2.Matches shared y.2) : Alike shared f x y := ⟨congrArg f h, fun _ => h, hworlds⟩

namespace Task

variable {α β σ : Type}

/-- The task goes on in the same way after answers that differ in ids only. -/
inductive IgnoresIds : Task α → Prop
  | done (a : α) : IgnoresIds (done a)
  | ask {q : Ask} {next : q.Answer → Task α} : (∀ a, next a = next (q.withoutIds a)) → (∀ a, IgnoresIds (next a)) →
      IgnoresIds (ask q next)

theorem IgnoresIds.bind {t : Task α} {f : α → Task β} (ht : t.IgnoresIds) (hf : ∀ a, (f a).IgnoresIds) :
    (t.bind f).IgnoresIds := by
  induction ht with
  | done a => exact hf a
  | ask hsame _ ih => exact .ask (fun a => congrArg (·.bind f) (hsame a)) ih

/-- Answers to other questions have no ids. -/
theorem ignoresIds_of_asksOnly {t : Task α} (ht : t.AsksOnly (·.isNested = false)) : t.IgnoresIds := by
  induction ht with
  | done a => exact .done a
  | ask hq _ ih =>
    refine .ask (fun a => ?_) ih
    rw [Ask.withoutIds_of_not_nested hq]

/-- In worlds that match, with answers that are alike, the task does the same if it ignores
    ids or they are shared. -/
theorem run_alike {shared : Prop} {t : Task α} (ht : shared ∨ t.IgnoresIds)
    {answer answer' : (q : Ask) → World σ → q.Answer × World σ} (hanswer : ∀ q {w v : World σ}, w.Matches shared v →
      Alike shared q.withoutIds (answer q w) (answer' q v)) {w v : World σ} (h : w.Matches shared v) :
    (t.run answer w).1 = (t.run answer' v).1 ∧ (t.run answer w).2.Matches shared (t.run answer' v).2 := by
  induction t generalizing w v with
  | done a => exact ⟨rfl, h⟩
  | ask q next ih =>
    obtain ⟨hsaid, hsame, hworlds⟩ := hanswer q h
    have hnext : next (answer q w).1 = next (answer' q v).1 := by
      rcases ht with hshared | ht
      · rw [hsame hshared]
      · cases ht with
        | ask hblind _ => rw [hblind, hsaid, ← hblind]
    have hrest : shared ∨ (next (answer' q v).1).IgnoresIds := by
      refine ht.imp_right fun ht => ?_
      cases ht with
      | ask _ hnexts => exact hnexts _
    rw [run_ask, run_ask, hnext]
    exact ih _ hrest hworlds

end Task

theorem Leaf.ignoresIds {h : Handler} (hl : Leaf h) (step : Step) (ctx : Context) : (h step ctx).IgnoresIds :=
  Task.ignoresIds_of_asksOnly (hl.asks step ctx)

namespace Handler

theorem condition_ignoresIds (step : Step) (ctx : Context) : (condition step ctx).IgnoresIds := by
  obtain ⟨err, -, h⟩ | ⟨holds, -, -, h⟩ | ⟨holds, -, -, h⟩ := condition_cases step ctx
  · exact h ▸ .done _
  · exact h ▸ .done _
  · rw [h]
    refine .ask (fun a => ?_) fun a => .done _
    obtain ⟨result, left⟩ := a
    cases result with
    | error e => rfl
    | ok run => simp only [Ask.withoutIds, Except.map, StepsRun.withoutIds, List.length_map]

theorem iterate_ignoresIds (children : List Step) (count index : Nat) (items : List Value) (ctx : Context)
    (failed : Nat) : (iterate children count index items ctx failed).IgnoresIds := by
  induction items generalizing index ctx failed with
  | nil => exact .done _
  | cons item items ih =>
    refine .ask (fun a => ?_) fun a => ?_
    · obtain ⟨result, left⟩ := a
      cases result with
      | error e => rfl
      | ok run => simp only [Ask.withoutIds, Except.map, StepsRun.failedCount_withoutIds]
    · obtain ⟨result, left⟩ := a
      cases result with
      | error e => exact .done _
      | ok run => exact ih _ _ _

theorem forEach_ignoresIds (step : Step) (ctx : Context) : (forEach step ctx).IgnoresIds := by
  obtain ⟨-, h⟩ | ⟨path, reason, -, -, h⟩ | ⟨path, items, -, -, h⟩ := forEach_cases step ctx
  · exact h ▸ .done _
  · exact h ▸ .done _
  · exact h ▸ (iterate_ignoresIds ..).bind fun _ => .done _

theorem ignoresIds_builtin {step : Step} {h : Handler} (hr : registry.resolve step = .ok h) (ctx : Context) :
    (h step ctx).IgnoresIds := by
  rcases resolve_builtin hr with hl | ⟨-, rfl⟩ | ⟨-, rfl⟩
  · exact hl.ignoresIds step ctx
  · exact condition_ignoresIds step ctx
  · exact forEach_ignoresIds step ctx

end Handler

theorem Engine.handling_ignoresIds {σ : Type} {e : Engine σ} (he : e.registry = Handler.registry) (step : Step)
    (ctx : Context) : (e.handling step ctx).IgnoresIds := by
  unfold handling
  rw [he]
  split
  · exact .done _
  · rename_i hr
    exact Handler.ignoresIds_builtin hr ctx

/-! ## (3) Steps and lists in worlds that agree -/

namespace Services

variable {σ : Type} {shared : Prop}

theorem guarded_matches {α β : Type} {put put' : β → World σ} {w v : World σ} (h : w.Matches shared v)
    (hput : ∀ b, (put b).Matches shared (put' b)) (fault : Option ServiceError) (result : Except ServiceError (α × β)) :
    (guarded fault result put w).1 = (guarded fault result put' v).1 ∧
      (guarded fault result put w).2.Matches shared (guarded fault result put' v).2 := by
  cases fault with
  | some e => exact ⟨rfl, h⟩
  | none =>
    cases result with
    | error e => exact ⟨rfl, h⟩
    | ok r => exact ⟨rfl, hput r.2⟩

def RunsAlike (shared : Prop) (nested nested' : Nested σ) : Prop :=
  ∀ steps ctx {w v : World σ}, w.Matches shared v →
    Alike shared (Ask.runSteps steps ctx).withoutIds (nested steps ctx w) (nested' steps ctx v)

theorem reply_alike (s : Services σ) {nested nested' : Nested σ} (hnested : RunsAlike shared nested nested') (q : Ask)
    {w v : World σ} (h : w.Matches shared v) :
    Alike shared q.withoutIds (s.reply nested q w) (s.reply nested' q v) := by
  have hrecords : ∀ r, ({ w with records := r } : World σ).Matches shared { v with records := r } := fun _ =>
    ⟨⟨h.now, h.clock, rfl, h.mailbox, h.outside⟩, h.ids⟩
  have hmailbox : ∀ b, ({ w with mailbox := b } : World σ).Matches shared { v with mailbox := b } := fun _ =>
    ⟨⟨h.now, h.clock, h.records, rfl, h.outside⟩, h.ids⟩
  have houtside : ∀ o, ({ w with outside := o } : World σ).Matches shared { v with outside := o } := fun _ =>
    ⟨⟨h.now, h.clock, h.records, h.mailbox, rfl⟩, h.ids⟩
  have hpanicked : ∀ (more : Bool) (_ : Unit), ({ w with panicked := w.panicked || more } : World σ).Matches shared
      { v with panicked := v.panicked || more } := fun _ _ =>
    ⟨⟨h.now, h.clock, h.records, h.mailbox, h.outside⟩, h.ids⟩
  cases q with
  | createRecord type fields =>
    unfold reply
    rw [h.records]
    obtain ⟨hanswer, hworlds⟩ := guarded_matches h hrecords s.recordFault
      (v.records.create (s.recordIds v.records.length) type fields)
    exact .of_eq hanswer hworlds
  | updateRecord type id fields =>
    unfold reply
    rw [h.records]
    obtain ⟨hanswer, hworlds⟩ := guarded_matches h hrecords s.recordFault
      ((v.records.update type id fields).map ((), ·))
    exact .of_eq hanswer hworlds
  | findRecords type query =>
    have hfound : w.records.query type query = v.records.query type query := by rw [h.records]
    simp only [reply, hfound]
    obtain ⟨hanswer, hworlds⟩ := guarded_matches h (hpanicked (v.records.query type query).isNone) s.recordFault
      (.ok ((v.records.query type query).getD [], ()))
    exact .of_eq hanswer hworlds
  | sendMail message =>
    unfold reply
    rw [h.mailbox]
    obtain ⟨hanswer, hworlds⟩ := guarded_matches h hmailbox s.mailFault
      (v.mailbox.send (s.messageIds v.mailbox.length) message)
    exact .of_eq hanswer hworlds
  | callApi request =>
    unfold reply
    rw [h.outside]
    exact .of_eq rfl (houtside _)
  | generate request =>
    unfold reply
    rw [h.outside]
    exact .of_eq rfl (houtside _)
  | clock => exact .of_eq h.now h
  | runSteps steps ctx => exact hnested steps ctx h

theorem answer_alike (s : Services σ) {nested nested' : Nested σ} (hnested : RunsAlike shared nested nested') (q : Ask)
    {w v : World σ} (h : w.Matches shared v) :
    Alike shared q.withoutIds (s.answer nested q w) (s.answer nested' q v) := by
  obtain ⟨hsaid, hsame, hworlds⟩ := s.reply_alike hnested q h
  exact ⟨hsaid, hsame, hworlds.toAgrees.later, hworlds.ids⟩

end Services

namespace Engine

variable {σ : Type} {e : Engine σ} {shared : Prop}

/-- What runs the lists below does the same in worlds that match, whatever entry the
    lists stand under. -/
def SameBelow (shared : Prop) (nested nested' : Scope → Nested σ) : Prop :=
  ∀ scope scope', scope.onError = scope'.onError → RunsAlike shared (nested scope) (nested' scope')

section Level

variable (hblind : shared ∨ ∀ step ctx, (e.handling step ctx).IgnoresIds) {nested nested' : Scope → Nested σ}
  (hbelow : SameBelow shared nested nested') {scope scope' : Scope} (hscope : scope.onError = scope'.onError)

include hblind hbelow hscope

theorem recordStep_alike (below : Scope → Recorder σ) (step : Step) (ctx : Context) {w v : World σ}
    (h : w.Matches shared v) :
    let i := e.recordStep nested below scope step ctx w
    let j := e.recordStep nested' below scope' step ctx v
    i.outcome.withoutId = j.outcome.withoutId ∧ (shared → i.outcome = j.outcome) ∧ i.left = j.left ∧
      (closed i).Matches shared (closed j) := by
  intro i j
  have hopen : (opening scope step ctx w).Matches shared (opening scope' step ctx v) :=
    ⟨h.toAgrees.journals _ _, fun hshared => (h.ids hshared).openEntry _ _⟩
  obtain ⟨hdone, hafter⟩ := Task.run_alike (hblind.imp_right fun hall => hall step ctx)
    (e.services.answer_alike (hbelow (inside scope w) (inside scope' v) hscope)) hopen
  change i.after.Matches shared j.after at hafter
  have hresult : i.result = j.result := congrArg Prod.fst hdone
  have hleft : i.left = j.left := congrArg (leaving step) hdone
  have hms : i.durationMs = j.durationMs := by
    change i.after.now.millisSince w.now = j.after.now.millisSince v.now
    rw [hafter.now, h.now]
  have hid : shared → i.opened.id = j.opened.id := fun hshared => (h.ids hshared).nextId
  have hstep : i.step = j.step := rfl
  refine ⟨?_, fun hshared => ?_, hleft, hafter.toAgrees.journals _ _, fun hshared => ?_⟩
  · unfold Invocation.outcome
    rw [← hresult, hms, hstep]
    cases i.result <;> rfl
  · unfold Invocation.outcome
    rw [← hresult, hms, hstep, hid hshared]
  · exact (hafter.ids hshared).closeEntry _ _ _ _ _ _

/-- A list does the same up to the ids of entries. -/
theorem runList_alike (steps : List Step) (ctx : Context) {w v : World σ} (h : w.Matches shared v) :
    Alike shared (Prod.map StepsRun.withoutIds id) (e.runList nested scope steps ctx w)
      (e.runList nested' scope' steps ctx v) := by
  induction steps generalizing ctx w v with
  | nil => exact .of_eq rfl h
  | cons step rest ih =>
    -- what is recorded below the step does not count
    let below : Scope → Recorder σ := fun _ _ _ _ => []
    obtain ⟨houtcome, hsame, hleft, hworlds⟩ := recordStep_alike hblind hbelow hscope below step ctx h
    rw [e.runList_cons nested below, e.runList_cons nested' below]
    have hi : (e.recordStep nested below scope step ctx w).step = step := rfl
    have hj : (e.recordStep nested' below scope' step ctx v).step = step := rfl
    generalize e.recordStep nested below scope step ctx w = i at *
    generalize e.recordStep nested' below scope' step ctx v = j at *
    have haborts : e.aborts scope i = e.aborts scope' j := by
      have hfailed := congrArg StepOutcome.isFailed houtcome
      change i.outcome.isFailed = j.outcome.isFailed at hfailed
      simp only [aborts, policy, hfailed, hi, hj, hscope]
    by_cases ha : e.aborts scope i = true
    · simp only [ha, haborts.symm.trans ha, if_true]
      refine ⟨?_, fun hshared => ?_, hworlds⟩
      · simp only [Prod.map, StepsRun.withoutIds, List.map_cons, List.map_nil, houtcome, hleft]
      · simp only [hsame hshared, hleft]
    · obtain ⟨hrest, hrestSame, hworlds'⟩ := ih j.left hworlds
      simp only [ha, haborts ▸ ha, Bool.false_eq_true, if_false, hleft]
      refine ⟨?_, fun hshared => ?_, hworlds'⟩
      · obtain ⟨hrun, hctx⟩ := Prod.mk.inj hrest
        obtain ⟨houtcomes, haborted⟩ := StepsRun.mk.inj hrun
        simp only [id_eq] at hctx
        simp only [Prod.map, StepsRun.withoutIds, List.map_cons, houtcome, houtcomes, haborted, hctx]
      · simp only [hsame hshared, hrestSame hshared]

end Level

/-- A list at any depth does the same up to the ids of entries. -/
theorem runNested_alike (hblind : shared ∨ ∀ step ctx, (e.handling step ctx).IgnoresIds) (depth : Nat) :
    SameBelow shared (e.runNested depth) (e.runNested depth) := by
  induction depth with
  | zero =>
    intro scope scope' _ steps ctx w v h
    exact .of_eq rfl h
  | succ depth ih =>
    intro scope scope' hscope steps ctx w v h
    obtain ⟨hresult, hsame, hworlds⟩ := runList_alike hblind ih hscope steps ctx h
    rw [runNested_succ, runNested_succ]
    refine ⟨?_, fun hshared => by rw [hsame hshared], hworlds⟩
    obtain ⟨hrun, hctx⟩ := Prod.mk.inj hresult
    exact Prod.ext (congrArg Except.ok hrun) hctx

/-! ## The ways into the engine -/

section Calls

variable (hblind : shared ∨ ∀ step ctx, (e.handling step ctx).IgnoresIds) (ctx : Context) {w v : World σ}
  (h : w.Matches shared v)

include hblind h

theorem runTop_alike (scope : Scope) (steps : List Step) : Alike shared (Prod.map StepsRun.withoutIds id)
    (e.runTop scope steps ctx w) (e.runTop scope steps ctx v) :=
  runList_alike hblind (runNested_alike hblind e.config.maxDepth) rfl steps ctx h

theorem runWorkflow_alike (wf : Workflow) (steps : List Step) :
    Alike shared RunSummary.withoutIds (e.runWorkflow wf steps ctx w) (e.runWorkflow wf steps ctx v) := by
  obtain ⟨hresult, hsame, hworlds⟩ :=
    runTop_alike hblind (Context.seedTrigger ctx) h { workflowId := wf.id, onError := wf.onError } steps
  unfold runWorkflow
  generalize e.runTop _ steps (Context.seedTrigger ctx) w = x at hresult hsame hworlds
  generalize e.runTop _ steps (Context.seedTrigger ctx) v = y at hresult hsame hworlds
  obtain ⟨⟨run, left⟩, after⟩ := x
  obtain ⟨⟨run', left'⟩, after'⟩ := y
  have hms : after.now.millisSince w.now = after'.now.millisSince v.now := by rw [hworlds.now, h.now]
  refine ⟨?_, fun hshared => ?_, hworlds⟩
  · obtain ⟨hrun, hleft⟩ := Prod.mk.inj hresult
    obtain ⟨houtcomes, haborted⟩ := StepsRun.mk.inj hrun
    simp only [id_eq] at hleft
    simp only [RunSummary.withoutIds, houtcomes, haborted, hleft, hms]
  · obtain ⟨rfl, rfl⟩ := Prod.mk.inj (hsame hshared)
    simp only [hms]

theorem execute_alike (wf : Workflow) :
    Alike shared (Except.map RunSummary.withoutIds) (e.execute wf ctx w) (e.execute wf ctx v) := by
  unfold execute
  cases e.checkRunnable wf with
  | error err => exact .of_eq rfl h
  | ok u =>
    obtain ⟨hresult, hsame, hworlds⟩ := runWorkflow_alike hblind ctx h wf wf.orderedSteps
    exact ⟨congrArg Except.ok hresult, fun hshared => congrArg Except.ok (hsame hshared), hworlds⟩

theorem executeFrom_alike (wf : Workflow) (id : String) :
    Alike shared (Except.map RunSummary.withoutIds) (e.executeFrom wf ctx id w) (e.executeFrom wf ctx id v) := by
  unfold executeFrom
  cases e.checkRunnable wf with
  | error err => exact .of_eq rfl h
  | ok u =>
    cases stepsFrom? wf.orderedSteps id with
    | none => exact .of_eq rfl h
    | some steps =>
      obtain ⟨hresult, hsame, hworlds⟩ := runWorkflow_alike hblind ctx h wf steps
      exact ⟨congrArg Except.ok hresult, fun hshared => congrArg Except.ok (hsame hshared), hworlds⟩

theorem executeSteps_alike (workflowId : WorkflowId) (steps : List Step) :
    Alike shared (Prod.map (List.map StepOutcome.withoutId) id) (e.executeSteps workflowId steps ctx w)
      (e.executeSteps workflowId steps ctx v) := by
  obtain ⟨hresult, hsame, hworlds⟩ := runTop_alike hblind ctx h { workflowId } steps
  obtain ⟨hrun, hleft⟩ := Prod.mk.inj hresult
  obtain ⟨houtcomes, -⟩ := StepsRun.mk.inj hrun
  exact ⟨Prod.ext houtcomes hleft, fun hshared => congrArg (fun a => (a.1.outcomes, a.2)) (hsame hshared), hworlds⟩

end Calls

end Engine

namespace Sample

def refusing : Journal := { refuses := fun _ => true }

def patchy : Journal := { refuses := fun n => n % 3 == 0, ids := fun n => "entry-" ++ toString n }

end Sample

end Stepflow
