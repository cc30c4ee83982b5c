/-
  Stepflow.Proofs.Forest — what the audit book tells of who ran whom.

  (1) The entries below an entry, which the book lists by their parent, are those of the
  invocations that its handler asked for, in the order in which they began
  (`Engine.entries_below`).

  (2) What a step puts out about its lists is what came of them: a condition names its
  branch and counts what was invoked of it (`Engine.condition_told`), a loop counts its
  iterations and the failures in them (`Engine.loop_told`).

  (3) So an entry explains the entries below it (`Invocation.Explained`), and that of a
  step which asks for no lists, was skipped or failed has none.
-/

import Mathlib.Data.List.Perm.Subperm
import Stepflow.Proofs.Atomic
import Stepflow.Proofs.Reach
import Stepflow.Proofs.SideEffects

namespace Stepflow

open Services

/-! ## (1) Entries below an entry -/

theorem Audit.Book.list_parent (b : Audit.Book) (id : String) :
    b.list { parent := some id } = b.filter (·.parent == some id) :=
  List.filter_congr fun x _ => by simp [Query.accepts]

namespace Engine

variable {σ : Type} (e : Engine σ) {scope : Scope} {w : World σ}

/-- What has the entry of an invocation as parent is what its handler asked for. -/
theorem filter_parent {depth : Nat} {steps : List Step} {ctx : Context} (hs : scope.parent = none)
    (hw : w.journal.Keeps) {i : Invocation σ} (hi : i ∈ Invocation.preorder (e.recordNested depth scope steps ctx w)) :
    (Invocation.preorder (e.recordNested depth scope steps ctx w)).filter (·.entry.parent == some i.entry.id) =
      i.children := by
  have hnodup : (Invocation.preorder (e.recordNested depth scope steps ctx w)).Nodup :=
    ((e.kept depth scope steps ctx w hw).ids_nodup hw).of_map
  have hparent : ∀ k ∈ i.children, (k.entry.parent == some i.entry.id) = true := by
    intro k hk
    rw [beq_iff_eq]
    exact e.parent_of_mem_children depth scope steps ctx w hi hk
  have hsub := (Invocation.children_sublist_preorder hi).filter (·.entry.parent == some i.entry.id)
  rw [List.filter_eq_self.mpr hparent] at hsub
  refine (hsub.eq_of_length_le (List.subperm_of_subset (hnodup.filter _) fun k hk => ?_).length_le).symm
  obtain ⟨hk, hid⟩ := List.mem_filter.mp hk
  exact e.mem_children_of_parent hs hw hi hk (beq_iff_eq.mp hid)

/-- The book lists the entries of what the handler of an invocation asked for, unless an
    older entry named an id that was still to come. -/
theorem entries_below {ctx start ctx' : Context} {w' : World σ} {steps : List Step} {run : StepsRun}
    (h : e.Served ctx w scope steps start run ctx' w') (hw : w.journal.Keeps)
    (hold : ∀ x ∈ w.journal.book, ∀ n, w.journal.opened ≤ n → x.parent ≠ some (w.journal.ids n)) {i : Invocation σ}
    (hi : i ∈ Invocation.preorder (e.recordTop scope steps start w)) :
    w'.journal.book.list { parent := some i.entry.id } = i.children.map (·.entry) := by
  have hkept := h.kept e hw
  have hnone : w.journal.book.filter (·.parent == some i.entry.id) = [] := by
    refine List.filter_eq_nil_iff.mpr fun x hx hid => ?_
    obtain ⟨n, hn, -, hin⟩ := hkept.id_of_mem hi
    exact hold x hx n hn (hin ▸ beq_iff_eq.mp hid)
  rw [Audit.Book.list_parent, hkept.book, List.filter_append, hnone, List.nil_append, List.filter_map]
  exact congrArg (List.map (·.entry)) (e.filter_parent (h.parent_eq_none e) hw hi)

end Engine

/-! ## (2) Lists and what is told of them -/

def Audit.Entry.shows? (x : Audit.Entry) (key : String) : Option Value := x.parsed.bind (·.field? key)

def Audit.Entry.saysSkipped (x : Audit.Entry) : Bool := ((x.shows? "skipped").bind (·.bool?)).getD false

namespace Invocation

variable {σ : Type} {i : Invocation σ} {key : String}

theorem shows?_of_record {r : StepResult} {fields : List (String × Value)} (h : i.result = .ok r)
    (hparsed : r.parsed = .record fields) : i.entry.shows? key = (Table.ofList fields).get? key := by
  simp [Audit.Entry.shows?, Audit.Entry.closed, entry, completion, h, hparsed, Value.record, Value.field?,
    Value.fields?]

theorem shows?_of_condition {step : Step} {holds : Bool} {n : Nat}
    (h : i.result = .ok (Handler.conditionResult step holds n)) :
    i.entry.shows? "result" = some (.bool holds) ∧ i.entry.shows? "executed" = some (.count n) := by
  simp [shows?_of_record h rfl, Table.ofList, Table.insertAll, Table.get?_insert]

theorem shows?_of_loop {iterations failed : Nat} (h : i.result = .ok (Handler.loopResult iterations failed)) :
    i.entry.shows? "iterations" = some (.count iterations) ∧ i.entry.shows? "failed_steps" = some (.count failed) ∧
      i.entry.saysSkipped = false := by
  simp [Audit.Entry.saysSkipped, shows?_of_record h rfl, Table.ofList, Table.insertAll, Table.get?_insert, Table.get?]

theorem saysSkipped_of_skip {reason : String} (h : i.result = .ok (.skip reason)) : i.entry.saysSkipped = true := by
  simp [Audit.Entry.saysSkipped, shows?_of_record h rfl, Table.ofList, Table.insertAll, Table.get?_insert, Value.bool?]

/-- The entry of a success is that of an invocation that succeeded. -/
theorem of_succeededAs (h : i.entry.succeededAs key = true) : i.step.handlerKey = key ∧ ∃ r, i.result = .ok r := by
  cases hr : i.result with
  | error err =>
    rw [succeededAs_of_error hr] at h
    cases h
  | ok r =>
    rw [succeededAs_of_ok hr] at h
    exact ⟨beq_iff_eq.mp h, r, rfl⟩

theorem entry_failed_iff : i.entry.status = .failed ↔ i.outcome.isFailed = true := by
  cases hr : i.result <;>
    simp [entry, completion, outcome, hr, Audit.Completion.status, StepOutcome.isFailed]

/-- Entries of failures are those of invocations that failed. -/
theorem countP_failed (ran : List (Invocation σ)) :
    (ran.map (·.entry)).countP (·.status == .failed) = ran.countP (·.outcome.isFailed) := by
  rw [List.countP_map]
  refine List.countP_congr fun i _ => ?_
  simp only [Function.comp_apply, beq_iff_eq, entry_failed_iff]

end Invocation

/-- A loop that ends has had a list run for each of its items and has counted the failures. -/
theorem Rounds.counted {σ : Type} {children : List Step} {count index failed n : Nat} {items : List Value}
    {ctx left : Context} {calls : List (Call σ)} (h : Rounds children count index items ctx failed calls (.ok n, left))
    (hran : ∀ c ∈ calls, ∀ run, c.answer = .ok run → run.outcomes = c.ran.map (·.outcome)) :
    calls.length = items.length ∧ (∀ c ∈ calls, ∃ run, c.answer = .ok run) ∧
      n = failed + (calls.flatMap (·.ran)).countP (·.outcome.isFailed) := by
  generalize hout : (Except.ok n, left) = out at h
  induction h with
  | done index ctx failed =>
    cases hout
    exact ⟨rfl, by simp, rfl⟩
  | refused _ _ _ => cases hout
  | @next index item items ctx failed c run calls out _ _ hok _ ih =>
    obtain ⟨hlen, hall, hn⟩ := ih (fun d hd => hran d (List.mem_cons_of_mem _ hd)) hout
    have hfailed : run.failedCount = c.ran.countP (·.outcome.isFailed) := by
      rw [StepsRun.failedCount, hran c (List.mem_cons_self ..) run hok, List.countP_map]
      rfl
    rw [List.flatMap_cons, List.countP_append, List.length_cons, List.length_cons, hlen, hn, hfailed]
    exact ⟨rfl, List.forall_mem_cons.mpr ⟨⟨run, hok⟩, hall⟩, Nat.add_assoc ..⟩

/-- The lists of a loop are those of its iterations, one after the other. -/
theorem Rounds.loopData_of_getElem? {σ : Type} {children : List Step} {count index failed n : Nat} {items : List Value}
    {ctx : Context} {calls : List (Call σ)} {out : Except WorkflowError Nat × Context} {c : Call σ}
    (h : Rounds children count index items ctx failed calls out) (hc : calls[n]? = some c) :
    ∃ item, c.given.get? Context.loopKey = some (Handler.loopData item (index + n) count) := by
  induction h generalizing n with
  | done index ctx failed => simp at hc
  | @refused index item items ctx failed d err _ hgiven _ =>
    obtain ⟨rfl, rfl⟩ : n = 0 ∧ d = c := by simpa [List.getElem?_singleton] using hc
    exact ⟨item, by rw [hgiven, Table.get?_insert, if_pos rfl, Nat.add_zero]⟩
  | @next index item items ctx failed d run calls out _ hgiven _ _ ih =>
    cases n with
    | zero =>
      obtain rfl : d = c := by simpa using hc
      exact ⟨item, by rw [hgiven, Table.get?_insert, if_pos rfl, Nat.add_zero]⟩
    | succ n =>
      rw [List.getElem?_cons_succ] at hc
      rw [show index + (n + 1) = index + 1 + n by omega]
      exact ih hc

namespace Engine

variable {σ : Type} {e : Engine σ} {depth : Nat} {scope : Scope} {step : Step} {ctx : Context} {w : World σ}

/-- A list that was run reports its invocations, up to the first that ends it. -/
theorem reported_of_mem_calls {c : Call σ} {run : StepsRun}
    (hc : c ∈ (e.recordStep (e.runNested depth) (e.recordNested depth) scope step ctx w).calls)
    (hok : c.answer = .ok run) :
    run.outcomes = c.ran.map (·.outcome) ∧ Cut (e.policy scope) c.steps c.ran run.aborted := by
  obtain ⟨v, hanswer, -, hran⟩ := e.of_mem_calls _ _ scope hc
  cases depth with
  | zero =>
    rw [hok] at hanswer
    cases hanswer
  | succ depth =>
    obtain rfl : run = _ := Except.ok.inj (hok.symm.trans hanswer)
    rw [hran]
    exact ⟨e.runList_outcomes _ _ _ c.steps c.given v, e.list_cut _ _ (inside scope w) c.steps c.given v⟩

/-- A condition that succeeds names its branch and counts what was invoked of it. -/
theorem condition_told (hh : e.handling step ctx = Handler.condition step ctx) {r : StepResult}
    (hr : (e.recordStep (e.runNested depth) (e.recordNested depth) scope step ctx w).result = .ok r) :
    let i := e.recordStep (e.runNested depth) (e.recordNested depth) scope step ctx w
    ∃ holds aborted, r = Handler.conditionResult step holds i.children.length ∧
      Cut (e.policy scope) (Handler.branch step holds) i.children aborted := by
  intro i
  obtain ⟨err, -, h⟩ | ⟨holds, -, hb, h⟩ | ⟨holds, -, -, h⟩ := Handler.condition_cases step ctx
  · obtain ⟨-, hresult, -⟩ :=
      record_of_done (e.runNested depth) (e.recordNested depth) scope step ctx w (hh.trans h)
    rw [hr] at hresult
    cases hresult
  · obtain ⟨hcalls, hresult, -⟩ :=
      record_of_done (e.runNested depth) (e.recordNested depth) scope step ctx w (hh.trans h)
    have hchildren : i.children = [] := by rw [Invocation.children, hcalls, List.flatMap_nil]
    rw [hr] at hresult
    refine ⟨holds, false, ?_, ?_⟩ <;> rw [hchildren]
    · exact Except.ok.inj hresult
    · exact hb ▸ .nil
  · obtain ⟨c, hcalls, hsteps, -, hresult, -⟩ :=
      record_of_ask (e.runNested depth) (e.recordNested depth) scope step ctx w (hh.trans h)
    rw [hr] at hresult
    obtain ⟨run, hok, hrun⟩ := Except.ok_of_map hresult.symm
    obtain ⟨hout, hcut⟩ := reported_of_mem_calls (hcalls ▸ List.mem_cons_self ..) hok
    have hchildren : i.children = c.ran := by
      rw [Invocation.children, hcalls, List.flatMap_cons, List.flatMap_nil, List.append_nil]
    refine ⟨holds, run.aborted, ?_, ?_⟩ <;> rw [hchildren]
    · rw [hrun, hout, List.length_map]
    · exact hsteps ▸ hcut

/-- The lists that a loop asked for are those of its iterations: each stands in the data of
    its own and ran the steps below the loop, up to one that ends the list. -/
def IterationsOf (policy : Step → OnError) (step : Step) (calls : List (Call σ)) : Prop :=
  ∀ n c, calls[n]? = some c →
    (∃ item, c.given.get? Context.loopKey = some (Handler.loopData item n calls.length)) ∧
      ∃ aborted, Cut policy step.orderedChildren c.ran aborted

/-- A loop that succeeds was skipped and ran nothing, or it counts its iterations and the
    failures in them. -/
theorem loop_told (hh : e.handling step ctx = Handler.forEach step ctx) {r : StepResult}
    (hr : (e.recordStep (e.runNested depth) (e.recordNested depth) scope step ctx w).result = .ok r) :
    let i := e.recordStep (e.runNested depth) (e.recordNested depth) scope step ctx w
    (i.children = [] ∧ ∃ reason, r = .skip reason) ∨
      r = Handler.loopResult i.calls.length (i.children.countP (·.outcome.isFailed)) ∧
        IterationsOf (e.policy scope) step i.calls := by
  intro i
  obtain ⟨-, h⟩ | ⟨path, reason, -, -, h⟩ | ⟨path, items, -, -, h⟩ := Handler.forEach_cases step ctx
  · obtain ⟨-, hresult, -⟩ :=
      record_of_done (e.runNested depth) (e.recordNested depth) scope step ctx w (hh.trans h)
    rw [hr] at hresult
    cases hresult
  · obtain ⟨hcalls, hresult, -⟩ :=
      record_of_done (e.runNested depth) (e.recordNested depth) scope step ctx w (hh.trans h)
    rw [hr] at hresult
    exact .inl ⟨by rw [Invocation.children, hcalls, List.flatMap_nil], reason, Except.ok.inj hresult⟩
  · obtain ⟨out, hrounds, hresult, -⟩ :=
      record_of_iterate (e.runNested depth) (e.recordNested depth) scope step ctx w (hh.trans h)
    rw [hr] at hresult
    obtain ⟨n, hok, hn⟩ := Except.ok_of_map hresult.symm
    obtain ⟨result, left⟩ := out
    subst hok
    obtain ⟨hlen, hall, hcount⟩ := hrounds.counted fun c hc run hrun => (reported_of_mem_calls hc hrun).1
    refine .inr ⟨?_, fun n c hc => ⟨?_, ?_⟩⟩
    · rw [hn, hcount, ← hlen, Nat.zero_add]
      rfl
    · obtain ⟨item, hdata⟩ := hrounds.loopData_of_getElem? hc
      exact ⟨item, by rw [hdata, Nat.zero_add, hlen]⟩
    · have hmem := List.mem_of_getElem? hc
      obtain ⟨run, hrun⟩ := hall c hmem
      exact ⟨run.aborted, hrounds.steps_eq c hmem ▸ (reported_of_mem_calls hmem hrun).2⟩

end Engine

/-! ## (3) Entries that explain those below -/

theorem Cut.step_mem {σ : Type} {policy : Step → OnError} {steps : List Step} {ran : List (Invocation σ)}
    {aborted : Bool} (h : Cut policy steps ran aborted) : ∀ i ∈ ran, i.step ∈ steps := by
  intro i hi
  cases h with
  | whole _ => exact List.mem_map_of_mem hi
  | @short before last rest _ _ =>
    rw [List.mem_append, List.mem_singleton] at hi
    rcases hi with hi | rfl
    · exact List.mem_append_left _ (List.mem_map_of_mem hi)
    · exact List.mem_append_right _ (List.mem_cons_self ..)

/-- What the entry of an invocation tells of the invocations that its handler asked for. -/
structure Invocation.Explained {σ : Type} (policy : Step → OnError) (i : Invocation σ) : Prop where
  /-- Those of a condition are of the branch that it names, up to one that ends the list,
      and as many as it counts. -/
  branch : i.entry.succeededAs "CONDITION" = true → ∃ holds aborted,
    i.entry.shows? "result" = some (.bool holds) ∧ i.entry.shows? "executed" = some (.count i.children.length) ∧
      Cut policy (Handler.branch i.step holds) i.children aborted ∧ ∀ k ∈ i.children, Handler.branchOf k.step = holds
  /-- Those of a loop come in as many groups as it counts iterations, the group of each over
      the steps below it up to one that ends the list, and as many of them failed as it
      counts. -/
  loop : i.entry.succeededAs "FOR_EACH" = true → i.entry.saysSkipped = false →
    i.entry.shows? "iterations" = some (.count i.calls.length) ∧ i.children = (i.calls.map Call.ran).flatten ∧
      Engine.IterationsOf policy i.step i.calls ∧
      i.entry.shows? "failed_steps" = some (.count ((i.children.map (·.entry)).countP (·.status == .failed)))
  /-- There are none of any other step, of one that was skipped or of one that failed. -/
  alone : i.entry.status = .failed ∨ (i.entry.stepType ≠ "CONDITION" ∧ i.entry.stepType ≠ "FOR_EACH") ∨
    (i.entry.succeededAs "FOR_EACH" = true ∧ i.entry.saysSkipped = true) → i.children = []

namespace Engine

variable {σ : Type} {e : Engine σ} (he : e.registry = Handler.registry) {step : Step}

include he

theorem handling_condition (hk : step.handlerKey = "CONDITION") (ctx : Context) :
    e.handling step ctx = Handler.condition step ctx := by
  simp only [handling, he, Handler.resolve_condition hk]

theorem handling_loop (hk : step.handlerKey = "FOR_EACH") (ctx : Context) :
    e.handling step ctx = Handler.forEach step ctx := by
  simp only [handling, he, Handler.resolve_loop hk]

theorem calls_of_other (nested : Scope → Nested σ) (below : Scope → Recorder σ) (scope : Scope) (ctx : Context)
    (w : World σ) (hc : step.handlerKey ≠ "CONDITION") (hf : step.handlerKey ≠ "FOR_EACH") :
    (e.recordStep nested below scope step ctx w).calls = [] := by
  cases hr : Handler.registry.resolve step with
  | error err =>
    have hh : e.handling step ctx = .done (.error err, ctx) := by simp only [handling, he, hr]
    exact (record_of_done nested below scope step ctx w hh).1
  | ok h =>
    rcases Handler.resolve_builtin hr with hl | ⟨hk, -⟩ | ⟨hk, -⟩
    · have hh : e.handling step ctx = h step ctx := by simp only [handling, he, hr]
      exact calls_of_leaf nested below scope step ctx w hh hl
    · exact absurd hk hc
    · exact absurd hk hf

/-- The entry of a loop that succeeds says that it was skipped, and it ran nothing, or it
    tells of its iterations. -/
theorem loop_shows {depth : Nat} {scope : Scope} {ctx : Context} {w : World σ} {i : Invocation σ}
    (hi : i = e.recordStep (e.runNested depth) (e.recordNested depth) scope step ctx w)
    (h : i.entry.succeededAs "FOR_EACH" = true) : (i.entry.saysSkipped = true ∧ i.children = []) ∨
      i.entry.saysSkipped = false ∧ i.entry.shows? "iterations" = some (.count i.calls.length) ∧
        i.entry.shows? "failed_steps" = some (.count (i.children.countP (·.outcome.isFailed))) ∧
        IterationsOf (e.policy scope) step i.calls := by
  obtain ⟨hk, r, hr⟩ := Invocation.of_succeededAs h
  have hstep : i.step = step := congrArg (·.step) hi
  have htold := loop_told (handling_loop he (hstep ▸ hk) ctx) (hi ▸ hr)
  rw [← hi] at htold
  rcases htold with ⟨hnone, reason, rfl⟩ | ⟨rfl, hcuts⟩
  · exact .inl ⟨Invocation.saysSkipped_of_skip hr, hnone⟩
  · obtain ⟨hiterations, hfailed, hkept⟩ := Invocation.shows?_of_loop hr
    exact .inr ⟨hkept, hiterations, hfailed, hcuts⟩

theorem explained_step (depth : Nat) (scope : Scope) (step : Step) (ctx : Context) (w : World σ) :
    (e.recordStep (e.runNested depth) (e.recordNested depth) scope step ctx w).Explained (e.policy scope) := by
  generalize hi : e.recordStep (e.runNested depth) (e.recordNested depth) scope step ctx w = i
  have hstep : i.step = step := hi ▸ rfl
  refine ⟨fun h => ?_, fun h hkept => ?_, ?_⟩
  · obtain ⟨hk, r, hr⟩ := Invocation.of_succeededAs h
    have htold := condition_told (handling_condition he (hstep ▸ hk) ctx) (hi ▸ hr)
    rw [hi] at htold
    obtain ⟨holds, aborted, rfl, hcut⟩ := htold
    obtain ⟨hresult, hexecuted⟩ := Invocation.shows?_of_condition hr
    refine ⟨holds, aborted, hresult, hexecuted, hstep ▸ hcut, fun k hk => ?_⟩
    exact (Handler.mem_branch.mp (hcut.step_mem k hk)).2
  · rcases loop_shows he hi.symm h with ⟨hskipped, -⟩ | ⟨-, hiterations, hfailed, hcuts⟩
    · rw [hkept] at hskipped
      cases hskipped
    · refine ⟨hiterations, List.flatMap_def, hstep ▸ hcuts, ?_⟩
      rwa [Invocation.countP_failed]
  · rintro (hfailed | ⟨hc, hf⟩ | ⟨h, hskipped⟩)
    · have hnothing := failed_step he depth scope step ctx w
      rw [hi] at hnothing
      exact (hnothing (Invocation.entry_failed_iff.mp hfailed)).2.2.2
    · rw [Invocation.entry_stepType, hstep] at hc hf
      have hnone := calls_of_other he (e.runNested depth) (e.recordNested depth) scope ctx w hc hf
      rw [hi] at hnone
      rw [Invocation.children, hnone, List.flatMap_nil]
    · rcases loop_shows he hi.symm h with ⟨-, hnone⟩ | ⟨hkept, -⟩
      · exact hnone
      · rw [hkept] at hskipped
        cases hskipped

end Engine

/-! ## The forest of a run -/

/-- After a run over the built-in registry, in a journal that keeps what it is told and
    whose older entries name no id to come, the book lists below the entry of each
    invocation the entries of those that its handler asked for, and the entry explains
    them. Every step below a condition belongs to one of the two branches. -/
theorem log_forest_explains_itself {σ : Type} {e : Engine σ} {ctx start ctx' : Context} {w w' : World σ} {scope : Scope}
    {steps : List Step} {run : StepsRun} (he : e.registry = Handler.registry)
    (h : e.Served ctx w scope steps start run ctx' w') (hw : w.journal.Keeps)
    (hold : ∀ x ∈ w.journal.book, ∀ n, w.journal.opened ≤ n → x.parent ≠ some (w.journal.ids n)) :
    let ran := e.recordTop scope steps start w
    w'.journal.book = w.journal.book ++ (Invocation.preorder ran).map (·.entry) ∧
      ∀ i ∈ Invocation.preorder ran,
        w'.journal.book.list { parent := some i.entry.id } = i.children.map (·.entry) ∧
          i.Explained (e.policy scope) ∧ ∀ child ∈ i.step.children, ∃! holds, child ∈ Handler.branch i.step holds := by
  refine ⟨(h.kept e hw).book, fun i hi => ⟨e.entries_below h hw hold hi, ?_, fun child hchild => ?_⟩⟩
  · exact e.record_forall (Q := fun scope i => i.Explained (e.policy scope))
      (Engine.explained_step he) (fun _ _ _ h => h) (e.config.maxDepth + 1) scope steps start w i hi
  · refine ⟨Handler.branchOf child, Handler.mem_branch.mpr ⟨hchild, rfl⟩, fun holds hholds => ?_⟩
    exact (Handler.mem_branch.mp hholds).2.symm

/-- The branch of the sample run counts one invocation, the loop two iterations with a
    failure in each, and there is nothing below the others. -/
theorem sample_forest_explains_itself :
    Sample.engine.execute Sample.workflow Sample.context Sample.world = (.ok Sample.summary, Sample.after) ∧
      Sample.world.journal.Keeps ∧
      (∀ i ∈ Sample.ran, Sample.after.journal.book.list { parent := some i.entry.id } = i.children.map (·.entry) ∧
        i.Explained (Sample.engine.policy { workflowId := Sample.workflow.id, onError := Sample.workflow.onError })) ∧
      Sample.ran.map (fun i => (i.step.id, i.children.map (·.step.id),
          ["result", "executed", "iterations", "failed_steps"].filterMap fun key =>
            (i.entry.shows? key).map (·.text))) =
        [("check", ["each"], ["true", "1"]), ("each", ["first", "lost", "first", "lost"], ["2", "2"]),
          ("first", [], []), ("lost", [], []), ("first", [], []), ("lost", [], []), ("poor", [], []),
          ("last", [], [])] := by
  have hold : ∀ x ∈ Sample.world.journal.book, ∀ n, Sample.world.journal.opened ≤ n →
      x.parent ≠ some (Sample.world.journal.ids n) := fun x hx => nomatch hx
  obtain ⟨-, hall⟩ :=
    log_forest_explains_itself Sample.engine_registry (.execute Sample.executes) Journal.new_keeps hold
  refine ⟨Sample.executes, Journal.new_keeps, fun i hi => ?_, by decide +kernel⟩
  obtain ⟨hbelow, hexplained, -⟩ := hall i hi
  exact ⟨hbelow, hexplained⟩

end Stepflow
