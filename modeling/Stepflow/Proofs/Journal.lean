/-
  Stepflow.Proofs.Journal — the audit journal accounts for every invocation of a run.

  The book may refuse an entry (its id is taken) or a call (the way to it fails), and
  nobody notices. A journal that keeps what it is told (`Keeps`) never refuses a call,
  and the ids it has yet to give are new. From there on:

  (1) Opening adds an entry at the end (`openEntry_keeps`); closing finds that entry
  behind all older ones and before all that were opened since (`update_append`), and
  replaces it where it stands.

  (2) What a list of invocations does to the journal (`Kept`): the book grows by their
  entries, closed, in the order in which they began, and each has taken the next id. It
  composes (`Kept.append`), and one invocation does it when the lists below do
  (`kept_step`); so every list at every depth does (`kept`).

  (3) An entry names the entry of the invocation whose handler asked for its list, at the
  top none (`top_of_no_parent`).

  `run_has_one_entry_per_invocation` puts this together for every way into the engine.
-/

import Stepflow.Proofs.Trail
import Mathlib.Data.List.Nodup
import Mathlib.Data.List.Range
import Std.Data.String.ToNat

namespace Stepflow

open Services

/-! ## Entries opened and closed -/

namespace Audit.Book

theorem create_fresh {b : Book} {e : Entry} (h : ∀ x ∈ b, x.id ≠ e.id) : b.create e = .ok (b ++ [e]) := by
  have hany : b.any (·.id == e.id) = false := by
    simpa only [List.any_eq_false, beq_iff_eq] using h
  simp only [create, hany, Bool.false_eq_true, if_false]

theorem get?_append {b rest : Book} {e : Entry} (h : ∀ x ∈ b, x.id ≠ e.id) :
    get? (b ++ e :: rest) e.id = some e := by
  have hnone : b.find? (·.id == e.id) = none := by
    simpa only [List.find?_eq_none, beq_iff_eq] using h
  simp only [get?, List.find?_append, hnone, Option.none_or, List.find?_cons, beq_self_eq_true]

theorem replaceFirst_append {b rest : Book} {e new : Entry} (h : ∀ x ∈ b, x.id ≠ e.id) :
    replaceFirst (b ++ e :: rest) e.id new = b ++ new :: rest := by
  induction b with
  | nil => simp only [List.nil_append, replaceFirst, beq_self_eq_true, if_true]
  | cons x b ih =>
    have hx : (x.id == e.id) = false := by simpa using h x (List.mem_cons_self ..)
    simp only [List.cons_append, replaceFirst, hx, Bool.false_eq_true, if_false,
      ih fun y hy => h y (List.mem_cons_of_mem _ hy)]

/-- The open entry of an id is closed where it stands. -/
theorem update_append {b rest : Book} {e : Entry} (h : ∀ x ∈ b, x.id ≠ e.id) (he : e.status.isTerminal = false)
    (now : Time.Timestamp) (c : Completion) :
    update (b ++ e :: rest) now e.id c = .ok (e.closed now c, b ++ e.closed now c :: rest) := by
  simp only [update, get?_append h, Entry.complete, he, Bool.false_eq_true, if_false, replaceFirst_append h]

end Audit.Book

/-- A journal that keeps what it is told: no call is refused, and the ids to come are
    distinct and name no entry of the book. -/
structure Journal.Keeps (j : Journal) : Prop where
  accepts : ∀ n, j.refuses n = false
  distinct : ∀ m n, j.opened ≤ m → j.opened ≤ n → j.ids m = j.ids n → m = n
  fresh : ∀ n, j.opened ≤ n → ∀ x ∈ j.book, x.id ≠ j.ids n

namespace Journal

/-- A journal that is new keeps what it is told. -/
theorem new_keeps : ({} : Journal).Keeps := by
  refine ⟨fun _ => rfl, fun m n _ _ h => ?_, fun _ _ x hx => nomatch hx⟩
  have hrepr : (m + 1).repr = (n + 1).repr := (String.append_right_inj "log-").mp h
  have := Nat.repr_inj.mp hrepr
  omega

structure Kept {σ : Type} (j : Journal) (ran : List (Invocation σ)) (j' : Journal) : Prop where
  book : j'.book = j.book ++ (Invocation.preorder ran).map (·.entry)
  opened : j'.opened = j.opened + (Invocation.preorder ran).length
  refuses : j'.refuses = j.refuses
  ids : j'.ids = j.ids
  numbered : (Invocation.preorder ran).map (·.entry.id) =
    (List.range' j.opened (Invocation.preorder ran).length).map j.ids

variable {σ : Type} {j j₁ j₂ : Journal} {ran more : List (Invocation σ)}

theorem Kept.refl (j : Journal) : Kept j ([] : List (Invocation σ)) j := by
  constructor <;> simp

theorem Kept.append (h₁ : Kept j ran j₁) (h₂ : Kept j₁ more j₂) : Kept j (ran ++ more) j₂ := by
  refine ⟨?_, ?_, h₂.refuses.trans h₁.refuses, h₂.ids.trans h₁.ids, ?_⟩
  · rw [h₂.book, h₁.book, Invocation.preorder_append, List.map_append, List.append_assoc]
  · rw [h₂.opened, h₁.opened, Invocation.preorder_append, List.length_append, Nat.add_assoc]
  · rw [Invocation.preorder_append, List.map_append, h₁.numbered, h₂.numbered, h₁.opened, h₁.ids,
      List.length_append, ← List.map_append, List.range'_append_1]

/-- The entries that are new have ids that were still to come. -/
theorem Kept.id_of_mem (h : Kept j ran j₁) {i : Invocation σ} (hi : i ∈ Invocation.preorder ran) :
    ∃ n, j.opened ≤ n ∧ n < j₁.opened ∧ i.entry.id = j.ids n := by
  have hmem : i.entry.id ∈ (List.range' j.opened (Invocation.preorder ran).length).map j.ids :=
    h.numbered ▸ List.mem_map_of_mem hi
  obtain ⟨n, hn, hid⟩ := List.mem_map.mp hmem
  obtain ⟨hlo, hhi⟩ := List.mem_range'_1.mp hn
  exact ⟨n, hlo, by rw [h.opened]; exact hhi, hid.symm⟩

theorem Kept.ids_nodup (h : Kept j ran j₁) (hj : j.Keeps) : ((Invocation.preorder ran).map (·.entry.id)).Nodup := by
  rw [h.numbered]
  refine List.Nodup.map_on (fun m hm n hn hmn => ?_) (List.nodup_range' ..)
  exact hj.distinct m n (List.mem_range'_1.mp hm).1 (List.mem_range'_1.mp hn).1 hmn

theorem Kept.entry_mem (h : Kept j ran j₁) {i : Invocation σ} (hi : i ∈ Invocation.preorder ran) :
    i.entry ∈ j₁.book := by
  rw [h.book]
  exact List.mem_append_right _ (List.mem_map_of_mem hi)

/-- The entry of an invocation is the only one of its id. -/
theorem Kept.entry_of_id (h : Kept j ran j₁) (hj : j.Keeps) {i : Invocation σ} (hi : i ∈ Invocation.preorder ran)
    {x : Audit.Entry} (hx : x ∈ j₁.book) (hid : x.id = i.entry.id) : x = i.entry := by
  rw [h.book] at hx
  rcases List.mem_append.mp hx with hx | hx
  · obtain ⟨n, hn, -, hin⟩ := h.id_of_mem hi
    exact absurd (hid.trans hin) (hj.fresh n hn x hx)
  · obtain ⟨k, hk, rfl⟩ := List.mem_map.mp hx
    exact congrArg (·.entry) (List.inj_on_of_nodup_map (h.ids_nodup hj) hk hi hid)

theorem Kept.keeps (h : Kept j ran j₁) (hj : j.Keeps) : j₁.Keeps := by
  have hle : j.opened ≤ j₁.opened := by rw [h.opened]; omega
  refine ⟨fun n => ?_, fun m n hm hn => ?_, fun n hn x hx => ?_⟩
  · rw [h.refuses]; exact hj.accepts n
  · rw [h.ids]; exact hj.distinct m n (by omega) (by omega)
  · rw [h.book] at hx
    rw [h.ids]
    rcases List.mem_append.mp hx with hx | hx
    · exact hj.fresh n (by omega) x hx
    · obtain ⟨i, hi, rfl⟩ := List.mem_map.mp hx
      obtain ⟨m, hm, hlt, hid⟩ := h.id_of_mem hi
      intro he
      have := hj.distinct m n hm (by omega) (hid.symm.trans he)
      omega

theorem openEntry_eq (hj : j.Keeps) {x : Audit.Entry} (hx : x.id = j.nextId) :
    j.openEntry x = { j with calls := j.calls + 1, opened := j.opened + 1, book := j.book ++ [x] } := by
  have hc : j.book.create x = .ok (j.book ++ [x]) :=
    Audit.Book.create_fresh fun y hy => hx ▸ hj.fresh j.opened (Nat.le_refl _) y hy
  simp only [openEntry, call, hj.accepts, Bool.false_eq_true, if_false, hc]
  rfl

theorem openEntry_keeps (hj : j.Keeps) {x : Audit.Entry} (hx : x.id = j.nextId) : (j.openEntry x).Keeps := by
  rw [openEntry_eq hj hx]
  refine ⟨hj.accepts, fun m n hm hn => ?_, fun n hn y hy => ?_⟩
  · exact hj.distinct m n (Nat.le_of_succ_le hm) (Nat.le_of_succ_le hn)
  · rcases List.mem_append.mp hy with hy | hy
    · exact hj.fresh n (Nat.le_of_succ_le hn) y hy
    · obtain rfl := List.mem_singleton.mp hy
      intro he
      have := hj.distinct j.opened n (Nat.le_refl _) (Nat.le_of_succ_le hn) (hx.symm.trans he)
      exact absurd hn (by simp only; omega)

end Journal

/-! ## What a run does to the journal -/

namespace Services

variable {σ : Type}

theorem guarded_journal {α β : Type} (fault : Option ServiceError) (result : Except ServiceError (α × β))
    (put : β → World σ) (w : World σ) (hput : ∀ b, (put b).journal = w.journal) :
    (guarded fault result put w).2.journal = w.journal := by
  unfold guarded
  split
  · rfl
  · rfl
  · exact hput _

/-- Only steps below a step reach the journal. -/
theorem answer_journal (s : Services σ) (nested : Nested σ) (q : Ask) (w : World σ)
    (hq : ∀ steps ctx, q ≠ .runSteps steps ctx) : (s.answer nested q w).2.journal = w.journal := by
  cases q with
  | runSteps steps ctx => exact absurd rfl (hq steps ctx)
  | createRecord type fields => exact guarded_journal _ _ _ w fun _ => rfl
  | updateRecord type id fields => exact guarded_journal _ _ _ w fun _ => rfl
  | findRecords type query => exact guarded_journal _ _ _ w fun _ => rfl
  | sendMail message => exact guarded_journal _ _ _ w fun _ => rfl
  | _ => rfl

end Services

namespace Engine

variable {σ : Type} (e : Engine σ)

/-- The entry that an invocation opens has the next id. -/
theorem opened_id (nested : Scope → Nested σ) (below : Scope → Recorder σ) (scope : Scope) (step : Step)
    (ctx : Context) (w : World σ) :
    (e.recordStep nested below scope step ctx w).opened.id = w.journal.nextId := rfl

/-- A handler's questions do to the journal what the lists that it asks for do. -/
theorem kept_task {α : Type} {nested : Nested σ} {below : Recorder σ}
    (hn : ∀ steps ctx (w : World σ), w.journal.Keeps →
      w.journal.Kept (below steps ctx w) (nested steps ctx w).2.journal)
    (t : Task α) (w : World σ) (hw : w.journal.Keeps) :
    w.journal.Kept
      (((t.exchanges (e.services.answer nested) w).filterMap (Exchange.call? below)).flatMap (·.ran))
      (t.run (e.services.answer nested) w).2.journal := by
  refine Task.exchanges_law (R := fun w ran w' => w.journal.Keeps → w.journal.Kept ran w'.journal)
    (fun w _ => Journal.Kept.refl w.journal) (fun h₁ h₂ hw => (h₁ hw).append (h₂ ((h₁ hw).keeps hw))) t w ?_ hw
  intro x _ hw
  obtain ⟨v, q, a⟩ := x
  cases q with
  | runSteps steps ctx =>
    simp only [Exchange.call?, Option.toList_some, List.flatMap_cons, List.flatMap_nil, List.append_nil]
    exact hn steps ctx v hw
  | _ =>
    rw [answer_journal _ _ _ _ (by simp)]
    exact Journal.Kept.refl _

/-- An invocation adds its entry before those of the lists below, and closes it there. -/
theorem kept_step {nested : Scope → Nested σ} {below : Scope → Recorder σ}
    (hn : ∀ scope steps ctx (w : World σ), w.journal.Keeps →
      w.journal.Kept (below scope steps ctx w) (nested scope steps ctx w).2.journal)
    (scope : Scope) (step : Step) (ctx : Context) (w : World σ) (hw : w.journal.Keeps) :
    w.journal.Kept [e.recordStep nested below scope step ctx w]
      (closed (e.recordStep nested below scope step ctx w)).journal := by
  have hid := e.opened_id nested below scope step ctx w
  have htask := e.kept_task (hn (inside scope w)) (e.handling step ctx) (opening scope step ctx w)
    (Journal.openEntry_keeps hw rfl)
  have hopen : (opening scope step ctx w).journal = _ := Journal.openEntry_eq hw rfl
  generalize hi : e.recordStep nested below scope step ctx w = i at hid ⊢
  have hchildren : (opening scope step ctx w).journal.Kept i.children i.after.journal := by
    subst hi; exact htask
  have hopened : entryOf scope step ctx w = i.opened := by subst hi; rfl
  rw [hopen, hopened] at hchildren
  have hentry : i.entry.id = w.journal.ids w.journal.opened := i.entry_id.trans hid
  have hfresh : ∀ x ∈ w.journal.book, x.id ≠ i.opened.id := fun x hx =>
    hid ▸ hw.fresh w.journal.opened (Nat.le_refl _) x hx
  have hbook : i.after.journal.book =
      w.journal.book ++ i.opened :: (Invocation.preorder i.children).map (·.entry) := by
    rw [hchildren.book, List.append_assoc, List.singleton_append]
  have hclosed : (closed i).journal = { i.after.journal with
      calls := i.after.journal.calls + 1
      book := w.journal.book ++ i.entry :: (Invocation.preorder i.children).map (·.entry) } := by
    have hacc : i.after.journal.refuses i.after.journal.calls = false := by
      rw [hchildren.refuses]; exact hw.accepts _
    simp only [closed, close, Journal.closeEntry, Journal.call, hacc, Bool.false_eq_true, if_false, hbook,
      Audit.Book.update_append hfresh rfl]
    rfl
  rw [hclosed]
  refine ⟨?_, ?_, hchildren.refuses, hchildren.ids, ?_⟩
  · rw [Invocation.preorder_singleton, List.map_cons]
  · rw [Invocation.preorder_singleton, List.length_cons]
    have := hchildren.opened
    simp only at this ⊢
    omega
  · rw [Invocation.preorder_singleton, List.map_cons, hchildren.numbered, hentry, List.length_cons,
      List.range'_succ, List.map_cons]

/-- Every list at every depth adds the entries of its invocations and nothing else. -/
theorem kept (depth : Nat) (scope : Scope) (steps : List Step) (ctx : Context) (w : World σ)
    (hw : w.journal.Keeps) :
    w.journal.Kept (e.recordNested depth scope steps ctx w) (e.runNested depth scope steps ctx w).2.journal :=
  e.record_law (P := fun _ _ w ran _ w' => w.journal.Keeps → w.journal.Kept ran w'.journal)
    (fun _ _ w _ => Journal.Kept.refl w.journal)
    (fun h₁ h₂ hw => (h₁ hw).append (h₂ ((h₁ hw).keeps hw)))
    (fun _ ih scope step ctx w hw => e.kept_step ih scope step ctx w hw)
    depth scope steps ctx w hw

/-- Below an invocation every list stands under an entry. -/
theorem parent_of_mem (depth : Nat) (scope : Scope) (steps : List Step) (ctx : Context) (w : World σ)
    (hs : scope.parent.isSome = true) :
    ∀ i ∈ Invocation.preorder (e.recordNested depth scope steps ctx w), i.scope.parent.isSome = true := by
  intro i hi
  exact e.record_forall (Q := fun scope i => scope.parent.isSome = true → i.scope.parent.isSome = true)
    (fun _ _ _ _ _ h => h) (fun _ _ _ h _ => h rfl) depth scope steps ctx w i hi hs

/-- Only the invocations of a list at the top have no parent. -/
theorem top_of_no_parent (depth : Nat) (scope : Scope) (steps : List Step) (ctx : Context) (w : World σ)
    (hs : scope.parent = none) : (Invocation.preorder (e.recordNested depth scope steps ctx w)).filter
      (·.scope.parent.isNone) = e.recordNested depth scope steps ctx w := by
  refine e.record_law (P := fun scope _ _ ran _ _ => scope.parent = none →
    (Invocation.preorder ran).filter (·.scope.parent.isNone) = ran) ?_ ?_ ?_ depth scope steps ctx w hs
  · intro scope ctx w _
    simp
  · intro scope ctx w i ctx₁ w₁ rest ctx₂ w₂ h₁ h₂ hs
    rw [Invocation.preorder_cons, List.filter_append, h₁ hs, h₂ hs, List.singleton_append]
  · intro depth _ scope step ctx w i hs
    have hnone : (Invocation.preorder i.children).filter (·.scope.parent.isNone) = [] := by
      refine List.filter_eq_nil_iff.mpr fun j hj => ?_
      obtain ⟨c, hc, hjc⟩ := Invocation.mem_preorder_children.mp hj
      obtain ⟨v, -, -, hran⟩ := e.of_mem_calls _ _ scope hc
      have hparent := e.parent_of_mem depth (inside scope w) c.steps c.given v rfl j (hran ▸ hjc)
      rwa [Option.isNone_iff_eq_none, ← Option.not_isSome_iff_eq_none, not_not]
    rw [Invocation.preorder_singleton, List.filter_cons, hnone]
    exact if_pos (Option.isNone_iff_eq_none.mpr hs)

theorem Served.parent_eq_none {ctx start ctx' : Context} {w w' : World σ} {scope : Scope} {steps : List Step}
    {run : StepsRun} (h : e.Served ctx w scope steps start run ctx' w') : scope.parent = none := by
  cases h <;> rfl

theorem Served.kept {ctx start ctx' : Context} {w w' : World σ} {scope : Scope} {steps : List Step} {run : StepsRun}
    (h : e.Served ctx w scope steps start run ctx' w') (hw : w.journal.Keeps) :
    w.journal.Kept (e.recordTop scope steps start w) w'.journal := by
  have hlist := e.kept (e.config.maxDepth + 1) scope steps start w hw
  rwa [h.runNested_eq] at hlist

end Engine

/-! ## What a run reports -/

structure Reports (o : StepOutcome) (x : Audit.Entry) : Prop where
  logId : o.logId = x.id
  stepId : o.stepId = x.stepId
  status : x.status = if o.isFailed then .failed else .success
  durationMs : x.durationMs = some o.durationMs
  error : x.error = o.error

namespace Invocation

variable {σ : Type} (i : Invocation σ)

theorem outcome_reports : Reports i.outcome i.entry := by
  unfold outcome
  cases hr : i.result <;>
    constructor <;>
    simp [entry, opened, Engine.entryOf, completion, hr, StepOutcome.isFailed, Audit.Entry.closed,
      Audit.Entry.started, Audit.Entry.withParent, Audit.Completion.status]

theorem entry_terminal : i.entry.status.isTerminal = true := by
  cases hr : i.result <;>
    simp [entry, completion, hr, Audit.Completion.status, Audit.Status.isTerminal]

end Invocation

/-! ## The account of a run -/

/-- A run over a journal that keeps what it is told leaves one new entry for each
    invocation that was opened, at any depth. The older entries come first and are as they
    were; the new ones follow in the order in which their invocations began, each closed,
    under an id of its own. An entry names the entry of the invocation whose handler asked
    for its list, and those at the top, which name none, are what the run reports. -/
theorem run_has_one_entry_per_invocation {σ : Type} {e : Engine σ} {ctx start ctx' : Context} {w w' : World σ}
    {scope : Scope} {steps : List Step} {run : StepsRun} (h : e.Served ctx w scope steps start run ctx' w')
    (hw : w.journal.Keeps) :
    let ran := e.recordTop scope steps start w
    let new := (Invocation.preorder ran).map (·.entry)
    w'.journal.book = w.journal.book ++ new ∧
      w'.journal.opened = w.journal.opened + new.length ∧
      (new.map (·.id)).Nodup ∧ (∀ x ∈ new, ∀ y ∈ w.journal.book, y.id ≠ x.id) ∧
      (∀ x ∈ new, x.status.isTerminal = true) ∧
      (∀ p ∈ Invocation.preorder ran, ∀ k ∈ p.children, k.entry.parent = some p.entry.id) ∧
      new.filter (·.parent.isNone) = ran.map (·.entry) ∧
      List.Forall₂ Reports run.outcomes (new.filter (·.parent.isNone)) := by
  intro ran new
  have hrun := h.runNested_eq
  have hkept : w.journal.Kept ran w'.journal := by
    have := e.kept (e.config.maxDepth + 1) scope steps start w hw
    rwa [hrun] at this
  have hids : new.map (·.id) = (List.range' w.journal.opened (Invocation.preorder ran).length).map w.journal.ids := by
    rw [← hkept.numbered, List.map_map]
    rfl
  have htop : new.filter (·.parent.isNone) = ran.map (·.entry) := by
    have htop := e.top_of_no_parent (e.config.maxDepth + 1) scope steps start w (h.parent_eq_none e)
    rw [List.filter_map]
    simp only [Function.comp_def, Invocation.entry_parent]
    exact congrArg (List.map (·.entry)) htop
  refine ⟨hkept.book, ?_, ?_, ?_, ?_, ?_, htop, ?_⟩
  · rw [hkept.opened, List.length_map]
  · rw [hids]
    refine List.Nodup.map_on (fun m hm n hn hmn => ?_) (List.nodup_range' ..)
    exact hw.distinct m n (List.mem_range'_1.mp hm).1 (List.mem_range'_1.mp hn).1 hmn
  · intro x hx y hy
    obtain ⟨i, hi, rfl⟩ := List.mem_map.mp hx
    obtain ⟨n, hn, -, hid⟩ := hkept.id_of_mem hi
    exact hid ▸ hw.fresh n hn y hy
  · intro x hx
    obtain ⟨i, -, rfl⟩ := List.mem_map.mp hx
    exact i.entry_terminal
  · intro p hp k hk
    exact e.parent_of_mem_children (e.config.maxDepth + 1) scope steps start w hp hk
  · have hout : run.outcomes = ran.map (·.outcome) := by
      have hlist := e.runList_outcomes (e.runNested e.config.maxDepth) (e.recordNested e.config.maxDepth)
        scope steps start w
      rw [e.runNested_succ] at hrun
      cases hrun
      exact hlist
    rw [htop, hout, List.forall₂_map_left_iff, List.forall₂_map_right_iff, List.forall₂_same]
    exact fun i _ => i.outcome_reports

/-- The entries of the sample run: those of both iterations under the loop, that of the
    loop under the branch, and none of the steps that were not reached. -/
theorem sample_run_has_its_entries :
    Sample.engine.execute Sample.workflow Sample.context Sample.world = (.ok Sample.summary, Sample.after) ∧
      Sample.world.journal.Keeps ∧
      Sample.after.journal.book = Sample.ran.map (·.entry) ∧
      (∀ x ∈ Sample.after.journal.book, x.status.isTerminal = true) ∧
      Sample.after.journal.book.map (fun x => (x.stepId, x.parent, x.status.name)) =
        [("check", none, "success"), ("each", some "log-1", "success"), ("first", some "log-2", "success"),
          ("lost", some "log-2", "failed"), ("first", some "log-2", "success"), ("lost", some "log-2", "failed"),
          ("poor", none, "failed"), ("last", none, "success")] := by
  obtain ⟨hbook, -, -, -, hterminal, -⟩ :=
    run_has_one_entry_per_invocation (.execute Sample.executes) Journal.new_keeps
  rw [show Sample.world.journal.book = [] from rfl, List.nil_append] at hbook
  refine ⟨Sample.executes, Journal.new_keeps, hbook, ?_, by decide +kernel⟩
  rw [hbook]
  exact hterminal

end Stepflow
