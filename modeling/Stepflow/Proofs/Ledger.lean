/-
  Stepflow.Proofs.Ledger — the audit book under any sequence of calls.

  A call creates an entry, closes one, looks one up or lists some (`Call`). Entries come
  in as they are built, open (`Entry.Begun`); what they say of the end is written by one
  update.

  (1) What an entry says of the end agrees with its status (`Entry.Coherent`): of an entry
  as it is built (`Begun.coherent`), and of an open one when it is closed
  (`Coherent.closed`).

  (2) In a book without an id twice a call is answered by one of eight rules
  (`Answered`), which say what it leaves as well. A refusal leaves the book; a success
  adds one entry at the end or closes one where it stands.

  (3) So a call leaves a book without an id twice (`Answered.ids_nodup`), in which every
  entry has its place and what it said from the beginning, and a closed one has all that
  it said (`Answered.grows`). Runs do the same (`ids_nodup_run`, `grows_run`), and the
  entries of a run are those that it accepted, in order (`openings_run`).

  `book_is_written_once` puts this together.
-/

import Stepflow.Proofs.Journal

namespace Stepflow.Audit

open Time

/-! ## (1) Entries -/

theorem Status.isTerminal_eq_false_iff {s : Status} : s.isTerminal = false ↔ s = .started := by
  cases s <;> simp [isTerminal]

namespace Entry

inductive Begun : Entry → Prop
  | started (id : String) (workflowId : WorkflowId) (stepId stepType : String) (input : Value) (now : Timestamp) :
      Begun (.started id workflowId stepId stepType input now)
  | withParent {e : Entry} (parent : Option String) : Begun e → Begun (e.withParent parent)

/-- What the entry says from the beginning on: all but the end. -/
def opening (e : Entry) : Entry :=
  { e with
    status := .started, raw := none, parsed := none, durationMs := none, tokens := none, cost := none, error := none,
    completedAt := none }

theorem Begun.opening_eq {e : Entry} (h : e.Begun) : e.opening = e := by
  induction h with
  | started => rfl
  | withParent parent _ ih => exact congrArg (·.withParent parent) ih

theorem opening_closed (e : Entry) (now : Timestamp) (c : Completion) : (e.closed now c).opening = e.opening := by
  cases c <;> rfl

structure Coherent (e : Entry) : Prop where
  duration : e.durationMs = none ↔ e.status = .started
  time : e.completedAt = none ↔ e.status = .started
  error : e.error.isSome ↔ e.status = .failed
  raw : e.raw.isSome ↔ e.status = .success
  parsed : e.parsed.isSome ↔ e.status = .success
  tokens : e.tokens.isSome → e.status = .success
  cost : e.cost.isSome → e.status = .success

theorem Begun.coherent {e : Entry} (h : e.Begun) : e.Coherent := by
  induction h with
  | started => constructor <;> simp [Entry.started]
  | withParent parent _ ih => exact ⟨ih.duration, ih.time, ih.error, ih.raw, ih.parsed, ih.tokens, ih.cost⟩

/-- An open entry has nothing of the end, so what its completion does not write is absent. -/
theorem Coherent.closed {e : Entry} (h : e.Coherent) (hopen : e.status = .started) (now : Timestamp)
    (c : Completion) : (e.closed now c).Coherent := by
  have herror : e.error.isSome = false := by simpa [hopen] using h.error
  have hraw : e.raw.isSome = false := by simpa [hopen] using h.raw
  have hparsed : e.parsed.isSome = false := by simpa [hopen] using h.parsed
  have htokens : e.tokens.isSome = false := by simpa [hopen] using h.tokens
  have hcost : e.cost.isSome = false := by simpa [hopen] using h.cost
  cases c with
  | success raw parsed durationMs tokens cost =>
    constructor <;> simp [Entry.closed, Completion.status, herror]
  | failed error durationMs =>
    constructor <;> simp [Entry.closed, Completion.status, hraw, hparsed, htokens, hcost]

end Entry

namespace Book

structure Query.Matches (q : Query) (e : Entry) : Prop where
  workflow : ∀ id, q.workflowId = some id → e.workflowId = id
  step : ∀ id, q.stepId = some id → e.stepId = id
  status : ∀ s, q.status = some s → e.status = s
  parent : ∀ id, q.parent = some id → e.parent = some id
  top : q.topLevelOnly = true → e.parent = none

theorem Query.accepts_iff (q : Query) (e : Entry) : q.accepts e = true ↔ q.Matches e := by
  simp only [accepts, Bool.and_eq_true, Bool.or_eq_true, Option.all_eq_true, beq_iff_eq, Bool.not_eq_true',
    Option.isNone_iff_eq_none]
  constructor
  · rintro ⟨⟨⟨⟨hworkflow, hstep⟩, hstatus⟩, hparent⟩, htop⟩
    refine ⟨fun id h => (hworkflow id h).symm, fun id h => (hstep id h).symm, fun s h => (hstatus s h).symm, hparent,
      fun h => ?_⟩
    simpa [h] using htop
  · rintro ⟨hworkflow, hstep, hstatus, hparent, htop⟩
    refine ⟨⟨⟨⟨fun id h => (hworkflow id h).symm, fun id h => (hstep id h).symm⟩, fun s h => (hstatus s h).symm⟩,
      hparent⟩, ?_⟩
    cases h : q.topLevelOnly with
    | false => exact .inl rfl
    | true => exact .inr (htop h)

def Query.cut (q : Query) (found : List Entry) : List Entry :=
  match q.limit with
  | some n => found.take n
  | none => found

/-! ## (2) Calls -/

inductive Call where
  | create (e : Entry)
  | update (now : Timestamp) (id : String) (c : Completion)
  | get (id : String)
  | list (q : Query)

inductive Answer where
  | created (id : String)
  | updated (e : Entry)
  | found (e : Option Entry)
  | listed (es : List Entry)
  | failed (err : ServiceError)

def perform (b : Book) : Call → Answer × Book
  | .create e =>
    match b.create e with
    | .ok grown => (.created e.id, grown)
    | .error err => (.failed err, b)
  | .update now id c =>
    match b.update now id c with
    | .ok (e, changed) => (.updated e, changed)
    | .error err => (.failed err, b)
  | .get id => (.found (b.get? id), b)
  | .list q => (.listed (b.list q), b)

def run (b : Book) : List Call → List Answer × Book
  | [] => ([], b)
  | c :: rest => ((b.perform c).1 :: (run (b.perform c).2 rest).1, (run (b.perform c).2 rest).2)

def ids (b : Book) : List String := b.map (·.id)

def accepted? : Call → Answer → Option Entry
  | .create e, .created _ => some e
  | _, _ => none

/-- The rules by which a call is answered, and what it leaves. -/
inductive Answered (b : Book) : Call → Answer → Book → Prop
  | created {e : Entry} : (∀ x ∈ b, x.id ≠ e.id) → Answered b (.create e) (.created e.id) (b ++ [e])
  /-- The id is taken. -/
  | taken {e x : Entry} : x ∈ b → x.id = e.id →
      Answered b (.create e) (.failed (.conflict ("Execution log '" ++ e.id ++ "' already exists"))) b
  /-- The open entry of the id is closed where it stands. -/
  | updated {before after : Book} {e : Entry} {now : Timestamp} {c : Completion} : b = before ++ e :: after →
      (∀ x ∈ before ++ after, x.id ≠ e.id) → e.status = .started →
      Answered b (.update now e.id c) (.updated (e.closed now c)) (before ++ e.closed now c :: after)
  | unknown {now : Timestamp} {id : String} {c : Completion} : (∀ x ∈ b, x.id ≠ id) →
      Answered b (.update now id c) (.failed (.notFound ("Execution log '" ++ id ++ "' not found"))) b
  /-- The entry of the id is closed already. -/
  | over {e : Entry} {now : Timestamp} {c : Completion} : e ∈ b → e.status.isTerminal = true →
      Answered b (.update now e.id c) (.failed (.conflict ("Execution log '" ++ e.id ++ "' is already completed"))) b
  | found {e : Entry} : e ∈ b → Answered b (.get e.id) (.found (some e)) b
  | missing {id : String} : (∀ x ∈ b, x.id ≠ id) → Answered b (.get id) (.found none) b
  /-- The entries that match, in the order of the book, up to the limit. -/
  | listed {q : Query} {all : List Entry} : all.Sublist b → (∀ x ∈ b, x ∈ all ↔ q.Matches x) →
      Answered b (.list q) (.listed (q.cut all)) b

section

variable {b : Book}

theorem get?_eq_none {id : String} (h : b.get? id = none) : ∀ x ∈ b, x.id ≠ id := by
  simpa [get?, List.find?_eq_none] using h

theorem of_get?_eq_some {id : String} {e : Entry} (h : b.get? id = some e) : e ∈ b ∧ e.id = id :=
  ⟨List.mem_of_find?_eq_some h, by simpa using List.find?_some h⟩

/-- Where no id stands twice, the entries around one have other ids. -/
theorem split_at (hb : b.ids.Nodup) {e : Entry} (he : e ∈ b) :
    ∃ before after, b = before ++ e :: after ∧ ∀ x ∈ before ++ after, x.id ≠ e.id := by
  obtain ⟨before, after, rfl⟩ := List.append_of_mem he
  refine ⟨before, after, rfl, fun x hx hid => ?_⟩
  have hnot : e.id ∉ (before ++ after).map (·.id) := by
    have hperm : ((before ++ e :: after).map (·.id)).Perm (e.id :: (before ++ after).map (·.id)) :=
      List.perm_middle.map _
    exact (List.nodup_cons.mp (hperm.nodup_iff.mp hb)).1
  exact hnot (hid ▸ List.mem_map_of_mem hx)

theorem answered_create (e : Entry) : Answered b (.create e) (b.perform (.create e)).1 (b.perform (.create e)).2 := by
  by_cases hfree : ∀ x ∈ b, x.id ≠ e.id
  · simp only [perform, create_fresh hfree]
    exact .created hfree
  · obtain ⟨x, hx, hid⟩ : ∃ x ∈ b, x.id = e.id := by simpa using hfree
    have hany : b.any (·.id == e.id) = true := List.any_eq_true.mpr ⟨x, hx, by simpa using hid⟩
    simp only [perform, create, hany, if_true]
    exact .taken hx hid

theorem answered_update (hb : b.ids.Nodup) (now : Timestamp) (id : String) (c : Completion) :
    Answered b (.update now id c) (b.perform (.update now id c)).1 (b.perform (.update now id c)).2 := by
  cases hget : b.get? id with
  | none =>
    simp only [perform, update, hget]
    exact .unknown (get?_eq_none hget)
  | some e =>
    obtain ⟨he, rfl⟩ := of_get?_eq_some hget
    cases hterminal : e.status.isTerminal with
    | false =>
      obtain ⟨before, after, hb', hother⟩ := split_at hb he
      have hupdate : b.update now e.id c = .ok (e.closed now c, before ++ e.closed now c :: after) := by
        rw [hb', update_append (fun x hx => hother x (List.mem_append_left _ hx)) hterminal]
      simp only [perform, hupdate]
      exact .updated hb' hother (Status.isTerminal_eq_false_iff.mp hterminal)
    | true =>
      simp only [perform, update, hget, Entry.complete, hterminal, if_true]
      exact .over he hterminal

theorem answered_get (id : String) : Answered b (.get id) (b.perform (.get id)).1 (b.perform (.get id)).2 := by
  simp only [perform]
  cases hget : b.get? id with
  | none => exact .missing (get?_eq_none hget)
  | some e =>
    obtain ⟨he, rfl⟩ := of_get?_eq_some hget
    exact .found he

theorem answered_list (q : Query) : Answered b (.list q) (b.perform (.list q)).1 (b.perform (.list q)).2 := by
  have hsub : (b.filter q.accepts).Sublist b := List.filter_sublist
  refine .listed hsub fun x hx => ?_
  rw [List.mem_filter, q.accepts_iff]
  exact ⟨And.right, fun h => ⟨hx, h⟩⟩

/-- In a book without an id twice every call is answered by the rules. -/
theorem answered (hb : b.ids.Nodup) (c : Call) : Answered b c (b.perform c).1 (b.perform c).2 := by
  cases c with
  | create e => exact answered_create e
  | update now id c => exact answered_update hb now id c
  | get id => exact answered_get id
  | list q => exact answered_list q

end

/-! ## (3) Runs -/

/-- From one book to a later one: entries keep their places and what they said from the
    beginning, closed ones all that they said. -/
structure Grows (b later : Book) : Prop where
  openings : b.map Entry.opening <+: later.map Entry.opening
  closed : ∀ (i : Nat) (e : Entry), b[i]? = some e → e.status.isTerminal = true → later[i]? = some e

namespace Grows

variable {b b₁ b₂ : Book}

theorem refl (b : Book) : Grows b b := ⟨List.prefix_refl _, fun _ _ h _ => h⟩

theorem trans (h₁ : Grows b b₁) (h₂ : Grows b₁ b₂) : Grows b b₂ :=
  ⟨h₁.openings.trans h₂.openings, fun i e hi he => h₂.closed i e (h₁.closed i e hi he) he⟩

end Grows

namespace Answered

variable {b b' : Book} {c : Call} {a : Answer}

/-- A failing call leaves the book as it was. -/
theorem unchanged_of_failed {err : ServiceError} (h : Answered b c (.failed err) b') : b' = b := by
  cases h <;> rfl

theorem ids_nodup (h : Answered b c a b') (hb : b.ids.Nodup) : b'.ids.Nodup := by
  cases h with
  | @created e hfree =>
    simp only [ids, List.map_append, List.map_singleton]
    refine List.nodup_append.mpr ⟨hb, List.nodup_singleton _, fun x hx y hy => ?_⟩
    obtain ⟨e', he', rfl⟩ := List.mem_map.mp hx
    rw [List.mem_singleton.mp hy]
    exact hfree e' he'
  | updated hb' _ _ =>
    subst hb'
    simpa only [ids, List.map_append, List.map_cons, Entry.closed_id] using hb
  | _ => exact hb

theorem grows (h : Answered b c a b') : Grows b b' := by
  cases h with
  | @created e _ =>
    refine ⟨?_, fun i e' hi _ => ?_⟩
    · rw [List.map_append]
      exact List.prefix_append _ _
    · rw [List.getElem?_append_left (List.getElem?_eq_some_iff.mp hi).1]
      exact hi
  | @updated before after e now c hb' _ hstarted =>
    subst hb'
    refine ⟨?_, fun i e' hi hterminal => ?_⟩
    · simp only [List.map_append, List.map_cons, Entry.opening_closed]
      exact List.prefix_refl _
    · -- the entry that is closed here was open, so it is not the one at `i`
      rcases Nat.lt_trichotomy i before.length with hlt | rfl | hgt
      · rw [List.getElem?_append_left hlt] at hi ⊢
        exact hi
      · rw [List.getElem?_append_right (Nat.le_refl _), Nat.sub_self, List.getElem?_cons_zero] at hi
        rw [← Option.some.inj hi, hstarted] at hterminal
        cases hterminal
      · obtain ⟨k, hk⟩ : ∃ k, i - before.length = k + 1 := ⟨i - before.length - 1, by omega⟩
        rw [List.getElem?_append_right (by omega), hk, List.getElem?_cons_succ] at hi ⊢
        exact hi
  | _ => exact .refl b

/-- The entries after a call are those before it, and the one that it has accepted. -/
theorem openings_eq (h : Answered b c a b') :
    b'.map Entry.opening = b.map Entry.opening ++ (accepted? c a).toList.map Entry.opening := by
  cases h with
  | created _ => simp only [accepted?, Option.toList_some, List.map_append]
  | updated hb' _ _ =>
    simp only [hb', accepted?, Option.toList_none, List.map_append, List.map_cons, List.map_nil,
      Entry.opening_closed, List.append_nil]
  | _ => simp only [accepted?, Option.toList_none, List.map_nil, List.append_nil]

/-- A call that brings in no other entries than those built open leaves coherent entries coherent. -/
theorem coherent (h : Answered b c a b') (hbegun : ∀ e, c = .create e → e.Begun) (hb : ∀ e ∈ b, e.Coherent) :
    ∀ e ∈ b', e.Coherent := by
  intro x hx
  cases h with
  | @created e _ =>
    rcases List.mem_append.mp hx with hold | hnew
    · exact hb x hold
    · rw [List.mem_singleton.mp hnew]
      exact (hbegun e rfl).coherent
  | @updated before after e now c hb' _ hstarted =>
    subst hb'
    rcases List.mem_append.mp hx with hbefore | hx
    · exact hb x (List.mem_append_left _ hbefore)
    rcases List.mem_cons.mp hx with rfl | hafter
    · exact (hb e (List.mem_append_right _ (List.mem_cons_self ..))).closed hstarted now c
    · exact hb x (List.mem_append_right _ (List.mem_cons_of_mem _ hafter))
  | _ => exact hb x hx

end Answered

def accepted (calls : List Call) (answers : List Answer) : List Entry :=
  (calls.zip answers).filterMap fun p => accepted? p.1 p.2

section

variable {b : Book}

theorem ids_nodup_run (hb : b.ids.Nodup) (calls : List Call) : (b.run calls).2.ids.Nodup := by
  induction calls generalizing b with
  | nil => exact hb
  | cons c rest ih => exact ih ((answered hb c).ids_nodup hb)

theorem grows_run (hb : b.ids.Nodup) (calls : List Call) : Grows b (b.run calls).2 := by
  induction calls generalizing b with
  | nil => exact .refl b
  | cons c rest ih => exact (answered hb c).grows.trans (ih ((answered hb c).ids_nodup hb))

theorem coherent_run (hb : b.ids.Nodup) (hcoherent : ∀ e ∈ b, e.Coherent) (calls : List Call)
    (hbegun : ∀ e, .create e ∈ calls → e.Begun) : ∀ e ∈ (b.run calls).2, e.Coherent := by
  induction calls generalizing b with
  | nil => exact hcoherent
  | cons c rest ih =>
    have hone := answered hb c
    have hfirst : ∀ e ∈ (b.perform c).2, e.Coherent :=
      hone.coherent (fun e he => hbegun e (he ▸ List.mem_cons_self ..)) hcoherent
    exact ih (hone.ids_nodup hb) hfirst fun e he => hbegun e (List.mem_cons_of_mem _ he)

/-- The entries of a run are those that it found and those that it accepted. -/
theorem openings_run (hb : b.ids.Nodup) (calls : List Call) :
    (b.run calls).2.map Entry.opening =
      b.map Entry.opening ++ (accepted calls (b.run calls).1).map Entry.opening := by
  induction calls generalizing b with
  | nil => exact (List.append_nil _).symm
  | cons c rest ih =>
    have hone := answered hb c
    simp only [run, ih (hone.ids_nodup hb), hone.openings_eq, accepted, List.zip_cons_cons, List.filterMap_cons]
    cases accepted? c (b.perform c).1 with
    | none => simp only [Option.toList_none, List.map_nil, List.append_nil]
    | some e => simp only [Option.toList_some, List.map_cons, List.map_nil, List.append_assoc, List.singleton_append]

/-- Entries that are created open are accepted as they are. -/
theorem opening_of_accepted {calls : List Call} (h : ∀ e, .create e ∈ calls → e.Begun) (answers : List Answer) :
    ∀ e ∈ accepted calls answers, e.opening = e := by
  intro e he
  obtain ⟨⟨c, a⟩, hp, hc⟩ := List.mem_filterMap.mp he
  have hmem := (List.of_mem_zip hp).1
  cases c with
  | create x =>
    cases a with
    | created id =>
      obtain rfl : x = e := Option.some.inj hc
      exact (h x hmem).opening_eq
    | _ => cases hc
  | _ => cases hc

end

/-- A book that is called in any way, with entries as they are built: no id stands twice;
    the entries are those that were accepted, in that order, with all that they said from
    the beginning; what they say of the end agrees with their status; the next call is
    answered by the rules, and if it fails the book stays as it is; and however the calls
    go on, entries keep their places, and closed ones are never changed. -/
theorem book_is_written_once (calls : List Call) (hbegun : ∀ e, .create e ∈ calls → e.Begun) :
    let b := (run [] calls).2
    b.ids.Nodup ∧ b.map Entry.opening = accepted calls (run [] calls).1 ∧ (∀ e ∈ b, e.Coherent) ∧
      (∀ c, Answered b c (b.perform c).1 (b.perform c).2 ∧
        ∀ err, (b.perform c).1 = .failed err → (b.perform c).2 = b) ∧
      ∀ more, Grows b (b.run more).2 := by
  intro b
  have hempty : (ids []).Nodup := List.nodup_nil
  have hb : b.ids.Nodup := ids_nodup_run hempty calls
  have hcoherent : ∀ e ∈ b, e.Coherent := coherent_run hempty (fun _ he => nomatch he) calls hbegun
  refine ⟨hb, ?_, hcoherent, fun c => ?_, fun more => grows_run hb more⟩
  · rw [openings_run hempty calls, List.map_nil, List.nil_append]
    exact (List.map_congr_left (opening_of_accepted hbegun _)).trans (List.map_id _)
  · have hanswered := answered hb c
    refine ⟨hanswered, fun err hfailed => ?_⟩
    rw [hfailed] at hanswered
    exact hanswered.unchanged_of_failed

namespace Sample

def workflowId : WorkflowId := ⟨"ledger", by decide⟩

def parent : Entry := .started "log-1" workflowId "each" "FOR_EACH" .null ⟨0, 0⟩

def child : Entry :=
  (Entry.started "log-2" workflowId "lost" "MYSTERY" .null ⟨1, 0⟩).withParent (some "log-1")

/-- The entry of the child, closed by the first of two updates. -/
def failed : Entry := child.closed ⟨2, 0⟩ (.failed "boom" 4)

/-- Two entries are created, one of them twice; the child is closed, then closed again. -/
def calls : List Call :=
  [.create parent, .create child, .create parent, .update ⟨2, 0⟩ "log-2" (.failed "boom" 4),
    .update ⟨3, 0⟩ "log-2" (.success .null .null 5 (some 40) none)]

theorem calls_begun (e : Entry) (h : .create e ∈ calls) : e.Begun := by
  simp only [calls, List.mem_cons, Call.create.injEq, reduceCtorEq, List.not_mem_nil, or_false] at h
  rcases h with rfl | rfl | rfl
  · exact .started ..
  · exact .withParent _ (.started ..)
  · exact .started ..

end Sample

/-- Neither entry is there twice, and whatever is called next, the child stays as the first
    update left it. -/
theorem sample_book_is_written_once :
    (∀ e, .create e ∈ Sample.calls → e.Begun) ∧ (run [] Sample.calls).2 = [Sample.parent, Sample.failed] ∧
      (run [] Sample.calls).2.ids.Nodup ∧
      (run [] Sample.calls).2.map Entry.opening = accepted Sample.calls (run [] Sample.calls).1 ∧
      (∀ e ∈ (run [] Sample.calls).2, e.Coherent) ∧
      ∀ more, ((run [] Sample.calls).2.run more).2[1]? = some Sample.failed := by
  have hbook : (run [] Sample.calls).2 = [Sample.parent, Sample.failed] := rfl
  obtain ⟨hids, hopenings, hcoherent, -, hgrows⟩ := book_is_written_once Sample.calls Sample.calls_begun
  refine ⟨Sample.calls_begun, hbook, hids, hopenings, hcoherent, fun more => ?_⟩
  exact (hgrows more).closed 1 Sample.failed (by rw [hbook]; rfl) rfl

end Book

end Stepflow.Audit
