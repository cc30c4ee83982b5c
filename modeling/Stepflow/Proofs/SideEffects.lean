/-
  Stepflow.Proofs.SideEffects — messages sent and records created are those on record.

  (1) What the audit book tells of a success: under which handler key it is, and what
  texts its output has (`Audit.Entry.succeededAs`, `Audit.Entry.says?`).

  (2) Messages and records are accounted for by entries (`Accounts`) if each message is
  told of by one success of a step that sends mail, each record by one success of a step
  that creates records, in the same order, and there are no other such entries.

  (3) It holds of no entries and of accounts one after the other, and one step keeps it:
  a deed is told of by the entry of the step itself (`accounts_deed`), and what is done
  for the lists that a handler asks for by the entries below (`accounts_step`), since the
  entry of the step then tells of nothing (`told_step`). So it holds of every list at
  every depth (`accounts`).

  `run_side_effects_are_those_on_record` says it of every way into the engine, and of
  every invocation of a run by itself.
-/

import Stepflow.Proofs.Deeds
import Stepflow.Proofs.Outputs

namespace Stepflow

open Services

/-! ## (1) What an entry tells -/

namespace Audit.Entry

def succeededAs (x : Entry) (key : String) : Bool := x.stepType == key && x.status == .success

def says? (x : Entry) (key : String) : Option String := (x.parsed.bind (·.field? key)).bind (·.string?)

end Audit.Entry

namespace Invocation

variable {σ : Type}

def entries (ran : List (Invocation σ)) : List Audit.Entry := (preorder ran).map (·.entry)

@[simp] theorem entries_nil : entries ([] : List (Invocation σ)) = [] := by simp [entries]

theorem entries_append (xs ys : List (Invocation σ)) : entries (xs ++ ys) = entries xs ++ entries ys := by
  simp only [entries, preorder_append, List.map_append]

theorem entries_singleton (i : Invocation σ) : entries [i] = i.entry :: entries i.children := by
  simp only [entries, preorder_singleton, List.map_cons]

theorem succeededAs_of_error {i : Invocation σ} {err : WorkflowError} (h : i.result = .error err) (key : String) :
    i.entry.succeededAs key = false := by
  simp [Audit.Entry.succeededAs, entry, completion, h, Audit.Completion.status]

theorem succeededAs_of_ok {i : Invocation σ} {r : StepResult} (h : i.result = .ok r) (key : String) :
    i.entry.succeededAs key = (i.step.handlerKey == key) := by
  simp [Audit.Entry.succeededAs, entry, completion, h, Audit.Completion.status, opened, Engine.entryOf,
    Audit.Entry.withParent, Audit.Entry.started]

theorem says?_of_record {i : Invocation σ} {r : StepResult} {fields : List (String × Value)} (h : i.result = .ok r)
    (hparsed : r.parsed = .record fields) (key : String) :
    i.entry.says? key = ((Table.ofList fields).get? key).bind (·.string?) := by
  simp [Audit.Entry.says?, Audit.Entry.closed, entry, completion, h, hparsed, Value.record, Value.field?,
    Value.fields?]

end Invocation

/-! ## (2) Accounts -/

namespace Records

def Stored.name (r : Stored) : String × Option String := (r.type, (r.fields.get? idKey).bind (·.string?))

/-- A record that is written over keeps its name. -/
theorem Stored.name_write (r : Stored) (fields : Fields) : (r.write fields).name = r.name := by
  have hother : ∀ e ∈ fields.filter (·.1 != idKey), e.1 ≠ idKey := by
    intro e he
    simpa using (List.mem_filter.mp he).2
  simp only [name, write, Table.get?_insertAll_other r.fields hother]

theorem Store.names_create {s s' : Store} {id type : String} {fields : Fields} {ref : RecordRef}
    (h : s.create id type fields = .ok (ref, s')) :
    ref.type = type ∧ s'.map (·.name) = s.map (·.name) ++ [(ref.type, some ref.id)] := by
  unfold Store.create at h
  split at h
  · cases h
  · cases h
    refine ⟨rfl, ?_⟩
    rw [List.map_append, List.map_singleton]
    simp only [Stored.name, Table.get?_insert, if_true]
    rfl

theorem Store.names_modifyFirst (s : Store) (type id : String) (fields : Fields) :
    (s.modifyFirst type id (·.write fields)).map (·.name) = s.map (·.name) := by
  induction s with
  | nil => rfl
  | cons r rest ih =>
    unfold Store.modifyFirst
    split
    · rw [List.map_cons, List.map_cons, Stored.name_write]
    · rw [List.map_cons, List.map_cons, ih]

theorem Store.names_update {s s' : Store} {type id : String} {fields : Fields} (h : s.update type id fields = .ok s') :
    s'.map (·.name) = s.map (·.name) := by
  unfold Store.update at h
  split at h
  · cases h
    exact s.names_modifyFirst type id fields
  · cases h

end Records

theorem Mailbox.eq_of_send {b b' : Mailbox} {m : Message} {given id : String} (h : b.send given m = .ok (id, b')) :
    b' = b ++ [(id, m)] := by
  unfold Mailbox.send at h
  split at h
  · cases h
  · cases h
    rfl

/-- The messages sent from one state of the mailbox to another, each told of by one success
    of a step that sends mail. -/
def Mailed (entries : List Audit.Entry) (b b' : Mailbox) : Prop :=
  ∃ sent : Mailbox, b' = b ++ sent ∧
    (entries.filter (·.succeededAs "ACTION_SEND_EMAIL")).map
        (fun x => (x.says? "message_id", x.says? "to", x.says? "subject")) =
      sent.map fun m => (some m.1, some m.2.recipient, some m.2.subject)

/-- The records created from one state of the store to another, each told of by one success
    of a step that creates records. -/
def Created (entries : List Audit.Entry) (s s' : Records.Store) : Prop :=
  ∃ made : List Records.RecordRef, s'.map (·.name) = s.map (·.name) ++ made.map (fun ref => (ref.type, some ref.id)) ∧
    (entries.filter (·.succeededAs "ACTION_CREATE_RECORD")).map (fun x => (x.says? "model", x.says? "id")) =
      made.map fun ref => (some ref.type, some ref.id)

section

variable {xs ys : List Audit.Entry}

theorem Mailed.same (hnone : xs.filter (·.succeededAs "ACTION_SEND_EMAIL") = []) (b : Mailbox) : Mailed xs b b :=
  ⟨[], by simp, by rw [hnone]; rfl⟩

theorem Mailed.append {b₁ b₂ b₃ : Mailbox} (h₁ : Mailed xs b₁ b₂) (h₂ : Mailed ys b₂ b₃) : Mailed (xs ++ ys) b₁ b₃ := by
  obtain ⟨sent, hsent, htold⟩ := h₁
  obtain ⟨more, hmore, htold'⟩ := h₂
  refine ⟨sent ++ more, by rw [hmore, hsent, List.append_assoc], ?_⟩
  rw [List.filter_append, List.map_append, List.map_append, htold, htold']

theorem mailed_cons_other {x : Audit.Entry} (hx : x.succeededAs "ACTION_SEND_EMAIL" = false) {b b' : Mailbox} :
    Mailed (x :: xs) b b' ↔ Mailed xs b b' := by
  simp only [Mailed, List.filter_cons, hx, Bool.false_eq_true, if_false]

theorem created_cons_other {x : Audit.Entry} (hx : x.succeededAs "ACTION_CREATE_RECORD" = false)
    {s s' : Records.Store} : Created (x :: xs) s s' ↔ Created xs s s' := by
  simp only [Created, List.filter_cons, hx, Bool.false_eq_true, if_false]

theorem Created.same (hnone : xs.filter (·.succeededAs "ACTION_CREATE_RECORD") = []) {s s' : Records.Store}
    (h : s'.map (·.name) = s.map (·.name)) : Created xs s s' :=
  ⟨[], by simp [h], by rw [hnone]; rfl⟩

theorem Created.append {s₁ s₂ s₃ : Records.Store} (h₁ : Created xs s₁ s₂) (h₂ : Created ys s₂ s₃) :
    Created (xs ++ ys) s₁ s₃ := by
  obtain ⟨made, hmade, htold⟩ := h₁
  obtain ⟨more, hmore, htold'⟩ := h₂
  refine ⟨made ++ more, by rw [hmore, hmade, List.map_append, List.append_assoc], ?_⟩
  rw [List.filter_append, List.map_append, List.map_append, htold, htold']

end

structure Accounts {σ : Type} (ran : List (Invocation σ)) (w w' : World σ) : Prop where
  mail : Mailed (Invocation.entries ran) w.mailbox w'.mailbox
  records : Created (Invocation.entries ran) w.records w'.records

namespace Accounts

variable {σ : Type} {ran more : List (Invocation σ)} {w w₁ w₂ : World σ}

theorem nil (w : World σ) : Accounts [] w w :=
  ⟨.same (by simp) _, .same (by simp) rfl⟩

theorem append (h₁ : Accounts ran w w₁) (h₂ : Accounts more w₁ w₂) : Accounts (ran ++ more) w w₂ := by
  refine ⟨?_, ?_⟩ <;> rw [Invocation.entries_append]
  · exact h₁.mail.append h₂.mail
  · exact h₁.records.append h₂.records

/-- The time that passes does not count. -/
theorem later (h : Accounts ran w w₁) : Accounts ran w w₁.later := ⟨h.mail, h.records⟩

/-- What the entry of an invocation says nothing of was done below it. -/
theorem of_children {i : Invocation σ} (hmail : i.entry.succeededAs "ACTION_SEND_EMAIL" = false)
    (hrecords : i.entry.succeededAs "ACTION_CREATE_RECORD" = false) (h : Accounts i.children w w₁) :
    Accounts [i] w w₁ := by
  refine ⟨?_, ?_⟩ <;> rw [Invocation.entries_singleton]
  · exact (mailed_cons_other hmail).mpr h.mail
  · exact (created_cons_other hrecords).mpr h.records

end Accounts

/-! ## (3) From one step to a run -/

/-- A deed is told of by the entry of its step. -/
theorem accounts_deed {σ : Type} {s : Services σ} {i : Invocation σ} (hcalls : i.calls = [])
    (h : Deed s i.step.handlerKey i.before i.after i.result) : Accounts [i] i.before i.after := by
  have hentries : Invocation.entries [i] = [i.entry] := by
    simp [Invocation.entries_singleton, Invocation.children, hcalls]
  have hother : ∀ {key : String}, (∀ r, i.result = .ok r → i.step.handlerKey ≠ key) →
      [i.entry].filter (·.succeededAs key) = [] := by
    intro key hkey
    cases hr : i.result with
    | error err => simp [Invocation.succeededAs_of_error hr]
    | ok r => simp [Invocation.succeededAs_of_ok hr, hkey r hr]
  have hown : ∀ {r : StepResult} {key : String}, i.result = .ok r → i.step.handlerKey = key →
      [i.entry].filter (·.succeededAs key) = [i.entry] := by
    intro r key hr hkey
    simp [Invocation.succeededAs_of_ok hr, hkey]
  generalize hr : i.result = result at h
  refine ⟨?_, ?_⟩ <;> rw [hentries]
  · cases h with
    | nothing _ hmailbox hkey =>
      rw [hmailbox]
      exact .same (hother fun r hok => (hkey r (hr.symm.trans hok)).2.2) _
    | created hkey _ hmailbox _ _ =>
      rw [hmailbox]
      exact .same (hother fun _ _ => by rw [hkey]; decide) _
    | updated hkey _ hmailbox _ =>
      rw [hmailbox]
      exact .same (hother fun _ _ => by rw [hkey]; decide) _
    | @sent message id r hkey hsend _ _ hparsed =>
      refine ⟨[(id, message)], Mailbox.eq_of_send hsend, ?_⟩
      rw [hown hr hkey]
      simp [Invocation.says?_of_record hr hparsed, Table.ofList, Table.insertAll, Table.get?_insert, Value.string?]
  · cases h with
    | nothing hrecords _ hkey =>
      rw [hrecords]
      exact .same (hother fun r hok => (hkey r (hr.symm.trans hok)).1) rfl
    | @created type fields ref r hkey hcreate _ _ hparsed =>
      obtain ⟨htype, hnames⟩ := Records.Store.names_create hcreate
      refine ⟨[ref], hnames, ?_⟩
      rw [hown hr hkey]
      simp [Invocation.says?_of_record hr hparsed, Table.ofList, Table.insertAll, Table.get?_insert, Value.string?,
        htype]
    | updated hkey hupdate _ _ =>
      exact .same (hother fun _ _ => by rw [hkey]; decide) (Records.Store.names_update hupdate)
    | sent hkey _ hrecords _ _ =>
      rw [hrecords]
      exact .same (hother fun _ _ => by rw [hkey]; decide) rfl

namespace Engine

variable {σ : Type} {e : Engine σ}

/-- Only a step that sends mail or creates records, has not failed and was not skipped
    has an entry that tells of it. -/
theorem told_step (he : e.registry = Handler.registry) (nested : Scope → Nested σ) (below : Scope → Recorder σ)
    (scope : Scope) (step : Step) (ctx : Context) (w : World σ) {key : String}
    (hkey : key = "ACTION_SEND_EMAIL" ∨ key = "ACTION_CREATE_RECORD") :
    let i := e.recordStep nested below scope step ctx w
    i.entry.succeededAs key = true →
      i.outcome.isFailed = false ∧ i.outcome.skipped = false ∧ step.handlerKey = key := by
  intro i htold
  cases hr : i.result with
  | error err =>
    rw [Invocation.succeededAs_of_error hr] at htold
    cases htold
  | ok r =>
    rw [Invocation.succeededAs_of_ok hr, beq_iff_eq] at htold
    change step.handlerKey = key at htold
    have hdeed := deed_step nested below scope step ctx w he
    change i.calls = [] ∧ Deed e.services step.handlerKey i.before i.after i.result ∨ _ at hdeed
    rw [hr, htold] at hdeed
    have hskipped : r.skipped = false := by
      rcases hdeed with ⟨-, hdeed⟩ | ⟨hasks, -⟩
      · cases hdeed with
        | nothing _ _ hother =>
          obtain ⟨hcreate, -, hsend⟩ := hother r rfl
          rcases hkey with rfl | rfl
          · exact absurd rfl hsend
          · exact absurd rfl hcreate
        | created _ _ _ hskipped _ => exact hskipped
        | updated _ _ _ hskipped => exact hskipped
        | sent _ _ _ hskipped _ => exact hskipped
      · change step.handlerKey = "CONDITION" ∨ step.handlerKey = "FOR_EACH" at hasks
        rw [htold] at hasks
        rcases hkey with rfl | rfl <;> exact absurd hasks (by decide)
    simp only [Invocation.outcome, hr]
    exact ⟨rfl, hskipped, htold⟩

theorem accounts_step (he : e.registry = Handler.registry) {depth : Nat}
    (hlists : ∀ scope steps ctx w, Accounts (e.recordNested depth scope steps ctx w) w
      (e.runNested depth scope steps ctx w).2) (scope : Scope) (step : Step) (ctx : Context) (w : World σ) :
    let i := e.recordStep (e.runNested depth) (e.recordNested depth) scope step ctx w
    Accounts [i] i.before (closed i) := by
  intro i
  rcases deed_step (e.runNested depth) (e.recordNested depth) scope step ctx w he with ⟨hcalls, hdeed⟩ | ⟨hkey, hasks⟩
  · obtain ⟨hmail, hrecords⟩ := accounts_deed hcalls hdeed
    exact ⟨hmail, hrecords⟩
  · have hchildren : Accounts i.children (opening scope step ctx w) i.after :=
      Task.lists_law (R := fun w ran w' => Accounts ran w w') .nil .append .later (hlists (inside scope w)) hasks
        (opening scope step ctx w)
    have hother : ∀ {key}, key = "ACTION_SEND_EMAIL" ∨ key = "ACTION_CREATE_RECORD" →
        i.entry.succeededAs key = false := by
      intro key hsome
      refine Bool.eq_false_iff.mpr fun htold => ?_
      obtain ⟨-, -, hown⟩ := told_step he _ _ scope step ctx w hsome htold
      change step.handlerKey = "CONDITION" ∨ step.handlerKey = "FOR_EACH" at hkey
      rw [hown] at hkey
      rcases hsome with rfl | rfl <;> exact absurd hkey (by decide)
    obtain ⟨hmail, hrecords⟩ := hchildren.of_children (hother (.inl rfl)) (hother (.inr rfl))
    exact ⟨hmail, hrecords⟩

theorem accounts (he : e.registry = Handler.registry) (depth : Nat) (scope : Scope) (steps : List Step) (ctx : Context)
    (w : World σ) : Accounts (e.recordNested depth scope steps ctx w) w (e.runNested depth scope steps ctx w).2 :=
  e.record_law (P := fun _ _ w ran _ w' => Accounts ran w w') (fun _ _ w => .nil w) .append
    (fun _ ih => accounts_step he ih) depth scope steps ctx w

end Engine

/-! ## Messages and records of a run -/

/-- An action says its type by itself or in its configuration, in any case and between
    blanks. -/
theorem Step.handlerKey_eq_action_iff (s : Step) {name : String} (hname : name ≠ "") :
    s.handlerKey = "ACTION_" ++ name ↔ StepKind.normalKey s.kind.key = "ACTION_" ++ name ∨
      StepKind.normalKey s.kind.key = "ACTION" ∧
        ∃ text, s.configText? actionTypeKey = some text ∧ StepKind.normalKey text = name := by
  have hplain : "ACTION" ≠ "ACTION_" ++ name := by
    intro h
    have hchars : "ACTION".toList = ("ACTION_" ++ name).toList := by rw [← h]
    simp at hchars
  unfold handlerKey handlerKeyOf
  rw [show StepKind.action.key = "ACTION" from rfl]
  by_cases hkey : StepKind.normalKey s.kind.key = "ACTION"
  · simp only [hkey, ne_eq, not_true_eq_false, if_false, hplain, false_or, true_and]
    cases s.configText? actionTypeKey with
    | none => simp [hplain]
    | some text =>
      simp only [Option.bind_some, Option.some.injEq, exists_eq_left', StepKind.normalKey]
      by_cases hempty : (Text.trim text).isEmpty = true
      · have hupper : Text.upper (Text.trim text) = "" := by
          rw [String.isEmpty_iff.mp hempty]
          rfl
        simp [Text.trimmed?, hempty, hplain, hupper, Ne.symm hname]
      · simp [Text.trimmed?, hempty]
  · simp [hkey]

/-- In a run over the built-in registry the messages sent are, in order, those told of by
    the new entries of successes under `ACTION_SEND_EMAIL`, and the records created those
    told of by the successes under `ACTION_CREATE_RECORD`. It holds of every invocation by
    itself, however its key is spelled. One that fails or is skipped or has another key
    sends and creates nothing itself: all of it is told of by the entries below. -/
theorem run_side_effects_are_those_on_record {σ : Type} {e : Engine σ} {ctx start ctx' : Context} {w w' : World σ}
    {scope : Scope} {steps : List Step} {run : StepsRun} (he : e.registry = Handler.registry)
    (h : e.Served ctx w scope steps start run ctx' w') :
    let ran := e.recordTop scope steps start w
    (w.journal.Keeps → w'.journal.book = w.journal.book ++ Invocation.entries ran) ∧
      Mailed (Invocation.entries ran) w.mailbox w'.mailbox ∧ Created (Invocation.entries ran) w.records w'.records ∧
      ∀ i ∈ Invocation.preorder ran,
        Mailed (Invocation.entries [i]) i.before.mailbox (Engine.closed i).mailbox ∧
        Created (Invocation.entries [i]) i.before.records (Engine.closed i).records ∧
        (i.outcome.isFailed = true ∨ i.outcome.skipped = true ∨ i.step.handlerKey ≠ "ACTION_SEND_EMAIL" →
          Mailed (Invocation.entries i.children) i.before.mailbox (Engine.closed i).mailbox) ∧
        (i.outcome.isFailed = true ∨ i.outcome.skipped = true ∨ i.step.handlerKey ≠ "ACTION_CREATE_RECORD" →
          Created (Invocation.entries i.children) i.before.records (Engine.closed i).records) ∧
        ∀ name, name ≠ "" → (i.step.handlerKey = "ACTION_" ++ name ↔
          StepKind.normalKey i.step.kind.key = "ACTION_" ++ name ∨ StepKind.normalKey i.step.kind.key = "ACTION" ∧
            ∃ text, i.step.configText? actionTypeKey = some text ∧ StepKind.normalKey text = name) := by
  intro ran
  have hrun : Accounts ran w w' := by
    have := Engine.accounts he (e.config.maxDepth + 1) scope steps start w
    rwa [h.runNested_eq] at this
  refine ⟨fun hw => ?_, hrun.mail, hrun.records, fun i hi => ?_⟩
  · have := e.kept (e.config.maxDepth + 1) scope steps start w hw
    rw [h.runNested_eq] at this
    exact this.book
  · have haccounts : Accounts [i] i.before (Engine.closed i) :=
      e.record_forall (Q := fun _ i => Accounts [i] i.before (Engine.closed i))
        (fun depth => Engine.accounts_step he (Engine.accounts he depth)) (fun _ _ _ h => h)
        (e.config.maxDepth + 1) scope steps start w i hi
    have htold := e.record_forall
      (Q := fun _ i => ∀ key, key = "ACTION_SEND_EMAIL" ∨ key = "ACTION_CREATE_RECORD" →
        i.entry.succeededAs key = true →
          i.outcome.isFailed = false ∧ i.outcome.skipped = false ∧ i.step.handlerKey = key)
      (fun _ scope step ctx w _ hkey => Engine.told_step he _ _ scope step ctx w hkey) (fun _ _ _ h => h)
      (e.config.maxDepth + 1) scope steps start w i hi
    have hnone : ∀ {key}, key = "ACTION_SEND_EMAIL" ∨ key = "ACTION_CREATE_RECORD" →
        i.outcome.isFailed = true ∨ i.outcome.skipped = true ∨ i.step.handlerKey ≠ key →
        i.entry.succeededAs key = false := by
      intro key hkey hother
      refine Bool.eq_false_iff.mpr fun hsucceeded => ?_
      obtain ⟨hfailed, hskipped, hown⟩ := htold key hkey hsucceeded
      rw [hfailed, hskipped] at hother
      simp [hown] at hother
    obtain ⟨hmail, hrecords⟩ := haccounts
    refine ⟨hmail, hrecords, fun hother => ?_, fun hother => ?_, fun name => i.step.handlerKey_eq_action_iff⟩
    · rw [Invocation.entries_singleton] at hmail
      exact (mailed_cons_other (hnone (.inl rfl) hother)).mp hmail
    · rw [Invocation.entries_singleton] at hrecords
      exact (created_cons_other (hnone (.inr rfl) hother)).mp hrecords

namespace Sample

/-- For each item a record, by its full name, and a message, by its type; then a message
    to nobody. -/
def mailing : Workflow :=
  { id := ⟨"mailing", by decide⟩, name := "Mailing", createdAt := ⟨0, 0⟩, updatedAt := ⟨0, 0⟩
    steps := [
      { id := "each", kind := .forEach, config := [("sourceArray", .string "items")]
        children := [
          { id := "note", kind := .custom "ACTION_CREATE_RECORD"
            config := [("fields", .object [("done", .bool true)]), ("target_model", .string "Note")] },
          { id := "mail", kind := .action
            config := [("action_type", .string " Send_Email "), ("subject", .string "News"),
              ("to", .string "list@example.org")] }] },
      { id := "lost", kind := .action, config := [("action_type", .string "send_email")] }] }

def mailed : World Unit := (engine.runWorkflow mailing mailing.orderedSteps context world).2

end Sample

/-- Both iterations of the loop create a record and send a message; the step that fails
    after them sends none. -/
theorem sample_run_sends_what_is_on_record :
    Sample.engine.registry = Handler.registry ∧
      Sample.engine.execute Sample.mailing Sample.context Sample.world =
        (.ok (Sample.engine.runWorkflow Sample.mailing Sample.mailing.orderedSteps Sample.context Sample.world).1,
          Sample.mailed) ∧
      Mailed Sample.mailed.journal.book [] Sample.mailed.mailbox ∧
      Created Sample.mailed.journal.book [] Sample.mailed.records ∧
      Sample.mailed.mailbox.map (fun m => (m.1, m.2.subject)) = [("msg-1", "News"), ("msg-2", "News")] ∧
      Sample.mailed.records.map (·.name) = [("Note", some "rec-1"), ("Note", some "rec-2")] ∧
      Sample.mailed.journal.book.map (fun x => (x.stepId, x.status.name)) =
        [("each", "success"), ("note", "success"), ("mail", "success"), ("note", "success"), ("mail", "success"),
          ("lost", "failed")] := by
  have hrun : Sample.engine.execute Sample.mailing Sample.context Sample.world = (.ok _, Sample.mailed) :=
    Sample.engine.execute_eq Sample.context Sample.world rfl
  obtain ⟨hbook, hmail, hrecords, -⟩ := run_side_effects_are_those_on_record Sample.engine_registry (.execute hrun)
  have hbook := hbook Journal.new_keeps
  rw [show Sample.world.journal.book = [] from rfl, List.nil_append] at hbook
  rw [← hbook] at hmail hrecords
  exact ⟨Sample.engine_registry, hrun, hmail, hrecords, by decide +kernel⟩

end Stepflow
