/-
  Stepflow.Proofs.Deeds — what a built-in step does besides having steps run.

  (1) Rules for work that a handler does (`Work.Ends`): what holds where it ends follows
  from what holds where its parts end, and a part that fails ends the whole.

  (2) To records and mail a handler that asks for no steps does one of four things
  (`Deed`): nothing, or, as the last thing before it succeeds, it creates a record,
  updates one or sends a message. Which one, the key of its step says. So a handler that
  fails has done nothing. A condition and a loop ask for steps only, so what they do is
  what is done for those (`Task.lists_law`).

  (3) Into the context a step that succeeds merges one object under its key
  (`Handler.mergedKey?`), or nothing if it has none (`Handler.Merges`). The key is a
  fixed one, or it comes from the configuration.
-/

import Stepflow.Proofs.Handlers

namespace Stepflow

open Services

/-! ## (1) Work that ends so -/

namespace Work

variable {α β S : Type} {answer : (q : Ask) → S → q.Answer × S} {step : Step} {detail : String} {s : S}

/-- Run from `s`, the work ends with a result and in a state of which `Q` holds. -/
def Ends (answer : (q : Ask) → S → q.Answer × S) (x : Work α) (s : S) (Q : Except WorkflowError α → S → Prop) : Prop :=
  Q (x.run.run answer s).1 (x.run.run answer s).2

variable {Q : Except WorkflowError α → S → Prop} {R : Except WorkflowError β → S → Prop} {f : α → Work β}

theorem ends_pure {a : α} (h : Q (.ok a) s) : Ends answer (pure a) s Q := h

theorem ends_fail (h : Q (.error (error step detail)) s) : Ends answer (fail step detail) s Q := h

/-- Work goes on after other work, unless that fails. -/
theorem ends_bind {x : Work α} (h : Ends answer x s fun r s =>
      (∀ a, r = .ok a → Ends answer (f a) s R) ∧ ∀ e, r = .error e → R (.error e) s) :
    Ends answer (x >>= f) s R := by
  have hrun : (x >>= f).run.run answer s = _ := Task.run_bind answer x.run _ s
  unfold Ends at h ⊢
  rw [hrun]
  generalize x.run.run answer s = out at h ⊢
  obtain ⟨r, s'⟩ := out
  cases r with
  | ok a => exact h.1 a rfl
  | error e => exact h.2 e rfl

theorem ends_fail_then (h : R (.error (error step detail)) s) : Ends answer (fail step detail >>= f) s R := by
  refine ends_bind (ends_fail ⟨nofun, ?_⟩)
  rintro e ⟨⟩
  exact h

theorem ends_need_then {o : Option α} (hsome : ∀ a, o = some a → Ends answer (f a) s R)
    (hnone : R (.error (error step detail)) s) : Ends answer (need step detail o >>= f) s R := by
  cases o with
  | none => exact ends_fail_then hnone
  | some a => exact hsome a rfl

theorem ends_ask_then {q : Ask} {f : q.Answer → Work β} (h : Ends answer (f (answer q s).1) (answer q s).2 R) :
    Ends answer (ExceptT.lift (Task.of q) >>= f) s R := by
  refine ends_bind ⟨?_, nofun⟩
  rintro a ⟨⟩
  exact h

theorem ends_service_then {t : Task (Except ServiceError α)}
    (hok : ∀ a, (t.run answer s).1 = .ok a → Ends answer (f a) (t.run answer s).2 R)
    (herr : ∀ e, (t.run answer s).1 = .error e → R (.error (error step e.message)) (t.run answer s).2) :
    Ends answer (service step t >>= f) s R := by
  have hrun : (service step t).run.run answer s = _ := Task.run_bind answer t _ s
  refine ends_bind ?_
  unfold Ends
  rw [hrun]
  generalize t.run answer s = out at hok herr ⊢
  obtain ⟨r, s'⟩ := out
  cases r with
  | ok a =>
    refine ⟨?_, nofun⟩
    rintro b ⟨⟩
    exact hok a rfl
  | error e =>
    refine ⟨nofun, ?_⟩
    rintro e' ⟨⟩
    exact herr e rfl

end Work

theorem Handler.ends_ofWork {S : Type} {answer : (q : Ask) → S → q.Answer × S}
    {work : Step → Context → Work StepResult} {step : Step} {ctx : Context} {s : S}
    {Q : Except WorkflowError StepResult → S → Prop} (h : Work.Ends answer (work step ctx) s Q) :
    Q ((Handler.ofWork work step ctx).run answer s).1.1 ((Handler.ofWork work step ctx).run answer s).2 := by
  have hrun : (Handler.ofWork work step ctx).run answer s =
      (((((work step ctx).run).run answer s).1, ctx), (((work step ctx).run).run answer s).2) :=
    Task.run_bind answer (work step ctx).run (fun r => .done (r, ctx)) s
  rw [hrun]
  exact h

/-! ## (2) Records and mail -/

namespace Services

section Guarded

variable {σ α β : Type} {fault : Option ServiceError} {result : Except ServiceError (α × β)} {put : β → World σ}
  {w : World σ}

/-- What was granted has been done. -/
theorem guarded_granted {a : α} (h : (guarded fault result put w).1 = .ok a) :
    ∃ b, result = .ok (a, b) ∧ (guarded fault result put w).2 = put b := by
  cases fault with
  | some e => cases h
  | none =>
    cases result with
    | error e => cases h
    | ok r =>
      cases h
      exact ⟨r.2, rfl, rfl⟩

/-- What was refused has changed nothing. -/
theorem guarded_refused {e : ServiceError} (h : (guarded fault result put w).1 = .error e) :
    (guarded fault result put w).2 = w := by
  cases fault with
  | some e => rfl
  | none =>
    cases result with
    | error e => rfl
    | ok r => cases h

end Guarded

variable {σ : Type} (s : Services σ) (nested : Nested σ) {w : World σ}

theorem answer_quiet {q : Ask} (hq : q.isQuiet = true) :
    (s.answer nested q w).2.records = w.records ∧ (s.answer nested q w).2.mailbox = w.mailbox := by
  cases q with
  | findRecords type query =>
    cases h : (s.reply nested (.findRecords type query) w).1 with
    | error e =>
      have hw := guarded_refused h
      exact ⟨congrArg (·.records) hw, congrArg (·.mailbox) hw⟩
    | ok found =>
      obtain ⟨-, -, hput⟩ := guarded_granted h
      exact ⟨congrArg (·.records) hput, congrArg (·.mailbox) hput⟩
  | callApi request => exact ⟨rfl, rfl⟩
  | generate request => exact ⟨rfl, rfl⟩
  | clock => exact ⟨rfl, rfl⟩
  | _ => cases hq

theorem create_granted {type : String} {fields : Fields} {ref : Records.RecordRef}
    (h : (s.answer nested (.createRecord type fields) w).1 = .ok ref) :
    w.records.create (s.recordIds w.records.length) type fields =
        .ok (ref, (s.answer nested (.createRecord type fields) w).2.records) ∧
      (s.answer nested (.createRecord type fields) w).2.mailbox = w.mailbox := by
  obtain ⟨records, hresult, hput⟩ := guarded_granted h
  have hrecords : (s.answer nested (.createRecord type fields) w).2.records = records := congrArg (·.records) hput
  exact ⟨by rw [hrecords, hresult], congrArg (·.mailbox) hput⟩

theorem create_refused {type : String} {fields : Fields} {e : ServiceError}
    (h : (s.answer nested (.createRecord type fields) w).1 = .error e) :
    (s.answer nested (.createRecord type fields) w).2.records = w.records ∧
      (s.answer nested (.createRecord type fields) w).2.mailbox = w.mailbox := by
  have hw := guarded_refused h
  exact ⟨congrArg (·.records) hw, congrArg (·.mailbox) hw⟩

theorem update_granted {type id : String} {fields : Fields} {u : Unit}
    (h : (s.answer nested (.updateRecord type id fields) w).1 = .ok u) :
    w.records.update type id fields = .ok (s.answer nested (.updateRecord type id fields) w).2.records ∧
      (s.answer nested (.updateRecord type id fields) w).2.mailbox = w.mailbox := by
  obtain ⟨records, hresult, hput⟩ := guarded_granted h
  have hrecords : (s.answer nested (.updateRecord type id fields) w).2.records = records := congrArg (·.records) hput
  refine ⟨?_, congrArg (·.mailbox) hput⟩
  rw [hrecords]
  cases hu : w.records.update type id fields with
  | error e =>
    rw [hu] at hresult
    cases hresult
  | ok updated =>
    rw [hu] at hresult
    cases hresult
    rfl

theorem update_refused {type id : String} {fields : Fields} {e : ServiceError}
    (h : (s.answer nested (.updateRecord type id fields) w).1 = .error e) :
    (s.answer nested (.updateRecord type id fields) w).2.records = w.records ∧
      (s.answer nested (.updateRecord type id fields) w).2.mailbox = w.mailbox := by
  have hw := guarded_refused h
  exact ⟨congrArg (·.records) hw, congrArg (·.mailbox) hw⟩

theorem send_granted {message : Message} {id : String} (h : (s.answer nested (.sendMail message) w).1 = .ok id) :
    w.mailbox.send (s.messageIds w.mailbox.length) message =
        .ok (id, (s.answer nested (.sendMail message) w).2.mailbox) ∧
      (s.answer nested (.sendMail message) w).2.records = w.records := by
  obtain ⟨mailbox, hresult, hput⟩ := guarded_granted h
  have hmailbox : (s.answer nested (.sendMail message) w).2.mailbox = mailbox := congrArg (·.mailbox) hput
  exact ⟨by rw [hmailbox, hresult], congrArg (·.records) hput⟩

theorem send_refused {message : Message} {e : ServiceError}
    (h : (s.answer nested (.sendMail message) w).1 = .error e) :
    (s.answer nested (.sendMail message) w).2.records = w.records ∧
      (s.answer nested (.sendMail message) w).2.mailbox = w.mailbox := by
  have hw := guarded_refused h
  exact ⟨congrArg (·.records) hw, congrArg (·.mailbox) hw⟩

end Services

/-- What a handler that asks for no steps did to records and mail, given the services, the
    key of its step, the worlds before and after and its result. -/
inductive Deed {σ : Type} (s : Services σ) (key : String) (w w' : World σ) : Except WorkflowError StepResult → Prop
  | nothing {result} : w'.records = w.records → w'.mailbox = w.mailbox → (∀ r, result = .ok r →
      key ≠ "ACTION_CREATE_RECORD" ∧ key ≠ "ACTION_UPDATE_RECORD" ∧ key ≠ "ACTION_SEND_EMAIL") → Deed s key w w' result
  | created {type fields ref r} : key = "ACTION_CREATE_RECORD" →
      w.records.create (s.recordIds w.records.length) type fields = .ok (ref, w'.records) →
      w'.mailbox = w.mailbox → r.skipped = false →
      r.parsed = .record [("id", .string ref.id), ("new_record_id", .string ref.id), ("model", .string type)] →
      Deed s key w w' (.ok r)
  | updated {type id fields r} : key = "ACTION_UPDATE_RECORD" → w.records.update type id fields = .ok w'.records →
      w'.mailbox = w.mailbox → r.skipped = false → Deed s key w w' (.ok r)
  | sent {message id r} : key = "ACTION_SEND_EMAIL" →
      w.mailbox.send (s.messageIds w.mailbox.length) message = .ok (id, w'.mailbox) →
      w'.records = w.records → r.skipped = false →
      r.parsed = .record [("to", .string message.recipient), ("subject", .string message.subject),
        ("message_id", .string id)] → Deed s key w w' (.ok r)

namespace Deed

variable {σ : Type} {s : Services σ} {key : String} {w w' : World σ}

theorem of_error {e : WorkflowError} (hr : w'.records = w.records) (hm : w'.mailbox = w.mailbox) :
    Deed s key w w' (.error e) := .nothing hr hm nofun

/-- What was done from a world with the same records and mail. -/
theorem of_same {v : World σ} {result : Except WorkflowError StepResult} (h : Deed s key v w' result)
    (hr : v.records = w.records) (hm : v.mailbox = w.mailbox) : Deed s key w w' result := by
  cases h with
  | nothing hr' hm' hkey => exact .nothing (hr'.trans hr) (hm'.trans hm) hkey
  | created hkey hcreate hm' hskip hparsed => exact .created hkey (hr ▸ hcreate) (hm'.trans hm) hskip hparsed
  | updated hkey hupdate hm' hskip => exact .updated hkey (hr ▸ hupdate) (hm'.trans hm) hskip
  | sent hkey hsend hr' hskip hparsed => exact .sent hkey (hm ▸ hsend) (hr'.trans hr) hskip hparsed

/-- A handler that fails has done nothing. -/
theorem of_failed {e : WorkflowError} (h : Deed s key w w' (.error e)) :
    w'.records = w.records ∧ w'.mailbox = w.mailbox := by
  cases h with
  | nothing hr hm _ => exact ⟨hr, hm⟩

end Deed

namespace Handler

section Deeds

variable {σ : Type} (s : Services σ) (nested : Nested σ) (step : Step) (ctx : Context) (w : World σ)

theorem quiet_world {α : Type} {t : Task α} (ht : t.AsksOnly (·.isQuiet = true)) (w : World σ) :
    (t.run (s.answer nested) w).2.records = w.records ∧ (t.run (s.answer nested) w).2.mailbox = w.mailbox := by
  induction ht generalizing w with
  | done a => exact ⟨rfl, rfl⟩
  | @ask q next hq _ ih =>
    obtain ⟨hr, hm⟩ := s.answer_quiet nested (w := w) hq
    obtain ⟨hr', hm'⟩ := ih (s.answer nested q w).1 (s.answer nested q w).2
    exact ⟨hr'.trans hr, hm'.trans hm⟩

theorem quiet_deed {h : Handler} (hq : Quiet h) {key : String} (hkey : key ≠ "ACTION_CREATE_RECORD" ∧
      key ≠ "ACTION_UPDATE_RECORD" ∧ key ≠ "ACTION_SEND_EMAIL") :
    Deed s key w ((h step ctx).run (s.answer nested) w).2 ((h step ctx).run (s.answer nested) w).1.1 := by
  obtain ⟨work, rfl, hasks⟩ := hq
  have hall : (ofWork work step ctx).AsksOnly (·.isQuiet = true) :=
    Task.asksOnly_bind (hasks step ctx) fun _ => .done _
  obtain ⟨hr, hm⟩ := quiet_world s nested hall w
  exact .nothing hr hm fun _ _ => hkey

theorem createRecord_deed : Deed s "ACTION_CREATE_RECORD" w ((createRecord step ctx).run (s.answer nested) w).2
    ((createRecord step ctx).run (s.answer nested) w).1.1 := by
  unfold createRecord
  refine ends_ofWork (Q := fun result w' => Deed s _ w w' result) ?_
  refine Work.ends_need_then (fun model _ => ?_) (.of_error rfl rfl)
  refine Work.ends_bind (Work.ends_ask_then (Work.ends_pure ⟨?_, nofun⟩))
  rintro fields ⟨⟩
  dsimp only
  obtain ⟨hr, hm⟩ := s.answer_quiet nested (w := w) (q := .clock) rfl
  split
  · exact Work.ends_fail_then (.of_error hr hm)
  · refine Work.ends_service_then (fun ref hok => Work.ends_pure ?_) fun e herr => ?_
    · obtain ⟨hcreate, hmail⟩ := s.create_granted nested hok
      exact (Deed.created rfl hcreate hmail rfl rfl).of_same hr hm
    · obtain ⟨hr', hm'⟩ := s.create_refused nested herr
      exact (Deed.of_error hr' hm').of_same hr hm

theorem updateRecord_deed : Deed s "ACTION_UPDATE_RECORD" w ((updateRecord step ctx).run (s.answer nested) w).2
    ((updateRecord step ctx).run (s.answer nested) w).1.1 := by
  unfold updateRecord
  refine ends_ofWork (Q := fun result w' => Deed s _ w w' result) ?_
  refine Work.ends_need_then (fun model _ => ?_) (.of_error rfl rfl)
  refine Work.ends_need_then (fun id _ => ?_) (.of_error rfl rfl)
  refine Work.ends_bind (Work.ends_ask_then (Work.ends_pure ⟨?_, nofun⟩))
  rintro fields ⟨⟩
  obtain ⟨hr, hm⟩ := s.answer_quiet nested (w := w) (q := .clock) rfl
  refine Work.ends_service_then (fun u hok => Work.ends_pure ?_) fun e herr => ?_
  · obtain ⟨hupdate, hmail⟩ := s.update_granted nested hok
    exact (Deed.updated rfl hupdate hmail rfl).of_same hr hm
  · obtain ⟨hr', hm'⟩ := s.update_refused nested herr
    exact (Deed.of_error hr' hm').of_same hr hm

theorem sendEmail_deed : Deed s "ACTION_SEND_EMAIL" w ((sendEmail step ctx).run (s.answer nested) w).2
    ((sendEmail step ctx).run (s.answer nested) w).1.1 := by
  unfold sendEmail
  refine ends_ofWork (Q := fun result w' => Deed s _ w w' result) ?_
  refine Work.ends_need_then (fun recipient _ => ?_) (.of_error rfl rfl)
  refine Work.ends_service_then (fun id hok => Work.ends_pure ?_) fun e herr => ?_
  · obtain ⟨hsend, hr⟩ := s.send_granted nested hok
    exact .sent rfl hsend hr rfl rfl
  · obtain ⟨hr, hm⟩ := s.send_refused nested herr
    exact .of_error hr hm

end Deeds

end Handler

/-- What a task that asks for steps only does is what the lists do that are run for it. -/
theorem Task.lists_law {σ α : Type} {s : Services σ} {nested : Nested σ} {below : Engine.Recorder σ}
    {R : World σ → List (Invocation σ) → World σ → Prop} (nil : ∀ w, R w [] w)
    (append : ∀ {w₁ ran w₂ more w₃}, R w₁ ran w₂ → R w₂ more w₃ → R w₁ (ran ++ more) w₃)
    (later : ∀ {w ran w'}, R w ran w' → R w ran w'.later)
    (lists : ∀ steps ctx w, R w (below steps ctx w) (nested steps ctx w).2) {t : Task α}
    (ht : t.AsksOnly (·.isNested = true)) (w : World σ) :
    R w (((t.exchanges (s.answer nested) w).filterMap (Exchange.call? below)).flatMap (·.ran))
      (t.run (s.answer nested) w).2 := by
  refine Task.exchanges_law nil append t w fun x hx => ?_
  have hasked := ht.of_mem hx
  obtain ⟨v, q, a⟩ := x
  cases q with
  | runSteps steps given =>
    simp only [Exchange.call?, Option.toList_some, List.flatMap_cons, List.flatMap_nil, List.append_nil]
    exact later (lists steps given v)
  | _ => cases hasked

namespace Handler

/-- A handler of the built-in registry asks for no steps and does a deed, or it asks for
    steps only. -/
theorem deed_builtin {σ : Type} {step : Step} {h : Handler} (hr : registry.resolve step = .ok h) (s : Services σ)
    (nested : Nested σ) (ctx : Context) (w : World σ) :
    Leaf h ∧ Deed s step.handlerKey w ((h step ctx).run (s.answer nested) w).2
        ((h step ctx).run (s.answer nested) w).1.1 ∨
      (step.handlerKey = "CONDITION" ∨ step.handlerKey = "FOR_EACH") ∧ (h step ctx).AsksOnly (·.isNested = true) := by
  have hregistered := registered_of_resolve hr
  generalize step.handlerKey = key at hregistered ⊢
  cases hregistered with
  | trigger => exact .inl ⟨trigger_quiet.leaf, quiet_deed s nested step ctx w trigger_quiet (by decide)⟩
  | aiPrompt => exact .inl ⟨aiPrompt_quiet.leaf, quiet_deed s nested step ctx w aiPrompt_quiet (by decide)⟩
  | condition => exact .inr ⟨.inl rfl, condition_asks step ctx fun _ => rfl⟩
  | forEach => exact .inr ⟨.inr rfl, forEach_asks step ctx fun _ => rfl⟩
  | plainAction => exact .inl ⟨plainAction_quiet.leaf, quiet_deed s nested step ctx w plainAction_quiet (by decide)⟩
  | createRecord => exact .inl ⟨createRecord_leaf, createRecord_deed s nested step ctx w⟩
  | updateRecord => exact .inl ⟨updateRecord_leaf, updateRecord_deed s nested step ctx w⟩
  | queryData => exact .inl ⟨queryData_quiet.leaf, quiet_deed s nested step ctx w queryData_quiet (by decide)⟩
  | fetchRecords => exact .inl ⟨queryData_quiet.leaf, quiet_deed s nested step ctx w queryData_quiet (by decide)⟩
  | fetchApi => exact .inl ⟨fetchApi_quiet.leaf, quiet_deed s nested step ctx w fetchApi_quiet (by decide)⟩
  | sendEmail => exact .inl ⟨sendEmail_leaf, sendEmail_deed s nested step ctx w⟩
  | defineVariable =>
    exact .inl ⟨defineVariable_quiet.leaf, quiet_deed s nested step ctx w defineVariable_quiet (by decide)⟩
  | transformContent =>
    exact .inl ⟨transformContent_quiet.leaf, quiet_deed s nested step ctx w transformContent_quiet (by decide)⟩

/-! ## (3) The context -/

/-- The key under which a step of the built-in registry merges an object when it succeeds. -/
def mergedKey? (step : Step) : Option String :=
  match step.handlerKey with
  | "CONDITION" => some Context.conditionKey
  | "ACTION_CREATE_RECORD" | "ACTION_UPDATE_RECORD" => (step.configWord? "target_model").map slotName
  | "QUERY_DATA" | "FETCH_RECORDS" => step.configWord? "output_key"
  | "DEFINE_VARIABLE" => some Context.variablesKey
  | "TRANSFORM_CONTENT" => some "transform"
  | _ => none

/-- If the step succeeds, it merges one object under its key, or nothing if it has none. -/
def Merges (step : Step) (result : Except WorkflowError StepResult) : Prop :=
  ∀ r, result = .ok r →
    ∃ fields : Fields, r.context = ((mergedKey? step).map fun key => (key, Value.object fields)).toList

section Merging

variable {S : Type} {answer : (q : Ask) → S → q.Answer × S} {step : Step} {ctx : Context} {s : S}

theorem merges_error {e : WorkflowError} : Merges step (.error e) := nofun

theorem merges_nothing {r : StepResult} (hkey : mergedKey? step = none) (hpart : r.context = []) :
    Merges step (.ok r) := by
  rintro r ⟨⟩
  exact ⟨[], by rw [hkey, hpart]; rfl⟩

theorem merges_object {r : StepResult} {key : String} {fields : Fields} (hkey : mergedKey? step = some key)
    (hpart : r.context = [(key, .object fields)]) : Merges step (.ok r) := by
  rintro r ⟨⟩
  exact ⟨fields, by rw [hkey, hpart]; rfl⟩

theorem aiPrompt_merges (hkey : mergedKey? step = none) : Merges step ((aiPrompt step ctx).run answer s).1.1 := by
  unfold aiPrompt
  refine ends_ofWork (Q := fun result _ => Merges step result) ?_
  dsimp only
  split
  · exact Work.ends_fail merges_error
  · exact Work.ends_service_then (fun _ _ => Work.ends_pure (merges_nothing hkey rfl)) fun _ _ => merges_error

theorem createRecord_merges (hkey : mergedKey? step = (step.configWord? "target_model").map slotName) :
    Merges step ((createRecord step ctx).run answer s).1.1 := by
  unfold createRecord
  refine ends_ofWork (Q := fun result _ => Merges step result) ?_
  refine Work.ends_need_then (fun model hmodel => ?_) merges_error
  rw [hmodel] at hkey
  refine Work.ends_bind (Work.ends_ask_then (Work.ends_pure ⟨?_, nofun⟩))
  rintro fields ⟨⟩
  dsimp only
  split
  · exact Work.ends_fail_then merges_error
  · exact Work.ends_service_then (fun _ _ => Work.ends_pure (merges_object hkey rfl)) fun _ _ => merges_error

theorem updateRecord_merges (hkey : mergedKey? step = (step.configWord? "target_model").map slotName) :
    Merges step ((updateRecord step ctx).run answer s).1.1 := by
  unfold updateRecord
  refine ends_ofWork (Q := fun result _ => Merges step result) ?_
  refine Work.ends_need_then (fun model hmodel => ?_) merges_error
  rw [hmodel] at hkey
  refine Work.ends_need_then (fun id _ => ?_) merges_error
  refine Work.ends_bind (Work.ends_ask_then (Work.ends_pure ⟨?_, nofun⟩))
  rintro fields ⟨⟩
  exact Work.ends_service_then (fun _ _ => Work.ends_pure (merges_object hkey rfl)) fun _ _ => merges_error

theorem queryData_merges (hkey : mergedKey? step = step.configWord? "output_key") :
    Merges step ((queryData step ctx).run answer s).1.1 := by
  unfold queryData
  refine ends_ofWork (Q := fun result _ => Merges step result) ?_
  refine Work.ends_need_then (fun model _ => ?_) merges_error
  refine Work.ends_ask_then ?_
  refine Work.ends_service_then (fun found _ => Work.ends_pure ?_) fun _ _ => merges_error
  rintro r ⟨⟩
  rw [hkey]
  cases QueryMode.of step <;> exact ⟨_, rfl⟩

theorem fetchApi_merges (hkey : mergedKey? step = none) : Merges step ((fetchApi step ctx).run answer s).1.1 := by
  unfold fetchApi
  refine ends_ofWork (Q := fun result _ => Merges step result) ?_
  split
  · exact Work.ends_fail merges_error
  · refine Work.ends_ask_then (Work.ends_ask_then ?_)
    split
    · exact Work.ends_fail merges_error
    · exact Work.ends_ask_then (Work.ends_pure (merges_nothing hkey rfl))

theorem sendEmail_merges (hkey : mergedKey? step = none) : Merges step ((sendEmail step ctx).run answer s).1.1 := by
  unfold sendEmail
  refine ends_ofWork (Q := fun result _ => Merges step result) ?_
  refine Work.ends_need_then (fun _ _ => ?_) merges_error
  exact Work.ends_service_then (fun _ _ => Work.ends_pure (merges_nothing hkey rfl)) fun _ _ => merges_error

theorem transformContent_merges (hkey : mergedKey? step = some "transform") :
    Merges step ((transformContent step ctx).run answer s).1.1 := by
  unfold transformContent
  refine ends_ofWork (Q := fun result _ => Merges step result) ?_
  refine Work.ends_need_then (fun name _ => ?_) merges_error
  refine Work.ends_need_then (fun transform _ => ?_) merges_error
  exact Work.ends_pure (merges_object hkey rfl)

theorem condition_merges (hkey : mergedKey? step = some Context.conditionKey) :
    Merges step ((condition step ctx).run answer s).1.1 := by
  obtain ⟨err, -, h⟩ | ⟨holds, -, -, h⟩ | ⟨holds, -, -, h⟩ := condition_cases step ctx
  · rw [h]
    exact merges_error
  · rw [h]
    exact merges_object hkey rfl
  · rw [h, Task.run_ask, Task.run_done]
    cases (answer (.runSteps (branch step holds) ctx) s).1.1 with
    | error e => exact merges_error
    | ok run => exact merges_object hkey rfl

theorem forEach_merges (hkey : mergedKey? step = none) : Merges step ((forEach step ctx).run answer s).1.1 := by
  obtain ⟨-, h⟩ | ⟨path, reason, -, -, h⟩ | ⟨path, items, -, -, h⟩ := forEach_cases step ctx
  · rw [h]
    exact merges_error
  · rw [h]
    exact merges_nothing hkey rfl
  · rw [h, Task.run_bind, Task.run_done]
    cases ((iterate step.orderedChildren items.length 0 items ctx 0).run answer s).1.1 with
    | error e => exact merges_error
    | ok failed => exact merges_nothing hkey rfl

/-- What a step of the built-in registry merges stands under its key. -/
theorem merges_builtin {h : Handler} (hr : registry.resolve step = .ok h) :
    Merges step ((h step ctx).run answer s).1.1 := by
  have hregistered := registered_of_resolve hr
  generalize hk : step.handlerKey = key at hregistered
  cases hregistered with
  | trigger => exact merges_nothing (by simp [mergedKey?, hk]) rfl
  | aiPrompt => exact aiPrompt_merges (by simp [mergedKey?, hk])
  | condition => exact condition_merges (by simp [mergedKey?, hk])
  | forEach => exact forEach_merges (by simp [mergedKey?, hk])
  | plainAction => exact merges_nothing (by simp [mergedKey?, hk]) rfl
  | createRecord => exact createRecord_merges (by simp [mergedKey?, hk])
  | updateRecord => exact updateRecord_merges (by simp [mergedKey?, hk])
  | queryData => exact queryData_merges (by simp [mergedKey?, hk])
  | fetchRecords => exact queryData_merges (by simp [mergedKey?, hk])
  | fetchApi => exact fetchApi_merges (by simp [mergedKey?, hk])
  | sendEmail => exact sendEmail_merges (by simp [mergedKey?, hk])
  | defineVariable => exact merges_object (by simp [mergedKey?, hk]) rfl
  | transformContent => exact transformContent_merges (by simp [mergedKey?, hk])

end Merging

end Handler

/-! ## Invocations over the built-in registry -/

namespace Engine

variable {σ : Type} {e : Engine σ} (nested : Scope → Nested σ) (below : Scope → Recorder σ) (scope : Scope)
  (step : Step) (ctx : Context) (w : World σ) (he : e.registry = Handler.registry)

include he

theorem deed_step :
    let i := e.recordStep nested below scope step ctx w
    i.calls = [] ∧ Deed e.services i.step.handlerKey i.before i.after i.result ∨
      (i.step.handlerKey = "CONDITION" ∨ i.step.handlerKey = "FOR_EACH") ∧
        (e.handling step ctx).AsksOnly (·.isNested = true) := by
  intro i
  cases hr : Handler.registry.resolve step with
  | error err =>
    have hh : e.handling step ctx = .done (.error err, ctx) := by simp only [handling, he, hr]
    left
    simp only [i, recordStep, hh, Task.run_done, Task.exchanges_done]
    exact ⟨rfl, .of_error rfl rfl⟩
  | ok h =>
    have hh : e.handling step ctx = h step ctx := by simp only [handling, he, hr]
    rcases Handler.deed_builtin hr e.services (nested (inside scope w)) ctx (opening scope step ctx w) with
      ⟨hleaf, hdeed⟩ | hasks
    · refine .inl ⟨calls_of_leaf nested below scope step ctx w hh hleaf, ?_⟩
      simp only [i, recordStep, hh]
      exact hdeed.of_same rfl rfl
    · rw [hh]
      exact .inr hasks

theorem merges_step : Handler.Merges step (e.recordStep nested below scope step ctx w).result := by
  cases hr : Handler.registry.resolve step with
  | error err =>
    simp only [recordStep, handling, he, hr]
    exact Handler.merges_error
  | ok h =>
    simp only [recordStep, handling, he, hr]
    exact Handler.merges_builtin hr

end Engine

end Stepflow
