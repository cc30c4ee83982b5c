/-
  Stepflow.Proofs.Mirror — what the context shows of a record that a step has written.

  A step that creates or updates a record writes the same fields twice: over those of the
  record in the store, and as a slot of the context named by the model (`Wrote`).

  (1) In the store the fields of a step replace those of the record, each as a whole. The
  record has its id, and it is the one that is found by its type and id (`stored_create`,
  `stored_update`). This is so in a store that calls have made of the empty one, if no id is
  given twice; and every step leaves it such a store (`Deed.reached`).

  (2) Into the context the slot is merged, at every level (`get?_slot`). So a field that
  holds an object, and was written as one, shows the keys of both (`field?_mergedOver`).

  `record_steps_show_what_they_wrote` says this of every record step of a run: the context
  shows the value in the store merged into what was shown before, which is that value
  unless both are objects. A run in which they are: `sample_record_shows_an_old_key`.
-/

import Stepflow.Proofs.RecordMap
import Stepflow.Proofs.Retention
import Stepflow.Proofs.Tables

namespace Stepflow

open Services

/-! ## (1) The store -/

namespace Records

variable {s s' : Store} {type id : String} {fields : Fields}

/-- Of fields of which no two have one name each replaces the old one. -/
theorem get?_overwrite_of_nodup (old : Fields) (h : fields.keys.Nodup) {name : String} (hname : name ≠ idKey) :
    (overwrite old fields).get? name = (fields.get? name).or (old.get? name) := by
  have hwrite : overwrite old fields = old.insertAll (fields.erase idKey) :=
    (write_fields ⟨"", old⟩ fields).symm
  have hnodup : (fields.erase idKey).keys.Nodup := h.sublist (List.filter_sublist.map _)
  rw [hwrite, Table.get?_insertAll _ hnodup, Table.get?_erase, if_neg (Ne.symm hname)]

namespace Store

variable {ids : Nat → String} {ref : RecordRef}

theorem perform_create (h : s.create (ids s.length) type fields = .ok (ref, s')) :
    s.perform ids (.create type fields) = (.created ref, s') := by
  simp only [perform, h]

theorem perform_update (h : s.update type id fields = .ok s') :
    s.perform ids (.update type id fields) = (.updated, s') := by
  simp only [perform, h]

/-- Where every record has its id, a record is found in the store as it is in the map. -/
theorem Numbered.get?_eq (hs : s.Numbered ids) (type id : String) : s.get? type id = s.view.get? (keyOf type id) := by
  refine find?_view (fun r hr => ?_) type id
  obtain ⟨n, -, hname⟩ := hs.of_mem hr
  exact ⟨ids n, hname⟩

/-- A new record is found, with the fields that it was given and its id. -/
theorem stored_create (hs : s.Numbered ids) (hids : Function.Injective ids)
    (h : s.create (ids s.length) type fields = .ok (ref, s')) :
    s'.get? type ref.id = some (fields.insert idKey (.string ref.id)) := by
  have hs' := numbered_perform hs (.create type fields)
  obtain ⟨hanswer, hview⟩ := perform_view hids hs (.create type fields)
  rw [perform_create h] at hs' hanswer hview
  rw [hs'.get?_eq, hview]
  simp only [RecordMap.perform] at hanswer ⊢
  split at hanswer
  · cases hanswer
  · rename_i hblank
    cases hanswer
    rw [if_neg hblank, RecordMap.get?_put, if_pos rfl]

/-- A record that is updated is found, with its own fields written over; it has its id. -/
theorem stored_update (hs : s.Numbered ids) (hids : Function.Injective ids) (h : s.update type id fields = .ok s') :
    ∃ old, s'.get? type id = some (overwrite old fields) ∧ old.get? idKey = some (.string id) := by
  have hs' := numbered_perform hs (.update type id fields)
  obtain ⟨hanswer, hview⟩ := perform_view hids hs (.update type id fields)
  rw [perform_update h] at hs' hanswer hview
  simp only [RecordMap.perform] at hanswer hview
  split at hanswer
  · rename_i old hold
    refine ⟨old, ?_, ?_⟩
    · rw [hs'.get?_eq, hview, hold, RecordMap.get?_put, if_pos rfl]
    · rw [← hs.get?_eq, get?, Option.map_eq_some_iff] at hold
      obtain ⟨r, hr, rfl⟩ := hold
      have hat := List.find?_some hr
      simp only [Stored.isAt, Bool.and_eq_true, beq_iff_eq] at hat
      exact Stored.get?_id hat.2
  · cases hanswer

theorem Reached.create (hs : s.Reached ids) (h : s.create (ids s.length) type fields = .ok (ref, s')) :
    s'.Reached ids := by
  have := hs.perform (.create type fields)
  rwa [perform_create h] at this

theorem Reached.update (hs : s.Reached ids) (h : s.update type id fields = .ok s') : s'.Reached ids := by
  have := hs.perform (.update type id fields)
  rwa [perform_update h] at this

end Store

end Records

/-- Whatever a step has done to the records, calls of the store have done it. -/
theorem Deed.reached {σ : Type} {s : Services σ} {key : String} {w w' : World σ}
    {result : Except WorkflowError StepResult} (h : Deed s key w w' result) (hs : w.records.Reached s.recordIds) :
    w'.records.Reached s.recordIds := by
  cases h with
  | nothing hrecords _ _ => rwa [hrecords]
  | created _ hcreate _ _ _ => exact hs.create hcreate
  | updated _ hupdate _ _ => exact hs.update hupdate
  | sent _ _ hrecords _ _ => rwa [hrecords]

/-- So have they what a list did, and what every invocation finds done. -/
theorem Engine.reached {σ : Type} {e : Engine σ} (he : e.registry = Handler.registry) (depth : Nat) (scope : Scope)
    (steps : List Step) (ctx : Context) (w : World σ) (hs : w.records.Reached e.services.recordIds) :
    (e.runNested depth scope steps ctx w).2.records.Reached e.services.recordIds ∧
      ∀ i ∈ Invocation.preorder (e.recordNested depth scope steps ctx w),
        i.before.records.Reached e.services.recordIds := by
  let Keeps (w : World σ) (ran : List (Invocation σ)) (w' : World σ) : Prop :=
    w.records.Reached e.services.recordIds → w'.records.Reached e.services.recordIds ∧
      ∀ i ∈ Invocation.preorder ran, i.before.records.Reached e.services.recordIds
  have nil : ∀ w, Keeps w [] w := fun w hw => ⟨hw, by simp⟩
  have append : ∀ {w₁ ran w₂ more w₃}, Keeps w₁ ran w₂ → Keeps w₂ more w₃ → Keeps w₁ (ran ++ more) w₃ := by
    intro w₁ ran w₂ more w₃ h₁ h₂ hw
    obtain ⟨hw₂, hran⟩ := h₁ hw
    obtain ⟨hw₃, hmore⟩ := h₂ hw₂
    refine ⟨hw₃, ?_⟩
    rw [Invocation.preorder_append]
    exact fun i hi => (List.mem_append.mp hi).elim (hran i) (hmore i)
  refine e.record_law (P := fun _ _ w ran _ w' => Keeps w ran w') (fun _ _ w => nil w) append ?_
    depth scope steps ctx w hs
  intro depth ih scope step ctx w i hw
  rw [Invocation.preorder_singleton]
  rcases deed_step (e.runNested depth) (e.recordNested depth) scope step ctx w he with ⟨hcalls, hdeed⟩ | ⟨-, hasks⟩
  · have hafter : i.after.records.Reached e.services.recordIds := hdeed.reached hw
    refine ⟨hafter, fun j hj => ?_⟩
    rw [Invocation.children, hcalls, List.flatMap_nil, Invocation.preorder_nil, List.mem_singleton] at hj
    exact hj ▸ hw
  · have hlists : Keeps (opening scope step ctx w) i.children i.after :=
      Task.lists_law (R := Keeps) nil append (fun h => h) (ih (inside scope w)) hasks (opening scope step ctx w)
    obtain ⟨hafter, hbelow⟩ := hlists hw
    exact ⟨hafter, fun j hj => (List.mem_cons.mp hj).elim (fun hj => hj ▸ hw) (hbelow j)⟩

/-! ## (2) What a record step writes -/

namespace Handler

/-- What a record step that succeeded has done: the record that it wrote, how it came by the
    fields, and the slot that it has for the context. -/
structure Wrote (ids : Nat → String) (step : Step) (ctx : Context) (s s' : Records.Store) (r : StepResult)
    (model id : String) (fields : Fields) : Prop where
  named : step.configWord? "target_model" = some model
  given : ∃ now, fields = resolveFields now ctx (step.config.get? "fields")
  told : r.parsed.field? "id" = some (.string id)
  shown : r.context = slot model id fields
  written : step.handlerKey = "ACTION_CREATE_RECORD" ∧
      s.create (ids s.length) model fields = .ok (⟨model, id⟩, s') ∨
    step.handlerKey = "ACTION_UPDATE_RECORD" ∧ s.update model id fields = .ok s'

theorem Wrote.ordered {ids : Nat → String} {step : Step} {ctx : Context} {s s' : Records.Store} {r : StepResult}
    {model id : String} {fields : Fields} (h : Wrote ids step ctx s s' r model id fields) : fields.Ordered := by
  obtain ⟨now, hfields⟩ := h.given
  rw [hfields]
  exact Table.ordered_ofList _

section Writing

variable {σ : Type} (s : Services σ) (nested : Nested σ) {step : Step} {ctx : Context} {w : World σ}

theorem createRecord_wrote (hkey : step.handlerKey = "ACTION_CREATE_RECORD") :
    ∀ r, ((createRecord step ctx).run (s.answer nested) w).1.1 = .ok r → ∃ model id fields,
      Wrote s.recordIds step ctx w.records ((createRecord step ctx).run (s.answer nested) w).2.records r model id
        fields := by
  unfold createRecord
  refine ends_ofWork (Q := fun result (after : World σ) => ∀ r, result = .ok r → ∃ model id fields,
    Wrote s.recordIds step ctx w.records after.records r model id fields) ?_
  refine Work.ends_need_then (fun model hmodel => ?_) nofun
  refine Work.ends_bind (Work.ends_ask_then (Work.ends_pure ⟨?_, nofun⟩))
  rintro fields hfields
  split
  · exact Work.ends_fail_then nofun
  · refine Work.ends_service_then (fun ref hok => Work.ends_pure ?_) nofun
    rintro r ⟨⟩
    obtain ⟨hcreate, -⟩ := s.create_granted nested hok
    obtain ⟨rfl, -⟩ := Records.Store.names_create hcreate
    refine ⟨ref.type, ref.id, fields, hmodel, ⟨_, (Except.ok.inj hfields).symm⟩, ?_, rfl, .inl ⟨hkey, hcreate⟩⟩
    simp [Value.record, Value.field?, Value.fields?, Table.ofList, Table.insertAll, Table.get?_insert]

theorem updateRecord_wrote (hkey : step.handlerKey = "ACTION_UPDATE_RECORD") :
    ∀ r, ((updateRecord step ctx).run (s.answer nested) w).1.1 = .ok r → ∃ model id fields,
      Wrote s.recordIds step ctx w.records ((updateRecord step ctx).run (s.answer nested) w).2.records r model id
        fields := by
  unfold updateRecord
  refine ends_ofWork (Q := fun result (after : World σ) => ∀ r, result = .ok r → ∃ model id fields,
    Wrote s.recordIds step ctx w.records after.records r model id fields) ?_
  refine Work.ends_need_then (fun model hmodel => ?_) nofun
  refine Work.ends_need_then (fun id hid => ?_) nofun
  refine Work.ends_bind (Work.ends_ask_then (Work.ends_pure ⟨?_, nofun⟩))
  rintro fields hfields
  refine Work.ends_service_then (fun u hok => Work.ends_pure ?_) nofun
  rintro r ⟨⟩
  obtain ⟨hupdate, -⟩ := s.update_granted nested hok
  refine ⟨model, id, fields, hmodel, ⟨_, (Except.ok.inj hfields).symm⟩, ?_, rfl, .inr ⟨hkey, hupdate⟩⟩
  simp [StepResult.completed, Value.record, Value.field?, Value.fields?, Table.ofList, Table.insertAll,
    Table.get?_insert]

end Writing

theorem resolve_createRecord {step : Step} (hk : step.handlerKey = "ACTION_CREATE_RECORD") :
    registry.resolve step = .ok createRecord := by
  rw [Registry.resolve, get?_registry, hk]
  rfl

theorem resolve_updateRecord {step : Step} (hk : step.handlerKey = "ACTION_UPDATE_RECORD") :
    registry.resolve step = .ok updateRecord := by
  rw [Registry.resolve, get?_registry, hk]
  rfl

end Handler

theorem Engine.wrote_step {σ : Type} {e : Engine σ} (he : e.registry = Handler.registry) (nested : Scope → Nested σ)
    (below : Scope → Recorder σ) (scope : Scope) (step : Step) (ctx : Context) (w : World σ) :
    let i := e.recordStep nested below scope step ctx w
    i.step.handlerKey = "ACTION_CREATE_RECORD" ∨ i.step.handlerKey = "ACTION_UPDATE_RECORD" → ∀ r, i.result = .ok r →
      ∃ model id fields,
        Handler.Wrote e.services.recordIds i.step i.given i.before.records i.after.records r model id fields := by
  rintro i (hkey | hkey) r hr
  · change step.handlerKey = _ at hkey
    have hh : e.handling step ctx = Handler.createRecord step ctx := by
      simp only [handling, he, Handler.resolve_createRecord hkey]
    simp only [i, recordStep, hh] at hr ⊢
    exact Handler.createRecord_wrote e.services (nested (inside scope w)) hkey r hr
  · change step.handlerKey = _ at hkey
    have hh : e.handling step ctx = Handler.updateRecord step ctx := by
      simp only [handling, he, Handler.resolve_updateRecord hkey]
    simp only [i, recordStep, hh] at hr ⊢
    exact Handler.updateRecord_wrote e.services (nested (inside scope w)) hkey r hr

namespace Handler.Wrote

variable {ids : Nat → String} {step : Step} {ctx : Context} {s s' : Records.Store} {r : StepResult} {model id : String}
  {fields : Fields}

/-- The record that was written is found, with its id and the values of the fields. -/
theorem stored (h : Wrote ids step ctx s s' r model id fields) (hids : Function.Injective ids) (hs : s.Numbered ids) :
    ∃ record, s'.get? model id = some record ∧ record.get? Records.idKey = some (.string id) ∧
      ∀ name v, name ≠ Records.idKey → fields.get? name = some v → record.get? name = some v := by
  rcases h.written with ⟨-, hcreate⟩ | ⟨-, hupdate⟩
  · have hget := Records.Store.stored_create hs hids hcreate
    refine ⟨_, hget, ?_, fun name v hname hv => ?_⟩
    · rw [Table.get?_insert, if_pos rfl]
    · rw [Table.get?_insert, if_neg (Ne.symm hname), hv]
  · obtain ⟨old, hget, hid⟩ := Records.Store.stored_update hs hids hupdate
    refine ⟨_, hget, (Records.get?_overwrite_id ..).trans hid, fun name v hname hv => ?_⟩
    rw [Records.get?_overwrite_of_nodup old h.ordered.nodup hname, hv, Option.some_or]

end Handler.Wrote

/-- The fields of an object merged over what is held, whatever that is. -/
theorem Value.field?_mergedOver (held : Option Value) {fields : Fields} (h : fields.keys.Nodup) {name : String}
    {v : Value} (hv : fields.get? name = some v) :
    (Value.mergedOver held (.object fields)).field? name = some (Value.mergedOver (held.bind (·.field? name)) v) := by
  -- what is held and is no object has no fields, and the object replaces it
  cases held with
  | none => exact hv
  | some old =>
    cases old with
    | object target => simp [mergedOver, Value.merge, field?, fields?, Fields.get?_merge target h, hv]
    | _ => simpa [mergedOver, Value.merge, field?, fields?] using hv

namespace Engine

/-- What a step that succeeds merges stays, except where its output goes. -/
theorem get?_absorb (ctx : Context) (stepId : String) (r : StepResult) {key : String} (hsteps : key ≠ Context.stepsKey)
    (hown : key ≠ Context.outputKey stepId) :
    (absorb ctx stepId r).get? key = (Context.merge ctx r.context).get? key := by
  unfold absorb
  split
  · rfl
  · rw [Context.recordOutput, Context.get?_appendEntries _ _ hsteps, Table.get?_insert, if_neg (Ne.symm hown)]

end Engine

theorem Handler.get?_slot (ctx : Context) (model id : String) (fields : Fields) :
    (Context.merge ctx (slot model id fields)).get? (slotName model) =
      some (Value.mergedOver (ctx.get? (slotName model)) (.object (fields.insert Records.idKey (.string id)))) := by
  simp only [Context.merge, slot, Fields.merge, Table.get?_insert, if_true]
  rfl

/-! ## Record steps of a run -/

/-- In a run over the built-in registry, in a store that its own calls have filled and that gives
    no id twice, every step that creates or updates a record and succeeds leaves that record in the store,
    with its id. If the slot of the model is neither the list of outputs nor the output of
    the step, the context shows under each name that the step wrote, and as the id, the value
    in the store merged into what was shown there before; this is the value in the store
    unless both are objects. -/
theorem record_steps_show_what_they_wrote {σ : Type} {e : Engine σ} {ctx start ctx' : Context} {w w' : World σ}
    {scope : Scope} {steps : List Step} {run : StepsRun} (he : e.registry = Handler.registry)
    (hids : Function.Injective e.services.recordIds) (hs : w.records.Reached e.services.recordIds)
    (h : e.Served ctx w scope steps start run ctx' w') :
    w'.records.Reached e.services.recordIds ∧
    ∀ i ∈ Invocation.preorder (e.recordTop scope steps start w),
      i.step.handlerKey = "ACTION_CREATE_RECORD" ∨ i.step.handlerKey = "ACTION_UPDATE_RECORD" → ∀ r, i.result = .ok r →
        ∃ model id fields record,
          Handler.Wrote e.services.recordIds i.step i.given i.before.records i.after.records r model id fields ∧
          i.after.records.get? model id = some record ∧ record.get? Records.idKey = some (.string id) ∧
          (Handler.slotName model ≠ Context.stepsKey → Handler.slotName model ≠ Context.outputKey i.step.id →
            ∀ name, name = Records.idKey ∨ fields.has name = true →
              let held := (i.given.get? (Handler.slotName model)).bind (·.field? name)
              let shown := (i.left.get? (Handler.slotName model)).bind (·.field? name)
              ∃ v, record.get? name = some v ∧ shown = some (Value.mergedOver held v) ∧
                ((¬ ∃ old new, held = some (.object old) ∧ v = .object new) → shown = some v)) := by
  obtain ⟨hend, hkept⟩ := Engine.reached he (e.config.maxDepth + 1) scope steps start w hs
  rw [h.runNested_eq] at hend
  refine ⟨hend, fun i hi hkey r hr => ?_⟩
  obtain ⟨model, id, fields, hwrote⟩ := e.record_forall
    (Q := fun _ i => i.step.handlerKey = "ACTION_CREATE_RECORD" ∨ i.step.handlerKey = "ACTION_UPDATE_RECORD" →
      ∀ r, i.result = .ok r → ∃ model id fields,
        Handler.Wrote e.services.recordIds i.step i.given i.before.records i.after.records r model id fields)
    (fun _ => Engine.wrote_step he _ _) (fun _ _ _ h => h) (e.config.maxDepth + 1) scope steps start w i hi hkey r hr
  obtain ⟨record, hget, hid, hfields⟩ := hwrote.stored hids (hkept i hi).numbered
  refine ⟨model, id, fields, record, hwrote, hget, hid, fun hsteps hown name hname => ?_⟩
  have hleft : i.left = Engine.leaving i.step (i.result, i.given) := by
    have hbuilt := Engine.builtIn_of_mem scope start w he (e.config.maxDepth + 1) steps hi
    cases hbuilt with
    | leaf _ hleft => exact hleft
    | branch hcondition _ _ _ _ _ _ =>
      rw [hcondition] at hkey
      exact absurd hkey (by decide)
    | loop hloop _ _ _ _ _ =>
      rw [hloop] at hkey
      exact absurd hkey (by decide)
  have hslot : i.left.get? (Handler.slotName model) = some (Value.mergedOver (i.given.get? (Handler.slotName model))
      (.object (fields.insert Records.idKey (.string id)))) := by
    rw [hleft, hr, Engine.leaving, Engine.get?_absorb _ _ _ hsteps hown, hwrote.shown, Handler.get?_slot]
  obtain ⟨v, hv, hstored⟩ : ∃ v, (fields.insert Records.idKey (.string id)).get? name = some v ∧
      record.get? name = some v := by
    by_cases hidKey : name = Records.idKey
    · exact ⟨.string id, by rw [hidKey, Table.get?_insert, if_pos rfl], by rw [hidKey, hid]⟩
    · obtain ⟨v, hv⟩ := Option.isSome_iff_exists.mp (hname.resolve_left hidKey)
      exact ⟨v, by rw [Table.get?_insert, if_neg (Ne.symm hidKey), hv], hfields name v hidKey hv⟩
  have hshown := Value.field?_mergedOver (i.given.get? (Handler.slotName model)) (hwrote.ordered.insert _ _).nodup hv
  intro held shown
  have hover : shown = some (Value.mergedOver held v) := by simp only [shown, held, hslot, Option.bind_some, hshown]
  exact ⟨v, hstored, hover, fun hnot => by rw [hover, Value.mergedOver_eq hnot]⟩

namespace Sample

def rewriting : List Step :=
  [{ id := "make", kind := .custom "ACTION_CREATE_RECORD"
     config := [("fields", .object [("meta", .object [("old", .bool true)]), ("name", .string "Ann")]),
       ("target_model", .string "Lead")] },
   { id := "change", kind := .custom "ACTION_UPDATE_RECORD"
     config := [("fields", .object [("meta", .object [("new", .bool true)])]),
       ("record_id", .string "{{lead.id}}"), ("target_model", .string "Lead")] }]

def rewritten : List (Invocation Unit) :=
  Invocation.preorder (engine.recordTop { workflowId := workflow.id } rewriting [] world)

def shown (i : Invocation Unit) (name : String) : Option Value := (i.left.get? "lead").bind (·.field? name)

def stored (i : Invocation Unit) (name : String) : Option Value :=
  (i.after.records.get? "Lead" "rec-1").bind (·.get? name)

def keys? (v : Option Value) : Option (List String) := (v.bind (·.fields?)).map (·.keys)

end Sample

/-- Both steps show the id of the record that they have written. -/
theorem sample_record_steps_show_what_they_wrote :
    Sample.engine.registry = Handler.registry ∧ Function.Injective Sample.engine.services.recordIds ∧
      Sample.world.records.Reached Sample.engine.services.recordIds ∧
      Sample.rewritten.map (·.step.id) = ["make", "change"] ∧
      ∀ i ∈ Sample.rewritten, ∃ id record, i.after.records.get? "Lead" id = some record ∧
        record.get? "id" = some (.string id) ∧ Sample.shown i "id" = some (.string id) := by
  have hids : Function.Injective Sample.engine.services.recordIds := Records.Store.Sample.recordIds_injective
  have hreached : Sample.world.records.Reached Sample.engine.services.recordIds := ⟨[], rfl⟩
  have hserved : Sample.engine.Served [] Sample.world { workflowId := Sample.workflow.id } Sample.rewriting [] _ _ _ :=
    .executeSteps rfl
  obtain ⟨-, hshows⟩ := record_steps_show_what_they_wrote Sample.engine_registry hids hreached hserved
  have hrun : Sample.rewritten.map (·.step.id) = ["make", "change"] ∧ ∀ i ∈ Sample.rewritten,
      (i.step.handlerKey = "ACTION_CREATE_RECORD" ∨ i.step.handlerKey = "ACTION_UPDATE_RECORD") ∧
        i.outcome.isFailed = false ∧ i.step.configWord? "target_model" = some "Lead" ∧
        "lead" ≠ Context.outputKey i.step.id := by decide +kernel
  obtain ⟨hnames, hsteps⟩ := hrun
  refine ⟨Sample.engine_registry, hids, hreached, hnames, fun i hi => ?_⟩
  obtain ⟨hkey, hok, hlead, hown⟩ := hsteps i hi
  cases hr : i.result with
  | error err => simp [Invocation.outcome, StepOutcome.isFailed, hr] at hok
  | ok r =>
    obtain ⟨model, id, fields, record, hwrote, hget, hid, hslot⟩ := hshows i hi hkey r hr
    obtain rfl : "Lead" = model := Option.some.inj (hlead.symm.trans hwrote.named)
    rw [show Handler.slotName "Lead" = "lead" by decide +kernel] at hslot
    obtain ⟨v, hv, -, hshown⟩ := hslot (by decide) hown Records.idKey (.inl rfl)
    obtain rfl : .string id = v := Option.some.inj (hid.symm.trans hv)
    have hplain : ¬ ∃ old new, (i.given.get? "lead").bind (·.field? Records.idKey) = some (.object old) ∧
        Value.string id = .object new := by
      rintro ⟨old, new, -, hobject⟩
      cases hobject
    exact ⟨id, record, hget, hid, hshown hplain⟩

/-- What is shown need not be what is stored: after a step that updates a record has written
    an object, the store holds that object, and the context shows it with a key of the one
    that it replaced. -/
theorem sample_record_shows_an_old_key :
    ∃ i ∈ Sample.rewritten, i.step.handlerKey = "ACTION_UPDATE_RECORD" ∧ i.outcome.isFailed = false ∧
      i.step.configWord? "target_model" = some "Lead" ∧ Handler.slotName "Lead" = "lead" ∧
      "lead" ≠ Context.stepsKey ∧ "lead" ≠ Context.outputKey i.step.id ∧
      Sample.keys? (i.step.config.get? "fields") = some ["meta"] ∧
      Sample.keys? (Sample.stored i "meta") = some ["new"] ∧
      Sample.keys? (Sample.shown i "meta") = some ["new", "old"] ∧
      Sample.shown i "meta" ≠ Sample.stored i "meta" := by
  have hrun : ∃ i ∈ Sample.rewritten, i.step.handlerKey = "ACTION_UPDATE_RECORD" ∧ i.outcome.isFailed = false ∧
      i.step.configWord? "target_model" = some "Lead" ∧ Handler.slotName "Lead" = "lead" ∧
      "lead" ≠ Context.stepsKey ∧ "lead" ≠ Context.outputKey i.step.id ∧
      Sample.keys? (i.step.config.get? "fields") = some ["meta"] ∧
      Sample.keys? (Sample.stored i "meta") = some ["new"] ∧
      Sample.keys? (Sample.shown i "meta") = some ["new", "old"] := by decide +kernel
  obtain ⟨i, hi, hkey, hok, hlead, hslot, hsteps, hown, hwritten, hstored, hshown⟩ := hrun
  refine ⟨i, hi, hkey, hok, hlead, hslot, hsteps, hown, hwritten, hstored, hshown, fun hsame => ?_⟩
  rw [hsame, hstored] at hshown
  exact absurd hshown (by decide)

end Stepflow
