/-
  Stepflow.Proofs.Handlers — what a step of the built-in registry can do.

  (1) All built-in handlers but two work on the context as it is and ask for no steps
  (`Leaf`), most of them for nothing that changes records or mail either (`Quiet`). A
  condition asks for at most one list, its branch, and a loop for one list for each item.

  (2) `BuiltIn` says of an invocation on record everything that it can have done with
  the context and with lists of steps: nothing (`leaf`), one branch (`branch`), or the
  iterations of a loop (`loop`), which go on over the items (`Rounds`) until they are
  used up or a list is refused. What holds of a context and those that come of it by
  appending outputs and by lists of branches holds of a step (`BuiltIn.law`).

  (3) Every invocation of a run over the built-in registry, at any depth, is of one of
  these forms (`builtIn_of_mem`).
-/

import Stepflow.Proofs.Tables
import Stepflow.Proofs.Trail

namespace Stepflow

open Services

/-! ## Tasks that ask for some things only -/

namespace Ask

def isNested : Ask → Bool
  | runSteps .. => true
  | _ => false

/-- Does a question leave records and mail as they are, and ask for no steps? -/
def isQuiet : Ask → Bool
  | createRecord .. | updateRecord .. | sendMail .. | runSteps .. => false
  | _ => true

theorem not_nested_of_quiet {q : Ask} (h : q.isQuiet = true) : q.isNested = false := by
  cases q with
  | runSteps steps ctx => cases h
  | _ => rfl

end Ask

namespace Task

variable {α β S : Type} {ok : Ask → Prop}

/-- Whatever it is answered, the task asks only what is allowed. -/
inductive AsksOnly (ok : Ask → Prop) : Task α → Prop
  | done (a : α) : AsksOnly ok (done a)
  | ask {q : Ask} {next : q.Answer → Task α} : ok q → (∀ a, AsksOnly ok (next a)) → AsksOnly ok (ask q next)

theorem AsksOnly.mono {ok' : Ask → Prop} {t : Task α} (ht : t.AsksOnly ok) (h : ∀ q, ok q → ok' q) :
    t.AsksOnly ok' := by
  induction ht with
  | done a => exact .done a
  | ask hq _ ih => exact .ask (h _ hq) ih

theorem asksOnly_of {q : Ask} (h : ok q) : (Task.of q).AsksOnly ok := .ask h fun a => .done a

theorem asksOnly_bind {t : Task α} {f : α → Task β} (ht : t.AsksOnly ok) (hf : ∀ a, (f a).AsksOnly ok) :
    (t.bind f).AsksOnly ok := by
  induction ht with
  | done a => exact hf a
  | ask hq _ ih => exact .ask hq ih

theorem AsksOnly.of_mem {t : Task α} (ht : t.AsksOnly ok) {answer : (q : Ask) → S → q.Answer × S} {s : S}
    {x : Exchange S} (hx : x ∈ t.exchanges answer s) : ok x.question := by
  induction ht generalizing s with
  | done a => cases hx
  | ask hq _ ih =>
    rcases List.mem_cons.mp hx with rfl | hx
    · exact hq
    · exact ih _ hx

end Task

namespace Work

variable {α β : Type} {ok : Ask → Prop}

theorem asks_pure (a : α) : (pure a : Work α).run.AsksOnly ok := .done _

theorem asks_fail (step : Step) (detail : String) : (fail step detail : Work α).run.AsksOnly ok := .done _

theorem asks_bind {x : Work α} {f : α → Work β} (hx : x.run.AsksOnly ok) (hf : ∀ a, (f a).run.AsksOnly ok) :
    (x >>= f).run.AsksOnly ok :=
  Task.asksOnly_bind hx fun
    | .ok a => hf a
    | .error _ => .done _

theorem asks_need (step : Step) (detail : String) (o : Option α) : (need step detail o).run.AsksOnly ok := by
  cases o <;> exact .done _

theorem asks_lift {t : Task α} (ht : t.AsksOnly ok) : (ExceptT.lift t : Work α).run.AsksOnly ok :=
  Task.asksOnly_bind ht fun _ => .done _

theorem asks_service {t : Task (Except ServiceError α)} (step : Step) (ht : t.AsksOnly ok) :
    (service step t).run.AsksOnly ok :=
  Task.asksOnly_bind ht fun
    | .ok _ => .done _
    | .error _ => .done _

end Work

/-! ## Handlers that ask for no steps -/

/-- A handler that works on the context as it is and asks for no steps. -/
def Leaf (h : Handler) : Prop :=
  ∃ work, h = Handler.ofWork work ∧ ∀ step ctx, (work step ctx).run.AsksOnly (·.isNested = false)

namespace Leaf

variable {h : Handler} {S : Type} (hl : Leaf h) (answer : (q : Ask) → S → q.Answer × S) (step : Step)
  (ctx : Context) (s : S)

include hl

/-- It leaves the context as it is. -/
theorem left_eq : ((h step ctx).run answer s).1.2 = ctx := by
  obtain ⟨work, rfl, -⟩ := hl
  have hrun : (Handler.ofWork work step ctx).run answer s =
      (((((work step ctx).run).run answer s).1, ctx), (((work step ctx).run).run answer s).2) :=
    Task.run_bind answer (work step ctx).run (fun r => .done (r, ctx)) s
  rw [hrun]

theorem asks : (h step ctx).AsksOnly (·.isNested = false) := by
  obtain ⟨work, rfl, hw⟩ := hl
  exact Task.asksOnly_bind (hw step ctx) fun _ => .done _

theorem not_nested {x : Exchange S} (hx : x ∈ (h step ctx).exchanges answer s) : x.question.isNested = false :=
  (hl.asks step ctx).of_mem hx

end Leaf

/-- A handler that works on the context as it is and asks for no steps, nor for anything
    that changes records or mail. -/
def Quiet (h : Handler) : Prop :=
  ∃ work, h = Handler.ofWork work ∧ ∀ step ctx, (work step ctx).run.AsksOnly (·.isQuiet = true)

theorem Quiet.leaf {h : Handler} (hq : Quiet h) : Leaf h := by
  obtain ⟨work, hwork, hasks⟩ := hq
  exact ⟨work, hwork, fun step ctx => (hasks step ctx).mono fun _ => Ask.not_nested_of_quiet⟩

namespace Handler

open Work

theorem trigger_quiet : Quiet trigger := ⟨_, rfl, fun _ _ => asks_pure _⟩

theorem plainAction_quiet : Quiet plainAction := ⟨_, rfl, fun _ _ => asks_pure _⟩

theorem defineVariable_quiet : Quiet defineVariable := ⟨_, rfl, fun _ _ => asks_pure _⟩

theorem aiPrompt_quiet : Quiet aiPrompt := by
  refine ⟨_, rfl, fun step ctx => ?_⟩
  split
  · exact asks_fail _ _
  · refine asks_bind (asks_service step ?_) fun _ => asks_pure _
    exact Task.asksOnly_of rfl

theorem writtenFields_asks (step : Step) (ctx : Context) :
    (writtenFields step ctx).run.AsksOnly (·.isNested = false) := by
  refine asks_bind (asks_lift ?_) fun _ => asks_pure _
  exact Task.asksOnly_of rfl

theorem createRecord_leaf : Leaf createRecord := by
  refine ⟨_, rfl, fun step ctx => ?_⟩
  refine asks_bind ?_ fun model => asks_bind (writtenFields_asks step ctx) fun fields => ?_
  · exact asks_need _ _ _
  · dsimp only
    split
    · exact asks_bind (asks_fail _ _) fun _ => asks_bind (asks_service step (Task.asksOnly_of rfl)) fun _ => asks_pure _
    · refine asks_bind (asks_service step ?_) fun _ => asks_pure _
      exact Task.asksOnly_of rfl

theorem updateRecord_leaf : Leaf updateRecord := by
  refine ⟨_, rfl, fun step ctx => ?_⟩
  refine asks_bind (asks_need _ _ _) fun model => ?_
  refine asks_bind (asks_need _ _ _) fun id => ?_
  refine asks_bind (writtenFields_asks step ctx) fun fields => ?_
  refine asks_bind (asks_service step ?_) fun _ => asks_pure _
  exact Task.asksOnly_of rfl

theorem queryData_quiet : Quiet queryData := by
  refine ⟨_, rfl, fun step ctx => ?_⟩
  refine asks_bind ?_ fun model => asks_bind (asks_lift ?_) fun now =>
    asks_bind (asks_service step ?_) fun _ => asks_pure _
  · exact asks_need _ _ _
  · exact Task.asksOnly_of rfl
  · exact Task.asksOnly_of rfl

theorem fetchApi_quiet : Quiet fetchApi := by
  refine ⟨_, rfl, fun step ctx => ?_⟩
  split
  · exact asks_fail _ _
  · refine asks_bind (asks_lift ?_) fun started => asks_bind (asks_lift ?_) fun answer => ?_
    · exact Task.asksOnly_of rfl
    · exact Task.asksOnly_of rfl
    · split
      · exact asks_fail _ _
      · refine asks_bind (asks_lift ?_) fun _ => asks_pure _
        exact Task.asksOnly_of rfl

theorem sendEmail_leaf : Leaf sendEmail := by
  refine ⟨_, rfl, fun step ctx => ?_⟩
  refine asks_bind (asks_need _ _ _) fun recipient => ?_
  dsimp only
  refine asks_bind (asks_service step ?_) fun _ => asks_pure _
  exact Task.asksOnly_of rfl

theorem transformContent_quiet : Quiet transformContent := by
  refine ⟨_, rfl, fun step ctx => ?_⟩
  refine asks_bind (asks_need _ _ _) fun name => ?_
  refine asks_bind (asks_need _ _ _) fun transform => ?_
  dsimp only
  exact asks_pure _

end Handler

/-! ## Handlers that ask for steps only -/

theorem Except.ok_of_map {ε α β : Type} {x : Except ε α} {f : α → β} {b : β} (h : x.map f = .ok b) :
    ∃ a, x = .ok a ∧ b = f a := by
  cases x with
  | error e => cases h
  | ok a => exact ⟨a, rfl, (Except.ok.inj h).symm⟩

theorem Except.error_of_map {ε α β : Type} {x : Except ε α} {f : α → β} {e : ε} (h : x.map f = .error e) :
    x = .error e := by
  cases x with
  | error e' => exact congrArg Except.error (Except.error.inj h)
  | ok a => cases h

namespace Handler

section Asking

variable {ok : Ask → Prop} (step : Step) (ctx : Context)

theorem condition_asks (h : ∀ holds, ok (.runSteps (branch step holds) ctx)) : (condition step ctx).AsksOnly ok := by
  obtain ⟨err, -, hc⟩ | ⟨holds, -, -, hc⟩ | ⟨holds, -, -, hc⟩ := condition_cases step ctx
  · exact hc ▸ .done _
  · exact hc ▸ .done _
  · exact hc ▸ .ask (h holds) fun a => .done _

theorem iterate_asks {children : List Step} (h : ∀ given, ok (.runSteps children given)) (count index : Nat)
    (items : List Value) (ctx : Context) (failed : Nat) :
    (iterate children count index items ctx failed).AsksOnly ok := by
  induction items generalizing index ctx failed with
  | nil => exact .done _
  | cons item items ih =>
    refine .ask (h _) fun a => ?_
    obtain ⟨result, left⟩ := a
    cases result with
    | error e => exact .done _
    | ok run => exact ih _ _ _

theorem forEach_asks (h : ∀ given, ok (.runSteps step.orderedChildren given)) : (forEach step ctx).AsksOnly ok := by
  obtain ⟨-, hf⟩ | ⟨path, reason, -, -, hf⟩ | ⟨path, items, -, -, hf⟩ := forEach_cases step ctx
  · exact hf ▸ .done _
  · exact hf ▸ .done _
  · exact hf ▸ Task.asksOnly_bind (iterate_asks h ..) fun _ => .done _

end Asking

end Handler

/-! ## The built-in registry -/

namespace Registry

variable {α : Type}

/-- Handlers with normal keys stand under their own keys. -/
theorem ofHandlers_eq {handlers : List (String × α)} (h : ∀ e ∈ handlers, StepKind.normalKey e.1 = e.1) :
    ofHandlers handlers = Table.ofList handlers :=
  List.foldl_ext _ _ _ fun r e he => by rw [register, h e he]

end Registry

theorem Handler.builtin_normal : ∀ h ∈ Handler.builtin, StepKind.normalKey h.1 = h.1 := by
  have hkeys : ∀ k ∈ Handler.builtin.map (·.1), StepKind.normalKey k = k := by decide +kernel
  exact fun h hh => hkeys h.1 (List.mem_map_of_mem hh)

namespace Handler

/-- No key is used twice, so the registry finds what the list does. -/
theorem get?_registry (key : String) : Table.get? registry key = Table.get? builtin key := by
  have hkeys : (Table.keys builtin).Nodup := by decide
  rw [registry, Registry.ofHandlers_eq builtin_normal, Table.ofList, Table.get?_insertAll [] hkeys]
  exact Option.or_none

inductive Registered : String → Handler → Prop
  | trigger : Registered "TRIGGER" trigger
  | aiPrompt : Registered "AI_PROMPT" aiPrompt
  | condition : Registered "CONDITION" condition
  | forEach : Registered "FOR_EACH" forEach
  | plainAction : Registered "ACTION" plainAction
  | createRecord : Registered "ACTION_CREATE_RECORD" createRecord
  | updateRecord : Registered "ACTION_UPDATE_RECORD" updateRecord
  | queryData : Registered "QUERY_DATA" queryData
  | fetchRecords : Registered "FETCH_RECORDS" queryData
  | fetchApi : Registered "FETCH_API_DATA" fetchApi
  | sendEmail : Registered "ACTION_SEND_EMAIL" sendEmail
  | defineVariable : Registered "DEFINE_VARIABLE" defineVariable
  | transformContent : Registered "TRANSFORM_CONTENT" transformContent

theorem registered_of_mem {key : String} {h : Handler} (hmem : (key, h) ∈ builtin) : Registered key h := by
  simp only [builtin, List.mem_cons, Prod.mk.injEq, List.not_mem_nil, or_false] at hmem
  rcases hmem with ⟨rfl, rfl⟩ | ⟨rfl, rfl⟩ | ⟨rfl, rfl⟩ | ⟨rfl, rfl⟩ | ⟨rfl, rfl⟩ | ⟨rfl, rfl⟩ | ⟨rfl, rfl⟩ |
    ⟨rfl, rfl⟩ | ⟨rfl, rfl⟩ | ⟨rfl, rfl⟩ | ⟨rfl, rfl⟩ | ⟨rfl, rfl⟩ | ⟨rfl, rfl⟩ <;> constructor

/-- What handles a step of the built-in registry is registered under the key of the step. -/
theorem registered_of_resolve {step : Step} {h : Handler} (hr : registry.resolve step = .ok h) :
    Registered step.handlerKey h := by
  rw [Registry.resolve, get?_registry] at hr
  split at hr
  · rename_i hsome
    rw [← Except.ok.inj hr]
    exact registered_of_mem (Table.mem_of_get? hsome)
  · cases hr

theorem resolve_condition {step : Step} (hk : step.handlerKey = "CONDITION") :
    registry.resolve step = .ok condition := by
  rw [Registry.resolve, get?_registry, hk]
  rfl

theorem resolve_loop {step : Step} (hk : step.handlerKey = "FOR_EACH") : registry.resolve step = .ok forEach := by
  rw [Registry.resolve, get?_registry, hk]
  rfl

/-- A handler of the built-in registry is a leaf, the condition or the loop. -/
theorem Registered.kind {key : String} {h : Handler} (hregistered : Registered key h) :
    Leaf h ∨ (key = "CONDITION" ∧ h = Handler.condition) ∨ (key = "FOR_EACH" ∧ h = Handler.forEach) := by
  cases hregistered with
  | trigger => exact .inl trigger_quiet.leaf
  | aiPrompt => exact .inl aiPrompt_quiet.leaf
  | condition => exact .inr (.inl ⟨rfl, rfl⟩)
  | forEach => exact .inr (.inr ⟨rfl, rfl⟩)
  | plainAction => exact .inl plainAction_quiet.leaf
  | createRecord => exact .inl createRecord_leaf
  | updateRecord => exact .inl updateRecord_leaf
  | queryData => exact .inl queryData_quiet.leaf
  | fetchRecords => exact .inl queryData_quiet.leaf
  | fetchApi => exact .inl fetchApi_quiet.leaf
  | sendEmail => exact .inl sendEmail_leaf
  | defineVariable => exact .inl defineVariable_quiet.leaf
  | transformContent => exact .inl transformContent_quiet.leaf

/-- A step of the built-in registry is handled by a leaf, by the condition or by the loop. -/
theorem resolve_builtin {step : Step} {h : Handler} (hr : registry.resolve step = .ok h) :
    Leaf h ∨ (step.handlerKey = "CONDITION" ∧ h = condition) ∨ (step.handlerKey = "FOR_EACH" ∧ h = forEach) :=
  (registered_of_resolve hr).kind

end Handler

/-! ## What a built-in step did -/

/-- The iterations of a loop from `index` on, on record, and how the loop ended: it has
    used up its items, or a list was refused. -/
inductive Rounds {σ : Type} (children : List Step) (count : Nat) :
    Nat → List Value → Context → Nat → List (Call σ) → Except WorkflowError Nat × Context → Prop
  | done (index : Nat) (ctx : Context) (failed : Nat) : Rounds children count index [] ctx failed [] (.ok failed, ctx)
  | refused {index item items ctx failed c err} : c.steps = children →
      c.given = ctx.insert Context.loopKey (Handler.loopData item index count) → c.answer = .error err →
      Rounds children count index (item :: items) ctx failed [c] (.error err, ctx)
  /-- Of what an iteration leaves only the outputs of its steps flow back. -/
  | next {index item items ctx failed c run calls out} : c.steps = children →
      c.given = ctx.insert Context.loopKey (Handler.loopData item index count) → c.answer = .ok run →
      Rounds children count (index + 1) items
        (Context.appendEntries ctx ((Context.stepEntries c.left).drop (Context.stepEntries c.given).length))
        (failed + run.failedCount) calls out →
      Rounds children count index (item :: items) ctx failed (c :: calls) out

theorem iterate_rounds {σ : Type} (answer : (q : Ask) → World σ → q.Answer × World σ) (below : Engine.Recorder σ)
    (children : List Step) (count index : Nat) (items : List Value) (ctx : Context) (failed : Nat) (w : World σ) :
    Rounds children count index items ctx failed
      (((Handler.iterate children count index items ctx failed).exchanges answer w).filterMap (Exchange.call? below))
      ((Handler.iterate children count index items ctx failed).run answer w).1 := by
  induction items generalizing index ctx failed w with
  | nil => exact .done index ctx failed
  | cons item items ih =>
    simp only [Handler.iterate, Task.exchanges_ask, Task.run_ask]
    generalize ha : answer (.runSteps children (ctx.insert Context.loopKey (Handler.loopData item index count))) w = a
    obtain ⟨⟨given, left⟩, w'⟩ := a
    cases given with
    | error err => exact .refused rfl rfl rfl
    | ok run => exact .next rfl rfl rfl (ih ..)

inductive BuiltIn {σ : Type} (i : Invocation σ) : Prop
  | leaf : i.calls = [] → i.left = Engine.leaving i.step (i.result, i.given) → BuiltIn i
  | branch {holds : Bool} {c : Call σ} : i.step.handlerKey = "CONDITION" → Handler.evaluate i.step i.given = .ok holds →
      i.calls = [c] → c.steps = Handler.branch i.step holds → c.given = i.given →
      i.result = c.answer.map (fun run => Handler.conditionResult i.step holds run.outcomes.length) →
      i.left = Engine.leaving i.step (i.result, c.left) → BuiltIn i
  | loop {path : String} {items : List Value} {out : Except WorkflowError Nat × Context} :
      i.step.handlerKey = "FOR_EACH" → Handler.loopPath? i.step = some path →
      Handler.loopItems path i.given = .ok items →
      Rounds i.step.orderedChildren items.length 0 items i.given 0 i.calls out →
      i.result = out.1.map (Handler.loopResult items.length) →
      i.left = Engine.leaving i.step (i.result, out.2) → BuiltIn i

/-! What holds of a context and those that come of it -/

section Contexts

variable {σ : Type} {R : Context → Context → Prop} (refl : ∀ ctx, R ctx ctx)
  (trans : ∀ {ctx₁ ctx₂ ctx₃}, R ctx₁ ctx₂ → R ctx₂ ctx₃ → R ctx₁ ctx₃)
  (append : ∀ ctx entries, R ctx (Context.appendEntries ctx entries))

include refl trans append

/-- Iterations only append outputs to the context of the loop. -/
theorem Rounds.law {children : List Step} {count index failed : Nat} {items : List Value} {ctx : Context}
    {calls : List (Call σ)} {out : Except WorkflowError Nat × Context}
    (h : Rounds children count index items ctx failed calls out) : R ctx out.2 := by
  induction h with
  | done index ctx failed => exact refl ctx
  | refused _ _ _ => exact refl _
  | next _ _ _ _ ih => exact trans (append _ _) ih

/-- A built-in step passes its context on to the list of a branch, appends outputs to it,
    and ends on it. -/
theorem BuiltIn.law {i : Invocation σ} (h : BuiltIn i)
    (branch : ∀ c ∈ i.calls, i.step.handlerKey = "CONDITION" → R c.given c.left)
    (own : ∀ ctx, i.left = Engine.leaving i.step (i.result, ctx) → R ctx i.left) : R i.given i.left := by
  cases h with
  | leaf _ hleft => exact own _ hleft
  | @branch holds c hkey _ hone _ hgiven _ hleft =>
    have hlist := branch c (hone ▸ List.mem_cons_self ..) hkey
    rw [hgiven] at hlist
    exact trans hlist (own _ hleft)
  | loop _ _ _ hrounds _ hleft => exact trans (hrounds.law refl trans append) (own _ hleft)

end Contexts

namespace Engine

variable {σ : Type} {e : Engine σ} (nested : Scope → Nested σ) (below : Scope → Recorder σ) (scope : Scope)
  (step : Step) (ctx : Context) (w : World σ)

/-- What ends at once asks for nothing. -/
theorem record_of_done {out : Except WorkflowError StepResult × Context} (h : e.handling step ctx = .done out) :
    let i := e.recordStep nested below scope step ctx w
    i.calls = [] ∧ i.result = out.1 ∧ i.left = leaving step out := by
  simp only [recordStep, h, Task.exchanges_done, List.filterMap_nil, Task.run_done, and_self]

/-- What asks for one list and ends with its outcome has that list on record. -/
theorem record_of_ask {list : List Step} {given : Context}
    {f : Except WorkflowError StepsRun × Context → Except WorkflowError StepResult × Context}
    (h : e.handling step ctx = .ask (.runSteps list given) fun a => .done (f a)) :
    let i := e.recordStep nested below scope step ctx w
    ∃ c, i.calls = [c] ∧ c.steps = list ∧ c.given = given ∧ i.result = (f (c.answer, c.left)).1 ∧
      i.left = leaving step (f (c.answer, c.left)) := by
  let a := (e.services.answer (nested (inside scope w)) (.runSteps list given) (opening scope step ctx w)).1
  let c : Call σ := ⟨list, given, a.1, a.2, below (inside scope w) list given (opening scope step ctx w)⟩
  refine ⟨c, ?_, rfl, rfl, ?_, ?_⟩ <;> simp only [recordStep, h] <;> rfl

/-- What goes over items and ends with the outcome of that has the rounds on record. -/
theorem record_of_iterate {children : List Step} {items : List Value}
    {f : Except WorkflowError Nat × Context → Except WorkflowError StepResult × Context}
    (h : e.handling step ctx = (Handler.iterate children items.length 0 items ctx 0).bind fun a => .done (f a)) :
    let i := e.recordStep nested below scope step ctx w
    ∃ out, Rounds children items.length 0 items ctx 0 i.calls out ∧ i.result = (f out).1 ∧
      i.left = leaving step (f out) := by
  intro i
  have hrounds := iterate_rounds (e.services.answer (nested (inside scope w))) (below (inside scope w)) children
    items.length 0 items ctx 0 (opening scope step ctx w)
  have hcalls : i.calls = ((Handler.iterate children items.length 0 items ctx 0).exchanges
      (e.services.answer (nested (inside scope w))) (opening scope step ctx w)).filterMap
        (Exchange.call? (below (inside scope w))) := by
    simp only [i, recordStep, h, Task.exchanges_bind, Task.exchanges_done, List.append_nil]
  rw [← hcalls] at hrounds
  refine ⟨_, hrounds, ?_, ?_⟩ <;> simp only [i, recordStep, h, Task.run_bind, Task.run_done]

/-- What ends at once did nothing. -/
theorem builtIn_done {r : Except WorkflowError StepResult} (h : e.handling step ctx = .done (r, ctx)) :
    BuiltIn (e.recordStep nested below scope step ctx w) := by
  obtain ⟨hcalls, hresult, hleft⟩ := record_of_done nested below scope step ctx w h
  exact .leaf hcalls (hresult ▸ hleft)

/-- A leaf asks for no lists. -/
theorem calls_of_leaf {h : Handler} (hh : e.handling step ctx = h step ctx) (hl : Leaf h) :
    (e.recordStep nested below scope step ctx w).calls = [] := by
  refine List.filterMap_eq_nil_iff.mpr fun x hx => ?_
  rw [hh] at hx
  have hq := hl.not_nested _ step ctx _ hx
  obtain ⟨v, q, a⟩ := x
  cases q with
  | runSteps steps given => cases hq
  | _ => rfl

theorem builtIn_leaf {h : Handler} (hh : e.handling step ctx = h step ctx) (hl : Leaf h) :
    BuiltIn (e.recordStep nested below scope step ctx w) := by
  refine .leaf (calls_of_leaf nested below scope step ctx w hh hl) ?_
  have hleft := hl.left_eq (e.services.answer (nested (inside scope w))) step ctx (opening scope step ctx w)
  simp only [recordStep, hh]
  exact congrArg (leaving step) (Prod.ext rfl hleft)

theorem builtIn_condition (hk : step.handlerKey = "CONDITION") (hh : e.handling step ctx = Handler.condition step ctx) :
    BuiltIn (e.recordStep nested below scope step ctx w) := by
  obtain ⟨err, -, hi⟩ | ⟨holds, -, -, hi⟩ | ⟨holds, hev, -, hi⟩ := Handler.condition_cases step ctx
  · exact builtIn_done nested below scope step ctx w (hh.trans hi)
  · exact builtIn_done nested below scope step ctx w (hh.trans hi)
  · obtain ⟨c, hcalls, hsteps, hgiven, hresult, hleft⟩ :=
      record_of_ask nested below scope step ctx w (hh.trans hi)
    exact .branch hk hev hcalls hsteps hgiven hresult (hresult ▸ hleft)

theorem builtIn_loop (hk : step.handlerKey = "FOR_EACH") (hh : e.handling step ctx = Handler.forEach step ctx) :
    BuiltIn (e.recordStep nested below scope step ctx w) := by
  obtain ⟨-, hi⟩ | ⟨path, reason, -, -, hi⟩ | ⟨path, items, hp, hitems, hi⟩ := Handler.forEach_cases step ctx
  · exact builtIn_done nested below scope step ctx w (hh.trans hi)
  · exact builtIn_done nested below scope step ctx w (hh.trans hi)
  · obtain ⟨out, hrounds, hresult, hleft⟩ := record_of_iterate nested below scope step ctx w (hh.trans hi)
    exact .loop hk hp hitems hrounds hresult (hresult ▸ hleft)

variable (he : e.registry = Handler.registry)

include he

theorem builtIn_step : BuiltIn (e.recordStep nested below scope step ctx w) := by
  cases hr : Handler.registry.resolve step with
  | error err =>
    refine builtIn_done nested below scope step ctx w (r := .error err) ?_
    simp only [handling, he, hr]
  | ok h =>
    have hh : e.handling step ctx = h step ctx := by simp only [handling, he, hr]
    rcases Handler.resolve_builtin hr with hl | ⟨hk, rfl⟩ | ⟨hk, rfl⟩
    · exact builtIn_leaf nested below scope step ctx w hh hl
    · exact builtIn_condition nested below scope step ctx w hk hh
    · exact builtIn_loop nested below scope step ctx w hk hh

/-- Every invocation at every depth is of one of these forms. -/
theorem builtIn_of_mem (depth : Nat) (steps : List Step) {i : Invocation σ}
    (hi : i ∈ Invocation.preorder (e.recordNested depth scope steps ctx w)) : BuiltIn i :=
  e.record_forall (Q := fun _ i => BuiltIn i) (fun _ scope step ctx w => builtIn_step _ _ scope step ctx w he)
    (fun _ _ _ h => h) depth scope steps ctx w i hi

end Engine

end Stepflow
