/-
  Stepflow.Proofs.Dispatch — which handler a step gets.

  (1) A registry holds under a key what was registered last under a text of that normal key
  (`Registry.Latest`), and nothing where there is no such text (`resolve_eq_ok_iff`,
  `resolve_eq_error_iff`), whatever else was registered in between.

  (2) The handler key of a step is the normal key of its kind. The configuration counts for an
  action only (`handlerKey_of_other`), and there only if it names a type (`handlerKey_untyped`).

  (3) A text that is put together has its upper case piece by piece, and blanks neither come
  nor go in it. So the type of an action leads to the same key from the configuration and as a
  part of the kind (`handlerKey_typed`, `handlerKey_named`).

  `dispatch_is_by_normal_key` puts registrations and keys together.
-/

import Stepflow.Proofs.Casing
import Stepflow.Proofs.Tables
import Stepflow.Registry

namespace Stepflow

/-! ## (1) Registrations -/

namespace Registry

variable {α : Type} {registered : List (String × α)} {key : String} {handler : α}

/-- The handler is the last one that was registered under a text of the normal key `key`. -/
def Latest (registered : List (String × α)) (key : String) (handler : α) : Prop :=
  ∃ before given after, registered = before ++ (given, handler) :: after ∧ StepKind.normalKey given = key ∧
    ∀ r ∈ after, StepKind.normalKey r.1 ≠ key

theorem ofHandlers_eq_ofList (registered : List (String × α)) :
    ofHandlers registered = Table.ofList (registered.map fun r => (StepKind.normalKey r.1, r.2)) := by
  rw [Table.ofList, Table.insertAll, List.foldl_map]
  rfl

theorem get?_ofHandlers_eq_some_iff :
    Table.get? (ofHandlers registered) key = some handler ↔ Latest registered key handler := by
  rw [ofHandlers_eq_ofList, Table.get?_ofList_eq_some_iff, Table.lastOf_map_iff]
  constructor
  · rintro ⟨before, ⟨given, found⟩, after, hsplit, hentry, hafter⟩
    obtain ⟨hkey, rfl⟩ := Prod.mk.inj hentry
    exact ⟨before, given, after, hsplit, hkey, hafter⟩
  · rintro ⟨before, given, after, hsplit, hkey, hafter⟩
    exact ⟨before, (given, handler), after, hsplit, by rw [hkey], hafter⟩

theorem get?_ofHandlers_eq_none_iff :
    Table.get? (ofHandlers registered) key = none ↔ ∀ r ∈ registered, StepKind.normalKey r.1 ≠ key := by
  rw [ofHandlers_eq_ofList, Table.get?_ofList_eq_none_iff]
  exact List.forall_mem_map

theorem resolve_eq_ok_iff {step : Step} :
    (ofHandlers registered).resolve step = .ok handler ↔ Latest registered step.handlerKey handler := by
  rw [← get?_ofHandlers_eq_some_iff, resolve]
  cases Table.get? (ofHandlers registered) step.handlerKey with
  | none => exact ⟨nofun, nofun⟩
  | some found => exact ⟨fun h => congrArg some (Except.ok.inj h), fun h => congrArg Except.ok (Option.some.inj h)⟩

theorem resolve_eq_error_iff {step : Step} {error : WorkflowError} :
    (ofHandlers registered).resolve step = .error error ↔
      error = .handlerNotFound step.handlerKey ∧ ∀ r ∈ registered, StepKind.normalKey r.1 ≠ step.handlerKey := by
  rw [← get?_ofHandlers_eq_none_iff, resolve]
  cases Table.get? (ofHandlers registered) step.handlerKey with
  | none => exact ⟨fun h => ⟨(Except.error.inj h).symm, rfl⟩, fun h => congrArg Except.error h.1.symm⟩
  | some found => exact ⟨nofun, fun h => nomatch h.2⟩

/-- Steps of one key get the same handler, or the same refusal. -/
theorem resolve_congr (r : Registry α) {step other : Step} (h : step.handlerKey = other.handlerKey) :
    r.resolve step = r.resolve other := by
  rw [resolve, resolve, h]

end Registry

/-! ## (2) Keys of steps -/

namespace Step

variable {step : Step} {type : String}

def IsAction (step : Step) : Prop := StepKind.normalKey step.kind.key = "ACTION"

instance : DecidablePred IsAction := fun step => decEq (StepKind.normalKey step.kind.key) "ACTION"

theorem isAction_iff_of_kind {kind : String} (h : step.kind = StepKind.ofString kind) :
    step.IsAction ↔ StepKind.normalKey kind = "ACTION" := by
  rw [IsAction, h, StepKind.key_ofString, StepKind.normalKey_normalKey]

theorem handlerKey_of_other (h : ¬ step.IsAction) : step.handlerKey = StepKind.normalKey step.kind.key := by
  unfold handlerKey handlerKeyOf
  rw [show StepKind.action.key = "ACTION" from rfl]
  exact if_pos h

theorem handlerKey_of_action (h : step.IsAction) :
    step.handlerKey = match (step.configText? actionTypeKey).bind Text.trimmed? with
      | some type => "ACTION_" ++ Text.upper type
      | none => "ACTION" := by
  unfold handlerKey handlerKeyOf
  rw [show StepKind.action.key = "ACTION" from rfl, show StepKind.normalKey step.kind.key = "ACTION" from h]
  exact if_neg (not_not_intro rfl)

theorem configText?_eq_some_iff {key : String} :
    step.configText? key = some type ↔ step.config.get? key = some (.string type) := by
  rw [configText?, Option.bind_eq_some_iff]
  constructor
  · rintro ⟨v, hv, htext⟩
    cases v with
    | string s => exact Option.some.inj htext ▸ hv
    | _ => cases htext
  · exact fun h => ⟨_, h, rfl⟩

/-- A type that is missing, blank or no text is none. -/
theorem handlerKey_untyped (h : step.IsAction)
    (htype : ∀ type, step.config.get? actionTypeKey = some (.string type) → Text.isBlankText type = true) :
    step.handlerKey = "ACTION" := by
  rw [handlerKey_of_action h]
  cases htext : step.configText? actionTypeKey with
  | none => rfl
  | some type => rw [Option.bind_some, Text.trimmed?_eq, if_pos (htype type (configText?_eq_some_iff.mp htext))]

/-! ## (3) Types of actions -/

theorem handlerKey_typed (h : step.IsAction) (htype : step.config.get? actionTypeKey = some (.string type))
    (hblank : Text.isBlankText type = false) : step.handlerKey = "ACTION_" ++ Text.upper (Text.trim type) := by
  rw [handlerKey_of_action h, configText?_eq_some_iff.mpr htype, Option.bind_some, Text.trimmed?_eq, hblank]
  rfl

end Step

theorem Text.upper_append (a b : String) : upper (a ++ b) = upper a ++ upper b := by
  rw [upper, String.toList_append, List.flatMap_append, String.ofList_append, upper, upper]

/-- A type of action without its outer blanks goes behind another text as it is. -/
theorem Text.trim_append_trim {front type : String} (hfront : Trimmed front.toList) (hne : front ≠ "")
    (hblank : isBlankText type = false) : trim (front ++ trim type) = front ++ trim type := by
  have htype : trimChars type.toList ≠ [] := by
    intro hnil
    rw [isBlankText, List.all_eq_true.mpr (trimChars_eq_nil_iff.mp hnil)] at hblank
    cases hblank
  have hchars : (front ++ trim type).toList = front.toList ++ trimChars type.toList := by
    rw [String.toList_append, trim, String.toList_ofList]
  have htrimmed := hfront.append (trimmed_trimChars type.toList) (mt String.toList_eq_nil_iff.mp hne) htype []
  rw [List.append_nil, ← hchars] at htrimmed
  exact trim_of_trimmed htrimmed

namespace Step

variable {named : Step} {type : String}

theorem handlerKey_named (hblank : Text.isBlankText type = false)
    (h : named.kind = StepKind.ofString ("ACTION_" ++ Text.trim type)) :
    named.handlerKey = "ACTION_" ++ Text.upper (Text.trim type) := by
  have hkey : named.kind.key = "ACTION_" ++ Text.upper (Text.trim type) := by
    have hprefix : Text.Trimmed "ACTION_".toList := Text.trimmed_of_any rfl
    rw [h, StepKind.key_ofString, StepKind.normalKey, Text.trim_append_trim hprefix (by decide) hblank,
      Text.upper_append]
    rfl
  have hnormal : StepKind.normalKey named.kind.key = named.kind.key := by
    rw [h, StepKind.key_ofString, StepKind.normalKey_normalKey]
  have hother : ¬ named.IsAction := by
    intro haction
    have hchars : "ACTION".toList = ("ACTION_" ++ Text.upper (Text.trim type)).toList := by
      rw [← hkey, ← hnormal, haction]
    simp at hchars
  rw [handlerKey_of_other hother, hnormal, hkey]

end Step

/-! ## Registrations and keys -/

/-- A step gets the handler that was registered last under a text of its key, and is refused if there is none. The type
    of an action may stand in its configuration or in its kind; without one it is a plain action, and to steps of any
    other kind the configuration does not matter. -/
theorem dispatch_is_by_normal_key {α : Type} (registered : List (String × α)) :
    (∀ (step : Step) (handler : α), (Registry.ofHandlers registered).resolve step = .ok handler ↔
      Registry.Latest registered step.handlerKey handler) ∧
    (∀ (step : Step) (error : WorkflowError), (Registry.ofHandlers registered).resolve step = .error error ↔
      error = .handlerNotFound step.handlerKey ∧ ∀ r ∈ registered, StepKind.normalKey r.1 ≠ step.handlerKey) ∧
    (∀ (step : Step) (kind : String), step.kind = StepKind.ofString kind →
      (step.IsAction ↔ StepKind.normalKey kind = "ACTION")) ∧
    (∀ (step named : Step) (type : String), step.IsAction → step.config.get? "action_type" = some (.string type) →
      Text.isBlankText type = false → named.kind = StepKind.ofString ("ACTION_" ++ Text.trim type) →
      step.handlerKey = named.handlerKey ∧
        (Registry.ofHandlers registered).resolve step = (Registry.ofHandlers registered).resolve named) ∧
    (∀ step : Step, step.IsAction →
      (∀ type, step.config.get? "action_type" = some (.string type) → Text.isBlankText type = true) →
      step.handlerKey = "ACTION") ∧
    ∀ (step : Step) (config : Fields), ¬ step.IsAction →
      step.handlerKey = StepKind.normalKey step.kind.key ∧
        { step with config := config }.handlerKey = step.handlerKey := by
  refine ⟨fun step handler => Registry.resolve_eq_ok_iff, fun step error => Registry.resolve_eq_error_iff,
    fun step kind => Step.isAction_iff_of_kind, fun step named type haction htype hblank hnamed => ?_,
    fun step => Step.handlerKey_untyped, fun step config hother => ?_⟩
  · have hkeys : step.handlerKey = named.handlerKey := by
      rw [Step.handlerKey_typed haction htype hblank, Step.handlerKey_named hblank hnamed]
    exact ⟨hkeys, Registry.resolve_congr _ hkeys⟩
  · have hconfigured : ¬ Step.IsAction { step with config := config } := hother
    rw [Step.handlerKey_of_other hother, Step.handlerKey_of_other hconfigured]
    exact ⟨rfl, rfl⟩

namespace Sample

def mailers : List (String × String) :=
  [("action_send_email", "old"), ("Trigger", "start"), (" ACTION_SEND_EMAIL", "new")]

def sending : Step :=
  { id := "1", kind := StepKind.ofString " action\t", config := [("action_type", .string " Send_Email ")] }

def mailStep : Step := { id := "2", kind := StepKind.ofString "ACTION_Send_Email" }

def untyped : Step := { id := "3", kind := .action, config := [("action_type", .string " ")] }

def starting : Step := { id := "4", kind := .trigger, config := [("action_type", .string "send_email")] }

end Sample

open Sample in
/-- Both actions get the handler that was registered last, the one without a type is refused, and the trigger stays
    one. -/
theorem sample_mail_is_sent_by_the_last_handler :
    sending.IsAction ∧ Text.isBlankText " Send_Email " = false ∧
      mailStep.kind = StepKind.ofString ("ACTION_" ++ Text.trim " Send_Email ") ∧
      (Registry.ofHandlers mailers).resolve sending = .ok "new" ∧
      (Registry.ofHandlers mailers).resolve mailStep = .ok "new" ∧ untyped.IsAction ∧
      (Registry.ofHandlers mailers).resolve untyped = .error (.handlerNotFound "ACTION") ∧ ¬ starting.IsAction ∧
      { starting with config := [] }.handlerKey = starting.handlerKey := by
  obtain ⟨hok, herror, -, htyped, huntyped, hother⟩ := dispatch_is_by_normal_key mailers
  have hsending : sending.IsAction := by decide +kernel
  have hblank : Text.isBlankText " Send_Email " = false := by decide
  have hmailing : mailStep.kind = StepKind.ofString ("ACTION_" ++ Text.trim " Send_Email ") := by decide +kernel
  have huntypedAction : untyped.IsAction := by decide +kernel
  have hstarting : ¬ starting.IsAction := by decide +kernel
  have hkey : mailStep.handlerKey = "ACTION_SEND_EMAIL" := by decide +kernel
  have hnew : (Registry.ofHandlers mailers).resolve mailStep = .ok "new" := by
    refine (hok mailStep "new").mpr ⟨mailers.take 2, " ACTION_SEND_EMAIL", [], rfl, ?_, nofun⟩
    rw [hkey]
    decide +kernel
  have hplain : untyped.handlerKey = "ACTION" := by
    refine huntyped untyped huntypedAction fun type htype => ?_
    cases htype
    rfl
  have hnone : ∀ r ∈ mailers, StepKind.normalKey r.1 ≠ "ACTION" := by decide +kernel
  refine ⟨hsending, hblank, hmailing, ?_, hnew, huntypedAction, ?_, hstarting, (hother starting [] hstarting).2⟩
  · rw [(htyped sending mailStep " Send_Email " hsending rfl hblank hmailing).2, hnew]
  · exact (herror untyped _).mpr ⟨by rw [hplain], by rwa [hplain]⟩

end Stepflow
