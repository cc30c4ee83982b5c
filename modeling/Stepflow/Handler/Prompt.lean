/-
  Stepflow.Handler.Prompt — the step that asks for generated text.

  The prompt is written in the step or named by it. Along with it go variables of the
  step and inputs picked by path out of the loop item or the data of the trigger, each
  under the last part of its path.
-/

import Stepflow.Handler.Task
import Stepflow.Template

namespace Stepflow.Handler

/-- An input: where it comes from and its path, both without outer blanks. -/
structure InputRef where
  fromLoop : Bool
  path : String

/-- The input that a text writes; without a colon it comes from the trigger. -/
def InputRef.ofString (s : String) : InputRef :=
  match Text.splitOnce ':' s with
  | some (source, path) => ⟨Text.trim source == "loop", Text.trim path⟩
  | none => ⟨false, Text.trim s⟩

/-- The name of an input: the last part of its path, if it is not empty. -/
def InputRef.name? (r : InputRef) : Option String :=
  ((Text.split (· == '.') r.path).getLast?).filter fun name => !name.isEmpty

/-- The item of the running loop, if it is an object. -/
def loopItem? (ctx : Context) : Option Fields :=
  ((ctx.get? Context.loopKey).bind (·.field? "item")).bind (·.fields?)

/-- The data of the trigger, if it is an object. -/
def triggerData? (ctx : Context) : Option Fields := (ctx.get? Context.triggerKey).bind (·.fields?)

/-- The value of an input; null when its path leads nowhere. -/
def InputRef.value (r : InputRef) (ctx : Context) : Value :=
  let root := if r.fromLoop then loopItem? ctx <|> triggerData? ctx else triggerData? ctx
  ((root.bind (Fields.resolve · r.path))).getD .null

/-- The inputs of a step, by name; of two with one name the later counts. -/
def gatherInputs (step : Step) (ctx : Context) : Fields :=
  let entries := ((step.config.get? "aiInputs").bind (·.items?)).getD []
  Table.ofList ((entries.filterMap (·.string?)).filterMap fun s =>
    let ref := InputRef.ofString s
    ref.name?.map fun name => (name, ref.value ctx))

def templateId? (step : Step) : Option String :=
  (step.configText? "prompt_template_id" <|>
    ((step.config.get? "promptRef").bind (·.field? "id")).bind (·.string?)).bind Text.trimmed?

def promptOf (step : Step) (ctx : Context) : Except String Generation.Request :=
  match (step.configText? "prompt").filter fun p => !Text.isBlankText p, templateId? step with
  | some prompt, _ => .ok { prompt := Template.render ctx prompt }
  | none, some id => .ok { templateId := some id }
  | none, none => .error "AI_PROMPT requires a prompt or prompt_template_id"

def promptVariables (step : Step) (ctx : Context) : Fields :=
  let named : Fields :=
    match (step.config.get? "variables").map (Value.templated ctx) with
    | some (.object fields) => fields
    | _ => []
  named.insertAll (gatherInputs step ctx)

def aiPrompt : Handler := .ofWork fun step ctx => do
  match promptOf step ctx with
  | .error detail => Work.fail step detail
  | .ok prompt =>
    let request := { prompt with
      bindings := promptVariables step ctx, model := step.configWord? "model" }
    let generation ← Work.service step (Task.of (.generate request))
    return { raw := generation.raw, parsed := generation.parsed, tokens := some generation.tokens,
             cost := some generation.cost }

end Stepflow.Handler
