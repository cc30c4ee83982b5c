/-
  Stepflow.Generation.Chat — text generated by a chat completion service.

  The prompt is sent as the message of a user, after one of the system that holds the
  variables, if there are any. A stored prompt is filled in from the variables.
-/

import Stepflow.Api.Request
import Stepflow.Generation.Answer
import Stepflow.Template

namespace Stepflow.Generation

open Json

structure Pricing where
  input : Float := 0.0
  output : Float := 0.0

def Pricing.cost (p : Pricing) (promptTokens completionTokens : Nat) : Float :=
  (UInt64.ofNat promptTokens).toFloat / 1000.0 * p.input +
    (UInt64.ofNat completionTokens).toFloat / 1000.0 * p.output

structure Chat where
  apiKey : String
  baseUrl : String := "https://api.openai.com"
  model : String := "gpt-4o-mini"
  pricing : Pricing := {}
  prompts : Table String := []

namespace Chat

def backend : String := "openai"

def withoutSlashes (url : String) : String :=
  String.ofList ((url.toList.reverse.dropWhile (· == '/')).reverse)

def url (c : Chat) : String := c.baseUrl ++ "/v1/chat/completions"

/-- The prompt of a request: its own, unless that is blank, or the stored one. -/
def promptText (c : Chat) (r : Request) : Except ServiceError String :=
  if !Text.isBlankText r.prompt then .ok r.prompt
  else
    match r.templateId with
    | none => .error (.validation "Generation request has no prompt")
    | some id =>
      match Table.get? c.prompts id with
      | none => .error (.notFound ("Prompt template '" ++ id ++ "' not found"))
      | some template => .ok (Template.render r.bindings template)

def message (role content : String) : Value :=
  .record [("role", .string role), ("content", .string content)]

def body (model prompt : String) (bindings : Fields) : Value :=
  let system :=
    if bindings.isEmpty then []
    else [message "system" ("Input data:\n" ++ (Value.object bindings).compact)]
  .record [("model", .string model), ("messages", .array (system ++ [message "user" prompt])),
    ("stream", .bool false)]

def call (c : Chat) (r : Request) (prompt : String) : Api.Request :=
  { method := .post, url := c.url, auth := .bearer c.apiKey,
    payload := some (body (r.model.getD c.model) prompt r.bindings) }

/-! ## The answer of the service -/

structure Usage where
  prompt : Nat := 0
  completion : Nat := 0

/-- A completion: who wrote it, its choices, what it took. -/
structure Completion where
  model : String
  choices : List (Option String)
  usage : Option Usage

/-- A natural number below 2^64. -/
def decodeCount : Tree → Except DecodeError Nat := Decode.natural UInt64.size "u64"

def decodeUsage (origin : Origin) (budget : Nat) : Tree → Except DecodeError Usage :=
  Decode.record origin budget
    (fun _ =>
      { name := "struct OpenAiUsage"
        fields := ["prompt_tokens", "completion_tokens"]
        set := fun name t r =>
          match name with
          | "prompt_tokens" => return (some (← decodeCount t), r.2)
          | _ => return (r.1, some (← decodeCount t)) })
    ((none, none) : Option Nat × Option Nat)
    fun r => return ⟨← Decode.required "prompt_tokens" r.1,
      ← Decode.required "completion_tokens" r.2⟩

def decodeOnly {α : Type} (name field : String) (f : Nat → Tree → Except DecodeError α)
    (ofMissing : Except String α) (origin : Origin) (budget : Nat) : Tree → Except DecodeError α :=
  Decode.record origin budget
    (fun budget => ⟨name, [field], fun _ t _ => do return some (← f budget t)⟩)
    (none : Option α) fun r => r.elim ofMissing .ok

def decodeChoice (origin : Origin) : Nat → Tree → Except DecodeError (Option String) :=
  decodeOnly "struct OpenAiChoice" "message"
    (fun budget => decodeOnly "struct OpenAiResponseMessage" "content"
      (fun _ => Decode.optional Decode.string) (.ok none) origin budget)
    (.error "message") origin

def decodeCompletion (origin : Origin) (budget : Nat) : Tree → Except DecodeError Completion :=
  Decode.record origin budget
    (fun budget =>
      { name := "struct OpenAiResponse"
        fields := ["model", "choices", "usage"]
        set := fun name t r =>
          match name with
          | "model" => return (some (← Decode.string t), r.2)
          | "choices" => return (r.1, some (← Decode.list budget (decodeChoice origin) t), r.2.2)
          | _ => return (r.1, r.2.1, ← Decode.optional (decodeUsage origin budget) t) })
    ((none, none, none) : Option String × Option (List (Option String)) × Option Usage)
    fun r => return ⟨← Decode.required "model" r.1, ← Decode.required "choices" r.2.1, r.2.2⟩

/-- The generation that an answer holds: the text of its first choice. -/
def ofAnswer (c : Chat) (answer : Value) : Except ServiceError Generated :=
  match decodeValue decodeCompletion answer with
  | .error e => .error (.provider backend ("Failed to parse response: " ++ e.message))
  | .ok ⟨_, [], _⟩ => .error (.provider backend "No choices in response")
  | .ok ⟨model, text :: _, usage⟩ =>
    let text := text.getD ""
    let usage := usage.getD {}
    .ok { model, text, parsed := meaning text, tokens := usage.prompt + usage.completion,
          cost := c.pricing.cost usage.prompt usage.completion }

def generate {σ : Type} (c : Chat) (client : Api.Client σ) (r : Request) (s : σ) :
    Except ServiceError Generated × σ :=
  match c.promptText r with
  | .error e => (.error e, s)
  | .ok prompt =>
    match client (c.call r prompt) s with
    | (.error e, s) => (.error (.provider backend e.message), s)
    | (.ok response, s) => (c.ofAnswer response.body, s)

end Chat

def unconfigured : ServiceError :=
  .configuration "No AI provider configured; set ai.api_key to enable AI_PROMPT steps"

end Stepflow.Generation
