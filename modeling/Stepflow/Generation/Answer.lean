/-
  Stepflow.Generation.Answer — asking for generated text, and what comes back.

  An answer that is the JSON text of an object or array, by itself or inside a fence of
  three back-ticks (with or without the word json), is that value; any other answer is
  an object with the whole text.
-/

import Stepflow.Failure
import Stepflow.Json.Decode
import Stepflow.Text.Blank

namespace Stepflow.Generation

open Json

structure Request where
  /-- The stored prompt to use if `prompt` is blank. -/
  templateId : Option String := none
  prompt : String := ""
  /-- Values sent along with the prompt. -/
  bindings : Fields := []
  model : Option String := none

structure Generated where
  model : String
  text : String
  parsed : Value
  tokens : Nat := 0
  cost : Float := 0.0

def unfenced? (cs : List Char) : Option (List Char) := do
  let fence := "```".toList
  let inner ← Text.dropStart? "```json".toList cs <|> Text.dropStart? fence cs
  return Text.trimChars (← Text.dropEnd? fence inner)

def meaning (text : String) : Value :=
  let trimmed := Text.trimChars text.toList
  match Json.parse (String.ofList ((unfenced? trimmed).getD trimmed)) with
  | .ok (.object fields) => .object fields
  | .ok (.array items) => .array items
  | _ => .record [("text", .string text)]

def Generated.raw (g : Generated) : Value :=
  .record [("model", .string g.model), ("text", .string g.text)]

def Generated.toValue (g : Generated) : Value :=
  .record [("raw", g.raw), ("parsed", g.parsed), ("token_usage", .count g.tokens),
    ("cost", .double g.cost)]

def Request.decode (origin : Origin) (budget : Nat) : Tree → Except DecodeError Request :=
  Decode.record origin budget
    (fun budget =>
      { name := "struct GenerationRequest"
        fields := ["prompt_template_id", "prompt", "variables", "model"]
        set := fun name t r =>
          match name with
          | "prompt_template_id" =>
            return { r with templateId := ← Decode.optional Decode.string t }
          | "prompt" => return { r with prompt := ← Decode.string t }
          | "variables" => return { r with bindings := ← Decode.table budget Decode.value t }
          | _ => return { r with model := ← Decode.optional Decode.string t } })
    ({} : Request) .ok

end Stepflow.Generation
