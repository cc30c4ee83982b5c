/-
  Stepflow.Settings.Basic — the settings of the program, and settings as data.

  Every setting has a default, so any part of the data may be missing. A blank key of
  the text service counts as none.
-/

import Stepflow.Engine
import Stepflow.Generation.Chat

namespace Stepflow

open Json

inductive LogFormat where
  | pretty
  | json
  deriving DecidableEq, Repr

namespace LogFormat

def names : List (String × LogFormat) := [("pretty", pretty), ("json", json)]

end LogFormat

structure LogSettings where
  level : String := "info"
  format : LogFormat := .pretty

namespace LogSettings

def levels : List String := ["off", "error", "warn", "info", "debug", "trace"]

/-- The level that a text names, in any case or by its number; an empty text asks for
    errors. -/
def levelOf (s : String) : String :=
  if s.isEmpty then "error"
  else
    (levels.find? (Text.sameAscii s)).getD
      (((Decimal.uint64? s).bind fun n => levels[n]?).getD s)

/-- The level that counts: one set from outside comes before that of the settings. -/
def filter (s : LogSettings) (outside : Option String) : String := levelOf (outside.getD s.level)

end LogSettings

structure AiSettings where
  baseUrl : String := "https://api.openai.com"
  key : Option String := none
  model : String := "gpt-4o-mini"
  /-- The price of a thousand tokens sent. -/
  inputPrice : Float := 0.00015
  /-- The price of a thousand tokens received. -/
  outputPrice : Float := 0.0006
  timeoutSeconds : Nat := 60
  /-- Stored prompts by their ids. -/
  prompts : Table String := []

/-- The key without its outer blanks, if anything is left of it. -/
def AiSettings.apiKey? (s : AiSettings) : Option String := s.key.bind Text.trimmed?

def AiSettings.chat? (s : AiSettings) : Option Generation.Chat :=
  s.apiKey?.map fun apiKey =>
    { apiKey, baseUrl := Generation.Chat.withoutSlashes s.baseUrl, model := s.model
      pricing := ⟨s.inputPrice, s.outputPrice⟩, prompts := s.prompts }

structure HttpSettings where
  timeoutSeconds : Nat := 30

structure Settings where
  logging : LogSettings := {}
  engine : EngineConfig := {}
  ai : AiSettings := {}
  http : HttpSettings := {}

/-! ## Settings as data -/

def LogSettings.fields : List String := ["level", "format"]

def AiSettings.fields : List String :=
  ["base_url", "api_key", "model", "input_price_per_1k", "output_price_per_1k", "timeout_secs",
    "prompts"]

def HttpSettings.fields : List String := ["timeout_secs"]

def Settings.fields : List String := ["logging", "engine", "ai", "http"]

def decodeSeconds : Tree → Except DecodeError Nat := Decode.natural UInt64.size "u64"

def LogSettings.decode (origin : Origin) (budget : Nat) : Tree → Except DecodeError LogSettings :=
  Decode.record origin budget
    (fun budget =>
      { name := "struct LoggingConfig"
        fields := LogSettings.fields
        set := fun name t r =>
          match name with
          | "level" => return { r with level := ← Decode.string t }
          | _ => return { r with format := ← Decode.choice origin budget LogFormat.names t } })
    ({} : LogSettings) .ok

def AiSettings.decode (origin : Origin) (budget : Nat) : Tree → Except DecodeError AiSettings :=
  Decode.record origin budget
    (fun budget =>
      { name := "struct AiConfig"
        fields := AiSettings.fields
        set := fun name t r =>
          match name with
          | "base_url" => return { r with baseUrl := ← Decode.string t }
          | "api_key" => return { r with key := ← Decode.optional Decode.string t }
          | "model" => return { r with model := ← Decode.string t }
          | "input_price_per_1k" => return { r with inputPrice := ← Decode.double t }
          | "output_price_per_1k" => return { r with outputPrice := ← Decode.double t }
          | "timeout_secs" => return { r with timeoutSeconds := ← decodeSeconds t }
          | _ => return { r with prompts := ← Decode.table budget (fun _ => Decode.string) t } })
    ({} : AiSettings) .ok

def HttpSettings.decode (origin : Origin) (budget : Nat) : Tree → Except DecodeError HttpSettings :=
  Decode.record origin budget
    (fun _ =>
      { name := "struct HttpConfig"
        fields := HttpSettings.fields
        set := fun _ t _ => return ⟨← decodeSeconds t⟩ })
    ({} : HttpSettings) .ok

/-- All settings; what is missing has its default. -/
def Settings.decode (origin : Origin) (budget : Nat) : Tree → Except DecodeError Settings :=
  Decode.record origin budget
    (fun budget =>
      { name := "struct AppConfig"
        fields := Settings.fields
        set := fun name t r =>
          match name with
          | "logging" => return { r with logging := ← LogSettings.decode origin budget t }
          | "engine" => return { r with engine := ← EngineConfig.decode origin budget t }
          | "ai" => return { r with ai := ← AiSettings.decode origin budget t }
          | _ => return { r with http := ← HttpSettings.decode origin budget t } })
    ({} : Settings) .ok

end Stepflow
