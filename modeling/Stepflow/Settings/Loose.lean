/-
  Stepflow.Settings.Loose — settings read from values of other types.

  Layers of settings are written by hand and in the environment, so a setting is taken
  from any value that can mean it: a number from a text or a truth value, a text from a
  number, a truth value from a word. Names of choices count in any case. A part of the
  settings is an object, or an array of its fields in their order.
-/

import Stepflow.Settings.Basic

namespace Stepflow.Settings

def yesWords : List String := ["true", "on", "yes"]

def noWords : List String := ["false", "off", "no"]

def truth? : Value → Option Bool
  | .bool b => some b
  | .number n => some (n.toFloat != 0.0)
  | .string s =>
    let word := Text.lower s
    if word = "1" || yesWords.contains word then some true
    else if word = "0" || noWords.contains word then some false
    else none
  | _ => none

/-- The number that a word means, or else that it writes. -/
def wordOr {α : Type} (one zero : α) (read? : String → Option α) (s : String) : Option α :=
  let word := Text.lower s
  if yesWords.contains word then some one
  else if noWords.contains word then some zero
  else read? s

/-- The natural number below 2^64 nearest to a double; a half goes away from zero. -/
def rounded (x : Float) : Nat := x.round.toUInt64.toNat

/-- The natural number that a value means; there is none for a negative whole number. -/
def natural? : Value → Option Nat
  | .bool b => some b.toNat
  | .number (.natural n) => some n.toNat
  | .number (.negative _) => none
  | .number (.double x) => some (rounded x)
  | .string s => wordOr 1 0 Decimal.uint64? s
  | _ => none

def double? : Value → Option Float
  | .bool b => some (if b then 1.0 else 0.0)
  | .number n => some n.toFloat
  | .string s => wordOr 1.0 0.0 Decimal.double? s
  | _ => none

def doubleText (x : Float) : String :=
  if x.isNaN then "NaN"
  else if x.isInf then (if x < 0.0 then "-inf" else "inf")
  else Decimal.Layout.plain.text x

def text? : Value → Option String
  | .bool b => some (toString b)
  | .number (.double x) => some (doubleText x)
  | .number n => some n.text
  | .string s => some s
  | _ => none

/-- The choice that a text names, or the only key of an object. -/
def choice? {α : Type} (names : List (String × α)) (v : Value) : Option α :=
  let named (s : String) : Option α :=
    (names.find? fun n => Text.lower n.1 == Text.lower s).map (·.2)
  match v with
  | .string s => named s
  | .object [(key, _)] => named key
  | _ => none

def part? (names : List String) : Value → Option Fields
  | .object fields => some fields
  | .array items => some (names.zip items)
  | _ => none

/-- A setting under a key, or its default; nothing when it cannot be read. -/
def setting {α : Type} (fields : Fields) (key : String) (read? : Value → Option α) (default : α) :
    Option α :=
  match fields.get? key with
  | some v => read? v
  | none => some default

def log? (v : Value) : Option LogSettings := do
  let fs ← part? LogSettings.fields v
  let s : LogSettings := {}
  return { level := ← setting fs "level" text? s.level
           format := ← setting fs "format" (choice? LogFormat.names) s.format }

def engine? (v : Value) : Option EngineConfig := do
  let fs ← part? EngineConfig.fields v
  let s : EngineConfig := {}
  return { onError := ← setting fs "default_on_error" (choice? OnError.names) s.onError
           strictValidation := ← setting fs "strict_validation" truth? s.strictValidation
           maxDepth := ← setting fs "max_depth" natural? s.maxDepth }

def optionalText? : Value → Option (Option String)
  | .null => some none
  | v => (text? v).map some

def texts? : Value → Option (Table String)
  | .object fields => fields.mapM fun f => (text? f.2).map fun s => (f.1, s)
  | _ => none

def ai? (v : Value) : Option AiSettings := do
  let fs ← part? AiSettings.fields v
  let s : AiSettings := {}
  return { baseUrl := ← setting fs "base_url" text? s.baseUrl
           key := ← setting fs "api_key" optionalText? s.key
           model := ← setting fs "model" text? s.model
           inputPrice := ← setting fs "input_price_per_1k" double? s.inputPrice
           outputPrice := ← setting fs "output_price_per_1k" double? s.outputPrice
           timeoutSeconds := ← setting fs "timeout_secs" natural? s.timeoutSeconds
           prompts := ← setting fs "prompts" texts? s.prompts }

def http? (v : Value) : Option HttpSettings := do
  let fs ← part? HttpSettings.fields v
  return ⟨← setting fs "timeout_secs" natural? ({} : HttpSettings).timeoutSeconds⟩

def ofFields? (fs : Fields) : Option Settings := do
  return { logging := ← setting fs "logging" log? {}
           engine := ← setting fs "engine" engine? {}
           ai := ← setting fs "ai" ai? {}
           http := ← setting fs "http" http? {} }

end Stepflow.Settings
