/-
  Stepflow.Handler.Fields — names and values written in a configuration.

  Fields of a record and variables are written as an object, or as a list of entries
  with a name and a value. Names lose their outer blanks, nameless entries are passed
  over, and of two with one name the later counts. In fields a few words stand for a
  value: the present moment, the beginning of the day, null.
-/

import Stepflow.Handler.Task
import Stepflow.Template

namespace Stepflow.Handler

open Time

def fieldNameKeys : List String := ["column", "field", "name"]

/-- The name of a field: the first one that is not blank. -/
def fieldName? (entry : Value) : Option String :=
  fieldNameKeys.findSome? fun key => ((entry.field? key).bind (·.string?)).bind Text.trimmed?

def applyFieldWord (now : Timestamp) (v : Value) : Value :=
  match v with
  | .string s =>
    match Text.upper (Text.trim s) with
    | "NOW()" | "CURRENT_TIMESTAMP" | "CURRENT_TIMESTAMP()" => .string now.wholeSecond.zulu
    | "TODAY()" => .string now.startOfDay.zulu
    | "NULL" => .null
    | _ => v
  | v => v

def fieldValue (now : Timestamp) (ctx : Context) (v : Value) : Value :=
  applyFieldWord now (v.templated ctx)

def namedValues (value : Value → Value) (pairs : List (Option String × Value)) : Fields :=
  Table.ofList (pairs.filterMap fun p => p.1.map fun name => (name, value p.2))

/-- The value of an entry; null when it has none. -/
def entryValue (entry : Value) : Value := (entry.field? "value").getD .null

def pairsOf (name? : Value → Option String) : Option Value → List (Option String × Value)
  | some (.array entries) => entries.map fun e => (name? e, entryValue e)
  | some (.object fields) => fields.map fun f => (Text.trimmed? f.1, f.2)
  | _ => []

def resolveFields (now : Timestamp) (ctx : Context) (config : Option Value) : Fields :=
  namedValues (fieldValue now ctx) (pairsOf fieldName? config)

def variableName? (entry : Value) : Option String :=
  ((entry.field? "name").bind (·.string?)).bind Text.trimmed?

def collectVariables (ctx : Context) (config : Option Value) : Fields :=
  namedValues (Value.templated ctx) (pairsOf variableName? config)

def defineVariable : Handler := .ofWork fun step ctx =>
  let values := Value.object (collectVariables ctx (step.config.get? "variables"))
  return { StepResult.completed values with context := [(Context.variablesKey, values)] }

end Stepflow.Handler
