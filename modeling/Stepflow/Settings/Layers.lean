/-
  Stepflow.Settings.Layers — settings put together from files and the environment.

  A later layer is laid over the earlier ones, tables key by key. Keys are written in
  any case. The first layers are two files, each in one of two formats; a file that is
  missing counts as empty. The last layer is the variables of the environment whose
  names begin with `variableStart`; two underscores in the rest of a name lead one table
  down, and a value that looks like a truth value or a number is one.
-/

import Stepflow.Settings.Loose
import Stepflow.Toml.Document

namespace Stepflow.Settings

mutual
def overlay (table : List (String × Value)) (key : String) : Value → List (String × Value)
  | .object incoming =>
    let key := Text.lower key
    let merged := match Table.get? table key, incoming with
      | some (.object fields), incoming => .object (overlayAll fields incoming)
      | some v, [] => v
      | _, incoming => .object (overlayAll [] incoming)
    Table.insert table key merged
  | v => Table.insert table (Text.lower key) v

def overlayAll (table : List (String × Value)) : List (String × Value) → List (String × Value)
  | [] => table
  | (key, v) :: rest => overlayAll (overlay table key v) rest
end

/-- A table with a value laid over what a path of keys leads to; tables are made on the
    way as needed. -/
def overlayAt (table : Fields) : List String → Value → Fields
  | [], _ => table
  | [key], v => overlay table key v
  | key :: rest, v =>
    let inner := ((Table.get? table key).bind (·.fields?)).getD []
    Table.insert table key (.object (overlayAt inner rest v))

def isKeyChar (c : Char) : Bool := c.isAlphanum || c == ' ' || c == '_' || c == '-'

/-- The keys of a name with full stops between them; a name that is no path is one key. -/
def keysOf (name : String) : List String :=
  let pieces := Text.split (· == '.') (Text.lower name)
  if pieces.all fun p => !p.isEmpty && p.all isKeyChar then pieces else [Text.lower name]

def overlayLayer (table : Fields) (layer : List (String × Value)) : Fields :=
  layer.foldl (fun t e => overlayAt t (keysOf e.1) e.2) table

/-! ## Files -/

mutual
def ofItem : Toml.Item → Value
  | .string s => .string s
  | .integer n => .number (.ofInt n)
  | .float x => .number (.double x)
  | .boolean b => .bool b
  | .datetime text => .string text
  | .array items => .array (ofItems items)
  | .table entries => .object (ofEntries entries)

def ofItems : List Toml.Item → List Value
  | [] => []
  | i :: is => ofItem i :: ofItems is

def ofEntries : List (String × Toml.Item) → List (String × Value)
  | [] => []
  | (k, i) :: rest => (k, ofItem i) :: ofEntries rest
end

mutual
/-- A value whose whole numbers fit a signed 64-bit word; larger ones become doubles. -/
def signedOnly : Value → Value
  | .number (.natural n) =>
    if (n.toNat : Int) ≤ Int64.maxValue.toInt then .number (.natural n) else .number (.double n.toFloat)
  | .array items => .array (signedItems items)
  | .object fields => .object (signedFields fields)
  | v => v

def signedItems : List Value → List Value
  | [] => []
  | v :: vs => signedOnly v :: signedItems vs

def signedFields : List (String × Value) → List (String × Value)
  | [] => []
  | (k, v) :: rest => (k, signedOnly v) :: signedFields rest
end

def tomlLayer? (text : String) : Option (List (String × Value)) :=
  (Toml.read? .first text).map ofEntries

def jsonLayer? (text : String) : Option (List (String × Value)) :=
  match Json.parse text with
  | .ok (.object fields) => some (signedFields fields)
  | _ => none

/-- The names of the files of settings, without their endings, in the order of the layers. -/
def fileNames : List String := ["config/default", "config/local"]

/-- The layer of a file; nothing when there is one that cannot be read. -/
def fileLayer? (read? : String → Option String) (name : String) : Option (List (String × Value)) :=
  match read? (name ++ ".toml"), read? (name ++ ".json") with
  | some text, _ => tomlLayer? text
  | none, some text => jsonLayer? text
  | none, none => some []

/-! ## The environment -/

def variableStart : String := "app__"

/-- The path of keys that a variable writes, if it holds a setting. -/
def variableName? (name : String) : Option String :=
  (Text.dropStart? variableStart.toList (Text.lower name).toList).map fun rest =>
    Text.replaceAll (String.ofList rest) "__" "."

def variableValue (s : String) : Value :=
  match Text.lower s with
  | "true" => .bool true
  | "false" => .bool false
  | _ =>
    match Decimal.int64? s with
    | some n => .number (.ofInt n)
    | none =>
      match Decimal.double? s with
      | some x => .number (.double x)
      | none => .string s

def variableLayer (env : List (String × String)) : List (String × Value) :=
  Table.ofList (env.filterMap fun v => (variableName? v.1).map fun name => (name, variableValue v.2))

/-- The settings of files and environment; nothing when they cannot be read. -/
def load? (read? : String → Option String) (env : List (String × String)) : Option Settings := do
  let layers ← fileNames.mapM (fileLayer? read?)
  ofFields? ((layers ++ [variableLayer env]).foldl overlayLayer [])

end Stepflow.Settings
