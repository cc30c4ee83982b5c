/-
  Stepflow.Json.Decode — trees decoded into values and records.

  A decoder works through a tree from left to right and stops at the first thing it
  cannot use, be it a fault of the text or a part of the wrong type. A record is
  written as an object, in any order, with unknown keys passed over and no key twice,
  or as an array of its fields in their declared order; what is missing is reported
  last, in declared order. A choice is written as one of its names, or as an object
  with that name as its only key and null under it.

  Two things depend on where a tree comes from (`Origin`): a few wordings, and the
  depth, which is limited for texts. Every array and object a decoder goes into takes
  one from its `budget`.
-/

import Stepflow.Json.Reader
import Stepflow.Text.Cut
import Stepflow.Text.Quoted
import Stepflow.Value.Text

namespace Stepflow.Json

inductive Found where
  | null
  | bool (b : Bool)
  | integer (n : Int)
  | double (x : Float)
  | string (s : String)
  | list
  | object

def Found.message : Found → String
  | null => "null"
  | bool b => "boolean `" ++ toString b ++ "`"
  | integer n => "integer `" ++ toString n ++ "`"
  | double x => "floating point `" ++ Decimal.Layout.data.text x ++ "`"
  | string s => "string " ++ Text.Quoted.quote s
  | list => "sequence"
  | object => "map"

inductive DecodeError where
  | fault (f : Fault)
  | invalidType (found : Found) (expected : String)
  | invalidValue (found : Found) (expected : String)
  | invalidLength (length : Nat) (expected : String)
  | unknownVariant (name : String) (names : List String)
  | missingField (name : String)
  | duplicateField (name : String)
  | noVariant (type : String)
  | rejected (reason : String)

namespace DecodeError

def oneOf (names : List String) : String :=
  match names with
  | [a, b] => "`" ++ a ++ "` or `" ++ b ++ "`"
  | [a] => "`" ++ a ++ "`"
  | names => "one of " ++ Text.join ", " (names.map fun n => "`" ++ n ++ "`")

def message : DecodeError → String
  | fault f => f.message
  | invalidType found expected => "invalid type: " ++ found.message ++ ", expected " ++ expected
  | invalidValue found expected => "invalid value: " ++ found.message ++ ", expected " ++ expected
  | invalidLength n expected => "invalid length " ++ toString n ++ ", expected " ++ expected
  | unknownVariant name names => "unknown variant `" ++ name ++ "`, expected " ++ oneOf names
  | missingField name => "missing field `" ++ name ++ "`"
  | duplicateField name => "duplicate field `" ++ name ++ "`"
  | noVariant type => "data did not match any variant of untagged enum " ++ type
  | rejected reason => reason

end DecodeError

inductive Origin where
  | text
  | value
  /-- A configuration text. -/
  | config
  deriving DecidableEq

def textBudget : Nat := 127

namespace Decode

def foundNumber (n : Number) : Found :=
  match n with
  | .natural n => .integer n.toNat
  | .negative n => .integer n.toInt
  | .double x => .double x

def mismatch (t : Tree) (expected : String) : DecodeError :=
  match t with
  | .null => .invalidType .null expected
  | .bool b => .invalidType (.bool b) expected
  | .number n => .invalidType (foundNumber n) expected
  | .string s => .invalidType (.string s) expected
  | .nonFinite x => .invalidType (.double x) expected
  | .unreadable f => .fault f
  | .array _ _ => .invalidType .list expected
  | .object _ _ => .invalidType .object expected
  | .broken stop => .fault stop.wanted

def exhausted (t : Tree) (expected : String) : DecodeError :=
  match t with
  | .array _ _ => .fault .tooDeep
  | .object _ _ => .fault .tooDeep
  | t => mismatch t expected

def unbroken : Option Break → Except DecodeError Unit
  | none => .ok ()
  | some stop => .error (.fault stop.wanted)

def string : Tree → Except DecodeError String
  | .string s => .ok s
  | t => .error (mismatch t "a string")

def boolean : Tree → Except DecodeError Bool
  | .bool b => .ok b
  | t => .error (mismatch t "a boolean")

def whole (least greatest : Int) (expected : String) : Tree → Except DecodeError Int
  | .number (.natural n) => bounded n.toNat
  | .number (.negative n) => bounded n.toInt
  | t => .error (mismatch t expected)
where
  /-- The number when it is in range. -/
  bounded (n : Int) : Except DecodeError Int :=
    if least ≤ n && n ≤ greatest then .ok n else .error (.invalidValue (.integer n) expected)

def natural (bound : Nat) (expected : String) (t : Tree) : Except DecodeError Nat :=
  (whole 0 (bound - 1) expected t).map Int.toNat

def double : Tree → Except DecodeError Float
  | .number n => .ok n.toFloat
  | .nonFinite x => .ok x
  | t => .error (mismatch t "f64")

def optional {α : Type} (f : Tree → Except DecodeError α) : Tree → Except DecodeError (Option α)
  | .null => .ok none
  | t => (f t).map some

def items {α : Type} (f : Tree → Except DecodeError α) : List Tree → Except DecodeError (List α)
  | [] => .ok []
  | t :: ts => do
    let a ← f t
    let as ← items f ts
    return a :: as

def listOf {α : Type} (f : Tree → Except DecodeError α) : Tree → Except DecodeError (List α)
  | .array ts stop => do
    let as ← items f ts
    unbroken stop
    return as
  | t => .error (mismatch t "a sequence")

/-- A list; `f` decodes its items with one less of the budget. -/
def list {α : Type} (budget : Nat) (f : Nat → Tree → Except DecodeError α) (t : Tree) :
    Except DecodeError (List α) :=
  match budget with
  | 0 => .error (exhausted t "a sequence")
  | b + 1 => listOf (f b) t

def entries {α : Type} (f : Tree → Except DecodeError α) :
    List (Except Fault String × Tree) → Except DecodeError (List (String × α))
  | [] => .ok []
  | (.error fault, _) :: _ => .error (.fault fault)
  | (.ok key, t) :: rest => do
    let a ← f t
    let rest ← entries f rest
    return (key, a) :: rest

def table {α : Type} (budget : Nat) (f : Nat → Tree → Except DecodeError α) (t : Tree) :
    Except DecodeError (Table α) :=
  match budget, t with
  | 0, .object _ _ => .error (.fault .tooDeep)
  | b + 1, .object members stop => do
    let es ← entries (f b) members
    unbroken stop
    return Table.ofList es
  | _, t => .error (mismatch t "a map")

def value : Nat → Tree → Except DecodeError Value
  | _, .null => .ok .null
  | _, .bool b => .ok (.bool b)
  | _, .number n => .ok (.number n)
  | _, .string s => .ok (.string s)
  | _, .nonFinite _ => .ok .null
  | _, .unreadable f => .error (.fault f)
  | _, .broken stop => .error (.fault stop.wanted)
  | 0, .array _ _ => .error (.fault .tooDeep)
  | 0, .object _ _ => .error (.fault .tooDeep)
  | b + 1, .array ts stop => do
    let vs ← items (value b) ts
    unbroken stop
    return .array vs
  | b + 1, .object members stop => do
    let es ← entries (value b) members
    unbroken stop
    return .object (Table.ofList es)

/-! ## Choices -/

def named {α : Type} (choices : List (String × α)) (name : String) : Except DecodeError α :=
  match choices.lookup name with
  | some a => .ok a
  | none => .error (.unknownVariant name (choices.map (·.1)))

def unit : Tree → Except DecodeError Unit
  | .null => .ok ()
  | t => .error (mismatch t "unit")

def choice {α : Type} (origin : Origin) (budget : Nat) (choices : List (String × α)) (t : Tree) :
    Except DecodeError α :=
  match origin, t with
  | _, .string s => named choices s
  | _, .unreadable f => .error (.fault f)
  | .value, .object [(.ok name, content)] none => do
    let a ← named choices name
    unit content
    return a
  | .config, .object [(.ok name, content)] none => do
    let a ← named choices name
    match content with
    | .array [] none => return a
    | .object [] none => return a
    | t => throw (mismatch t "unit")
  | .value, .object _ _ => .error (.invalidValue .object "map with a single key")
  | .config, t => .error (mismatch t "string or map")
  | .value, t => .error (mismatch t "string or map")
  | .text, .object members stop =>
    if budget = 0 then .error (.fault .tooDeep)
    else
      match members, stop with
      | [], some ⟨.endInObject, _⟩ => .error (.fault .endInValue)
      | [], some ⟨.keyNotText, _⟩ => .error (.fault .expectedValue)
      | [], some stop => .error (.fault stop.wanted)
      | [], none => .error (.fault .expectedValue)
      | (.error f, _) :: _, _ => .error (.fault f)
      | (.ok name, content) :: more, stop => do
        let a ← named choices name
        unit content
        match more, stop with
        | [], none => return a
        | [], some ⟨.endInObject, _⟩ => throw (.fault .endInObject)
        | _, _ => throw (.fault .expectedValue)
  | .text, .broken stop => .error (.fault stop.wanted)
  | .text, _ => .error (.fault .expectedValue)

/-! ## Records -/

/-- How a record is put together: its name in messages, its fields in declared order,
    and what a tree under the name of a field adds to the record so far. -/
structure RecordSpec (ρ : Type) where
  name : String
  fields : List String
  set : String → Tree → ρ → Except DecodeError ρ

namespace RecordSpec

variable {ρ : Type} (spec : RecordSpec ρ)

def members : List (Except Fault String × Tree) → List String → ρ → Except DecodeError ρ
  | [], _, r => .ok r
  | (.error f, _) :: _, _, _ => .error (.fault f)
  | (.ok key, t) :: rest, seen, r =>
    if key ∈ spec.fields then
      if key ∈ seen then .error (.duplicateField key)
      else do
        let r ← spec.set key t r
        members rest (key :: seen) r
    else
      match t.skipFault? with
      | some f => .error (.fault f)
      | none => members rest seen r

def positions : List String → List Tree → ρ → Except DecodeError ρ
  | field :: fields, t :: ts, r => do
    let r ← spec.set field t r
    positions fields ts r
  | _, _, r => .ok r

def leftOver (origin : Origin) (count : Nat) (stop : Option Break) : Except DecodeError Unit :=
  if spec.fields.length < count then
    match origin with
    | .text => .error (.fault .trailingCharacters)
    | .config => .ok ()
    | .value => .error (.invalidLength count "fewer elements in array")
  else
    match stop with
    | none => .ok ()
    | some ⟨.trailingComma, _⟩ => .error (.fault .trailingComma)
    | some ⟨.endInList, _⟩ => .error (.fault .endInList)
    | some _ => .error (.fault .trailingCharacters)

def missing (t : Tree) (field : String) : DecodeError :=
  match t with
  | .array _ _ =>
    .invalidLength (spec.fields.idxOf field)
      (spec.name ++ " with " ++ toString spec.fields.length ++ " elements")
  | _ => .missingField field

/-- The record written as `t`, starting from `start`; `finish` names a field that has to
    be there and is not. -/
def read {α : Type} (origin : Origin) (t : Tree) (start : ρ) (finish : ρ → Except String α) :
    Except DecodeError α :=
  match t with
  | .object ms stop => do
    let r ← spec.members ms [] start
    unbroken stop
    (finish r).mapError (spec.missing t)
  | .array ts stop => do
    let r ← spec.positions spec.fields ts start
    if ts.length < spec.fields.length then unbroken stop
    let a ← (finish r).mapError (spec.missing t)
    if spec.fields.length ≤ ts.length then spec.leftOver origin ts.length stop
    return a
  | t => .error (mismatch t spec.name)

end RecordSpec

def required {α : Type} (field : String) : Option α → Except String α
  | some a => .ok a
  | none => .error field

/-- A record; `spec` decodes its fields with one less of the budget. -/
def record {ρ α : Type} (origin : Origin) (budget : Nat) (spec : Nat → RecordSpec ρ) (start : ρ)
    (finish : ρ → Except String α) (t : Tree) : Except DecodeError α :=
  match budget with
  | 0 => .error (exhausted t (spec 0).name)
  | b + 1 => (spec b).read origin t start finish

end Decode

/-- A whole text decoded: nothing but white space may follow the value. -/
def decodeText {α : Type} (decode : Origin → Nat → Tree → Except DecodeError α) (text : String) :
    Except DecodeError α := do
  let ⟨tree, rest⟩ := readTree text
  let a ← decode .text textBudget tree
  match rest.map skipSpace with
  | some (_ :: _) => throw (.fault .trailingCharacters)
  | _ => return a

def decodeValue {α : Type} (decode : Origin → Nat → Tree → Except DecodeError α) (v : Value) :
    Except DecodeError α :=
  decode .value v.depth (Tree.ofValue v)

def parse (text : String) : Except DecodeError Value := decodeText (fun _ => Decode.value) text

end Stepflow.Json
