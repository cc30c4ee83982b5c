/-
  Stepflow.Records.Filter — tests of the fields of records.

  A filter compares the value at a path with another one by an operator of conditions,
  asks whether it is null, or places its timestamp before a moment or not. A time window
  is written as a number of hours or days before now and becomes the moment where it
  begins.
-/

import Stepflow.Condition
import Stepflow.Text.Casing
import Stepflow.Time.Rfc3339

namespace Stepflow.Records

open Time

inductive Test where
  | compare (op : Operator)
  | isNull
  | isNotNull
  /-- A timestamp strictly before the value. -/
  | before
  /-- A timestamp not before the value. -/
  | atOrAfter
  deriving DecidableEq

structure Filter where
  field : String
  test : Test
  value : Value

namespace Filter

/-- A value as the list that it writes: texts are cut at commas, blank pieces dropped. -/
def listed : Value → Value
  | .array items => .array items
  | .string s => .array ((Text.split (· == ',') s).filterMap fun p => (Text.trimmed? p).map .string)
  | .null => .array []
  | v => .array [v]

/-- The whole number that a value is or writes; zero if it does neither. -/
def whole : Value → Int
  | .number n => n.toInt?.getD 0
  | .string s => (Decimal.int64? (Text.trim s)).getD 0
  | _ => 0

def hoursBefore (now : Timestamp) (hours : Int) : Value := .string (now.cutoff hours).text

/-- A filter whose operator is written freely: an unknown one asks for equality. -/
def parse (now : Timestamp) (field operator : String) (v : Value) : Filter :=
  match Text.lower (Text.trim operator) with
  | "is null" | "is_null" | "null" => ⟨field, .isNull, .null⟩
  | "is not null" | "is_not_null" | "not null" | "not_null" => ⟨field, .isNotNull, .null⟩
  | "in" => ⟨field, .compare .isIn, listed v⟩
  | "not in" | "not_in" => ⟨field, .compare .notIn, listed v⟩
  | "older_than_hours" => ⟨field, .before, hoursBefore now (whole v)⟩
  | "within_hours" => ⟨field, .atOrAfter, hoursBefore now (whole v)⟩
  | "older_than_days" => ⟨field, .before, hoursBefore now (whole v * 24)⟩
  | "within_days" => ⟨field, .atOrAfter, hoursBefore now (whole v * 24)⟩
  | name => ⟨field, .compare ((Operator.ofName? name).getD .eq), v⟩

def timestamp? (v : Value) : Option Timestamp := v.string?.bind Timestamp.read?

/-- The value that the filter tests; null when the path leads nowhere. -/
def subject (f : Filter) (record : Fields) : Value := (record.resolve f.field).getD .null

def accepts (f : Filter) (record : Fields) : Bool :=
  let v := f.subject record
  match f.test with
  | .compare op => op.test v f.value
  | .isNull => v.isNull
  | .isNotNull => !v.isNull
  | .before =>
    match timestamp? v, timestamp? f.value with
    | some a, some b => a.before b
    | _, _ => false
  | .atOrAfter =>
    match timestamp? v, timestamp? f.value with
    | some a, some b => !a.before b
    | _, _ => false

end Filter

end Stepflow.Records
