/-
  Stepflow.Condition — operators on two values, and rules about a context.

  An operator has a name and aliases; those are listed in `Operator.names` in the order
  in which messages give them. A rule tests the value that a path leads to (null when
  it leads nowhere) against a value in which placeholders are filled in first.
-/

import Stepflow.Context
import Stepflow.Json.Decode
import Stepflow.Template
import Stepflow.Value.Loose

namespace Stepflow

inductive Operator where
  | eq
  | ne
  | gt
  | gte
  | lt
  | lte
  | isIn
  | notIn
  | truthy
  | isEmpty
  | isNotEmpty
  | contains
  | startsWith
  | endsWith
  deriving DecidableEq

namespace Operator

def name : Operator → String
  | eq => "eq"
  | ne => "ne"
  | gt => "gt"
  | gte => "gte"
  | lt => "lt"
  | lte => "lte"
  | isIn => "in"
  | notIn => "not_in"
  | truthy => "truthy"
  | isEmpty => "is_empty"
  | isNotEmpty => "is_not_empty"
  | contains => "contains"
  | startsWith => "starts_with"
  | endsWith => "ends_with"

def names : List (String × Operator) :=
  [("=", eq), ("==", eq), ("eq", eq), ("!=", ne), ("<>", ne), ("ne", ne), (">", gt), ("gt", gt),
    (">=", gte), ("gte", gte), ("<", lt), ("lt", lt), ("<=", lte), ("lte", lte), ("in", isIn),
    ("not_in", notIn), ("truthy", truthy), ("is_empty", isEmpty), ("is_not_empty", isNotEmpty),
    ("contains", contains), ("starts_with", startsWith), ("ends_with", endsWith)]

def ofName? (s : String) : Option Operator := names.lookup s

def test (op : Operator) (field v : Value) : Bool :=
  match op with
  | eq => field.looseEq v
  | ne => !field.looseEq v
  | gt => field.compareNumbers (fun x y => x > y) v
  | gte => field.compareNumbers (fun x y => x >= y) v
  | lt => field.compareNumbers (fun x y => x < y) v
  | lte => field.compareNumbers (fun x y => x <= y) v
  | isIn => field.memberOf v
  | notIn => !field.memberOf v
  | truthy => field.isTruthy
  | isEmpty => field.isEmpty
  | isNotEmpty => !field.isEmpty
  | contains => field.holds v
  | startsWith => field.bothTexts Text.startsWith v
  | endsWith => field.bothTexts Text.endsWith v

def decode (origin : Json.Origin) (budget : Nat) : Json.Tree → Except Json.DecodeError Operator :=
  Json.Decode.choice origin budget names

end Operator

structure Rule where
  field : String
  operator : Operator
  value : Value

namespace Rule

def holds (rule : Rule) (ctx : Context) : Bool :=
  rule.operator.test ((Fields.resolve ctx (Template.barePath rule.field)).getD .null)
    (rule.value.templated ctx)

structure Draft where
  field : Option String := none
  operator : Option Operator := none
  value : Option Value := none

/-- A rule as data: without an operator it asks for equality, without a value for null. -/
def decode (origin : Json.Origin) (budget : Nat) : Json.Tree → Except Json.DecodeError Rule :=
  Json.Decode.record origin budget
    (fun budget =>
      { name := "struct ConditionRule"
        fields := ["field", "operator", "value"]
        set := fun name t r =>
          match name with
          | "field" => return { r with field := some (← Json.Decode.string t) }
          | "operator" => return { r with operator := some (← Operator.decode origin budget t) }
          | _ => return { r with value := some (← Json.Decode.value budget t) } })
    ({} : Draft)
    (fun r => do
      let field ← Json.Decode.required "field" r.field
      return ⟨field, r.operator.getD .eq, r.value.getD .null⟩)

def toValue (rule : Rule) : Value :=
  .record [("field", .string rule.field), ("operator", .string rule.operator.name),
    ("value", rule.value)]

end Rule

end Stepflow
