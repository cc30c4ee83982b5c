/-
  Stepflow.Toml.Item — the values of configuration texts.

  A configuration text holds a table. Dates and times are kept as their written form and
  become an object with one key of its own where only data is known.
-/

import Stepflow.Json.Tree

namespace Stepflow.Toml

/-- The edition of the format: the second one allows line breaks in inline tables, two
    more escapes, and times without seconds. -/
inductive Edition where
  | first
  | second
  deriving DecidableEq

inductive Item where
  | string (s : String)
  | integer (n : Int)
  | float (x : Float)
  | boolean (b : Bool)
  | datetime (text : String)
  | array (items : List Item)
  | table (entries : List (String × Item))

instance : Inhabited Item := ⟨.boolean false⟩

namespace Item

def datetimeKey : String := "$__toml_private_datetime"

mutual
/-- The item for a decoder: whole numbers outside the two whole kinds cannot be used. -/
def toTree : Item → Json.Tree
  | string s => .string s
  | integer n =>
    if Int64.minValue.toInt ≤ n ∧ n < UInt64.size then .number (.ofInt n) else .unreadable .numberOutOfRange
  | float x => if x.isFinite then .number (.double x) else .nonFinite x
  | boolean b => .bool b
  | datetime text => .object [(.ok datetimeKey, .string text)] none
  | array items => .array (toTrees items) none
  | table entries => .object (toMembers entries) none

def toTrees : List Item → List Json.Tree
  | [] => []
  | i :: is => toTree i :: toTrees is

def toMembers : List (String × Item) → List (Except Json.Fault String × Json.Tree)
  | [] => []
  | (k, i) :: rest => (.ok k, toTree i) :: toMembers rest
end

end Item

end Stepflow.Toml
