/-
  Stepflow.Value.Loose — truth, equality and order across the types of values.

  Loose equality is equality of structure; beyond it numbers of different kinds are
  equal when they are equal as doubles, and scalars of different types when their
  texts are. Arrays and objects are equal to nothing else. Comparison by size is for
  numbers and texts that write one.
-/

import Stepflow.Decimal.Reading
import Stepflow.Text.Blank
import Stepflow.Text.Cut
import Stepflow.Value.Text

namespace Stepflow.Value

def isTruthy : Value → Bool
  | null => false
  | bool b => b
  | number n => n.toFloat != 0.0
  | string s => !s.isEmpty
  | array items => !items.isEmpty
  | object fields => !fields.isEmpty

def isEmpty : Value → Bool
  | null => true
  | string s => s.isEmpty
  | array items => items.isEmpty
  | object fields => fields.isEmpty
  | _ => false

def isContainer : Value → Bool
  | array _ => true
  | object _ => true
  | _ => false

def looseEq (a b : Value) : Bool :=
  a == b ||
    match a, b with
    | number x, number y => x.toFloat == y.toFloat
    | a, b => !a.isContainer && !b.isContainer && a.text == b.text

def asNumber? : Value → Option Float
  | number n => some n.toFloat
  | string s => Decimal.double? (Text.trim s)
  | _ => none

def compareNumbers (test : Float → Float → Bool) (a b : Value) : Bool :=
  match a.asNumber?, b.asNumber? with
  | some x, some y => test x y
  | _, _ => false

def memberOf (v list : Value) : Bool :=
  match list with
  | array items => items.any (looseEq v)
  | _ => false

/-- Does a text hold another one, or an array an item loosely equal to `v`? -/
def holds (container v : Value) : Bool :=
  match container with
  | string s =>
    match v with
    | string piece => Text.contains s piece
    | _ => false
  | array items => items.any (looseEq · v)
  | _ => false

/-- A test of two texts; false of values of any other type. -/
def bothTexts (test : String → String → Bool) (a b : Value) : Bool :=
  match a, b with
  | string s, string t => test s t
  | _, _ => false

end Stepflow.Value
