/-
  Stepflow.Records.Query — filters, order and limit.

  Records that pass every filter are put in order and the first ones taken. Each is
  inserted behind the last one before it that is not greater, so records that compare
  equal keep their order. Null comes before everything else, numbers compare as
  numbers, and any other two values by their texts.

  A sort needs a comparison that puts the elements in a line. Of a longer list that it
  does not put in a line the sort promises nothing, and may panic over it (`sort?`).
-/

import Stepflow.Records.Filter

namespace Stepflow.Records

structure OrderKey where
  field : String
  descending : Bool

structure Query where
  filters : List Filter := []
  order : List OrderKey := []
  limit : Option Nat := none

def compareValues : Value → Value → Ordering
  | .null, .null => .eq
  | .null, _ => .lt
  | _, .null => .gt
  | .number a, .number b =>
    if a.toFloat < b.toFloat then .lt else if b.toFloat < a.toFloat then .gt else .eq
  | a, b => compare a.text b.text

def OrderKey.compare (key : OrderKey) (a b : Fields) : Ordering :=
  let o := compareValues ((a.resolve key.field).getD .null) ((b.resolve key.field).getD .null)
  if key.descending then o.swap else o

/-- The order of two records by keys, later ones for records equal by the earlier. -/
def compareBy : List OrderKey → Fields → Fields → Ordering
  | [], _, _ => .eq
  | key :: keys, a, b => (key.compare a b).then (compareBy keys a b)

/-- `x` put into a list that runs backwards, before the first element not greater. -/
def insertBackwards {α : Type} (less : α → α → Bool) (x : α) : List α → List α
  | [] => [x]
  | y :: ys => if less x y then y :: insertBackwards less x ys else x :: y :: ys

def sortBy {α : Type} (less : α → α → Bool) (xs : List α) : List α :=
  (xs.foldl (fun sorted x => insertBackwards less x sorted) []).reverse

/-- Do the elements stand in a line? Each is less than all behind it, or it is equal to the
    next one and compares with those behind as that one does. -/
def inLine {α : Type} (cmp : α → α → Ordering) : List α → Bool
  | a :: b :: rest =>
    (match cmp a b with
      | .lt => rest.all (cmp a · == .lt)
      | .eq => rest.all fun c => cmp a c == cmp b c
      | .gt => false) && inLine cmp (b :: rest)
  | _ => true

/-- The length of the lists that are sorted by insertion whatever the comparison says. -/
def shortLength : Nat := 20

/-- A list sorted; `none` if nothing is promised of the outcome. -/
def sort? {α : Type} (cmp : α → α → Ordering) (xs : List α) : Option (List α) :=
  let sorted := sortBy (fun a b => cmp a b == .lt) xs
  if xs.length ≤ shortLength || inLine cmp sorted then some sorted else none

namespace Query

def accepts (q : Query) (record : Fields) : Bool := q.filters.all (·.accepts record)

def compare (q : Query) (a b : Fields) : Ordering := compareBy q.order a b

/-- The records that the query finds, all of them in order. -/
def matching (q : Query) (records : List Fields) : Option (List Fields) :=
  let found := records.filter q.accepts
  if q.order.isEmpty then some found else sort? q.compare found

def apply (q : Query) (records : List Fields) : Option (List Fields) :=
  match q.limit with
  | some n => (q.matching records).map (·.take n)
  | none => q.matching records

end Query

end Stepflow.Records
