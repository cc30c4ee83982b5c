/-
  Stepflow.Value.Number — the numbers of dynamic values.

  A number is a natural number below 2^64, a negative whole number from -2^63, or a
  finite double. The three kinds stay apart: 1 and 1.0 are different numbers, although
  they are equal as doubles.
-/

import Stepflow.Decimal.Layout

namespace Stepflow

inductive Number where
  | natural (n : UInt64)
  | negative (n : Int64)
  | double (x : Float)

namespace Number

/-- The number nearest to a whole one: exact within the two whole kinds, a double
    outside them. -/
def ofInt (n : Int) : Number :=
  if 0 ≤ n then
    if n < UInt64.size then natural (UInt64.ofNat n.toNat) else double (Float.ofInt n)
  else if Int64.minValue.toInt ≤ n then negative (Int64.ofInt n)
  else double (Float.ofInt n)

def ofNat (n : Nat) : Number := ofInt n

/-- The number as a double, rounded when it is whole and large. A negative number is rounded
    as its opposite is: the rounding to the nearest double does not see the sign. -/
def toFloat : Number → Float
  | natural n => n.toFloat
  | negative n => -(UInt64.ofNat n.toInt.natAbs).toFloat
  | double x => x

/-- A number that fits a signed 64-bit word. -/
def toInt? : Number → Option Int
  | natural n => if (n.toNat : Int) ≤ Int64.maxValue.toInt then some n.toNat else none
  | negative n => some n.toInt
  | double _ => none

def toNat? : Number → Option Nat
  | natural n => some n.toNat
  | _ => none

/-- Equality within a kind; doubles compare as numbers. -/
def beq : Number → Number → Bool
  | natural a, natural b => a == b
  | negative a, negative b => a == b
  | double a, double b => a == b
  | _, _ => false

instance : BEq Number := ⟨beq⟩

def text : Number → String
  | natural n => toString n.toNat
  | negative n => toString n.toInt
  | double x => Decimal.Layout.data.text x

end Number

end Stepflow
