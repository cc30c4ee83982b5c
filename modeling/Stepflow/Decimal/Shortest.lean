/-
  Stepflow.Decimal.Shortest — the shortest decimal that reads back as a given double.

  A positive double is m · 2^q with whole m and q. Every real within half a step of
  its neighbours rounds to it; the ends of that interval count when m is even. For
  1, 2, … 17 digits the two decimals of that length on either side of the double are
  tried, and the first length that has one inside the interval wins, with the nearer
  of two. Everything is exact arithmetic on natural numbers.
-/

namespace Stepflow.Decimal

/-- The number `digits · 10^exponent`. -/
structure Scaled where
  digits : Nat
  exponent : Int
  deriving Repr, DecidableEq

/-- The number `mantissa · 2^exponent`, with the place of its mantissa among doubles. -/
structure Binary where
  mantissa : Nat
  exponent : Int
  /-- Is the next double below half a step nearer than the next one above? -/
  lowEdge : Bool
  deriving Repr, DecidableEq

def Binary.ofBits (bits : UInt64) : Binary :=
  let fraction : Nat := bits.toNat % Nat.pow 2 52
  let field : Nat := bits.toNat / Nat.pow 2 52 % Nat.pow 2 11
  if field = 0 then ⟨fraction, -1074, false⟩
  else ⟨Nat.pow 2 52 + fraction, (field : Int) - 1075, fraction == 0 && field > 1⟩

structure Interval where
  low : Nat
  value : Nat
  high : Nat
  scale : Nat
  closed : Bool

def Binary.interval (b : Binary) : Interval :=
  let up := Nat.pow 2 b.exponent.toNat
  let down := Nat.pow 2 (-b.exponent).toNat
  { low := (4 * b.mantissa - (if b.lowEdge then 1 else 2)) * up
    value := 4 * b.mantissa * up
    high := (4 * b.mantissa + 2) * up
    scale := 4 * down
    closed := b.mantissa % 2 == 0 }

/-- Does `digits · 10^exponent` lie in the interval? -/
def Interval.holds (i : Interval) (d : Scaled) : Bool :=
  let left := d.digits * Nat.pow 10 d.exponent.toNat * i.scale
  let shift := Nat.pow 10 (-d.exponent).toNat
  if i.closed then i.low * shift ≤ left && left ≤ i.high * shift
  else i.low * shift < left && left < i.high * shift

def digitCount (n : Nat) : Nat := (Nat.toDigits 10 n).length

def leadingExponent (num den : Nat) : Int :=
  if den ≤ num then (digitCount (num / den) : Int) - 1
  else
    let n := digitCount (den / num)
    if den ≤ num * Nat.pow 10 (n - 1) then -((n : Int) - 1) else -(n : Int)

/-- The two neighbours of the interval's number on the grid of `n` digits, when the
    first digit has the exponent `lead`: the nearer that lies in the interval. -/
def Interval.nearest? (i : Interval) (lead : Int) (n : Nat) : Option Scaled :=
  let e := lead - ((n : Int) - 1)
  let up := Nat.pow 10 (-e).toNat
  let unit := Nat.pow 10 e.toNat * i.scale
  let below := i.value * up / unit
  let rest := i.value * up % unit
  let low : Scaled := ⟨below, e⟩
  let high : Scaled := ⟨below + 1, e⟩
  match i.holds low, i.holds high with
  | true, true => some (if 2 * rest < unit || (2 * rest == unit && below % 2 == 0) then low else high)
  | true, false => some low
  | false, true => some high
  | false, false => none

/-- The same number without trailing zero digits; `fuel` bounds their number. -/
def Scaled.strip : Nat → Scaled → Scaled
  | 0, d => d
  | fuel + 1, d =>
    if d.digits % 10 = 0 ∧ d.digits ≠ 0 then Scaled.strip fuel ⟨d.digits / 10, d.exponent + 1⟩ else d

def Binary.shortest (b : Binary) : Scaled :=
  let i := b.interval
  let lead := leadingExponent i.value i.scale
  let found := (List.range 17).findSome? fun n => i.nearest? lead (n + 1)
  Scaled.strip 20 (found.getD ⟨b.mantissa, 0⟩)

end Stepflow.Decimal
