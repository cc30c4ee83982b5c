/-
  Stepflow.Decimal.Layout — how a double is written in digits.

  A layout says for which exponents of the first digit a number is written
  positionally and what follows a whole number; outside that range it is written with
  one digit before the point and a signed exponent. A negative zero keeps its sign.
-/

import Stepflow.Decimal.Shortest

namespace Stepflow.Decimal

structure Layout where
  /-- Is a number whose first digit has this exponent written positionally? -/
  positional : Int → Bool
  /-- What follows the digits of a whole number. -/
  afterWhole : String

/-- The layout of numbers in data: positional from 10^-5 to below 10^16, whole
    numbers with a point and a zero. -/
def Layout.data : Layout := ⟨fun e => -5 ≤ e && e ≤ 15, ".0"⟩

/-- The layout of numbers in running text: always positional, whole numbers bare. -/
def Layout.plain : Layout := ⟨fun _ => true, ""⟩

def Layout.write (l : Layout) (d : Scaled) : String :=
  let ds := Nat.toDigits 10 d.digits
  let lead : Int := d.exponent + ds.length - 1
  if d.digits = 0 then "0" ++ l.afterWhole
  else if l.positional lead then
    if 0 ≤ d.exponent then
      String.ofList (ds ++ List.replicate d.exponent.toNat '0') ++ l.afterWhole
    else if 0 ≤ lead then
      let whole := lead.toNat + 1
      String.ofList (ds.take whole ++ '.' :: ds.drop whole)
    else String.ofList ('0' :: '.' :: List.replicate ((-lead).toNat - 1) '0' ++ ds)
  else
    let first := ds.take 1
    let rest := ds.drop 1
    let mantissa := if rest.isEmpty then first else first ++ '.' :: rest
    String.ofList mantissa ++ "e" ++ (if lead < 0 then "-" else "+") ++ toString lead.natAbs

def Layout.text (l : Layout) (x : Float) : String :=
  let b := Binary.ofBits x.toBits
  let sign := if x.toBits.toNat / Nat.pow 2 63 = 1 then "-" else ""
  sign ++ l.write (if b.mantissa = 0 then ⟨0, 0⟩ else b.shortest)

end Stepflow.Decimal
