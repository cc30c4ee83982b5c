/-
  Stepflow.Decimal.Reading — whole numbers and doubles read from text.

  Whole numbers take an optional sign and at least one digit, and must fit their
  range. A double takes an optional sign and either one of the words inf, infinity
  and nan in any case, or digits with at most one point (at least one digit in all)
  and an optional signed exponent; it is the double nearest to the number written,
  infinite when that is past the largest one.
-/

namespace Stepflow.Decimal

def digit? (c : Char) : Option Nat := if c.isDigit then some (c.toNat - '0'.toNat) else none

def digitsValue (cs : List Char) : Nat := cs.foldl (fun n c => 10 * n + (digit? c).getD 0) 0

def natural? (cs : List Char) : Option Nat :=
  if cs.isEmpty || cs.any (fun c => !c.isDigit) then none else some (digitsValue cs)

def integer? : List Char → Option Int
  | '-' :: cs => (natural? cs).map fun n => -(n : Int)
  | '+' :: cs => (natural? cs).map Int.ofNat
  | cs => (natural? cs).map Int.ofNat

/-- A whole number between -2^63 and 2^63 - 1. -/
def int64? (s : String) : Option Int :=
  (integer? s.toList).filter fun n => Int64.minValue.toInt ≤ n && n ≤ Int64.maxValue.toInt

/-- A whole number from 0 to 2^64 - 1, written without a minus sign. -/
def uint64? (s : String) : Option Nat :=
  let digits := match s.toList with
    | '+' :: cs => cs
    | cs => cs
  (natural? digits).filter (· < UInt64.size)

def nearestDouble (digits : Nat) (exponent : Int) : Float :=
  let size : Int := (Nat.toDigits 10 digits).length + exponent
  if digits = 0 then 0.0
  else if 400 < size then 1.0 / 0.0
  else if size < -400 then 0.0
  else if 0 ≤ exponent then Float.ofScientific digits false exponent.toNat
  else Float.ofScientific digits true (-exponent).toNat

def unsignedDouble? (cs : List Char) : Option Float :=
  let whole := cs.takeWhile Char.isDigit
  let rest := cs.dropWhile Char.isDigit
  let (fraction, rest) := match rest with
    | '.' :: rest => (rest.takeWhile Char.isDigit, rest.dropWhile Char.isDigit)
    | rest => ([], rest)
  if whole.isEmpty && fraction.isEmpty then none
  else
    let value (e : Int) := nearestDouble (digitsValue (whole ++ fraction)) (e - fraction.length)
    match rest with
    | [] => some (value 0)
    | c :: rest => if c = 'e' || c = 'E' then (integer? rest).map value else none

def double? (s : String) : Option Float :=
  let (negative, body) := match s.toList with
    | '-' :: cs => (true, cs)
    | '+' :: cs => (false, cs)
    | cs => (false, cs)
  let magnitude? : Option Float :=
    match String.ofList (body.map Char.toLower) with
    | "inf" => some (1.0 / 0.0)
    | "infinity" => some (1.0 / 0.0)
    | "nan" => some (0.0 / 0.0)
    | _ => unsignedDouble? body
  magnitude?.map fun x => if negative then -x else x

end Stepflow.Decimal
