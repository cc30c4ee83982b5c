/-
  Stepflow.Time.Rfc3339 — timestamps as text.

  Written form: date, `T`, time with the fewest of 0, 3, 6 or 9 digits after the point
  that lose nothing, and the offset from universal time, always zero, as `Z` or
  `+00:00`. A year outside 0 to 9999 has a sign. A leap second is second 60.

  Two readers. `read?` takes the form of RFC 3339: every number with its full count of
  digits, a `T`, `t` or blank between date and time, an offset up to 23:59. `readLoosely`
  also allows blanks around the parts, shorter numbers, signed years, the word UTC, and
  an offset without a colon; it says what is wrong with a text that it cannot read.
-/

import Stepflow.Decimal.Reading
import Stepflow.Text.Blank
import Stepflow.Time.Timestamp

namespace Stepflow.Time

inductive TimeError where
  | outOfRange
  | impossible
  | invalid
  | tooShort
  | tooLong
  deriving DecidableEq, Repr

def TimeError.message : TimeError → String
  | outOfRange => "input is out of range"
  | impossible => "no possible date and time matching input"
  | invalid => "input contains invalid characters"
  | tooShort => "premature end of input"
  | tooLong => "trailing input"

namespace Timestamp

/-! ## Writing -/

def padded (width n : Nat) : List Char :=
  let ds := Nat.toDigits 10 n
  List.replicate (width - ds.length) '0' ++ ds

/-- A year: four digits from 0 to 9999, otherwise signed. -/
def yearChars (year : Int) : List Char :=
  if 0 ≤ year ∧ year ≤ 9999 then padded 4 year.toNat
  else (if year < 0 then '-' else '+') :: padded 4 year.natAbs

def dateChars (d : Date) : List Char :=
  yearChars d.year ++ '-' :: padded 2 d.month ++ '-' :: padded 2 d.day

def fractionChars (nanos : Nat) : List Char :=
  if nanos = 0 then []
  else if nanos % 1000000 = 0 then '.' :: padded 3 (nanos / 1000000)
  else if nanos % 1000 = 0 then '.' :: padded 6 (nanos / 1000)
  else '.' :: padded 9 nanos

def timeChars (t : Timestamp) : List Char :=
  let s := t.secondOfDay
  let leap := t.nanos / 1000000000
  padded 2 (s / 3600) ++ ':' :: padded 2 (s / 60 % 60) ++ ':' :: padded 2 (s % 60 + leap) ++
    fractionChars (t.nanos % 1000000000)

def localChars (t : Timestamp) : List Char := dateChars t.date ++ 'T' :: t.timeChars

def zulu (t : Timestamp) : String := String.ofList (t.localChars ++ ['Z'])

def text (t : Timestamp) : String := String.ofList (t.localChars ++ "+00:00".toList)

/-! ## Reading -/

structure Parts where
  date : Date
  hour : Nat
  minute : Nat
  second : Nat
  nanos : Nat
  offset : Int

def ofParts (p : Parts) : Except TimeError Timestamp :=
  if ¬ p.date.Valid ∨ p.date.year < firstYear ∨ lastYear < p.date.year then .error .outOfRange
  else if p.offset ≤ -secondsPerDay ∨ secondsPerDay ≤ p.offset then .error .outOfRange
  else
    let (second, nanos) := if p.second = 60 then (59, p.nanos + 1000000000) else (p.second, p.nanos)
    let t : Timestamp :=
      ⟨startOf p.date + p.hour * 3600 + p.minute * 60 + second - p.offset, nanos⟩
    if t.inRange then .ok t else .error .impossible

/-- `digits` as nanoseconds: the first nine count. -/
def nanosOf (digits : List Char) : Nat :=
  let used := digits.take 9
  Decimal.digitsValue used * Nat.pow 10 (9 - used.length)

def exactly? (width least greatest : Nat) (cs : List Char) : Option (Nat × List Char) :=
  let ds := cs.take width
  if ds.length = width ∧ ds.all Char.isDigit = true then
    let n := Decimal.digitsValue ds
    if least ≤ n ∧ n ≤ greatest then some (n, cs.drop width) else none
  else none

def char? (c : Char) : List Char → Option (List Char)
  | d :: cs => if c = d then some cs else none
  | [] => none

/-- The sign of an offset; true when it is a minus. -/
def sign? : List Char → Option (Bool × List Char)
  | '+' :: cs => some (false, cs)
  | '-' :: cs => some (true, cs)
  | '−' :: cs => some (true, cs)
  | _ => none

def isDateEnd (c : Char) : Bool := c == 'T' || c == 't' || c == ' '

def fraction? : List Char → Option (Nat × List Char)
  | '.' :: cs =>
    let ds := cs.takeWhile Char.isDigit
    if ds.isEmpty then none else some (nanosOf ds, cs.dropWhile Char.isDigit)
  | cs => some (0, cs)

def offset? : List Char → Option (Int × List Char)
  | 'Z' :: cs => some (0, cs)
  | 'z' :: cs => some (0, cs)
  | cs => do
    let (negative, cs) ← sign? cs
    let (hours, cs) ← exactly? 2 0 23 cs
    let cs ← char? ':' cs
    let (minutes, cs) ← exactly? 2 0 59 cs
    let seconds : Int := hours * 3600 + minutes * 60
    return (if negative then -seconds else seconds, cs)

def readChars? (cs : List Char) : Option Timestamp := do
  let (year, cs) ← exactly? 4 0 9999 cs
  let cs ← char? '-' cs
  let (month, cs) ← exactly? 2 1 12 cs
  let cs ← char? '-' cs
  let (day, cs) ← exactly? 2 1 31 cs
  let (separator, cs) ← cs.head?.map (·, cs.tail)
  guard (isDateEnd separator)
  let (hour, cs) ← exactly? 2 0 23 cs
  let cs ← char? ':' cs
  let (minute, cs) ← exactly? 2 0 59 cs
  let cs ← char? ':' cs
  let (second, cs) ← exactly? 2 0 60 cs
  let (nanos, cs) ← fraction? cs
  let (offset, cs) ← offset? cs
  guard cs.isEmpty
  (ofParts ⟨⟨year, month, day⟩, hour, minute, second, nanos, offset⟩).toOption

/-- The timestamp that a text writes in the form of RFC 3339. -/
def read? (s : String) : Option Timestamp := readChars? s.toList

/-! ## Reading loosely -/

/-- A number of one to `width` digits, blanks before it passed over. -/
def number (width least greatest : Nat) (cs : List Char) : Except TimeError (Nat × List Char) :=
  let cs := Text.trimStart cs
  let ds := (cs.take width).takeWhile Char.isDigit
  if cs.isEmpty then .error .tooShort
  else if ds.isEmpty then .error .invalid
  else
    let n := Decimal.digitsValue ds
    if least ≤ n ∧ n ≤ greatest then .ok (n, cs.drop ds.length) else .error .outOfRange

/-- A year: up to four digits, or a sign and any number of digits. -/
def looseYear (cs : List Char) : Except TimeError (Int × List Char) := do
  let bound := Nat.pow 2 31 - 1
  match Text.trimStart cs with
  | '-' :: cs =>
    unsigned cs
    let (n, cs) ← number cs.length 0 (bound + 1) cs
    return (-n, cs)
  | '+' :: cs =>
    unsigned cs
    let (n, cs) ← number cs.length 0 bound cs
    return (n, cs)
  | cs =>
    let (n, cs) ← number 4 0 bound cs
    return (n, cs)
where
  /-- No blank follows a sign. -/
  unsigned (cs : List Char) : Except TimeError Unit :=
    match cs with
    | c :: _ => if Text.isBlank c then .error .invalid else .ok ()
    | [] => .ok ()

def looseChar (c : Char) (cs : List Char) : Except TimeError (List Char) :=
  match Text.trimStart cs with
  | [] => .error .tooShort
  | d :: cs => if c = d then .ok cs else .error .invalid

def twoDigits (cs : List Char) : Except TimeError (Nat × List Char) :=
  match cs with
  | a :: b :: rest =>
    if a.isDigit && b.isDigit then .ok (Decimal.digitsValue [a, b], rest) else .error .invalid
  | [a] => if a.utf8Size < 2 then .error .tooShort else .error .invalid
  | [] => .error .tooShort

def looseOffset (cs : List Char) : Except TimeError (Int × List Char) :=
  match Text.trimStart cs with
  | [] => .error .tooShort
  | 'Z' :: cs => .ok (0, cs)
  | 'z' :: cs => .ok (0, cs)
  | cs =>
    if (cs.take 3).map Char.toLower = ['u', 't', 'c'] then .ok (0, cs.drop 3)
    else
      match sign? cs with
      | none => .error .invalid
      | some (negative, cs) => do
        let (hours, cs) ← twoDigits cs
        let cs := cs.dropWhile fun c => c == ':' || Text.isBlank c
        let (minutes, cs) ← twoDigits cs
        if 59 < minutes then throw .outOfRange
        let seconds : Int := hours * 3600 + minutes * 60
        return (if negative then -seconds else seconds, cs)

def looseSeparator : List Char → Except TimeError (List Char)
  | [] => .error .tooShort
  | c :: cs => if isDateEnd c then .ok cs else .error .invalid

def looseFraction : List Char → Except TimeError (Nat × List Char)
  | [] => .ok (0, [])
  | ['.'] => .error .tooShort
  | cs =>
    match fraction? cs with
    | some read => .ok read
    | none => .error .invalid

def looseEnd (cs : List Char) : Except TimeError Unit :=
  if cs.any fun c => !Text.isBlank c then .error .tooLong else .ok ()

/-- The parts that a text writes in the form of RFC 3339 or close to it. -/
def looseParts (cs : List Char) : Except TimeError Parts := do
  let (year, cs) ← looseYear cs
  let cs ← looseChar '-' cs
  let (month, cs) ← number 2 1 12 cs
  let cs ← looseChar '-' cs
  let (day, cs) ← number 2 1 31 cs
  let cs ← looseSeparator cs
  let (hour, cs) ← number 2 0 23 cs
  let cs ← looseChar ':' cs
  let (minute, cs) ← number 2 0 59 cs
  let cs ← looseChar ':' cs
  let (second, cs) ← number 2 0 60 cs
  let (nanos, cs) ← looseFraction cs
  let (offset, cs) ← looseOffset cs
  looseEnd cs
  return ⟨⟨year, month, day⟩, hour, minute, second, nanos, offset⟩

/-- The timestamp that a text writes in the form of RFC 3339 or close to it. -/
def readLoosely (s : String) : Except TimeError Timestamp := do
  ofParts (← looseParts s.toList)

end Timestamp

end Stepflow.Time
