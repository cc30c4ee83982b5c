/-
  Stepflow.Toml.Scalar — numbers, dates, times and texts of configuration texts.

  Each reader takes the characters from where its value begins and returns the value
  and the characters after it, or nothing when the text is not well formed.
-/

import Stepflow.Decimal.Reading
import Stepflow.Text.Cut
import Stepflow.Time.Rfc3339
import Stepflow.Toml.Item

namespace Stepflow.Toml

open Time

namespace Scalar

/-! ## Numbers -/

def digitIn? (base : Nat) (c : Char) : Option Nat :=
  let v? : Option Nat :=
    if c.isDigit then some (c.toNat - '0'.toNat)
    else if 'a' ≤ c ∧ c ≤ 'f' then some (c.toNat - 'a'.toNat + 10)
    else if 'A' ≤ c ∧ c ≤ 'F' then some (c.toNat - 'A'.toNat + 10)
    else none
  v?.filter (· < base)

def digits? (base : Nat) (cs : List Char) : Option (List Char) :=
  let pieces := Text.splitChars (· == '_') cs
  if pieces.all fun p => !p.isEmpty && p.all fun c => (digitIn? base c).isSome then
    some pieces.flatten
  else none

def valueIn (base : Nat) (cs : List Char) : Nat :=
  cs.foldl (fun n c => base * n + (digitIn? base c).getD 0) 0

def decimal? (cs : List Char) : Option (List Char) :=
  (digits? 10 cs).filter fun ds => ds.head? != some '0' || ds.length == 1

def signed (cs : List Char) : Bool × List Char :=
  match cs with
  | '-' :: rest => (true, rest)
  | '+' :: rest => (false, rest)
  | cs => (false, cs)

def integer? (cs : List Char) : Option Int :=
  match cs with
  | '0' :: 'x' :: ds => (digits? 16 ds).map fun ds => (valueIn 16 ds : Int)
  | '0' :: 'o' :: ds => (digits? 8 ds).map fun ds => (valueIn 8 ds : Int)
  | '0' :: 'b' :: ds => (digits? 2 ds).map fun ds => (valueIn 2 ds : Int)
  | cs =>
    let (negative, ds) := signed cs
    (decimal? ds).map fun ds => if negative then -(valueIn 10 ds : Int) else valueIn 10 ds

/-- A number with a point or an exponent, or one of the words inf and nan. -/
def float? (cs : List Char) : Option Float :=
  let (negative, body) := signed cs
  let magnitude? : Option Float :=
    if body = "inf".toList then some (1.0 / 0.0)
    else if body = "nan".toList then some (0.0 / 0.0)
    else do
      let isE (c : Char) := c == 'e' || c == 'E'
      let mantissa := body.takeWhile fun c => !isE c
      let exponent ← match body.dropWhile fun c => !isE c with
        | [] => some none
        | _ :: e => do
          let (negative, ds) := signed e
          let ds ← digits? 10 ds
          let n : Int := valueIn 10 ds
          some (some (if negative then -n else n))
      let whole ← decimal? (mantissa.takeWhile (· != '.'))
      let fraction ← match mantissa.dropWhile (· != '.') with
        | [] => if exponent.isSome then some [] else none
        | _ :: f => digits? 10 f
      let x := Decimal.nearestDouble (valueIn 10 (whole ++ fraction))
        (exponent.getD 0 - fraction.length)
      if x.isFinite then some x else none
  magnitude?.map fun x => if negative then -x else x

/-! ## Dates and times -/

def date? (cs : List Char) : Option (Date × List Char) := do
  let (year, cs) ← Timestamp.exactly? 4 0 9999 cs
  let cs ← Timestamp.char? '-' cs
  let (month, cs) ← Timestamp.exactly? 2 1 12 cs
  let cs ← Timestamp.char? '-' cs
  let (day, cs) ← Timestamp.exactly? 2 1 31 cs
  let d : Date := ⟨year, month, day⟩
  if d.Valid then some (d, cs) else none

/-- The digits after a point as they are written again: nine at most, none without need. -/
def fractionText (edition : Edition) (ds : List Char) : List Char :=
  let used := ((ds.take 9).reverse.dropWhile (· == '0')).reverse
  if !used.isEmpty then '.' :: used
  else
    match edition with
    | .first => []
    | .second => ['.', '0']

def time? (edition : Edition) (cs : List Char) : Option (List Char × List Char) := do
  let (hour, cs) ← Timestamp.exactly? 2 0 23 cs
  let cs ← Timestamp.char? ':' cs
  let (minute, cs) ← Timestamp.exactly? 2 0 59 cs
  let start := Timestamp.padded 2 hour ++ ':' :: Timestamp.padded 2 minute
  match cs with
  | ':' :: cs =>
    let (second, cs) ← Timestamp.exactly? 2 0 60 cs
    let start := start ++ ':' :: Timestamp.padded 2 second
    match cs with
    | '.' :: cs =>
      let ds := cs.takeWhile Char.isDigit
      if ds.isEmpty then none
      else some (start ++ fractionText edition ds, cs.dropWhile Char.isDigit)
    | cs => some (start, cs)
  | cs => if edition = .second then some (start, cs) else none

def offset? (cs : List Char) : Option (List Char × List Char) :=
  match cs with
  | 'Z' :: cs => some (['Z'], cs)
  | 'z' :: cs => some (['Z'], cs)
  | sign :: cs => do
    if sign ≠ '+' ∧ sign ≠ '-' then none
    let (hours, cs) ← Timestamp.exactly? 2 0 23 cs
    let cs ← Timestamp.char? ':' cs
    let (minutes, cs) ← Timestamp.exactly? 2 0 59 cs
    let sign := if hours = 0 ∧ minutes = 0 then '+' else sign
    some (sign :: Timestamp.padded 2 hours ++ ':' :: Timestamp.padded 2 minutes, cs)
  | [] => none

/-- A date, a time, or both with or without an offset, as it is written again. -/
def datetime? (edition : Edition) (cs : List Char) : Option String :=
  let full : Option (List Char × List Char) :=
    match date? cs with
    | none => time? edition cs
    | some (d, []) => some (Timestamp.dateChars d, [])
    | some (d, c :: rest) => do
      if !Timestamp.isDateEnd c then none
      let (t, rest) ← time? edition rest
      let start := Timestamp.dateChars d ++ 'T' :: t
      match rest with
      | [] => some (start, [])
      | rest => do
        let (o, rest) ← offset? rest
        some (start ++ o, rest)
  match full with
  | some (text, []) => some (String.ofList text)
  | _ => none

/-! ## Texts -/

def isPlain (c : Char) : Bool := c == '\t' || (0x20 ≤ c.toNat && c.toNat != 0x7F)

/-- The character of a number, unless it is half of a surrogate pair or too large. -/
def character? (n : Nat) : Option Char := if h : n.isValidChar then some (Char.ofNatAux n h) else none

def escape? (edition : Edition) (cs : List Char) : Option (Char × List Char) :=
  let numbered (width : Nat) (rest : List Char) : Option (Char × List Char) := do
    let ds := rest.take width
    if ds.length = width ∧ ds.all (fun c => (digitIn? 16 c).isSome) = true then
      return (← character? (valueIn 16 ds), rest.drop width)
    else none
  match cs with
  | 'b' :: rest => some ('\x08', rest)
  | 't' :: rest => some ('\t', rest)
  | 'n' :: rest => some ('\n', rest)
  | 'f' :: rest => some ('\x0c', rest)
  | 'r' :: rest => some ('\r', rest)
  | '"' :: rest => some ('"', rest)
  | '\\' :: rest => some ('\\', rest)
  | 'u' :: rest => numbered 4 rest
  | 'U' :: rest => numbered 8 rest
  | 'e' :: rest => if edition = .second then some ('\x1b', rest) else none
  | 'x' :: rest => if edition = .second then numbered 2 rest else none
  | _ => none

/-- A line break at the start, and how a text over several lines keeps it. -/
def lineBreak? (edition : Edition) : List Char → Option (List Char × List Char)
  | '\n' :: cs => some (['\n'], cs)
  | '\r' :: '\n' :: cs =>
    some (match edition with
      | .first => ['\n']
      | .second => ['\r', '\n'], cs)
  | _ => none

def afterFold? (cs : List Char) : Option (List Char) :=
  let isSpace (c : Char) := c == ' ' || c == '\t'
  (lineBreak? .first (cs.dropWhile isSpace)).map fun r =>
    r.2.dropWhile fun c => isSpace c || c == '\n' || c == '\r'

/-- A text on one line between `quote` marks, from after the first one on; `escapes`
    tells whether a backslash is special. What was read so far is backwards. -/
def lineText (edition : Edition) (quote : Char) (escapes : Bool) :
    Nat → List Char → List Char → Option (String × List Char)
  | fuel + 1, read, c :: cs =>
    if c = quote then some (String.ofList read.reverse, cs)
    else if escapes && c == '\\' then
      match escape? edition cs with
      | some (d, cs) => lineText edition quote escapes fuel (d :: read) cs
      | none => none
    else if isPlain c then lineText edition quote escapes fuel (c :: read) cs
    else none
  | _, _, _ => none

/-- A text over several lines between triple `quote` marks, from after the first three
    on. One or two marks right before the last three belong to the text. -/
def blockText (edition : Edition) (quote : Char) (escapes : Bool) :
    Nat → List Char → List Char → Option (String × List Char)
  | fuel + 1, read, c :: cs =>
    if c = quote then
      let more := (cs.take 4).takeWhile (· == quote)
      if more.length < 2 then blockText edition quote escapes fuel (c :: read) cs
      else
        some (String.ofList ((List.replicate (more.length - 2) quote ++ read).reverse),
          cs.drop more.length)
    else
      match lineBreak? edition (c :: cs) with
      | some (br, cs) => blockText edition quote escapes fuel (br.reverse ++ read) cs
      | none =>
        if escapes && c == '\\' then
          match afterFold? cs with
          | some cs => blockText edition quote escapes fuel read cs
          | none =>
            match escape? edition cs with
            | some (d, cs) => blockText edition quote escapes fuel (d :: read) cs
            | none => none
        else if isPlain c then blockText edition quote escapes fuel (c :: read) cs
        else none
  | _, _, _ => none

/-- A text on one line, from its first quotation mark on. -/
def line? (edition : Edition) (cs : List Char) : Option (String × List Char) :=
  match cs with
  | '"' :: rest => lineText edition '"' true cs.length [] rest
  | '\'' :: rest => lineText edition '\'' false cs.length [] rest
  | _ => none

def text? (edition : Edition) (cs : List Char) : Option (String × List Char) :=
  let block (quote : Char) (escapes : Bool) (rest : List Char) : Option (String × List Char) :=
    blockText edition quote escapes cs.length []
      (((lineBreak? edition rest).map (·.2)).getD rest)
  match cs with
  | '"' :: '"' :: '"' :: rest => block '"' true rest
  | '\'' :: '\'' :: '\'' :: rest => block '\'' false rest
  | cs => line? edition cs

def isTokenChar (c : Char) : Bool :=
  c.isAlphanum || c == '_' || c == '+' || c == '-' || c == '.' || c == ':'

/-- A number, word, date or time and what follows it; one blank may stand between a date
    and a time. -/
def token (cs : List Char) : List Char × List Char :=
  let first := cs.takeWhile isTokenChar
  let rest := cs.dropWhile isTokenChar
  match rest with
  | ' ' :: a :: b :: ':' :: more =>
    match date? first with
    | some (_, []) =>
      let time := (a :: b :: ':' :: more).takeWhile isTokenChar
      if a.isDigit && b.isDigit then
        (first ++ ' ' :: time, (a :: b :: ':' :: more).dropWhile isTokenChar)
      else (first, rest)
    | _ => (first, rest)
  | rest => (first, rest)

def bare? (edition : Edition) (cs : List Char) : Option (Item × List Char) :=
  let (word, rest) := token cs
  let item? : Option Item :=
    if word = "true".toList then some (.boolean true)
    else if word = "false".toList then some (.boolean false)
    else
      match integer? word with
      | some n =>
        if edition = .first && !(Int64.minValue.toInt ≤ n && n ≤ Int64.maxValue.toInt) then none else some (.integer n)
      | none =>
        match float? word with
        | some x => some (.float x)
        | none => (datetime? edition word).map .datetime
  item?.map fun item => (item, rest)

end Scalar

end Stepflow.Toml
