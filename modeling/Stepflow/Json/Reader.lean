/-
  Stepflow.Json.Reader — data text read into a tree.

  Reading goes from left to right and stops at the first break. Each part returns what
  it read and the characters after it, or no rest when the text broke. The recursion
  between values, items and members is bounded by the length of the text: every call
  has consumed a character before the next one.

  Numbers. Digits are gathered into a 64-bit significand; once it is full, further
  digits before the point only raise the exponent and further ones after it are
  dropped. A number with a point, an exponent or too many digits is the significand
  scaled by a power of ten, one multiplication or division of doubles per 308 decimal
  places; it is out of range when that gives an infinity. `-0` is a double.
-/

import Stepflow.Decimal.Reading
import Stepflow.Json.Tree

namespace Stepflow.Json

def isSpace (c : Char) : Bool := c == ' ' || c == '\n' || c == '\t' || c == '\r'

def skipSpace (cs : List Char) : List Char := cs.dropWhile isSpace

/-- A part of a text, and the characters after it unless the text broke. -/
structure Reading (α : Type) where
  part : α
  rest : Option (List Char)

namespace Reader

/-! ## Numbers -/

def powerOfTen (n : Nat) : Float := Float.ofScientific 1 false n

/-- `x · 10^-n`, at most 308 places at a time; `fuel` bounds the number of divisions. -/
def scaleDown : Nat → Float → Nat → Float
  | 0, x, _ => x
  | fuel + 1, x, n =>
    if n ≤ 308 then x / powerOfTen n
    else if x == 0.0 then x
    else scaleDown fuel (x / powerOfTen 308) (n - 308)

/-- The double `significand · 10^exponent`, unless it is out of range. -/
def scaled? (significand : Nat) (exponent : Int) : Option Float :=
  let x := (UInt64.ofNat significand).toFloat
  if 0 ≤ exponent then
    if 308 < exponent then (if x == 0.0 then some x else none)
    else
      let y := x * powerOfTen exponent.toNat
      if y.isInf then none else some y
  else some (scaleDown (exponent.natAbs / 308 + 2) x exponent.natAbs)

def doubleTree (negative : Bool) (significand : Nat) (exponent : Int) : Tree :=
  match scaled? significand exponent with
  | some x => .number (.double (if negative then -x else x))
  | none => .unreadable .numberOutOfRange

/-- Digits taken into a significand below 2^64: the significand, how many digits were
    taken, and the digits left over once it is full. -/
def fill (significand taken : Nat) : List Char → Nat × Nat × List Char
  | [] => (significand, taken, [])
  | c :: cs =>
    let next := 10 * significand + (Decimal.digit? c).getD 0
    if next < UInt64.size then fill next (taken + 1) cs else (significand, taken, c :: cs)

/-- Exponents are held in a signed 32-bit word that stops at its ends. -/
def clampExponent (e : Int) : Int := max Int32.minValue.toInt (min Int32.maxValue.toInt e)

/-- The broken number: at the end of the text a value is missing, elsewhere the number
    is malformed. -/
def brokenNumber (rest : List Char) : Reading Tree :=
  ⟨.broken ⟨if rest.isEmpty then .endInValue else .invalidNumber, .invalidNumber⟩, none⟩

/-- The part of a number from its exponent mark on, if there is one. -/
def readExponent (negative : Bool) (significand : Nat) (exponent : Int) (whole : Bool) :
    List Char → Reading Tree
  | cs@(mark :: rest) =>
    if mark = 'e' || mark = 'E' then
      let (down, rest) := match rest with
        | '+' :: rest => (false, rest)
        | '-' :: rest => (true, rest)
        | rest => (false, rest)
      let digits := rest.takeWhile Char.isDigit
      let after := rest.dropWhile Char.isDigit
      if digits.isEmpty then brokenNumber rest
      else
        let size := Decimal.digitsValue digits
        let tree :=
          if Int32.maxValue.toInt < size then
            if significand != 0 && !down then .unreadable .numberOutOfRange
            else .number (.double (if negative then -0.0 else 0.0))
          else
            doubleTree negative significand
              (clampExponent (if down then exponent - size else exponent + size))
        ⟨tree, some after⟩
    else ⟨finish, some cs⟩
  | [] => ⟨finish, some []⟩
where
  /-- The number when it has no exponent. -/
  finish : Tree :=
    if whole then
      if negative then
        if significand = 0 || (significand : Int) > -Int64.minValue.toInt then
          .number (.double (-(UInt64.ofNat significand).toFloat))
        else .number (.negative (Int64.ofInt (-(significand : Int))))
      else .number (.natural (UInt64.ofNat significand))
    else doubleTree negative significand exponent

/-- The part of a number from its point on, if there is one. -/
def readFraction (negative : Bool) (significand : Nat) (exponent : Int) (whole : Bool)
    (cs : List Char) : Reading Tree :=
  match cs with
  | '.' :: rest =>
    let digits := rest.takeWhile Char.isDigit
    let after := rest.dropWhile Char.isDigit
    if digits.isEmpty then brokenNumber rest
    else
      let (significand, taken, _) := fill significand 0 digits
      readExponent negative significand (exponent - taken) false after
  | cs => readExponent negative significand exponent whole cs

def readNumber (negative : Bool) (cs : List Char) : Reading Tree :=
  let digits := cs.takeWhile Char.isDigit
  let after := cs.dropWhile Char.isDigit
  match digits with
  | [] => brokenNumber after
  | '0' :: _ :: _ => ⟨.broken ⟨.invalidNumber, .invalidNumber⟩, none⟩
  | digits =>
    let (significand, _, left) := fill 0 0 digits
    readFraction negative significand left.length left.isEmpty after

/-! ## Texts -/

def hexValue? (c : Char) : Option Nat :=
  if c.isDigit then some (c.toNat - '0'.toNat)
  else if 'a' ≤ c ∧ c ≤ 'f' then some (c.toNat - 'a'.toNat + 10)
  else if 'A' ≤ c ∧ c ≤ 'F' then some (c.toNat - 'A'.toNat + 10)
  else none

def hexFour? (a b c d : Char) : Option Nat :=
  match hexValue? a, hexValue? b, hexValue? c, hexValue? d with
  | some a, some b, some c, some d => some (((a * 16 + b) * 16 + c) * 16 + d)
  | _, _, _, _ => none

def letterEscape? : Char → Option Char
  | '"' => some '"'
  | '\\' => some '\\'
  | '/' => some '/'
  | 'b' => some '\x08'
  | 'f' => some '\x0c'
  | 'n' => some '\n'
  | 'r' => some '\r'
  | 't' => some '\t'
  | _ => none

/-- The characters of a text so far, and the first fault that keeps it from having a
    meaning; the text goes on after such a fault. -/
structure Gathered where
  chars : List Char := []
  fault : Option Fault := none

def Gathered.push (g : Gathered) (c : Char) : Gathered := { g with chars := c :: g.chars }

/-- A fault, unless there was an earlier one. -/
def Gathered.spoil (g : Gathered) (f : Fault) : Gathered := { g with fault := g.fault <|> some f }

def Gathered.finish (g : Gathered) : Except Fault String :=
  match g.fault with
  | some f => .error f
  | none => .ok (String.ofList g.chars.reverse)

def Gathered.stop (g : Gathered) (f : Fault) : Break := ⟨g.fault.getD f, f⟩

/-- A text from after its opening quotation mark on, and what follows its closing one.
    `high` is the first half of a surrogate pair that the escape just read began. -/
def readText (g : Gathered) (high : Option Nat) :
    List Char → Except Break (Except Fault String × List Char)
  | [] => .error (g.stop .endInString)
  | ['\\'] => .error (g.stop .endInString)
  | '\\' :: 'u' :: a :: b :: c :: d :: rest =>
    match hexFour? a b c d with
    | none => .error (g.stop .invalidEscape)
    | some n =>
      match high with
      | some h =>
        if 0xDC00 ≤ n ∧ n ≤ 0xDFFF then
          readText (g.push (Char.ofNat (0x10000 + (h - 0xD800) * 0x400 + (n - 0xDC00)))) none rest
        else readText (g.spoil .loneSurrogate) none rest
      | none =>
        if 0xDC00 ≤ n ∧ n ≤ 0xDFFF then readText (g.spoil .loneSurrogate) none rest
        else if 0xD800 ≤ n ∧ n ≤ 0xDBFF then readText g (some n) rest
        else readText (g.push (Char.ofNat n)) none rest
  | '\\' :: 'u' :: short =>
    let bytes := short.foldl (fun n c => n + c.utf8Size) 0
    .error (g.stop (if bytes < 4 then .endInString else .invalidEscape))
  | '\\' :: e :: rest =>
    let g := if high.isSome then g.spoil .endOfEscape else g
    match letterEscape? e with
    | some d => readText (g.push d) none rest
    | none => .error (g.stop .invalidEscape)
  | c :: rest =>
    let g := if high.isSome then g.spoil .endOfEscape else g
    if c = '"' then .ok (g.finish, rest)
    else if c.toNat < 0x20 then .error (g.stop .controlCharacter)
    else readText (g.push c) none rest

/-! ## Values -/

def readWord (word : List Char) (tree : Tree) : List Char → Reading Tree := go word
where
  /-- The characters of the word still due. -/
  go : List Char → List Char → Reading Tree
    | [], rest => ⟨tree, some rest⟩
    | _ :: _, [] => ⟨.broken ⟨.endInValue, .endInValue⟩, none⟩
    | w :: word, c :: cs =>
      if w = c then go word cs else ⟨.broken ⟨.expectedWord, .expectedWord⟩, none⟩

mutual
def readValue : Nat → List Char → Reading Tree
  | 0, _ => ⟨.broken ⟨.endInValue, .endInValue⟩, none⟩
  | fuel + 1, cs =>
    match skipSpace cs with
    | [] => ⟨.broken ⟨.endInValue, .endInValue⟩, none⟩
    | '"' :: rest =>
      match readText {} none rest with
      | .error stop => ⟨.broken stop, none⟩
      | .ok (.ok s, rest) => ⟨.string s, some rest⟩
      | .ok (.error f, rest) => ⟨.unreadable f, some rest⟩
    | '[' :: rest =>
      match skipSpace rest with
      | [] => ⟨.array [] (some ⟨.endInList, .endInList⟩), none⟩
      | ']' :: rest => ⟨.array [] none, some rest⟩
      | rest =>
        let ⟨(items, stop), rest⟩ := readItems fuel rest
        ⟨.array items stop, rest⟩
    | '\x7b' :: rest =>
      match skipSpace rest with
      | [] => ⟨.object [] (some ⟨.endInObject, .endInObject⟩), none⟩
      | '\x7d' :: rest => ⟨.object [] none, some rest⟩
      | '"' :: rest =>
        let ⟨(members, stop), rest⟩ := readMembers fuel rest
        ⟨.object members stop, rest⟩
      | _ => ⟨.object [] (some ⟨.keyNotText, .keyNotText⟩), none⟩
    | 'n' :: rest => readWord ['u', 'l', 'l'] .null rest
    | 't' :: rest => readWord ['r', 'u', 'e'] (.bool true) rest
    | 'f' :: rest => readWord ['a', 'l', 's', 'e'] (.bool false) rest
    | '-' :: rest => readNumber true rest
    | c :: rest =>
      if c.isDigit then readNumber false (c :: rest)
      else ⟨.broken ⟨.expectedValue, .expectedValue⟩, none⟩

def readItems : Nat → List Char → Reading (List Tree × Option Break)
  | 0, _ => ⟨([], some ⟨.endInValue, .endInValue⟩), none⟩
  | fuel + 1, cs =>
    match readValue fuel cs with
    | ⟨item, none⟩ => ⟨([item], none), none⟩
    | ⟨item, some rest⟩ =>
      match skipSpace rest with
      | [] => ⟨([item], some ⟨.endInList, .endInList⟩), none⟩
      | ']' :: rest => ⟨([item], none), some rest⟩
      | ',' :: rest =>
        match skipSpace rest with
        | [] => ⟨([item], some ⟨.endInValue, .endInValue⟩), none⟩
        | ']' :: _ => ⟨([item], some ⟨.trailingComma, .expectedValue⟩), none⟩
        | rest =>
          let ⟨(items, stop), rest⟩ := readItems fuel rest
          ⟨(item :: items, stop), rest⟩
      | _ => ⟨([item], some ⟨.expectedListEnd, .expectedListEnd⟩), none⟩

/-- The members of an object from after the quotation mark of the next key on. -/
def readMembers : Nat → List Char → Reading (List (Except Fault String × Tree) × Option Break)
  | 0, _ => ⟨([], some ⟨.endInObject, .endInObject⟩), none⟩
  | fuel + 1, cs =>
    match readText {} none cs with
    | .error stop => ⟨([], some stop), none⟩
    | .ok (key, rest) =>
      match skipSpace rest with
      | [] => ⟨([(key, .broken ⟨.endInObject, .endInObject⟩)], none), none⟩
      | ':' :: rest =>
        match readValue fuel rest with
        | ⟨v, none⟩ => ⟨([(key, v)], none), none⟩
        | ⟨v, some rest⟩ =>
          match skipSpace rest with
          | [] => ⟨([(key, v)], some ⟨.endInObject, .endInObject⟩), none⟩
          | '\x7d' :: rest => ⟨([(key, v)], none), some rest⟩
          | ',' :: rest =>
            match skipSpace rest with
            | [] => ⟨([(key, v)], some ⟨.endInValue, .endInObject⟩), none⟩
            | '"' :: rest =>
              let ⟨(members, stop), rest⟩ := readMembers fuel rest
              ⟨((key, v) :: members, stop), rest⟩
            | '\x7d' :: _ => ⟨([(key, v)], some ⟨.trailingComma, .keyNotText⟩), none⟩
            | _ => ⟨([(key, v)], some ⟨.keyNotText, .keyNotText⟩), none⟩
          | _ => ⟨([(key, v)], some ⟨.expectedObjectEnd, .expectedObjectEnd⟩), none⟩
      | _ => ⟨([(key, .broken ⟨.expectedColon, .expectedColon⟩)], none), none⟩
end

end Reader

def readTree (text : String) : Reading Tree :=
  let cs := text.toList
  Reader.readValue (2 * cs.length + 2) cs

end Stepflow.Json
