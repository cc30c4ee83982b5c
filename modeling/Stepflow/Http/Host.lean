/-
  Stepflow.Http.Host — hosts of web addresses.

  A host is a name or an address by numbers. A name whose last part is a number stands
  for an address of the fourth version, of one to four numbers, and is written as four.
  An address of the sixth version stands in brackets: eight groups of hexadecimal
  digits, with `::` once for groups that are zero, and four numbers in place of the last
  two groups. It is written with `::` for its longest run of two or more zero groups,
  the first one of equally long runs.
-/

import Stepflow.Http.Encoding
import Stepflow.Text.Casing
import Stepflow.Text.Cut

namespace Stepflow.Http.Host

def number? (base : Nat) (ds : List Char) : Option Nat :=
  ds.foldlM (fun n c =>
    let v := if c.isDigit then c.toNat - '0'.toNat else c.toLower.toNat - 'a'.toNat + 10
    if c.isAlphanum && v < base then some (base * n + v) else none) 0

/-! ## The fourth version -/

/-- A number of an address of the fourth version: decimal, hexadecimal after 0x, octal
    after a zero. -/
def part4? (s : String) : Option Nat :=
  match s.toList with
  | [] => none
  | '0' :: x :: ds => if x = 'x' || x = 'X' then number? 16 ds else number? 8 (x :: ds)
  | ds => number? 10 ds

/-- The four numbers of an address of the fourth version, written as one to four. -/
def read4? (parts : List String) : Option String := do
  let ns ← parts.mapM part4?
  let last ← ns.getLast?
  let firsts := ns.dropLast
  if 4 < ns.length || firsts.any (255 < ·) || Nat.pow 256 (5 - ns.length) ≤ last then none
  else
    let n := (firsts.zipIdx).foldl (fun n p => n + p.1 * Nat.pow 256 (3 - p.2)) last
    return Text.join "." ([n / 16777216, n / 65536 % 256, n / 256 % 256, n % 256].map toString)

def endsInNumber (parts : List String) : Bool :=
  match parts.getLast? with
  | some last => !last.isEmpty && (last.all Char.isDigit || (part4? last).isSome)
  | none => false

/-! ## The sixth version -/

def group? (ds : List Char) : Option Nat :=
  if ds.isEmpty || 4 < ds.length then none else number? 16 ds

def dotted? (cs : List Char) : Option (List Nat) := do
  let ns ← (Text.splitChars (· == '.') cs).mapM fun ds =>
    if ds.isEmpty || (ds.head? == some '0' && 1 < ds.length) then none else number? 10 ds
  match ns with
  | [a, b, c, d] => if [a, b, c, d].all (· < 256) then some [256 * a + b, 256 * c + d] else none
  | _ => none

def groups? : List (List Char) → Option (List Nat)
  | [] => none
  | [cs] => if cs.contains '.' then dotted? cs else (group? cs).map ([·])
  | cs :: rest => do return (← group? cs) :: (← groups? rest)

def read6? (cs : List Char) : Option (List Nat) := do
  let pieces := Text.splitChars (· == ':') cs
  let before := pieces.takeWhile (!·.isEmpty)
  match before, pieces.dropWhile (!·.isEmpty) with
  | _, [] =>
    let groups ← groups? pieces
    if groups.length = 8 then some groups else none
  | [], [] :: ([] :: rest) => fill [] (← atEnd rest)
  | [], _ => none
  | before, _ :: rest => fill (← before.mapM group?) (← atEnd rest)
where
  /-- What follows the two colons. -/
  atEnd : List (List Char) → Option (List Nat)
    | [[]] => some []
    | pieces => groups? pieces
  /-- Groups with zeros between them. -/
  fill (before after : List Nat) : Option (List Nat) :=
    let n := before.length + after.length
    if n < 8 then some (before ++ List.replicate (8 - n) 0 ++ after) else none

def zeroRun (groups : List Nat) (n : Nat) : Nat := ((groups.drop n).takeWhile (· == 0)).length

def colons (groups : List Nat) : String :=
  Text.join ":" (groups.map fun n => String.ofList (Nat.toDigits 16 n))

def text6 (groups : List Nat) : String :=
  let best := (List.range groups.length).foldl
    (fun best n => if zeroRun groups best < zeroRun groups n then n else best) 0
  let run := zeroRun groups best
  if run < 2 then colons groups
  else colons (groups.take best) ++ "::" ++ colons (groups.drop (best + run))

/-! ## Names -/

def isForbidden (c : Char) : Bool :=
  c.toNat ≤ 0x20 || c.toNat = 0x7F || "#%/:<>?@[\\]^|".toList.contains c

def readName? (cs : List Char) : Option String := do
  let name ← String.fromUTF8? ⟨(percentDecode (bytesOf (String.ofList cs))).toArray⟩
  let name := Text.lower name
  if name.isEmpty || name.toList.any isForbidden || name.toList.any (0x7F < ·.toNat) then none
  else
    let parts := Text.split (· == '.') name
    let parts' := if parts.getLast? = some "" then parts.dropLast else parts
    if endsInNumber parts' then read4? parts' else some name

def readBracketed? (cs : List Char) : Option String := do
  let inner ← Text.dropEnd? [']'] cs
  return "[" ++ text6 (← read6? inner) ++ "]"

def read? : List Char → Option String
  | '[' :: rest => readBracketed? rest
  | cs => readName? cs

/-- The host of any other address: a name is kept as it is written. -/
def readOpaque? : List Char → Option String
  | '[' :: rest => readBracketed? rest
  | cs =>
    if cs.any "\x00 #/:<>?@[\\]^|".toList.contains then none
    else some (String.ofList (percentEncode [] (String.ofList cs)))

end Stepflow.Http.Host
