/-
  Stepflow.Http.Encoding — texts as parts of web addresses and headers.

  A byte that may not stand for itself is written as a percent sign and two hexadecimal
  digits in upper case; which bytes those are depends on the part of the address. In a
  form a blank is a plus sign. Credentials are written in base 64.
-/

namespace Stepflow.Http

def bytesOf (s : String) : List UInt8 := s.toUTF8.toList

def hexDigit (n : Nat) : Char := (Nat.digitChar n).toUpper

def percent (b : UInt8) : List Char := ['%', hexDigit (b.toNat / 16), hexDigit (b.toNat % 16)]

def asciiChar (b : UInt8) : Char := Char.ofNat b.toNat

/-- A text with every byte written by its number that is no ASCII, a control, or among
    `reserved`. -/
def percentEncode (reserved : List Char) (s : String) : List Char :=
  (bytesOf s).flatMap fun b =>
    let c := asciiChar b
    if b < 0x20 || 0x7E < b || reserved.contains c then percent b else [c]

def percentDecode : List UInt8 → List UInt8
  | 0x25 :: a :: b :: rest =>
    let value? (c : Char) : Option Nat :=
      if c.isDigit then some (c.toNat - '0'.toNat)
      else if 'a' ≤ c.toLower ∧ c.toLower ≤ 'f' then some (c.toLower.toNat - 'a'.toNat + 10)
      else none
    match value? (asciiChar a), value? (asciiChar b) with
    | some x, some y => UInt8.ofNat (16 * x + y) :: percentDecode rest
    | _, _ => 0x25 :: percentDecode (a :: b :: rest)
  | b :: rest => b :: percentDecode rest
  | [] => []

def formEncode (s : String) : List Char :=
  (bytesOf s).flatMap fun b =>
    let c := asciiChar b
    if c = ' ' then ['+']
    else if b < 0x80 && (c.isAlphanum || c == '*' || c == '-' || c == '.' || c == '_') then [c]
    else percent b

def formPairs (pairs : List (String × String)) : List Char :=
  List.intercalate ['&'] (pairs.map fun p => formEncode p.1 ++ '=' :: formEncode p.2)

def digit64 (n : Nat) : Char :=
  if n < 26 then Char.ofNat ('A'.toNat + n)
  else if n < 52 then Char.ofNat ('a'.toNat + (n - 26))
  else if n < 62 then Char.ofNat ('0'.toNat + (n - 52))
  else if n = 62 then '+'
  else '/'

/-- Bytes in base 64, filled up to a multiple of four digits. -/
def base64 : List UInt8 → List Char
  | a :: b :: c :: rest =>
    let n := a.toNat * 65536 + b.toNat * 256 + c.toNat
    digit64 (n / 262144) :: digit64 (n / 4096 % 64) :: digit64 (n / 64 % 64) ::
      digit64 (n % 64) :: base64 rest
  | [a, b] =>
    let n := a.toNat * 1024 + b.toNat * 4
    [digit64 (n / 4096), digit64 (n / 64 % 64), digit64 (n % 64), '=']
  | [a] =>
    let n := a.toNat * 16
    [digit64 (n / 64), digit64 (n % 64), '=', '=']
  | [] => []

end Stepflow.Http
