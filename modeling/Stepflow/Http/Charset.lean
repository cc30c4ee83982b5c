/-
  Stepflow.Http.Charset — bytes as text.

  A byte order mark at the start decides the encoding and is dropped. Without one the
  encoding is the one that the content type names, UTF-8 by default. What is malformed
  becomes replacement characters: in UTF-8 one for each longest beginning of a
  character that breaks off.
-/

import Stepflow.Http.CodePage
import Stepflow.Text.Blank
import Stepflow.Text.Cut
import Stepflow.Text.Casing

namespace Stepflow.Http

inductive Charset where
  | utf8
  | utf16 (bigEndian : Bool)
  | codePage (p : CodePage)
  deriving DecidableEq

namespace Charset

def replacement : Char := '\ufffd'

/-- The continuation that the first byte of a character asks for: the number of bytes,
    the bounds of the first of them, and the bits of the first byte. -/
def continuation? (b : UInt8) : Option (Nat × UInt8 × UInt8 × Nat) :=
  if 0xC2 ≤ b ∧ b ≤ 0xDF then some (1, 0x80, 0xBF, b.toNat - 0xC0)
  else if b = 0xE0 then some (2, 0xA0, 0xBF, 0)
  else if b = 0xED then some (2, 0x80, 0x9F, 0xD)
  else if 0xE1 ≤ b ∧ b ≤ 0xEF then some (2, 0x80, 0xBF, b.toNat - 0xE0)
  else if b = 0xF0 then some (3, 0x90, 0xBF, 0)
  else if b = 0xF4 then some (3, 0x80, 0x8F, 4)
  else if 0xF1 ≤ b ∧ b ≤ 0xF3 then some (3, 0x80, 0xBF, b.toNat - 0xF0)
  else none

/-- Bytes as UTF-8; `due` continuation bytes, the next one between two bounds, are still
    missing from the character begun, whose bits so far are `bits`. -/
def decodeUtf8 (due : Nat) (least greatest : UInt8) (bits : Nat) : List UInt8 → List Char
  | [] => if due = 0 then [] else [replacement]
  | b :: bs =>
    let start (rest : List Char → List Char) : List Char :=
      if b < 0x80 then rest (Char.ofNat b.toNat :: decodeUtf8 0 0 0 0 bs)
      else
        match continuation? b with
        | some (n, lo, hi, bits) => rest (decodeUtf8 n lo hi bits bs)
        | none => rest (replacement :: decodeUtf8 0 0 0 0 bs)
    match due with
    | 0 => start id
    | due + 1 =>
      if least ≤ b ∧ b ≤ greatest then
        let bits := bits * 64 + (b.toNat - 0x80)
        if due = 0 then Char.ofNat bits :: decodeUtf8 0 0 0 0 bs
        else decodeUtf8 due 0x80 0xBF bits bs
      else start (replacement :: ·)

def decodeUnits : List Nat → List Char
  | [] => []
  | high :: low :: rest =>
    if 0xD800 ≤ high ∧ high ≤ 0xDBFF then
      if 0xDC00 ≤ low ∧ low ≤ 0xDFFF then
        Char.ofNat (0x10000 + (high - 0xD800) * 0x400 + (low - 0xDC00)) :: decodeUnits rest
      else replacement :: decodeUnits (low :: rest)
    else (if 0xDC00 ≤ high ∧ high ≤ 0xDFFF then replacement else Char.ofNat high) ::
      decodeUnits (low :: rest)
  | [unit] => [if 0xD800 ≤ unit ∧ unit ≤ 0xDFFF then replacement else Char.ofNat unit]

def unitsOf (bigEndian : Bool) : List UInt8 → List Nat
  | a :: b :: rest =>
    (if bigEndian then a.toNat * 256 + b.toNat else b.toNat * 256 + a.toNat) ::
      unitsOf bigEndian rest
  | _ => []

/-- Bytes as UTF-16; of a character that breaks off at the end, however late, one
    replacement character is left. -/
def decodeUtf16 (bigEndian : Bool) (bytes : List UInt8) : List Char :=
  let units := unitsOf bigEndian bytes
  let isCut := units.getLast?.any fun unit => 0xD800 ≤ unit && unit ≤ 0xDBFF
  decodeUnits units ++ (if bytes.length % 2 = 1 && !isCut then [replacement] else [])

def ofLabel? (label : String) : Option Charset :=
  let name := Text.lower (Text.trim label)
  if ["utf-8", "utf8", "unicode-1-1-utf-8", "unicode11utf8", "unicode20utf8",
      "x-unicode20utf8"].contains name then some utf8
  else if ["utf-16", "utf-16le", "unicode", "ucs-2", "iso-10646-ucs-2", "csunicode",
      "unicodefeff"].contains name then some (utf16 false)
  else if ["utf-16be", "unicodefffe"].contains name then some (utf16 true)
  else (CodePage.ofLabel? name).map codePage

def decodeBody (cs : Charset) (bytes : List UInt8) : List Char :=
  match cs with
  | utf8 => decodeUtf8 0 0 0 0 bytes
  | utf16 bigEndian => decodeUtf16 bigEndian bytes
  | codePage p => bytes.map p.char

def decode (cs : Charset) (bytes : List UInt8) : String :=
  String.ofList (match bytes with
    | 0xEF :: 0xBB :: 0xBF :: rest => decodeBody utf8 rest
    | 0xFE :: 0xFF :: rest => decodeBody (utf16 true) rest
    | 0xFF :: 0xFE :: rest => decodeBody (utf16 false) rest
    | bytes => decodeBody cs bytes)

def isTokenChar (c : Char) : Bool := c.isAlphanum || "!#$%&'*+-.^_`|~".toList.contains c

/-- A text in quotation marks, which is not empty, and what follows it; a backslash takes
    the character after it. -/
def quoted? : List Char → Option (List Char × List Char)
  | '\\' :: c :: cs => (quoted? cs).map fun r => ('\\' :: c :: r.1, r.2)
  | '"' :: cs => some ([], cs)
  | c :: cs => (quoted? cs).map fun r => (c :: r.1, r.2)
  | [] => none

/-- What follows the end of a parameter, if nothing else stands before that. -/
def afterParameter? (cs : List Char) : Option (List Char) :=
  match cs with
  | [] => some []
  | c :: rest => if c = ';' then some rest else none

/-- The parameters of a content type; `fuel` bounds their number. -/
def parameters? : Nat → List Char → Option (List (String × String))
  | _, [] => some []
  | 0, _ => none
  | fuel + 1, ' ' :: cs => parameters? fuel cs
  | fuel + 1, ';' :: cs => parameters? fuel cs
  | fuel + 1, cs =>
    let name := cs.takeWhile isTokenChar
    match cs.dropWhile isTokenChar with
    | '=' :: '"' :: cs => do
      let (value, cs) ← quoted? cs
      let cs ← afterParameter? (cs.dropWhile (· == ' '))
      if name.isEmpty || value.isEmpty then none
      else return (String.ofList name, String.ofList value) :: (← parameters? fuel cs)
    | '=' :: cs => do
      let value := cs.takeWhile isTokenChar
      let rest ← afterParameter? (cs.dropWhile isTokenChar)
      if name.isEmpty || (value.isEmpty && cs ≠ []) then none
      else return (String.ofList name, String.ofList value) :: (← parameters? fuel rest)
    | _ => none

def mediaParameters? (contentType : String) : Option (List (String × String)) :=
  let cs := contentType.toList
  match cs.takeWhile isTokenChar, cs.dropWhile isTokenChar with
  | [], _ => none
  | _ :: _, '/' :: cs =>
    match cs.takeWhile isTokenChar, cs.dropWhile isTokenChar with
    | [], _ => none
    | _ :: _, [] => some []
    | _ :: _, c :: cs => if c = ';' || c = ' ' then parameters? (cs.length + 1) cs else none
  | _, _ => none

/-- The encoding that a content type names; UTF-8 if it is malformed or names none that is
    known. -/
def ofContentType (contentType : String) : Charset :=
  let label? := (mediaParameters? contentType).bind fun params =>
    (params.find? fun p => Text.sameAscii p.1 "charset").map (·.2)
  (label?.bind ofLabel?).getD utf8

end Charset

end Stepflow.Http
