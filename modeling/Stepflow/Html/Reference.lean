/-
  Stepflow.Html.Reference — characters written by name or number.

  A reference is an ampersand and either a name or a number sign with a decimal or
  hexadecimal number. Of several names that fit, the longest counts. The numbers 128 to
  159 mean the characters that the code page 1252 has there; a number that is no
  character stands for the replacement character. What is no reference stays as it is.
-/

import Stepflow.Html.Names
import Stepflow.Http.CodePage
import Stepflow.Json.Reader
import Stepflow.Text.Cut

namespace Stepflow.Html.Reference

def ofRow (row : String) : List (List Char × List Char) := go (Text.split (· == ' ') row)
where
  /-- Names and numbers in turn. -/
  go : List String → List (List Char × List Char)
    | name :: numbers :: rest =>
      let chars := (Text.split (· == '+') numbers).map fun n => Char.ofNat (Decimal.digitsValue n.toList)
      (name.toList, chars) :: go rest
    | _ => []

def names : List (List Char × List Char) :=
  let short := Names.shortRows.flatMap ofRow
  let closed (e : List Char × List Char) := (e.1 ++ [';'], e.2)
  short ++ short.map closed ++ (Names.longRows.flatMap ofRow).map closed

def longest? (cs : List Char) : Option (List Char × List Char) :=
  names.foldl (fun found e =>
    if (Text.dropStart? e.1 cs).isSome && found.all (fun f => f.1.length < e.1.length) then some e
    else found) none

def ofNumber (n : Nat) : Char :=
  let c := Char.ofNat (Http.CodePage.in1252 n)
  if n = 0 ∨ c.toNat ≠ Http.CodePage.in1252 n then '\ufffd' else c

def hexValue (ds : List Char) : Nat :=
  ds.foldl (fun n c => 16 * n + (Json.Reader.hexValue? c).getD 0) 0

/-- The characters that a reference stands for, and the length of what follows its
    ampersand. In an attribute a name without its semicolon is none before a letter,
    digit or equals sign. -/
def read? (inTag : Bool) (cs : List Char) : Option (List Char × Nat) :=
  let numbered (start : Nat) (ds : List Char) (value : Nat) : Option (List Char × Nat) :=
    let used := start + ds.length
    let closing := if (cs.drop used).head? = some ';' then 1 else 0
    if ds.isEmpty then none else some ([ofNumber value], used + closing)
  let isHex (c : Char) := (Json.Reader.hexValue? c).isSome
  match cs with
  | '#' :: 'x' :: rest => let ds := rest.takeWhile isHex; numbered 2 ds (hexValue ds)
  | '#' :: 'X' :: rest => let ds := rest.takeWhile isHex; numbered 2 ds (hexValue ds)
  | '#' :: rest => let ds := rest.takeWhile Char.isDigit; numbered 1 ds (Decimal.digitsValue ds)
  | cs =>
    match longest? cs with
    | none => none
    | some (name, chars) =>
      let isOpen := name.getLast? != some ';'
      let goesOn := ((cs.drop name.length).head?).any fun c => c == '=' || c.isAlphanum
      if inTag && isOpen && goesOn then none else some (chars, name.length)

/-- The characters of a text, references read; `skip` characters of a reference already
    read are still to be passed over. -/
def decodeFrom (inTag : Bool) : Nat → List Char → List Char
  | _, [] => []
  | skip + 1, _ :: cs => decodeFrom inTag skip cs
  | 0, '&' :: cs =>
    match read? inTag cs with
    | some (chars, used) => chars ++ decodeFrom inTag used cs
    | none => '&' :: decodeFrom inTag 0 cs
  | 0, c :: cs => c :: decodeFrom inTag 0 cs

def decode (cs : List Char) : List Char := decodeFrom false 0 cs

end Stepflow.Html.Reference
