/-
  Stepflow.Text.Casing — upper and lower case of a text.

  Each character is mapped by the full case mappings, so a text can grow: the sharp s
  has the upper case SS. One rule looks at the neighbours: a capital sigma at the end
  of a word has its own small letter. A word ends after it when a cased character
  comes before and none after, case-ignorable characters between not counted.
-/

import Stepflow.Text.CaseTable

namespace Stepflow.Text

open CaseTable

def mapCase (runs : List Run) (long : List (Nat × List Nat)) (c : Char) : List Char :=
  match long.lookup c.toNat with
  | some image => image.map Char.ofNat
  | none =>
    match runs.findSome? (·.map? c.toNat) with
    | some n => [Char.ofNat n]
    | none => [c]

def upperChar (c : Char) : List Char :=
  if c.toNat < 0x80 then [c.toUpper] else mapCase uppers longUppers c

def lowerChar (c : Char) : List Char :=
  if c.toNat < 0x80 then [c.toLower] else mapCase lowers longLowers c

def meetsCased (cs : List Char) : Bool :=
  match cs.dropWhile (fun c => inRanges caseIgnorable c.toNat) with
  | [] => false
  | c :: _ => inRanges cased c.toNat

/-- The lower case of `cs`, which follows the characters `before` (nearest first). -/
def lowerFrom (before : List Char) : List Char → List Char
  | [] => []
  | c :: cs =>
    let image :=
      if c = 'Σ' then if meetsCased before && !meetsCased cs then ['ς'] else ['σ']
      else lowerChar c
    image ++ lowerFrom (c :: before) cs

def upper (s : String) : String := String.ofList (s.toList.flatMap upperChar)

def lower (s : String) : String := String.ofList (lowerFrom [] s.toList)

def sameAscii (a b : String) : Bool :=
  a.toList.map Char.toLower == b.toList.map Char.toLower

end Stepflow.Text
