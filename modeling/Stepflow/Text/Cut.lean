/-
  Stepflow.Text.Cut — cutting, finding and replacing in the characters of a text.

  `split` cuts at every character of a class and keeps empty pieces, so a text with n
  such characters has n + 1 pieces. `replaceAll` replaces the occurrences of a piece,
  found from left to right without overlap, and leaves every other character as it is.
-/

namespace Stepflow.Text

def splitChars (p : Char → Bool) : List Char → List (List Char)
  | [] => [[]]
  | c :: cs =>
    if p c then [] :: splitChars p cs
    else
      match splitChars p cs with
      | [] => [[c]]
      | piece :: pieces => (c :: piece) :: pieces

def split (p : Char → Bool) (s : String) : List String := (splitChars p s.toList).map String.ofList

def dropStart? : List Char → List Char → Option (List Char)
  | [], cs => some cs
  | _ :: _, [] => none
  | p :: start, c :: cs => if p = c then dropStart? start cs else none

def dropEnd? (ending cs : List Char) : Option (List Char) :=
  (dropStart? ending.reverse cs.reverse).map List.reverse

def occursIn (piece : List Char) : List Char → Bool
  | [] => piece.isEmpty
  | c :: cs => (dropStart? piece (c :: cs)).isSome || occursIn piece cs

/-- Occurrences of `piece` replaced by `new`; `skip` characters of an occurrence
    already replaced are still to be passed over. -/
def replaceFrom (piece new : List Char) : Nat → List Char → List Char
  | _, [] => []
  | skip + 1, _ :: cs => replaceFrom piece new skip cs
  | 0, c :: cs =>
    if (dropStart? piece (c :: cs)).isSome then new ++ replaceFrom piece new (piece.length - 1) cs
    else c :: replaceFrom piece new 0 cs

def replaceAll (s piece new : String) : String :=
  String.ofList (replaceFrom piece.toList new.toList 0 s.toList)

def contains (s piece : String) : Bool := occursIn piece.toList s.toList

def startsWith (s start : String) : Bool := (dropStart? start.toList s.toList).isSome

def endsWith (s ending : String) : Bool := (dropEnd? ending.toList s.toList).isSome

def splitOnce (c : Char) (s : String) : Option (String × String) :=
  match s.toList.dropWhile (· != c) with
  | [] => none
  | _ :: rest => some (String.ofList (s.toList.takeWhile (· != c)), String.ofList rest)

def join (sep : String) : List String → String
  | [] => ""
  | [s] => s
  | s :: rest => s ++ sep ++ join sep rest

end Stepflow.Text
