/-
  Stepflow.Text.Marker — cutting a text after the line that holds a marker.

  Lines end with a line feed, a carriage return or both. A line holds a marker when the
  normal form of the line contains that of the marker: small letters and digits of
  ASCII, and one blank for every run of blanks between them. A text is kept up to the
  first such line; without one, or for a marker with an empty normal form, it is kept
  whole.
-/

import Stepflow.Text.Blank
import Stepflow.Text.Casing
import Stepflow.Text.Cut

namespace Stepflow.Text.Marker

def isCounted (c : Char) : Bool := ('a' ≤ c && c ≤ 'z') || c.isDigit || isBlank c

/-- One blank in the place of every run of blanks; `inRun` tells whether the character
    before was one. -/
def squeeze (inRun : Bool) : List Char → List Char
  | [] => []
  | c :: cs =>
    if isBlank c then
      if inRun then squeeze true cs else ' ' :: squeeze true cs
    else c :: squeeze false cs

def normalForm (cs : List Char) : List Char :=
  trimChars (squeeze false ((lowerFrom [] cs).filter isCounted))

def lines : List Char → List (List Char)
  | [] => [[]]
  | '\r' :: '\n' :: cs => [] :: lines cs
  | c :: cs =>
    if c = '\r' ∨ c = '\n' then [] :: lines cs
    else
      match lines cs with
      | [] => [[c]]
      | line :: rest => (c :: line) :: rest

def holds (needle line : List Char) : Bool := occursIn needle (normalForm line)

/-- The lines up to the first one that holds the marker, if there is one. -/
def upTo? (needle : List Char) : List (List Char) → Option (List (List Char))
  | [] => none
  | line :: rest =>
    if holds needle line then some [line] else (upTo? needle rest).map (line :: ·)

def joinLines (ls : List (List Char)) : List Char := List.intercalate ['\n'] ls

def cutAfter (source marker : String) : String :=
  let needle := normalForm marker.toList
  if needle.isEmpty then source
  else
    match upTo? needle (lines source.toList) with
    | some kept => String.ofList (trimChars (joinLines kept))
    | none => source

end Stepflow.Text.Marker
