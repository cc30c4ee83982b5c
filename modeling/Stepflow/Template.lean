/-
  Stepflow.Template — texts with placeholders, filled in from an object.

  A placeholder is two opening braces, a body without a closing brace, and two closing
  braces. Its path is the body without its outer blanks; a body of blanks only has its
  last blank as path, which leads nowhere. A text is cut into parts from left to right
  (`parts`), each placeholder is replaced by the text of what its path leads to, and
  everything else stays: what is filled in is never looked at again.

  A text that is one placeholder, outer blanks not counted, stands for the value itself
  (`single?`, `Value.templated`), not for its text.
-/

import Stepflow.Value.Path
import Stepflow.Value.Text

namespace Stepflow

namespace Template

inductive Part where
  | literal (c : Char)
  | placeholder (body : List Char)
  deriving DecidableEq

def placeholder? : List Char → Option (List Char × List Char)
  | '\x7b' :: '\x7b' :: cs =>
    match cs.dropWhile (· != '\x7d') with
    | '\x7d' :: '\x7d' :: rest =>
      let body := cs.takeWhile (· != '\x7d')
      if body.isEmpty then none else some (body, rest)
    | _ => none
  | _ => none

theorem length_of_placeholder? {cs body rest : List Char}
    (h : placeholder? cs = some (body, rest)) : rest.length < cs.length := by
  unfold placeholder? at h
  split at h
  · rename_i tail
    have short : (tail.dropWhile (· != '\x7d')).length ≤ tail.length :=
      (List.dropWhile_suffix _).length_le
    split at h
    · rename_i heq
      simp only [heq, List.length_cons] at short
      dsimp only at h
      split at h
      · cases h
      · cases h
        simp only [List.length_cons]
        omega
    · cases h
  · cases h

def parts (cs : List Char) : List Part :=
  match cs with
  | [] => []
  | c :: tail =>
    match _h : placeholder? (c :: tail) with
    | some (body, rest) => .placeholder body :: parts rest
    | none => .literal c :: parts tail
termination_by cs.length
decreasing_by
  · exact length_of_placeholder? _h
  · simp

def pathOf (body : List Char) : String :=
  if body.all Text.isBlank then String.ofList (body.drop (body.length - 1))
  else String.ofList (Text.trimChars body)

def Part.fill (root : Fields) : Part → List Char
  | literal c => [c]
  | placeholder body =>
    match root.resolve (pathOf body) with
    | some v => v.text.toList
    | none => []

def render (root : Fields) (text : String) : String :=
  String.ofList ((parts text.toList).flatMap (·.fill root))

def hasPlaceholders (text : String) : Bool :=
  (parts text.toList).any fun
    | .placeholder _ => true
    | .literal _ => false

def single? (text : String) : Option String :=
  match placeholder? (Text.trimStart text.toList) with
  | some (body, rest) => if rest.all Text.isBlank then some (pathOf body) else none
  | none => none

def barePath (text : String) : String := (single? text).getD (Text.trim text)

/-- What a text stands for: a value if it is one placeholder, else the text filled in. -/
def fill (root : Fields) (text : String) : Value :=
  match single? text with
  | some path => (root.resolve path).getD .null
  | none => .string (render root text)

end Template

mutual
/-- A value with every text in it filled in; keys stay as they are. -/
def Value.templated (root : Fields) : Value → Value
  | .string s => Template.fill root s
  | .array items => .array (templatedItems root items)
  | .object fields => .object (templatedFields root fields)
  | v => v

def Value.templatedItems (root : Fields) : List Value → List Value
  | [] => []
  | v :: vs => v.templated root :: templatedItems root vs

def Value.templatedFields (root : Fields) : List (String × Value) → List (String × Value)
  | [] => []
  | (k, v) :: rest => (k, v.templated root) :: templatedFields root rest
end

end Stepflow
