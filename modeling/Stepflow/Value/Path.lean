/-
  Stepflow.Value.Path — reaching into objects by a path.

  A path is written as keys with a full stop or a colon between neighbours, white
  space around the whole not counted; a blank path leads nowhere. `walk` looks the
  keys up one after the other; it passes through objects only, so an array is an end.
-/

import Stepflow.Text.Blank
import Stepflow.Text.Cut
import Stepflow.Value.Basic

namespace Stepflow

namespace Path

def isSeparator (c : Char) : Bool := c == '.' || c == ':'

/-- The keys of a written path; none when it is blank. -/
def keys (path : String) : List String :=
  match Text.trimmed? path with
  | none => []
  | some path => Text.split isSeparator path

end Path

def Value.walk : Value → List String → Option Value
  | v, [] => some v
  | v, key :: keys =>
    match v.field? key with
    | none => none
    | some next => next.walk keys

/-- The value at a path of keys in an object; the empty path names none. -/
def Fields.at? (root : Fields) : List String → Option Value
  | [] => none
  | key :: keys => (root.get? key).bind (·.walk keys)

def Fields.resolve (root : Fields) (path : String) : Option Value := Fields.at? root (Path.keys path)

end Stepflow
