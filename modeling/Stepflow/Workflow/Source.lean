/-
  Stepflow.Workflow.Source — workflows read from definition texts.

  A definition is written as JSON or TOML; which of them, the name of its file tells.
-/

import Stepflow.Failure
import Stepflow.Text.Casing
import Stepflow.Toml.Document
import Stepflow.Workflow.Definition

namespace Stepflow

inductive DefinitionFormat where
  | json
  | toml
  deriving DecidableEq, Repr

namespace DefinitionFormat

/-- The last name of a path, empty names and dots at its end passed over; none for the
    parent of a directory. -/
def fileName? (path : String) : Option String :=
  let names := Text.split (· == '/') path
  match names.reverse.dropWhile fun n => n == "" || n == "." with
  | [] => none
  | name :: _ => if name == ".." then none else some name

def extension? (name : String) : Option String :=
  match Text.split (· == '.') name with
  | [_] => none
  | ["", _] => none
  | pieces => pieces.getLast?

/-- The format of a file: TOML if its name ends so, in any case, else JSON. -/
def ofPath (path : String) : DefinitionFormat :=
  if ((fileName? path).bind extension?).map Text.lower = some "toml" then toml else json

end DefinitionFormat

def Workflow.parse (now : Time.Timestamp) (text : String) :
    DefinitionFormat → Except ServiceError Workflow
  | .json =>
    (Json.decodeText (Workflow.decode now) text).mapError fun e =>
      .validation ("Invalid workflow JSON: " ++ e.message)
  | .toml =>
    let wrong := ServiceError.validation "Invalid workflow TOML"
    match Toml.read? .second text with
    | none => .error wrong
    | some entries =>
      (Workflow.decode now .config (Toml.Document.maxDepth + text.length)
        (Toml.Item.table entries).toTree).mapError fun _ => wrong

end Stepflow
