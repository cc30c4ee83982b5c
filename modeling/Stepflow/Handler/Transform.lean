/-
  Stepflow.Handler.Transform — the step that transforms a text.

  A text is searched and replaced in, cut after a marker, or freed from HTML. The result
  is put into the context under the id of the step.
-/

import Stepflow.Handler.Task
import Stepflow.Html.Fragment
import Stepflow.Template
import Stepflow.Text.Marker

namespace Stepflow.Handler

inductive Transform where
  | findAndReplace
  | removeAfterMarker
  | removeHtml
  deriving DecidableEq

def Transform.ofName? (name : String) : Option Transform :=
  match Text.lower (Text.trim name) with
  | "find_and_replace" => some findAndReplace
  | "remove_after_marker" => some removeAfterMarker
  | "remove_html" => some removeHtml
  | _ => none

/-- The transformed text; `text` gives the texts of the configuration. -/
def Transform.apply (t : Transform) (text : String → String) : String :=
  let source := text "source"
  match t with
  | findAndReplace =>
    let find := text "find"
    if find.isEmpty then source else Text.replaceAll source find (text "replace")
  | removeAfterMarker => Text.Marker.cutAfter source (text "marker")
  | removeHtml => Html.plainText source

def transformContent : Handler := .ofWork fun step ctx => do
  let name ← Work.need step "Transformation type is required" (step.configWord? "type")
  let transform ← Work.need step ("Unknown transformation type: " ++ name)
    (Transform.ofName? name)
  let result := Value.string (transform.apply fun key => step.configFilled key ctx)
  let output := [("result", result), ("cleaned_body", result)]
  return { StepResult.completed (.record (("type", .string name) :: output)) with
           context := [("transform", .object [(Context.outputKey step.id, .record output)])] }

end Stepflow.Handler
