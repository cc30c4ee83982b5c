/-
  Stepflow.Handler.FetchApi — the step that calls another program over the web.

  Every part of the call is filled in from the context. A payload written as text is
  filled in as text and then has to be the JSON of an object or array; if it is not,
  the call has no payload. Blank credentials mean none.
-/

import Stepflow.Handler.Task
import Stepflow.Template

namespace Stepflow.Handler

def filledWord (step : Step) (key : String) (ctx : Context) : String :=
  Text.trim (step.configFilled key ctx)

def authOf (step : Step) (ctx : Context) : Except String Api.Auth :=
  let text (key : String) := filledWord step key ctx
  match ((step.configWord? "api_auth_type").map Text.upper).getD "NONE" with
  | "NONE" => .ok .none
  | "BEARER" =>
    let token := text "api_auth_token"
    .ok (if token.isEmpty then .none else .bearer token)
  | "BASIC" =>
    let username := text "api_auth_username"
    let password := text "api_auth_password"
    .ok (if username.isEmpty then .none
      else .basic username (if password.isEmpty then none else some password))
  | "CUSTOM_HEADER" =>
    let name := text "api_auth_header_name"
    let value := text "api_auth_header_value"
    .ok (if name.isEmpty || value.isEmpty then .none else .header name value)
  | other => .error ("Unsupported auth type: " ++ other)

def payloadOf (step : Step) (ctx : Context) : Option Value :=
  match step.configSet? "api_payload" with
  | none => none
  | some (.string raw) =>
    if Text.isBlankText raw then none
    else
      match Json.parse (Template.render ctx raw) with
      | .ok (.object fields) => some (.object fields)
      | .ok (.array items) => some (.array items)
      | _ => none
  | some v => some (v.templated ctx)

def headersOf (step : Step) (ctx : Context) : List (String × String) :=
  match (step.config.get? "api_headers").map (Value.templated ctx) with
  | some (.object fields) => fields.map fun f => (f.1, f.2.text)
  | _ => []

def apiRequest (step : Step) (ctx : Context) : Except String Api.Request := do
  let url := filledWord step "api_url" ctx
  if url.isEmpty then throw "API endpoint URL is required for FETCH_API_DATA"
  let name := (step.configWord? "api_method").getD "GET"
  let some method := Api.Method.ofName? name | throw ("Unsupported HTTP method: " ++ name)
  let auth ← authOf step ctx
  return { method, url, headers := headersOf step ctx, auth, payload := payloadOf step ctx }

def selectPart (step : Step) (body : Value) : Value :=
  match step.configWord? "api_response_key", body with
  | some path, .object fields => (Fields.resolve fields path).getD .null
  | _, body => body

def fetchApi : Handler := .ofWork fun step ctx => do
  match apiRequest step ctx with
  | .error detail => Work.fail step detail
  | .ok request =>
    let started ← ExceptT.lift (Task.of .clock)
    match ← ExceptT.lift (Task.of (.callApi request)) with
    | .error e => Work.fail step ("API request failed: " ++ e.message)
    | .ok response =>
      let ended ← ExceptT.lift (Task.of .clock)
      return { raw := .record [("api_url", .string request.url),
                 ("api_method", .string request.method.name),
                 ("response_status", .count response.status), ("body", response.body)]
               parsed := .record [("status", .count response.status),
                 ("parsed", selectPart step response.body), ("duration_ms", .count (ended.millisSince started))] }

end Stepflow.Handler
