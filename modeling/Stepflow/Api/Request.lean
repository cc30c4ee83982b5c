/-
  Stepflow.Api.Request — calls to other programs over the web.

  A payload is sent as query parameters by GET and as a JSON body by all other methods.
-/

import Stepflow.Failure
import Stepflow.Text.Blank
import Stepflow.Text.Casing
import Stepflow.Value.Text

namespace Stepflow.Api

inductive Method where
  | get
  | post
  | put
  | patch
  | delete
  deriving DecidableEq, Repr

namespace Method

def name : Method → String
  | get => "GET"
  | post => "POST"
  | put => "PUT"
  | patch => "PATCH"
  | delete => "DELETE"

def ofName? (s : String) : Option Method :=
  match Text.upper (Text.trim s) with
  | "GET" => some get
  | "POST" => some post
  | "PUT" => some put
  | "PATCH" => some patch
  | "DELETE" => some delete
  | _ => none

end Method

inductive Auth where
  | none
  | bearer (token : String)
  | basic (username : String) (password : Option String)
  | header (name value : String)
  deriving DecidableEq

structure Request where
  method : Method
  url : String
  headers : List (String × String) := []
  auth : Auth := .none
  payload : Option Value := none

/-- The payload as query parameters; only an object has any. -/
def Request.queryPairs (r : Request) : List (String × String) :=
  match r.payload with
  | some (.object fields) => fields.map fun f => (f.1, f.2.text)
  | _ => []

/-- The answer to a call: its body is the JSON value, the text if it is none, null if it
    is empty. -/
structure Response where
  status : Nat
  body : Value

/-- What calls do: answer, and change something outside. -/
abbrev Client (σ : Type) := Request → σ → Except ServiceError Response × σ

/-- Answers given one after the other, and the calls so far, oldest first. -/
structure Script where
  replies : List (Except ServiceError Response)
  calls : List Request := []

def Script.client : Client Script := fun request script =>
  let calls := script.calls ++ [request]
  match script.replies with
  | reply :: rest => (reply, ⟨rest, calls⟩)
  | [] => (.error (.provider "http" "no scripted response"), ⟨[], calls⟩)

end Stepflow.Api
