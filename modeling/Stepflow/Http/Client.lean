/-
  Stepflow.Http.Client — calls as requests on connections.

  A call is made into a request with a target, headers and a body. Each request takes a
  connection of its own, which either answers or is refused. An answer outside 200 to
  299 is an error with its text.
-/

import Stepflow.Api.Request
import Stepflow.Http.Charset
import Stepflow.Http.Url
import Stepflow.Json.Decode

namespace Stepflow.Http

structure Sent where
  method : Api.Method
  target : String
  /-- Names in lower case. -/
  headers : List (String × String)
  body : String

structure Reply where
  status : Nat
  contentType : Option String := none
  body : List UInt8 := []

/-- Connections: what the next ones answer, and what was sent so far. -/
structure Wire where
  replies : List Reply := []
  sent : List Sent := []

inductive RequestError where
  | malformed
  | unusable (url : String)
  | refused (url : String)
  deriving DecidableEq

def RequestError.message : RequestError → String
  | malformed => "builder error"
  | unusable url => "builder error for url (" ++ url ++ ")"
  | refused url => "error sending request for url (" ++ url ++ ")"

/-- A header, its name in lower case; none when its name or value is not allowed. -/
def header? (name value : String) : Option (String × String) :=
  let isAllowed (c : Char) := c == '\t' || (0x20 ≤ c.toNat && c.toNat != 0x7F)
  if !name.isEmpty && name.toList.all Charset.isTokenChar && value.toList.all isAllowed then
    some (Text.lower name, value)
  else none

def basicHeader (username : String) (password : Option String) : String × String :=
  ("authorization", "Basic " ++ String.ofList (base64 (bytesOf (username ++ ":" ++ password.getD ""))))

def authHeaders (auth : Api.Auth) : List (String × String) :=
  match auth with
  | .none => []
  | .bearer token => [("authorization", "Bearer " ++ token)]
  | .basic username password => [basicHeader username password]
  | .header name value => [(name, value)]

def userHeaders (u : Url) : List (String × String) :=
  let plain (s : String) : String :=
    (String.fromUTF8? ⟨(percentDecode (bytesOf s)).toArray⟩).getD s
  if u.username.isEmpty && u.password.isNone then []
  else [basicHeader (plain u.username) (u.password.map plain)]

/-- Can a request go to an address? Its scheme has to be one of the web, and its host may
    not hold a quotation mark, an accent or a brace. -/
def isUsable (u : Url) : Bool :=
  (u.scheme == "http" || u.scheme == "https") &&
    not ((u.host.getD "").toList.any fun c => ['"', '`', '\x7b', '\x7d'].contains c)

def prepare (r : Api.Request) : Except RequestError (Url × Sent) :=
  match Url.read? r.url with
  | none => .error .malformed
  | some url =>
    if (url.host.getD "").isEmpty then .error (.unusable url.text)
    else
      let headers := userHeaders url ++
        (("accept", "application/json") :: r.headers ++ authHeaders r.auth)
      match headers.mapM fun h => header? h.1 h.2 with
      | none => .error .malformed
      | some headers =>
        let url := url.withoutUser
        let url := if r.method = .get && r.payload.isSome then url.addPairs r.queryPairs else url
        let body := if r.method = .get then none else r.payload.map (·.compact)
        let headers :=
          if body.isSome && !headers.any (·.1 == "content-type") then
            headers ++ [("content-type", "application/json")]
          else headers
        if isUsable url then .ok (url, ⟨r.method, url.target, headers, body.getD ""⟩)
        else .error (.unusable url.text)

def bodyValue (text : String) : Value :=
  if Text.isBlankText text then .null
  else
    match Json.parse text with
    | .ok v => v
    | .error _ => .string text

def hasBody (status : Nat) : Bool := 200 ≤ status && status != 204 && status != 304

def Reply.text (r : Reply) : String :=
  if hasBody r.status then ((r.contentType.map Charset.ofContentType).getD .utf8).decode r.body else ""

def backend : String := "http"

def Reply.result (r : Reply) : Except ServiceError Api.Response :=
  if 200 ≤ r.status && r.status < 300 then .ok ⟨r.status, bodyValue r.text⟩
  else .error (.provider backend ("HTTP " ++ toString r.status ++ ": " ++ r.text))

def client : Api.Client Wire := fun request wire =>
  let failed (e : RequestError) : Except ServiceError Api.Response :=
    .error (.provider backend ("Request failed: " ++ e.message))
  match prepare request with
  | .error e => (failed e, wire)
  | .ok (url, sent) =>
    match wire.replies with
    | [] => (failed (.refused url.text), wire)
    | reply :: rest => (reply.result, ⟨rest, wire.sent ++ [sent]⟩)

end Stepflow.Http
