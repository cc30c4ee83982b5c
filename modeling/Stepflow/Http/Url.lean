/-
  Stepflow.Http.Url — web addresses.

  An address has a scheme, and after it a host with an optional port, a path, a query
  and a fragment. Reading brings it into its normal form: the host in lower case, a port
  that goes without saying left out, dot segments of the path resolved, and what may not
  stand for itself percent-encoded. The schemes of the web always have a host, and a
  backslash parts their paths like a slash. Any other scheme has a host after two slashes
  only, which is kept as it is written; without a slash the path is an opaque text.
-/

import Stepflow.Decimal.Reading
import Stepflow.Http.Host

namespace Stepflow.Http

structure Url where
  scheme : String
  username : String := ""
  password : Option String := none
  /-- None when no slashes lead to a host. -/
  host : Option String
  port : Option Nat := none
  /-- From its first slash on, or an opaque text. -/
  path : String
  query : Option String := none
  fragment : Option String := none

namespace Url

def fragmentSet : List Char := [' ', '"', '<', '>', '`']

def pathSet : List Char := fragmentSet ++ ['#', '?', '\x7b', '\x7d']

def userSet : List Char := pathSet ++ ['/', ':', ';', '=', '@', '[', '\\', ']', '^', '|']

def querySet : List Char := [' ', '"', '#', '<', '>', '\'']

def hostSchemes : List (String × Nat) :=
  [("http", 80), ("https", 443), ("ws", 80), ("wss", 443), ("ftp", 21)]

def withoutUser (u : Url) : Url := { u with username := "", password := none }

def text (u : Url) : String :=
  let user :=
    if u.username.isEmpty && u.password.isNone then ""
    else u.username ++ ((u.password.map fun p => ":" ++ p).getD "") ++ "@"
  let host :=
    match u.host with
    | some h => "//" ++ user ++ h ++ ((u.port.map fun p => ":" ++ toString p).getD "")
    | none => if Text.startsWith u.path "//" then "/." else ""
  u.scheme ++ ":" ++ host ++ u.path ++ ((u.query.map fun q => "?" ++ q).getD "") ++
    ((u.fragment.map fun f => "#" ++ f).getD "")

def target (u : Url) : String := u.path ++ ((u.query.map fun q => "?" ++ q).getD "")

/-- The address with pairs added to its query; an empty query is left out. -/
def addPairs (u : Url) (pairs : List (String × String)) : Url :=
  let old := u.query.getD ""
  let added := String.ofList (formPairs pairs)
  let query := if old.isEmpty then added else if added.isEmpty then old else old ++ "&" ++ added
  { u with query := if query.isEmpty then none else some query }

/-! ## Reading -/

/-- A text without control characters and blanks at its ends, and without tabs and line
    breaks anywhere. -/
def cleaned (s : String) : List Char :=
  let isOuter (c : Char) := c.toNat ≤ 0x20
  let cs := s.toList.dropWhile isOuter
  let cs := (cs.reverse.dropWhile isOuter).reverse
  cs.filter fun c => c != '\t' && c != '\n' && c != '\r'

def scheme? (cs : List Char) : Option (String × List Char) :=
  let isInner (c : Char) := c.isAlphanum || c == '+' || c == '-' || c == '.'
  match cs.takeWhile isInner, cs.dropWhile isInner with
  | c :: name, ':' :: rest =>
    if c.isAlpha then some (String.ofList ((c :: name).map Char.toLower), rest) else none
  | _, _ => none

def cutBefore (p : Char → Bool) (cs : List Char) : List Char × List Char :=
  (cs.takeWhile fun c => !p c, cs.dropWhile fun c => !p c)

/-- A text cut at its last `c`; all of it stands after the cut when there is none. -/
def cutAtLast (c : Char) (cs : List Char) : Option (List Char) × List Char :=
  match cs.reverse.dropWhile (· != c) with
  | [] => (none, cs)
  | _ :: before => (some before.reverse, (cs.reverse.takeWhile (· != c)).reverse)

/-- A port; none when it goes without saying. -/
def port? (standard : Option Nat) (cs : List Char) : Option (Option Nat) :=
  if cs.isEmpty then some none
  else
    match Decimal.natural? cs with
    | some n => if n < 65536 then some (if standard = some n then none else some n) else none
    | none => none

def isDot (s : List Char) : Bool :=
  s = ['.'] || s.map Char.toLower = ['%', '2', 'e']

def isDoubleDot (s : List Char) : Bool :=
  let s := s.map Char.toLower
  s = ['.', '.'] || s = ['.', '%', '2', 'e'] || s = ['%', '2', 'e', '.'] ||
    s = ['%', '2', 'e', '%', '2', 'e']

/-- The segments of a path, the last one first, with the dots resolved. -/
def resolveDots (done : List (List Char)) : List (List Char) → List (List Char)
  | [] => done
  | s :: rest =>
    let last := rest.isEmpty
    if isDoubleDot s then resolveDots (if last then [] :: done.drop 1 else done.drop 1) rest
    else if isDot s then resolveDots (if last then [] :: done else done) rest
    else resolveDots (s :: done) rest

def cleanPath (isSlash : Char → Bool) (cs : List Char) : String :=
  let segments := Text.splitChars isSlash
    (match cs with
      | c :: rest => if isSlash c then rest else c :: rest
      | [] => [])
  let encoded := segments.map fun s => percentEncode pathSet (String.ofList s)
  String.ofList ((resolveDots [] encoded).reverse.flatMap ('/' :: ·))

/-- The query and the fragment of an address, from the character that begins them on. -/
def tail (reserved : List Char) (cs : List Char) : Option String × Option String :=
  let (query, rest) := cutBefore (· == '#') cs
  let encode (set : List Char) : List Char → Option String
    | [] => none
    | _ :: body => some (String.ofList (percentEncode set (String.ofList body)))
  (encode reserved query, encode fragmentSet rest)

def isWebSlash (c : Char) : Bool := c == '/' || c == '\\'

/-- The address of the scheme that what comes before its host, path and query writes. -/
def withHost? (scheme : String) (standard : Option Nat) (isSlash : Char → Bool)
    (readHost : List Char → Option String) (cs : List Char) : Option Url := do
  let (authority, rest) := cutBefore (fun c => isSlash c || c == '?' || c == '#') cs
  let (user, server) := cutAtLast '@' authority
  let (name, port) :=
    match cutAtLast ':' server with
    | (some name, port) => if port.contains ']' then (server, none) else (name, some port)
    | (none, name) => (name, none)
  if name.isEmpty && (user.isSome || port.isSome) then none
  else
    let host ← readHost name
    let port ← port? standard (port.getD [])
    let (path, rest) := cutBefore (fun c => c == '?' || c == '#') rest
    let path := if path.isEmpty && standard.isNone then "" else cleanPath isSlash path
    let (query, fragment) := tail (if standard.isSome then querySet else querySet.erase '\'') rest
    let encode (cs : List Char) : String := String.ofList (percentEncode userSet (String.ofList cs))
    let (username, password) :=
      match user.map (cutBefore (· == ':')) with
      | none => ("", none)
      | some (name, []) => (encode name, none)
      | some (name, _ :: word) => (encode name, if word.isEmpty then none else some (encode word))
    return { scheme, username, password, host := some host, port, path, query, fragment }

/-- The address of a file: its host may be left out, with the slashes before it. -/
def file? (cs : List Char) : Option Url := do
  let (name, rest) :=
    match cs with
    | a :: b :: rest =>
      if isWebSlash a && isWebSlash b then
        cutBefore (fun c => isWebSlash c || c == '?' || c == '#') rest
      else ([], cs)
    | _ => ([], cs)
  let host ← if name.isEmpty then some "" else Host.read? name
  let (path, rest) := cutBefore (fun c => c == '?' || c == '#') rest
  let (query, fragment) := tail querySet rest
  return { scheme := "file", host := if host = "localhost" then "" else host,
           path := cleanPath isWebSlash path, query, fragment }

def read? (s : String) : Option Url := do
  let (scheme, rest) ← scheme? (cleaned s)
  match hostSchemes.lookup scheme, rest with
  | some standard, rest =>
    withHost? scheme (some standard) isWebSlash Host.read? (rest.dropWhile isWebSlash)
  | none, rest =>
    if scheme = "file" then file? rest
    else
      match rest with
      | '/' :: '/' :: rest => withHost? scheme none (· == '/') Host.readOpaque? rest
      | rest =>
        let (path, rest) := cutBefore (fun c => c == '?' || c == '#') rest
        let (query, fragment) := tail (querySet.erase '\'') rest
        let path :=
          if path.head? = some '/' then cleanPath (· == '/') path
          else String.ofList (percentEncode [] (String.ofList path))
        return { scheme, host := none, path, query, fragment }

end Url

end Stepflow.Http
