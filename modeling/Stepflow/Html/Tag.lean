/-
  Stepflow.Html.Tag — tags, comments and raw text of HTML.

  Markup is read from after its opening angle bracket on. A tag that the text ends
  within is no tag and takes the rest of the text with it. Names of tags and attributes
  are kept in lower case, with the replacement character for every NUL.
-/

import Stepflow.Html.Reference

namespace Stepflow.Html

structure Tag where
  closing : Bool
  name : String
  attributes : List (String × String) := []
  /-- Does it end with a slash? -/
  selfClosing : Bool := false

def Tag.attribute? (t : Tag) (name : String) : Option String := t.attributes.lookup name

namespace Tag

def isSpace (c : Char) : Bool := c == ' ' || c == '\n' || c == '\t' || c == '\x0c'

def isSpaceOrReturn (c : Char) : Bool := isSpace c || c == '\r'

def endsName (c : Char) : Bool := isSpace c || c == '/' || c == '>'

def nameOf (cs : List Char) : String :=
  String.ofList (cs.map fun c => if c = '\x00' then '\ufffd' else c.toLower)

def valueOf (cs : List Char) : String :=
  String.ofList ((Reference.decodeFrom true 0 cs).map fun c => if c = '\x00' then '\ufffd' else c)

/-- The value of an attribute from after its equals sign on, and what follows it. -/
def readValue (cs : List Char) : String × List Char :=
  match cs.dropWhile isSpace with
  | '"' :: rest => (valueOf (rest.takeWhile (· != '"')), (rest.dropWhile (· != '"')).drop 1)
  | '\'' :: rest => (valueOf (rest.takeWhile (· != '\'')), (rest.dropWhile (· != '\'')).drop 1)
  | rest =>
    let ends (c : Char) := isSpace c || c == '>'
    (valueOf (rest.takeWhile fun c => !ends c), rest.dropWhile fun c => !ends c)

/-- The attributes of a tag, whether it ends with a slash, and what follows it. An
    attribute counts where it stands first. -/
def readAttributes :
    Nat → List (String × String) → List Char → Option ((List (String × String) × Bool) × List Char)
  | 0, _, _ => none
  | fuel + 1, found, cs =>
    match cs.dropWhile isSpace with
    | [] => none
    | '>' :: rest => some ((found.reverse, false), rest)
    | '/' :: '>' :: rest => some ((found.reverse, true), rest)
    | '/' :: rest => readAttributes fuel found rest
    | first :: rest =>
      let inName (c : Char) := !endsName c && c != '='
      let name := nameOf (first :: rest.takeWhile inName)
      let rest := rest.dropWhile inName
      let (value, rest) := match rest.dropWhile isSpace with
        | '=' :: rest => readValue rest
        | _ => ("", rest)
      let found := if found.any (·.1 == name) then found else (name, value) :: found
      readAttributes fuel found rest

def read? (closing : Bool) (cs : List Char) : Option (Tag × List Char) :=
  let name := cs.takeWhile fun c => !endsName c
  match readAttributes (cs.length + 1) [] (cs.dropWhile fun c => !endsName c) with
  | none => none
  | some ((attributes, selfClosing), rest) =>
    some ({ closing, name := nameOf name, attributes, selfClosing }, rest)

end Tag

/-! ## Comments and sections -/

/-- What follows the first occurrence of `piece`; nothing when there is none. -/
def after (piece : List Char) : List Char → List Char
  | [] => []
  | c :: cs =>
    match Text.dropStart? piece (c :: cs) with
    | some rest => rest
    | none => after piece cs

/-- What precedes the first occurrence of `piece`; all when there is none. -/
def upTo (piece : List Char) : List Char → List Char
  | [] => []
  | c :: cs => if (Text.dropStart? piece (c :: cs)).isSome then [] else c :: upTo piece cs

/-- What follows a comment; `dashes` counts those right before, up to two. -/
def afterComment (dashes : Nat) : List Char → List Char
  | [] => []
  | '-' :: cs => afterComment (min 2 (dashes + 1)) cs
  | '!' :: '>' :: cs => if dashes = 2 then cs else afterComment 0 ('>' :: cs)
  | '>' :: cs => if dashes = 2 then cs else afterComment 0 cs
  | _ :: cs => afterComment 0 cs

/-- What follows a comment from after its opening dashes on: it may end at once. -/
def afterCommentStart : List Char → List Char
  | '>' :: cs => cs
  | '-' :: '>' :: cs => cs
  | cs => afterComment 0 cs

/-! ## Raw text -/

inductive RawText where
  /-- Text in which references count. -/
  | escapable
  | plain
  | script
  /-- All of the rest. -/
  | endless
  deriving DecidableEq, Repr

def namesTag (name : List Char) (cs : List Char) : Bool :=
  (cs.take name.length).map Char.toLower == name && ((cs.drop name.length).head?).any Tag.endsName

inductive ScriptState where
  | normal
  | escaped
  | doublyEscaped
  deriving DecidableEq

def scriptText (name : List Char) (state : ScriptState) (dashes : Nat) :
    List Char → List Char × List Char
  | [] => ([], [])
  | c :: cs =>
    let go (state : ScriptState) (dashes : Nat) : List Char × List Char :=
      let (text, rest) := scriptText name state dashes cs
      (c :: text, rest)
    match state, c with
    | .normal, '<' =>
      match cs with
      | '/' :: tail => if namesTag name tail then ([], c :: cs) else go .normal 0
      | '!' :: '-' :: '-' :: _ => go .escaped 0
      | _ => go .normal 0
    | .normal, _ => go .normal 0
    | state, '-' => go state (min 2 (dashes + 1))
    | state, '>' => if dashes = 2 then go .normal 0 else go state 0
    | .escaped, '<' =>
      match cs with
      | '/' :: tail => if namesTag name tail then ([], c :: cs) else go .escaped 0
      | cs => if namesTag "script".toList cs then go .doublyEscaped 0 else go .escaped 0
    | .doublyEscaped, '<' =>
      match cs with
      | '/' :: tail => if namesTag "script".toList tail then go .escaped 0 else go .doublyEscaped 0
      | _ => go .doublyEscaped 0
    | state, _ => go state 0

/-- The characters before the closing tag of an element, and the rest from that tag on. -/
def rawText (name : List Char) : List Char → List Char × List Char
  | [] => ([], [])
  | '<' :: '/' :: cs =>
    if namesTag name cs then ([], '<' :: '/' :: cs)
    else
      let (text, rest) := rawText name ('/' :: cs)
      ('<' :: text, rest)
  | c :: cs =>
    let (text, rest) := rawText name cs
    (c :: text, rest)

/-- The content of an element that holds no markup, and what follows its closing tag; all
    is content when that is missing. -/
def RawText.read (kind : RawText) (name : String) (cs : List Char) : List Char × List Char :=
  let (text, rest) := match kind with
    | .endless => (cs, [])
    | .script => scriptText name.toList .normal 0 cs
    | _ => rawText name.toList cs
  let text := text.map fun c => if c = '\x00' then '\ufffd' else c
  let rest := match rest with
    | '<' :: '/' :: tail => ((Tag.read? true tail).map (·.2)).getD []
    | _ => []
  (if kind = .escapable then Reference.decode text else text, rest)

end Stepflow.Html
