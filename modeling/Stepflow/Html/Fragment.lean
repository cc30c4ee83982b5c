/-
  Stepflow.Html.Fragment — the text of a piece of HTML.

  Text runs to the next tag, comment or declaration; an angle bracket that begins none
  of them is text. What follows the start tag of an element without markup is read as
  its content at once. At the end all open elements are closed, and the text is that of
  the outermost one, without its outer blanks.
-/

import Stepflow.Html.Rules
import Stepflow.Text.Blank

namespace Stepflow.Html

namespace Fragment

def withLineFeeds : List Char → List Char
  | [] => []
  | '\r' :: '\n' :: cs => '\n' :: withLineFeeds cs
  | c :: cs => (if c = '\r' then '\n' else c) :: withLineFeeds cs

inductive Markup where
  | tag (t : Tag)
  /-- A comment or a declaration. -/
  | comment
  /-- A section of text inside graphics or mathematics. -/
  | section (cs : List Char)
  /-- A tag that the text ends within. -/
  | unfinished
  /-- Nothing: an end tag without a name. -/
  | nothing

def afterBracket (cs : List Char) : List Char := (cs.dropWhile (· != '>')).drop 1

def readTag (closing : Bool) (cs : List Char) : Markup × List Char :=
  match Tag.read? closing cs with
  | some (t, rest) => (.tag t, rest)
  | none => (.unfinished, [])

/-- The markup after an angle bracket, if it begins any; `sections` tells whether
    sections of text are known. -/
def readMarkup? (sections : Bool) (cs : List Char) : Option (Markup × List Char) :=
  match cs with
  | '!' :: '-' :: '-' :: rest => some (.comment, afterCommentStart rest)
  | '!' :: rest =>
    let opening := "[CDATA[".toList
    match Text.dropStart? opening rest with
    | some inside =>
      if sections then
        let closing := "]]>".toList
        some (.section (upTo closing inside), after closing inside)
      else some (.comment, afterBracket rest)
    | none => some (.comment, afterBracket rest)
  | '?' :: rest => some (.comment, afterBracket rest)
  | '/' :: '>' :: rest => some (.nothing, rest)
  | ['/'] => none
  | '/' :: c :: rest =>
    if c.isAlpha then some (readTag true (c :: rest)) else some (.comment, afterBracket (c :: rest))
  | c :: rest => if c.isAlpha then some (readTag false (c :: rest)) else none
  | [] => none

/-- The state of a reader, and text read that no tag or comment has ended yet. -/
structure State where
  builder : Builder := {}
  pending : List Char := []

namespace State

/-- The state after the pending text, backwards until now, has been put in its place. -/
def flush (s : State) : Builder :=
  if s.pending.isEmpty then s.builder
  else Rules.token s.builder (.text (Reference.decode s.pending.reverse))

def knowsSections (s : State) : Bool := s.builder.onTop (·.space != .html)

end State

/-- The content of an element without markup that has just been opened, and the rest. -/
def readRaw (b : Builder) (t : Tag) (cs : List Char) : Builder × List Char :=
  match b.raw with
  | none => (b, cs)
  | some kind =>
    let (text, rest) := kind.read t.name cs
    let text := match text with
      | '\n' :: tail => if b.skipsLine then tail else text
      | text => text
    ({ (b.addText text).closeTop with raw := none, skipsLine := false }, rest)

/-- A text read to its end; every round takes at least one character. -/
def read : Nat → State → List Char → Builder
  | 0, s, _ => s.flush
  | _, s, [] => s.flush
  | rounds + 1, s, '<' :: cs =>
    match readMarkup? s.knowsSections cs with
    | none => read rounds { s with pending := '<' :: s.pending } cs
    | some (.nothing, rest) => read rounds s rest
    | some (.unfinished, _) => s.flush
    | some (.comment, rest) => read rounds { builder := { s.flush with skipsLine := false } } rest
    | some (.section text, rest) => read rounds { builder := Rules.token s.flush (.text text) } rest
    | some (.tag t, rest) =>
      let (b, rest) := readRaw (Rules.token s.flush (.tag t)) t rest
      read rounds { builder := b } rest
  | rounds + 1, s, c :: cs => read rounds { s with pending := c :: s.pending } cs

def textOf (b : Builder) : List Char :=
  match Stack.popWhile (fun _ => true) b.stack with
  | e :: _ => e.text.reverse
  | [] => []

end Fragment

def plainText (source : String) : String :=
  let cs := Fragment.withLineFeeds source.toList
  let cs := if cs.head? = some '\ufeff' then cs.drop 1 else cs
  Text.trim (String.ofList (Fragment.textOf (Fragment.read (cs.length + 1) {} cs)))

end Stepflow.Html
