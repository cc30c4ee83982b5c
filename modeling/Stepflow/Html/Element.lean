/-
  Stepflow.Html.Element — open elements and where their text goes.

  The elements that are open form a stack, the innermost first. Each keeps the text
  inside it so far; when it is closed, that text moves to the end of its parent's. Text
  and elements that must not stand between the rows of a table go before the table
  (`misplaced`): the table keeps that text apart until it is closed itself. Texts are
  kept backwards.
-/

namespace Stepflow.Html

inductive Space where
  | html
  | svg
  | math
  deriving DecidableEq, Repr

structure Element where
  id : Nat
  name : String
  space : Space := .html
  /-- Does it stand before the nearest table instead of inside its parent? -/
  misplaced : Bool := false
  /-- Text before it, if it is a table. -/
  before : List Char := []
  inner : List Char := []

namespace Element

def isAny (names : List String) (e : Element) : Bool := e.space == .html && names.contains e.name

def is (name : String) (e : Element) : Bool := e.space == .html && e.name == name

def text (e : Element) : List Char := e.inner ++ e.before

/-! ## Classes of elements -/

def tableParts : List String := ["table", "tbody", "tfoot", "thead", "tr"]

def isMathText (e : Element) : Bool :=
  e.space == .math && ["mi", "mo", "mn", "ms", "mtext"].contains e.name

def isGraphicsText (e : Element) : Bool :=
  e.space == .svg && ["foreignobject", "desc", "title"].contains e.name

def boundsScope (e : Element) : Bool :=
  e.isAny ["applet", "caption", "html", "table", "td", "th", "marquee", "object", "template"] ||
    e.isMathText || e.isGraphicsText

def boundsList (e : Element) : Bool := e.boundsScope || e.isAny ["ol", "ul"]

def boundsButton (e : Element) : Bool := e.boundsScope || e.is "button"

def boundsTable (e : Element) : Bool := e.isAny ["html", "table", "template"]

def boundsSelect (e : Element) : Bool := !e.isAny ["optgroup", "option"]

def specialNames : List String :=
  ["address", "applet", "area", "article", "aside", "base", "basefont", "bgsound", "blockquote",
    "body", "br", "button", "caption", "center", "col", "colgroup", "dd", "details", "dir", "div",
    "dl", "dt", "embed", "fieldset", "figcaption", "figure", "footer", "form", "frame", "frameset",
    "h1", "h2", "h3", "h4", "h5", "h6", "head", "header", "hgroup", "hr", "html", "iframe", "img",
    "input", "isindex", "li", "link", "listing", "main", "marquee", "menu", "meta", "nav",
    "noembed", "noframes", "noscript", "object", "ol", "p", "param", "plaintext", "pre", "script",
    "section", "select", "source", "style", "summary", "table", "tbody", "td", "template",
    "textarea", "tfoot", "th", "thead", "title", "tr", "track", "ul", "wbr", "xmp"]

def isSpecial (e : Element) : Bool := e.isAny specialNames

def impliedEnds : List String := ["dd", "dt", "li", "optgroup", "option", "p", "rb", "rp", "rt", "rtc"]

def templateEnds : List String :=
  impliedEnds ++ ["caption", "colgroup", "tbody", "td", "tfoot", "th", "thead", "tr"]

end Element

/-- Open elements, the innermost first. -/
abbrev Stack := List Element

namespace Stack

def attachBefore (text : List Char) : Stack → Stack
  | [] => []
  | e :: below =>
    if e.is "table" then { e with before := text ++ e.before } :: below
    else if e.is "template" || below.isEmpty then { e with inner := text ++ e.inner } :: below
    else e :: attachBefore text below

def attach (text : List Char) (misplaced : Bool) (below : Stack) : Stack :=
  if misplaced then attachBefore text below
  else
    match below with
    | [] => []
    | e :: below => { e with inner := text ++ e.inner } :: below

/-- The innermost element closed; the outermost one stays. -/
def pop : Stack → Stack
  | [] => []
  | [e] => [e]
  | e :: below => attach e.text e.misplaced below

theorem length_attachBefore (text : List Char) (s : Stack) : (attachBefore text s).length = s.length := by
  induction s with
  | nil => rfl
  | cons e below ih =>
    unfold attachBefore
    split
    · rfl
    · split
      · rfl
      · simp [ih]

theorem length_attach (text : List Char) (misplaced : Bool) (s : Stack) :
    (attach text misplaced s).length = s.length := by
  unfold attach
  split
  · exact length_attachBefore text s
  · cases s <;> rfl

theorem length_pop (s : Stack) (h : 1 < s.length) : (pop s).length < s.length := by
  match s, h with
  | e :: f :: below, _ => simp [pop, length_attach]

def popWhile (p : Element → Bool) (s : Stack) : Stack :=
  match s with
  | e :: f :: below => if p e then popWhile p (pop (e :: f :: below)) else s
  | s => s
termination_by s.length
decreasing_by exact length_pop _ (by simp)

def popThrough (p : Element → Bool) (s : Stack) : Stack := pop (popWhile (fun e => !p e) s)

/-- An element taken off the stack: what is open inside it stands where it stood. -/
def remove (id : Nat) : Stack → Stack
  | [] => []
  | [e] => [e]
  | e :: f :: below =>
    if e.id = id then pop (e :: f :: below)
    else if f.id = id then
      { e with misplaced := e.misplaced || f.misplaced } :: pop (f :: below)
    else e :: remove id (f :: below)

def inScope (bounds p : Element → Bool) : Stack → Bool
  | [] => false
  | e :: below => p e || (!bounds e && inScope bounds p below)

def hasId (s : Stack) (id : Nat) : Bool := s.any (·.id == id)

end Stack

end Stepflow.Html
