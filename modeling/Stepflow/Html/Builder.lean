/-
  Stepflow.Html.Builder — the state of a reader of HTML, and what tags do to it.

  Beside the open elements there is a list of formatting elements, the latest first,
  with marks where a part of the page begins that formatting does not reach into. A
  formatting element that is closed out of turn is opened again before the next text
  (`reopen`). Closing one that encloses a larger element splits it around that element
  (`closeFormatting`).
-/

import Stepflow.Html.Element
import Stepflow.Html.Tag

namespace Stepflow.Html

inductive Mode where
  | body
  | table
  | caption
  | columns
  | tableBody
  | row
  | cell
  | select
  | selectInTable
  | template
  deriving DecidableEq, Repr

structure Format where
  id : Nat
  tag : Tag

structure Builder where
  stack : Stack := [{ id := 0, name := "html" }]
  /-- The latest first; none is a mark. -/
  formats : List (Option Format) := []
  mode : Mode := .body
  /-- The modes of the open templates, the innermost first. -/
  templates : List Mode := []
  /-- The form that is open. -/
  form : Option Nat := none
  nextId : Nat := 1
  /-- Does what is put into a table go before it? -/
  misplacing : Bool := false
  /-- Is a line break that comes next passed over? -/
  skipsLine : Bool := false
  /-- What the content of the element just opened is. -/
  raw : Option RawText := none

namespace Builder

def onTop (b : Builder) (p : Element → Bool) : Bool := b.stack.head?.any p

def misplaces (b : Builder) : Bool := b.misplacing && b.onTop (·.isAny Element.tableParts)

def addText (b : Builder) (cs : List Char) : Builder :=
  { b with stack := Stack.attach cs.reverse b.misplaces b.stack }

def openElement (b : Builder) (name : String) (space : Space) : Builder :=
  { b with
    stack := { id := b.nextId, name, space, misplaced := b.misplaces } :: b.stack
    nextId := b.nextId + 1 }

def openTag (b : Builder) (name : String) : Builder := b.openElement name .html

def openRaw (b : Builder) (name : String) (kind : RawText) : Builder :=
  { b.openTag name with raw := some kind }

def closeTop (b : Builder) : Builder := { b with stack := Stack.pop b.stack }

def closeWhile (b : Builder) (p : Element → Bool) : Builder :=
  { b with stack := Stack.popWhile p b.stack }

def closeThrough (b : Builder) (p : Element → Bool) : Builder :=
  { b with stack := Stack.popThrough p b.stack }

def hasInScope (b : Builder) (bounds : Element → Bool) (name : String) : Bool :=
  Stack.inScope bounds (·.is name) b.stack

def closeImplied (b : Builder) (spared : String) : Builder :=
  b.closeWhile fun e => e.isAny Element.impliedEnds && e.name != spared

def closeParagraph (b : Builder) : Builder :=
  if b.hasInScope Element.boundsButton "p" then (b.closeImplied "p").closeThrough (·.is "p") else b

def closeInScope (b : Builder) (bounds : Element → Bool) (name spared : String) : Builder :=
  if b.hasInScope bounds name then (b.closeImplied spared).closeThrough (·.is name) else b

def closeNear (b : Builder) (name : String) : Builder :=
  match b.stack.find? fun e => e.is name || e.isSpecial with
  | some e => if e.is name then (b.closeImplied name).closeThrough (·.id == e.id) else b
  | none => b

/-! ## Formatting elements -/

def addMark (b : Builder) : Builder := { b with formats := none :: b.formats }

def dropToMark (b : Builder) : Builder :=
  { b with formats := (b.formats.dropWhile Option.isSome).drop 1 }

/-- The formatting elements since the last mark, the latest first. -/
def recentFormats (b : Builder) : List Format := (b.formats.takeWhile Option.isSome).filterMap id

def forgetFormat (b : Builder) (id : Nat) : Builder :=
  { b with formats := b.formats.filter fun f => f.all (·.id != id) }

/-- Formatting elements opened again, the oldest first. -/
def reopenAll (b : Builder) : List Format → Builder
  | [] => b
  | f :: rest =>
    let id := b.nextId
    let b := b.openTag f.tag.name
    reopenAll { b with formats := some { f with id } :: b.formats } rest

def reopen (b : Builder) : Builder :=
  let closed (f : Option Format) : Bool := f.any fun f => !b.stack.hasId f.id
  let again := (b.formats.takeWhile closed).filterMap id
  reopenAll { b with formats := b.formats.dropWhile closed } again.reverse

def sameFormat (a b : Tag) : Bool :=
  let sorted (t : Tag) := t.attributes.mergeSort fun x y => x.1 ≤ y.1
  a.name == b.name && sorted a == sorted b

def openFormat (b : Builder) (t : Tag) : Builder :=
  let same := b.recentFormats.filter fun f => sameFormat f.tag t
  let b := match same.drop 2 with
    | [] => b
    | older :: _ => b.forgetFormat older.id
  let id := b.nextId
  let b := b.openTag t.name
  { b with formats := some { id, tag := t } :: b.formats }

/-- The elements between a formatting element and the larger one that it encloses,
    innermost first: those still listed are opened anew, all others taken off the stack.
    Returns the first one opened anew too. -/
def renew (b : Builder) (anchor : Option Nat) (count : Nat) : List Nat → Builder × Option Nat
  | [] => (b, anchor)
  | id :: rest =>
    let b := if 3 < count then b.forgetFormat id else b
    if b.formats.any fun f => f.any (·.id == id) then
      let new := b.nextId
      let b := { b with
        nextId := new + 1
        stack := b.stack.map fun e => if e.id = id then { e with id := new } else e
        formats := b.formats.map fun f => f.map fun f => if f.id = id then { f with id := new } else f }
      renew b (anchor <|> some new) (count + 1) rest
    else renew { b with stack := Stack.remove id b.stack } anchor (count + 1) rest

def insertFormat (new : Format) (id : Nat) : List (Option Format) → List (Option Format)
  | [] => [some new]
  | f :: rest => if f.any (·.id == id) then some new :: f :: rest else f :: insertFormat new id rest

def insertInside (new : Element) (id : Nat) : Stack → Stack
  | [] => []
  | e :: below => if e.id = id then new :: e :: below else e :: insertInside new id below

def splitFormat (b : Builder) (f : Format) (above : List Element) (block : Element) : Builder :=
  let between := ((above.dropWhile (·.id != block.id)).drop 1).map (·.id)
  let (b, anchor) := b.renew none 1 between
  let new : Format := { f with id := b.nextId }
  let formats := insertFormat new (anchor.getD f.id) b.formats
  let stack := insertInside { id := new.id, name := f.tag.name } block.id (Stack.remove f.id b.stack)
  { b with formats, stack, nextId := b.nextId + 1 }.forgetFormat f.id

def closeFormatting (name : String) : Nat → Builder → Builder
  | 0, b => b
  | rounds + 1, b =>
    match b.recentFormats.find? (·.tag.name == name) with
    | none => b.closeNear name
    | some f =>
      if !b.stack.hasId f.id then b.forgetFormat f.id
      else if !Stack.inScope Element.boundsScope (·.id == f.id) b.stack then b
      else
        let above := b.stack.takeWhile (·.id != f.id)
        match (above.filter (·.isSpecial)).getLast? with
        | none => (b.closeThrough (·.id == f.id)).forgetFormat f.id
        | some block => closeFormatting name rounds (b.splitFormat f above block)

def closeFormat (b : Builder) (name : String) : Builder :=
  let listed (e : Element) := b.formats.any fun f => f.any (·.id == e.id)
  if b.onTop fun e => e.is name && !listed e then b.closeTop else closeFormatting name 8 b

/-! ## Modes -/

def modeOf (templates : List Mode) : Stack → Mode
  | [] => .body
  | [_] => .body
  | e :: below =>
    if e.is "select" then
      match below.find? fun a => a.isAny ["template", "table"] with
      | some a => if a.is "table" then .selectInTable else .select
      | none => .select
    else if e.isAny ["td", "th"] then .cell
    else if e.is "tr" then .row
    else if e.isAny ["tbody", "thead", "tfoot"] then .tableBody
    else if e.is "caption" then .caption
    else if e.is "colgroup" then .columns
    else if e.is "table" then .table
    else if e.is "template" then templates.head?.getD .template
    else if e.is "body" then .body
    else modeOf templates below

def resetMode (b : Builder) : Builder := { b with mode := modeOf b.templates b.stack }

def inTemplate (b : Builder) : Bool := b.stack.any (·.is "template")

end Builder

end Stepflow.Html
