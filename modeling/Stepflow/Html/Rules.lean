/-
  Stepflow.Html.Rules — what text and tags do in each part of a page.

  The rules of a part say what a piece of text or a tag does there, or that the part
  ends before it and the rules of the next part are to be asked (`Verdict.again`). What
  does not belong between the rows of a table follows the rules of ordinary content and
  is put before the table. Inside graphics and mathematics (`foreign`) elements nest
  without any further rules.

  Only what decides where text goes is kept: elements that can hold none are not opened.
-/

import Stepflow.Html.Builder

namespace Stepflow.Html

inductive Token where
  | text (cs : List Char)
  | tag (t : Tag)

/-- What comes of a token: a new state, or a new state in which a token is still to be
    looked at. -/
inductive Verdict where
  | done (b : Builder)
  | again (b : Builder) (t : Token)

namespace Rules

open Builder Element

def withoutNul (cs : List Char) : List Char := cs.filter (· != '\x00')

/-- Tags that only describe a page, and those whose content is no markup. -/
def headTags : List String :=
  ["base", "basefont", "bgsound", "link", "meta", "noframes", "noscript", "script", "style",
    "template", "title"]

def head (b : Builder) (t : Tag) : Builder :=
  match t.closing, t.name with
  | true, "template" =>
    if b.inTemplate then
      let b := b.closeWhile fun e => e.isAny templateEnds
      let b := (b.closeThrough (·.is "template")).dropToMark
      { b with templates := b.templates.drop 1 }.resetMode
    else b
  | true, _ => b
  | false, "title" => b.openRaw "title" .escapable
  | false, "script" => b.openRaw "script" .script
  | false, "template" =>
    { (b.openTag "template").addMark with mode := .template, templates := .template :: b.templates }
  | false, name =>
    if ["noframes", "noscript", "style"].contains name then b.openRaw name .plain else b

def blockTags : List String :=
  ["address", "article", "aside", "blockquote", "center", "details", "dialog", "dir", "div", "dl",
    "fieldset", "figcaption", "figure", "footer", "header", "hgroup", "main", "menu", "nav", "ol",
    "p", "search", "section", "summary", "ul"]

def closableTags : List String :=
  ["address", "article", "aside", "blockquote", "button", "center", "details", "dialog", "dir",
    "div", "dl", "fieldset", "figcaption", "figure", "footer", "header", "hgroup", "listing", "main",
    "menu", "nav", "ol", "pre", "search", "section", "summary", "ul"]

def headingTags : List String := ["h1", "h2", "h3", "h4", "h5", "h6"]

def formatTags : List String :=
  ["b", "big", "code", "em", "font", "i", "s", "small", "strike", "strong", "tt", "u"]

def misplacedTags : List String :=
  ["body", "caption", "col", "colgroup", "frame", "frameset", "head", "html", "tbody", "td",
    "tfoot", "th", "thead", "tr"]

def emptyInline : List String :=
  ["area", "br", "embed", "image", "img", "input", "keygen", "wbr"]

def emptyTags : List String := ["param", "source", "track"]

/-- An item of a list opened: the item before it ends. -/
def openItem (b : Builder) (name : String) (closes : List String) : Builder :=
  let stops (e : Element) := e.isSpecial && !e.isAny ["address", "div", "p"]
  let b := match b.stack.find? fun e => e.isAny closes || stops e with
    | some e =>
      if e.isAny closes then (b.closeImplied e.name).closeThrough (·.is e.name) else b
    | none => b
  b.closeParagraph.openTag name

def selectMode (m : Mode) : Mode :=
  match m with
  | .table | .caption | .tableBody | .row | .cell => .selectInTable
  | _ => .select

def openForeign (b : Builder) (t : Tag) (space : Space) : Builder :=
  let b := b.reopen
  if t.selfClosing then b else b.openElement t.name space

/-- A link opened: one that is open ends first. -/
def openLink (b : Builder) (t : Tag) : Builder :=
  let b := match b.recentFormats.find? (·.tag.name == "a") with
    | none => b
    | some f =>
      let b := (b.closeFormat "a").forgetFormat f.id
      { b with stack := Stack.remove f.id b.stack }
  b.reopen.openFormat t

def bodyStart (b : Builder) (t : Tag) : Builder :=
  let name := t.name
  if headTags.contains name then head b t
  else if misplacedTags.contains name || emptyTags.contains name then b
  else if blockTags.contains name then b.closeParagraph.openTag name
  else if headingTags.contains name then
    let b := b.closeParagraph
    (if b.onTop (·.isAny headingTags) then b.closeTop else b).openTag name
  else if formatTags.contains name then b.reopen.openFormat t
  else if emptyInline.contains name then b.reopen
  else
    match name with
    | "pre" | "listing" => { b.closeParagraph.openTag name with skipsLine := true }
    | "form" =>
      if b.form.isSome && !b.inTemplate then b
      else
        let b := b.closeParagraph
        { b.openTag name with form := if b.inTemplate then b.form else some b.nextId }
    | "li" => openItem b name ["li"]
    | "dd" | "dt" => openItem b name ["dd", "dt"]
    | "plaintext" => b.closeParagraph.openRaw name .endless
    | "button" => (b.closeInScope boundsScope name "").reopen.openTag name
    | "a" => openLink b t
    | "nobr" =>
      let b := b.reopen
      (if b.hasInScope boundsScope name then (b.closeFormat name).reopen else b).openFormat t
    | "applet" | "marquee" | "object" => (b.reopen.openTag name).addMark
    | "table" => { b.closeParagraph.openTag name with mode := .table }
    | "hr" => b.closeParagraph
    | "textarea" => { b.openRaw name .escapable with skipsLine := true }
    | "xmp" => b.closeParagraph.reopen.openRaw name .plain
    | "iframe" | "noembed" => b.openRaw name .plain
    | "select" => { b.reopen.openTag name with mode := selectMode b.mode }
    | "optgroup" | "option" =>
      (if b.onTop (·.is "option") then b.closeTop else b).reopen.openTag name
    | "rb" | "rtc" =>
      (if b.hasInScope boundsScope "ruby" then b.closeImplied "" else b).openTag name
    | "rp" | "rt" =>
      (if b.hasInScope boundsScope "ruby" then b.closeImplied "rtc" else b).openTag name
    | "math" => openForeign b t .math
    | "svg" => openForeign b t .svg
    | _ => b.reopen.openTag name

def closeForm (b : Builder) : Builder :=
  if b.inTemplate then b.closeInScope boundsScope "form" ""
  else
    match b.form with
    | none => b
    | some form =>
      let b := { b with form := none }
      if Stack.inScope boundsScope (·.id == form) b.stack then
        let b := b.closeImplied ""
        { b with stack := Stack.remove form b.stack }
      else b

def bodyEnd (b : Builder) (t : Tag) : Builder :=
  let name := t.name
  if closableTags.contains name then b.closeInScope boundsScope name ""
  else if headingTags.contains name then
    if Stack.inScope boundsScope (·.isAny headingTags) b.stack then
      (b.closeImplied "").closeThrough (·.isAny headingTags)
    else b
  else if formatTags.contains name then b.closeFormat name
  else
    match name with
    | "template" => head b t
    | "body" | "html" => b
    | "form" => closeForm b
    | "p" => b.closeParagraph
    | "li" => b.closeInScope boundsList name name
    | "dd" | "dt" => b.closeInScope boundsScope name name
    | "a" | "nobr" => b.closeFormat name
    | "applet" | "marquee" | "object" =>
      if b.hasInScope boundsScope name then (b.closeInScope boundsScope name "").dropToMark else b
    | "br" => b.reopen
    | _ => b.closeNear name

def body (b : Builder) : Token → Builder
  | .text cs =>
    match withoutNul cs with
    | [] => b
    | cs => b.reopen.addText cs
  | .tag t => if t.closing then bodyEnd b t else bodyStart b t

def misplaced (b : Builder) (t : Token) : Builder :=
  { body { b with misplacing := true } t with misplacing := false }

def clearTo (b : Builder) (names : List String) : Builder :=
  b.closeWhile fun e => !e.isAny ("template" :: "html" :: names)

def closeTable (b : Builder) : Builder := (b.closeThrough (·.is "table")).resetMode

def goOn (b : Builder) (mode : Mode) (t : Token) : Verdict := .again { b with mode } t

def table (b : Builder) (tok : Token) : Verdict :=
  let inTable := b.hasInScope boundsTable "table"
  match tok with
  | .text cs =>
    let cs := withoutNul cs
    if cs.all Tag.isSpaceOrReturn && b.onTop (·.isAny tableParts) then .done (b.addText cs)
    else .done (misplaced b (.text cs))
  | .tag t =>
    match t.closing, t.name with
    | false, "caption" =>
      let b := ((clearTo b ["table"]).addMark).openTag "caption"
      .done { b with mode := .caption }
    | false, "colgroup" => .done { (clearTo b ["table"]).openTag "colgroup" with mode := .columns }
    | false, "col" => goOn ((clearTo b ["table"]).openTag "colgroup") .columns tok
    | false, "table" => if inTable then .again (closeTable b) tok else .done b
    | true, "table" => .done (if inTable then closeTable b else b)
    | false, "form" =>
      .done (if b.inTemplate || b.form.isSome then b
        else { b with form := some b.nextId, nextId := b.nextId + 1 })
    | false, "input" =>
      if (t.attribute? "type").any (·.toLower == "hidden") then .done b else .done (misplaced b tok)
    | closing, name =>
      if !closing && ["tbody", "tfoot", "thead"].contains name then
        .done { (clearTo b ["table"]).openTag name with mode := .tableBody }
      else if !closing && ["td", "th", "tr"].contains name then
        goOn ((clearTo b ["table"]).openTag "tbody") .tableBody tok
      else if ["script", "style", "template"].contains name && !closing || closing && name == "template" then
        .done (head b t)
      else if closing && misplacedTags.contains name && name != "head" && name != "frameset" then .done b
      else .done (misplaced b tok)

def tableTags : List String :=
  ["caption", "col", "colgroup", "tbody", "td", "tfoot", "th", "thead", "tr"]

def caption (b : Builder) (tok : Token) : Verdict :=
  let close (b : Builder) : Builder :=
    { ((b.closeImplied "").closeThrough (·.is "caption")).dropToMark with mode := .table }
  let isOpen := b.hasInScope boundsTable "caption"
  match tok with
  | .text _ => .done (body b tok)
  | .tag t =>
    if t.closing && t.name == "caption" then .done (if isOpen then close b else b)
    else if (!t.closing && tableTags.contains t.name) || (t.closing && t.name == "table") then
      if isOpen then .again (close b) tok else .done b
    else if t.closing && (tableTags.contains t.name || t.name == "body" || t.name == "html") then .done b
    else .done (body b tok)

def columns (b : Builder) (tok : Token) : Verdict :=
  let leave (b : Builder) (tok : Token) : Verdict :=
    if b.onTop (·.is "colgroup") then goOn b.closeTop .table tok else .done b
  match tok with
  | .text cs =>
    let b := b.addText (cs.takeWhile Tag.isSpaceOrReturn)
    match cs.dropWhile Tag.isSpaceOrReturn with
    | [] => .done b
    | rest => leave b (.text rest)
  | .tag t =>
    match t.closing, t.name with
    | false, "col" => .done b
    | false, "html" => .done b
    | true, "col" => .done b
    | true, "colgroup" =>
      .done (if b.onTop (·.is "colgroup") then { b.closeTop with mode := .table } else b)
    | _, "template" => .done (head b t)
    | _, _ => leave b tok

def tableBody (b : Builder) (tok : Token) : Verdict :=
  let bodies := ["tbody", "tfoot", "thead"]
  let clear := clearTo b bodies
  match tok with
  | .text _ => table b tok
  | .tag t =>
    let name := t.name
    if !t.closing && name == "tr" then .done { clear.openTag "tr" with mode := .row }
    else if !t.closing && (name == "td" || name == "th") then goOn (clear.openTag "tr") .row tok
    else if t.closing && bodies.contains name then
      .done (if b.hasInScope boundsTable name then { clear.closeTop with mode := .table } else b)
    else if (!t.closing && ["caption", "col", "colgroup", "tbody", "tfoot", "thead"].contains name) ||
        (t.closing && name == "table") then
      if Stack.inScope boundsTable (·.isAny bodies) b.stack then goOn clear.closeTop .table tok
      else .done b
    else table b tok

def row (b : Builder) (tok : Token) : Verdict :=
  let inRow := b.hasInScope boundsTable "tr"
  let close : Builder := { (clearTo b ["tr"]).closeTop with mode := .tableBody }
  let bodies := ["tbody", "tfoot", "thead"]
  match tok with
  | .text _ => table b tok
  | .tag t =>
    let name := t.name
    if !t.closing && (name == "td" || name == "th") then
      .done { ((clearTo b ["tr"]).openTag name).addMark with mode := .cell }
    else if t.closing && name == "tr" then .done (if inRow then close else b)
    else if (!t.closing && ["caption", "col", "colgroup", "tbody", "tfoot", "thead", "tr"].contains name)
        || (t.closing && name == "table") then
      if inRow then .again close tok else .done b
    else if t.closing && bodies.contains name then
      if b.hasInScope boundsTable name && inRow then .again close tok else .done b
    else if t.closing && ["td", "th"].contains name then .done b
    else table b tok

def cell (b : Builder) (tok : Token) : Verdict :=
  let close : Builder :=
    { ((b.closeImplied "").closeThrough (·.isAny ["td", "th"])).dropToMark with mode := .row }
  match tok with
  | .text _ => .done (body b tok)
  | .tag t =>
    let name := t.name
    let inScope := b.hasInScope boundsTable name
    if t.closing && (name == "td" || name == "th") then
      .done (if inScope then
          { ((b.closeImplied "").closeThrough (·.is name)).dropToMark with mode := .row }
        else b)
    else if !t.closing && tableTags.contains name then
      if Stack.inScope boundsTable (·.isAny ["td", "th"]) b.stack then .again close tok else .done b
    else if t.closing && ["body", "caption", "col", "colgroup", "html"].contains name then .done b
    else if t.closing && tableParts.contains name then
      if inScope then .again close tok else .done b
    else .done (body b tok)

/-- In a menu of choices: tags count for little. -/
def select (b : Builder) (tok : Token) : Verdict :=
  let isOpen := b.hasInScope boundsSelect "select"
  let close : Builder := (b.closeThrough (·.is "select")).resetMode
  let closeIf (name : String) (b : Builder) : Builder := if b.onTop (·.is name) then b.closeTop else b
  match tok with
  | .text cs => .done (b.addText (withoutNul cs))
  | .tag t =>
    match t.closing, t.name with
    | false, "option" => .done ((closeIf "option" b).openTag "option")
    | false, "optgroup" => .done ((closeIf "optgroup" (closeIf "option" b)).openTag "optgroup")
    | true, "optgroup" =>
      let underGroup := (b.stack.drop 1).head?.any (·.is "optgroup")
      let b := if b.onTop (·.is "option") && underGroup then b.closeTop else b
      .done (closeIf "optgroup" b)
    | true, "option" => .done (closeIf "option" b)
    | _, "select" => .done (if isOpen then close else b)
    | false, "script" => .done (head b t)
    | _, "template" => .done (head b t)
    | false, name =>
      if ["input", "keygen", "textarea"].contains name && isOpen then .again close tok else .done b
    | true, _ => .done b

def selectInTable (b : Builder) (tok : Token) : Verdict :=
  match tok with
  | .tag t =>
    let close : Builder := (b.closeThrough (·.is "select")).resetMode
    if ["caption", "table", "tbody", "tfoot", "thead", "tr", "td", "th"].contains t.name then
      if !t.closing || b.hasInScope boundsTable t.name then .again close tok else .done b
    else select b tok
  | tok => select b tok

/-- Right inside a template: what comes first decides what it holds. -/
def template (b : Builder) (tok : Token) : Verdict :=
  let holding (m : Mode) : Verdict := goOn { b with templates := m :: b.templates.drop 1 } m tok
  match tok with
  | .text _ => .done (body b tok)
  | .tag t =>
    if t.closing then .done (if t.name == "template" then head b t else b)
    else if headTags.contains t.name then .done (head b t)
    else
      match t.name with
      | "caption" | "colgroup" | "tbody" | "tfoot" | "thead" => holding .table
      | "col" => holding .columns
      | "tr" => holding .tableBody
      | "td" | "th" => holding .row
      | _ => holding .body

def ofMode (b : Builder) (tok : Token) : Verdict :=
  match b.mode with
  | .body => .done (body b tok)
  | .table => table b tok
  | .caption => caption b tok
  | .columns => columns b tok
  | .tableBody => tableBody b tok
  | .row => row b tok
  | .cell => cell b tok
  | .select => select b tok
  | .selectInTable => selectInTable b tok
  | .template => template b tok

/-- A token looked at until it is dealt with. Every further look comes after an element
    has been closed or a more definite mode entered, so the depth of the page and the
    number of modes bound them. -/
def settle : Nat → Builder → Token → Builder
  | 0, b, _ => b
  | looks + 1, b, tok =>
    match ofMode b tok with
    | .done b => b
    | .again b tok => settle looks b tok

def html (b : Builder) (tok : Token) : Builder := settle (b.stack.length + 12) b tok

/-! ## Graphics and mathematics -/

def breakoutTags : List String :=
  ["b", "big", "blockquote", "body", "br", "center", "code", "dd", "div", "dl", "dt", "em",
    "embed", "h1", "h2", "h3", "h4", "h5", "h6", "head", "hr", "i", "img", "li", "listing", "menu",
    "meta", "nobr", "ol", "p", "pre", "ruby", "s", "small", "span", "strong", "strike", "sub",
    "sup", "table", "tt", "u", "ul", "var"]

def breaksOut (t : Tag) : Bool :=
  breakoutTags.contains t.name ||
    (t.name == "font" && t.attributes.any fun a => ["color", "face", "size"].contains a.1)

def isForeign (b : Builder) (tok : Token) : Bool :=
  match b.stack with
  | [] => false
  | e :: _ =>
    if e.space = .html then false
    else
      match tok with
      | .text _ => !e.isMathText && !e.isGraphicsText
      | .tag t =>
        if t.closing then true
        else if e.isMathText then t.name == "mglyph" || t.name == "malignmark"
        else if e.isGraphicsText then false
        else !(e.space == .math && e.name == "annotation-xml" && t.name == "svg")

/-- An end tag in graphics or mathematics; the elements are looked at from the innermost
    one on. -/
def foreignEnd (b : Builder) (t : Tag) (first : Bool) : Stack → Builder
  | [] => b
  | [_] => b
  | e :: below =>
    if !first && e.space == .html then html b (.tag t)
    else if e.name == t.name then b.closeThrough (·.id == e.id)
    else foreignEnd b t false below

def foreign (b : Builder) (tok : Token) : Builder :=
  match tok with
  | .text cs => b.addText (cs.map fun c => if c = '\x00' then '\ufffd' else c)
  | .tag t =>
    if t.closing then foreignEnd b t true b.stack
    else if breaksOut t then
      html (b.closeWhile fun e => e.space != .html && !e.isMathText && !e.isGraphicsText) tok
    else if t.selfClosing then b
    else b.openElement t.name ((b.stack.head?.map (·.space)).getD .html)

def afterSkip (b : Builder) (tok : Token) : Token :=
  match tok with
  | .text ('\n' :: cs) => .text (if b.skipsLine then cs else '\n' :: cs)
  | tok => tok

def token (b : Builder) (tok : Token) : Builder :=
  let tok := afterSkip b tok
  let b := { b with skipsLine := false }
  match tok with
  | .text [] => b
  | tok => if isForeign b tok then foreign b tok else html b tok

end Rules

end Stepflow.Html
