/-
  Stepflow.Toml.Document — configuration texts read.

  A text is a list of lines: keys with values, and headers that name the table to which
  the following keys belong. Tables may be opened in any order and need not be opened
  before the tables in them, but nothing is defined twice: a table with a header has no
  second one, one that dotted keys made is not opened by a header, and dotted keys do
  not reach into one that a header opened. A doubled header adds a table to a list.
-/

import Stepflow.Toml.Scalar
import Stepflow.Value.Basic

namespace Stepflow.Toml

/-! ## Tables under construction -/

structure Made where
  /-- Only by way of something in it. -/
  implicit : Bool := false
  /-- By a dotted key. -/
  dotted : Bool := false

inductive Node where
  | item (i : Item)
  | table (made : Made) (entries : List (String × Node))
  /-- The tables of a list, the last one first. -/
  | tables (rows : List (List (String × Node)))

namespace Node

mutual
def finish : Node → Item
  | item i => i
  | table _ entries => .table (finishEntries entries)
  | tables rows => .array ((finishRows rows).reverse)

def finishEntries : List (String × Node) → List (String × Item)
  | [] => []
  | (k, n) :: rest => (k, finish n) :: finishEntries rest

def finishRows : List (List (String × Node)) → List Item
  | [] => []
  | row :: rows => .table (finishEntries row) :: finishRows rows
end

/-- A change of the table at a path, made on the way if need be; `dotted` tells whether
    the path is part of a dotted key. -/
def change (dotted : Bool)
    (f : Made → List (String × Node) → Option (Made × List (String × Node))) :
    List String → Made → List (String × Node) → Option (Made × List (String × Node))
  | [], made, entries => f made entries
  | key :: path, made, entries =>
    match Table.get? entries key with
    | none => do
      let (m, es) ← change dotted f path ⟨true, dotted⟩ []
      return (made, Table.insert entries key (table m es))
    | some (item _) => none
    | some (tables []) => none
    | some (tables (row :: rows)) => do
      let (_, es) ← change dotted f path {} row
      return (made, Table.insert entries key (tables (es :: rows)))
    | some (table m es) =>
      if dotted && !m.implicit then none
      else do
        let (m, es) ← change dotted f path m es
        return (made, Table.insert entries key (table m es))

/-- A key of a table given a value; `path` are the keys before the last dot. -/
def define (path : List String) (key : String) (value : Item) :
    Made → List (String × Node) → Option (Made × List (String × Node)) :=
  change true (fun made entries =>
    if made.dotted == path.isEmpty || Table.has entries key then none
    else some (made, Table.insert entries key (item value))) path

def openTable (key : String) (made : Made) (entries : List (String × Node)) :
    Option (Made × List (String × Node)) :=
  match Table.get? entries key with
  | none => some (made, Table.insert entries key (table {} []))
  | some (table m es) =>
    if m.implicit && !m.dotted then some (made, Table.insert entries key (table {} es)) else none
  | some _ => none

def openRow (key : String) (made : Made) (entries : List (String × Node)) :
    Option (Made × List (String × Node)) :=
  match Table.get? entries key with
  | none => some (made, Table.insert entries key (tables [[]]))
  | some (tables rows) => some (made, Table.insert entries key (tables ([] :: rows)))
  | some _ => none

end Node

/-! ## Reading -/

namespace Document

def isSpace (c : Char) : Bool := c == ' ' || c == '\t'

def skipSpace (cs : List Char) : List Char := cs.dropWhile isSpace

/-- The characters after a comment, if there is one here; nothing when a character in it
    is not allowed. -/
def skipComment? : List Char → Option (List Char)
  | '#' :: cs =>
    let isEnd (c : Char) := c == '\n' || c == '\r'
    if (cs.takeWhile fun c => !isEnd c).all Scalar.isPlain then
      some (cs.dropWhile fun c => !isEnd c)
    else none
  | cs => some cs

def skipLines? : Nat → List Char → Option (List Char)
  | 0, cs => some cs
  | fuel + 1, cs => do
    let cs ← skipComment? (skipSpace cs)
    match Scalar.lineBreak? .first cs with
    | some (_, cs) => skipLines? fuel cs
    | none => some cs

def lineEnd? (cs : List Char) : Option (List Char) := do
  let cs ← skipComment? (skipSpace cs)
  match cs with
  | [] => some []
  | cs => (Scalar.lineBreak? .first cs).map (·.2)

/-- A part of a key: bare or between quotation marks. -/
def keyPart? (edition : Edition) (cs : List Char) : Option (String × List Char) :=
  let isBare (c : Char) := c.isAlphanum || c == '_' || c == '-'
  match cs.takeWhile isBare with
  | [] => Scalar.line? edition cs
  | word => some (String.ofList word, cs.dropWhile isBare)

def key? (edition : Edition) : Nat → List Char → Option (List String × List Char)
  | 0, _ => none
  | fuel + 1, cs => do
    let (part, cs) ← keyPart? edition (skipSpace cs)
    match skipSpace cs with
    | '.' :: cs => do
      let (parts, cs) ← key? edition fuel cs
      return (part :: parts, cs)
    | cs => return ([part], cs)

def defineAt (parts : List String) (value : Item) (made : Made) (entries : List (String × Node)) :
    Option (List (String × Node)) :=
  match parts.getLast? with
  | none => none
  | some key => (Node.define parts.dropLast key value made entries).map (·.2)

def maxDepth : Nat := 80

mutual
/-- A value; `fuel` bounds the number of parts, `depth` the nesting. -/
def value? (edition : Edition) : Nat → Nat → List Char → Option (Item × List Char)
  | 0, _, _ => none
  | fuel + 1, depth, cs =>
    match cs with
    | '"' :: _ => (Scalar.text? edition cs).map fun r => (.string r.1, r.2)
    | '\'' :: _ => (Scalar.text? edition cs).map fun r => (.string r.1, r.2)
    | '[' :: rest =>
      if depth = 0 then none
      else (items? edition fuel (depth - 1) rest).map fun r => (.array r.1, r.2)
    | '\x7b' :: rest =>
      if depth = 0 then none
      else (members? edition fuel (depth - 1) true [] rest).map fun r =>
        (.table (Node.finishEntries r.1), r.2)
    | cs => Scalar.bare? edition cs

def items? (edition : Edition) : Nat → Nat → List Char → Option (List Item × List Char)
  | 0, _, _ => none
  | fuel + 1, depth, cs => do
    match ← skipLines? cs.length cs with
    | ']' :: cs => return ([], cs)
    | cs =>
      let (item, cs) ← value? edition fuel depth cs
      match ← skipLines? cs.length cs with
      | ']' :: cs => return ([item], cs)
      | ',' :: cs =>
        let (items, cs) ← items? edition fuel depth cs
        return (item :: items, cs)
      | _ => none

/-- The entries of an inline table from after its brace or a comma on; `first` tells
    which. -/
def members? (edition : Edition) :
    Nat → Nat → Bool → List (String × Node) → List Char → Option ((List (String × Node)) × List Char)
  | 0, _, _, _, _ => none
  | fuel + 1, depth, first, entries, cs => do
    let skip (cs : List Char) : Option (List Char) :=
      match edition with
      | .first => some (skipSpace cs)
      | .second => skipLines? cs.length cs
    match ← skip cs with
    | '\x7d' :: cs => if first || edition = .second then return (entries, cs) else none
    | cs =>
      let (parts, cs) ← key? edition fuel cs
      let cs ← Time.Timestamp.char? '=' (skipSpace cs)
      let (v, cs) ← value? edition fuel depth (skipSpace cs)
      let entries ← defineAt parts v {} entries
      match ← skip cs with
      | '\x7d' :: cs => return (entries, cs)
      | ',' :: cs => members? edition fuel depth false entries cs
      | _ => none
end

/-- A header from after its first bracket on: the parts of its key, and whether it is
    doubled. -/
def header? (edition : Edition) (cs : List Char) : Option ((List String × Bool) × List Char) :=
  match cs with
  | '[' :: cs => do
    let (parts, cs) ← key? edition cs.length cs
    match cs with
    | ']' :: ']' :: cs => return ((parts, true), cs)
    | _ => none
  | cs => do
    let (parts, cs) ← key? edition cs.length cs
    match cs with
    | ']' :: cs => return ((parts, false), cs)
    | _ => none

/-- The lines of a text; `path` is the last header. -/
def lines? (edition : Edition) :
    Nat → List String → List (String × Node) → List Char → Option (List (String × Node))
  | 0, _, _, _ => none
  | fuel + 1, path, root, cs => do
    match ← skipLines? cs.length cs with
    | [] => return root
    | '[' :: cs =>
      let ((parts, doubled), cs) ← header? edition cs
      let cs ← lineEnd? cs
      let key ← parts.getLast?
      let (_, root) ← Node.change false (if doubled then Node.openRow key else Node.openTable key)
        parts.dropLast {} root
      lines? edition fuel parts root cs
    | cs =>
      let (parts, cs) ← key? edition cs.length cs
      let cs ← Time.Timestamp.char? '=' (skipSpace cs)
      let (v, cs) ← value? edition cs.length maxDepth (skipSpace cs)
      let cs ← lineEnd? cs
      let (_, root) ← Node.change false
        (fun made entries => (defineAt parts v made entries).map fun es => (made, es)) path {} root
      lines? edition fuel path root cs

end Document

/-- The table that a text holds, if it is well formed. -/
def read? (edition : Edition) (text : String) : Option (List (String × Item)) :=
  let cs := text.toList
  let cs := if cs.head? = some '\ufeff' then cs.drop 1 else cs
  (Document.lines? edition (cs.length + 1) [] [] cs).map Node.finishEntries

end Stepflow.Toml
