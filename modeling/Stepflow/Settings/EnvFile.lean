/-
  Stepflow.Settings.EnvFile — variables of the environment kept in a file.

  A line holds a name, an equals sign and a value, with the word export in front if one
  likes. A value may be quoted, over several lines too; outside single quotes a dollar
  sign brings in the value of another variable. A number sign after a blank begins a
  comment. The variables are taken in from the top down to the first line that is not
  well formed, and never in the place of one that is set already.
-/

import Stepflow.Text.Blank
import Stepflow.Text.Cut

namespace Stepflow.Settings.EnvFile

abbrev Environment := List (String × String)

/-! ## Lines -/

/-- Where the end of a line stands: in the open, after a blank, after a backslash, in
    quotes, or after a backslash in quotes. -/
inductive Place where
  | plain
  | blank
  | escape
  | quoted (mark : Char)
  | quotedEscape (mark : Char)

def Place.next (p : Place) (c : Char) : Place :=
  let opened : Place :=
    if c = '\\' then .escape else if c = '"' || c = '\'' then .quoted c else .plain
  match p with
  | plain => if Text.isBlank c && c != '\n' && c != '\r' then .blank else opened
  | blank => opened
  | escape => plain
  | quoted mark => if c = '\\' then quotedEscape mark else if c = mark then plain else quoted mark
  | quotedEscape mark => quoted mark

def Place.isQuoted : Place → Bool
  | quoted _ => true
  | quotedEscape _ => true
  | _ => false

/-- The lines of a text, those within quotes joined; nothing in the place of a line whose
    quotes are never closed. `line` is what was read of the line, backwards; `skips`
    tells whether the rest of the line is a comment. -/
def lines (place : Place) (skips : Bool) (line : List Char) :
    List Char → List (Option (List Char))
  | [] => if place.isQuoted then [none] else [some line.reverse]
  | c :: cs =>
    if skips then
      if c = '\n' then some line.reverse :: lines .plain false [] cs
      else lines place true line cs
    else if c = '#' && line.all Text.isBlank then lines .plain true [] cs
    else
      match place, c with
      | .blank, '#' => lines .plain true line cs
      | place, c =>
        let next := place.next c
        if c = '\n' && !next.isQuoted then some line.reverse :: lines .plain false [] cs
        else lines next false (c :: line) cs

/-! ## Values -/

structure Reading where
  output : List Char := []
  single : Bool := false
  double : Bool := false
  escaped : Bool := false
  /-- Only blanks or a comment may follow. -/
  ending : Bool := false
  /-- The name after a dollar sign, backwards, and whether it is in braces. -/
  name : Option (List Char × Bool) := none

namespace Reading

def push (r : Reading) (c : Char) : Reading := { r with output := c :: r.output }

def substitute (value : String → String) (r : Reading) : Reading :=
  match r.name with
  | none => r
  | some (name, _) =>
    { r with output := (value (String.ofList name.reverse)).toList.reverse ++ r.output, name := none }

def inName (c : Char) : Bool := c.isAlphanum || (0x80 ≤ c.toNat && !Text.isBlank c)

def nameChar (value : String → String) (r : Reading) (name : List Char) (braced : Bool) (c : Char) :
    Reading :=
  if inName c then { r with name := some (c :: name, braced) }
  else if braced then
    if c = '\x7d' then r.substitute value else { r with name := some (c :: name, true) }
  else if c = '\x7b' && name.isEmpty then { r with name := some ([], true) }
  else
    let r := r.substitute value
    if c = '$' then { r with name := some ([], false) } else r.push c

/-- The state after a character of a value; nothing when it has no place there. -/
def char? (value : String → String) (r : Reading) (c : Char) : Option Reading :=
  if r.ending then if c = ' ' || c = '\t' then some r else none
  else if r.escaped then
    let r := { r with escaped := false }
    if "\\'\"$ ".toList.contains c then some (r.push c)
    else if c = 'n' then some (r.push '\n')
    else none
  else if r.single then some (if c = '\'' then { r with single := false } else r.push c)
  else
    match r.name with
    | some (name, braced) => some (r.nameChar value name braced c)
    | none =>
      if c = '$' then some { r with name := some ([], false) }
      else if c = '\\' then some { r with escaped := true }
      else if c = '"' then some { r with double := !r.double }
      else if r.double then some (r.push c)
      else if c = '\'' then some { r with single := true }
      else if c = ' ' || c = '\t' then some { r with ending := true }
      else some (r.push c)

def finish? (value : String → String) (r : Reading) : Option String :=
  if r.single || r.double || r.name.any (·.2) then none
  else some (String.ofList (r.substitute value).output.reverse)

end Reading

def value? (value : String → String) (r : Reading) : List Char → Option String
  | [] => r.finish? value
  | c :: cs =>
    if r.ending && c == '#' then r.finish? value
    else
      match r.char? value c with
      | some r => value? value r cs
      | none => none

/-! ## Files -/

def name? (cs : List Char) : Option (String × List Char) :=
  let inName (c : Char) := c.isAlphanum || c == '_' || c == '.'
  match cs with
  | [] => none
  | c :: _ =>
    if c.isAlpha || c == '_' then
      some (String.ofList (cs.takeWhile inName), Text.trimStart (cs.dropWhile inName))
    else none

/-- The variable that a line sets, if any; nothing when the line is not well formed. -/
def line? (value : String → String) (cs : List Char) : Option (Option (String × String)) :=
  let assigned (name : String) (cs : List Char) : Option (Option (String × String)) :=
    match cs with
    | '=' :: cs =>
      match Text.trimStart cs with
      | [] => some (some (name, ""))
      | '#' :: _ => some (some (name, ""))
      | cs => (value? value {} cs).map fun v => some (name, v)
    | _ => none
  match Text.trimChars cs with
  | [] => some none
  | '#' :: _ => some none
  | cs =>
    match name? cs with
    | none => none
    | some ("export", '=' :: rest) => assigned "export" ('=' :: rest)
    | some ("export", rest) => (name? rest).bind fun n => assigned n.1 n.2
    | some (name, rest) => assigned name rest

/-- The environment with the variables of lines taken in; `seen` holds those of the lines
    before. -/
def takeIn (env seen : Environment) : List (Option (List Char)) → Environment
  | [] => env
  | none :: _ => env
  | some line :: rest =>
    let value (name : String) : String := ((env.lookup name <|> seen.lookup name)).getD ""
    match line? value line with
    | none => env
    | some none => takeIn env seen rest
    | some (some (name, v)) =>
      let env := if (env.lookup name).isSome then env else env ++ [(name, v)]
      takeIn env ((name, v) :: seen) rest

def load (env : Environment) (text : String) : Environment :=
  let cs := text.toList
  let cs := if cs.head? = some '\ufeff' then cs.drop 1 else cs
  takeIn env [] (lines .plain false [] cs)

end Stepflow.Settings.EnvFile
