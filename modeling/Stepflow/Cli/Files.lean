/-
  Stepflow.Cli.Files — files read by their paths.

  A path is walked from the working directory on, name by name: every name but the last
  has to be that of a directory. A directory is where files are.
-/

import Stepflow.Text.Cut
import Stepflow.Value.Basic

namespace Stepflow.Cli

inductive FileError where
  | missing
  | notDirectory
  | isDirectory
  | notText
  | other (detail : String)
  deriving DecidableEq, Repr

def FileError.message : FileError → String
  | missing => "No such file or directory (os error 2)"
  | notDirectory => "Not a directory (os error 20)"
  | isDirectory => "Is a directory (os error 21)"
  | notText => "stream did not contain valid UTF-8"
  | other detail => detail

abbrev Files := String → Except FileError String

namespace Files

def text? (files : Files) (path : String) : Option String := (files path).toOption

def names (path : String) : List String := Text.split (· == '/') path

def isDirectory (table : Table String) (place : List String) : Bool :=
  place.isEmpty || table.any fun f => place.isPrefixOf (names f.1) && names f.1 != place

def walk (table : Table String) (place : List String) : List String → Except FileError String
  | [] => .error .isDirectory
  | name :: rest =>
    if name = "" ∨ name = "." then walk table place rest
    else if name = ".." then
      if place.isEmpty then .error .missing else walk table place.dropLast rest
    else
      let place := place ++ [name]
      if isDirectory table place then walk table place rest
      else
        match table.find? (names ·.1 == place), rest with
        | none, _ => .error .missing
        | some file, [] => .ok file.2
        | some _, _ => .error .notDirectory

/-- The files of a table, whose keys are their paths from the working directory on. -/
def ofTable (table : Table String) : Files := fun path =>
  match names path with
  | "" :: _ => .error .missing
  | names => walk table [] names

end Files

end Stepflow.Cli
