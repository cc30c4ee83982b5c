/-
  Stepflow.Cli.Arguments — the arguments of the command line.

  The first argument names a command, and options follow it: a name after two hyphens,
  with its value after an equals sign or as the next argument. No option may be given
  twice, and a value may not look like an option. Arguments are taken from left to
  right, and the first one that asks for help or cannot be used decides.
-/

import Stepflow.Text.Cut

namespace Stepflow.Cli

structure RunArgs where
  workflow : String
  context : Option String := none
  startAt : Option String := none
  logs : Bool := false
  deriving DecidableEq, Repr

inductive Command where
  | run (args : RunArgs)
  | validate (workflow : String)
  deriving DecidableEq, Repr

inductive Usage where
  | help
  | version
  | invalid
  deriving DecidableEq, Repr

def Usage.exitCode : Usage → UInt32
  | help => 0
  | version => 0
  | invalid => 2

namespace Arguments

inductive Kind where
  | flag
  /-- A path, which is not empty. -/
  | path
  | text
  deriving DecidableEq

abbrev Options := List (String × Kind)

def runOptions : Options :=
  [("workflow", .path), ("context", .path), ("start-at", .text), ("logs", .flag)]

def validateOptions : Options := [("workflow", .path)]

abbrev Given := List (String × String)

/-- One more option, unless it is given already or its value is not allowed. -/
def give (given : Given) (kind : Kind) (name value : String) : Except Usage Given :=
  if (given.lookup name).isSome || (kind == .path && value.isEmpty) then .error .invalid
  else .ok (given ++ [(name, value)])

inductive Flag where
  | long (name : String) (value : Option String)
  | short (letters : List Char)
  /-- Two hyphens and nothing else. -/
  | separator

def flag? (arg : String) : Option Flag :=
  match arg.toList with
  | ['-', '-'] => some .separator
  | '-' :: '-' :: name =>
    let name := String.ofList name
    match Text.splitOnce '=' name with
    | some (name, value) => some (.long name (some value))
    | none => some (.long name none)
  | ['-'] => none
  | '-' :: letters => some (.short letters)
  | _ => none

def Flag.isHelp : Flag → Bool
  | long name value => name == "help" && value.isNone
  | short letters => letters.head? == some 'h'
  | separator => false

def options (known : Options) : List String → Given → Except Usage Given
  | [], given => .ok given
  | arg :: rest, given =>
    match flag? arg with
    | none => .error .invalid
    | some f =>
      if f.isHelp then .error .help
      else
        match f with
        | .separator => if rest.isEmpty then .ok given else .error .invalid
        | .short _ => .error .invalid
        | .long name value =>
          match known.lookup name, value, rest with
          | none, _, _ => .error .invalid
          | some .flag, some _, _ => .error .invalid
          | some .flag, none, rest => give given .flag name "" >>= options known rest
          | some kind, some value, rest => give given kind name value >>= options known rest
          | some _, none, [] => .error .invalid
          | some kind, none, value :: rest =>
            if (flag? value).isSome then .error .invalid
            else give given kind name value >>= options known rest

def workflow (given : Given) : Except Usage String :=
  match given.lookup "workflow" with
  | some path => .ok path
  | none => .error .invalid

def commands : List String := ["run", "validate", "help"]

def parse : List String → Except Usage Command
  | "run" :: rest => do
    let given ← options runOptions rest []
    return .run { workflow := ← workflow given, context := given.lookup "context"
                  startAt := given.lookup "start-at", logs := (given.lookup "logs").isSome }
  | "validate" :: rest => do
    let given ← options validateOptions rest []
    return .validate (← workflow given)
  | ["help"] => .error .help
  | ["help", command] => .error (if commands.contains command then .help else .invalid)
  | arg :: _ =>
    match flag? arg with
    | some (.long "version" none) => .error .version
    | some (.short ('V' :: _)) => .error .version
    | some f => .error (if f.isHelp then .help else .invalid)
    | none => .error .invalid
  | [] => .error .invalid

end Arguments

end Stepflow.Cli
