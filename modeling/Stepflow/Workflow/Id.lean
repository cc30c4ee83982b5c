/-
  Stepflow.Workflow.Id — the ids of workflows.

  An id is one to 64 ASCII letters, digits, hyphens and underscores, a letter or digit
  first and last. The type holds such texts only.
-/

import Stepflow.Failure

namespace Stepflow

namespace WorkflowId

def maxLength : Nat := 64

def isInner (c : Char) : Bool := c.isAlphanum || c == '-' || c == '_'

def wellFormed (cs : List Char) : Bool :=
  cs.all isInner && (cs.head?.any Char.isAlphanum) && (cs.getLast?.any Char.isAlphanum)

def problem? (s : String) : Option String :=
  if s.isEmpty then some "Workflow ID cannot be empty"
  else if maxLength < s.utf8ByteSize then
    some ("Workflow ID exceeds maximum length of " ++ toString maxLength ++ " characters")
  else if wellFormed s.toList then none
  else
    some ("Invalid workflow ID '" ++ s ++ "': must be alphanumeric with hyphens or " ++
      "underscores, start and end with alphanumeric")

end WorkflowId

structure WorkflowId where
  text : String
  valid : WorkflowId.problem? text = none
  deriving DecidableEq

def WorkflowId.ofString (s : String) : Except WorkflowError WorkflowId :=
  match h : WorkflowId.problem? s with
  | none => .ok ⟨s, h⟩
  | some problem => .error (.validation problem)

end Stepflow
