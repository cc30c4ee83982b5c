/-
  Stepflow.Audit.Book — audit entries in the order in which they were opened.

  Entries are added at the end, changed only by being closed, and never removed.
-/

import Stepflow.Audit.Entry

namespace Stepflow.Audit

open Time

/-- Audit entries, oldest first. -/
abbrev Book := List Entry

namespace Book

def get? (b : Book) (id : String) : Option Entry := b.find? (·.id == id)

def create (b : Book) (e : Entry) : Except ServiceError Book :=
  if b.any (·.id == e.id) then
    .error (.conflict ("Execution log '" ++ e.id ++ "' already exists"))
  else .ok (b ++ [e])

def replaceFirst (b : Book) (id : String) (new : Entry) : Book :=
  match b with
  | [] => []
  | e :: rest => if e.id == id then new :: rest else e :: replaceFirst rest id new

def update (b : Book) (now : Timestamp) (id : String) (c : Completion) :
    Except ServiceError (Entry × Book) :=
  match get? b id with
  | none => .error (.notFound ("Execution log '" ++ id ++ "' not found"))
  | some e =>
    match e.complete now c with
    | .ok closed => .ok (closed, b.replaceFirst id closed)
    | .error err => .error err.toServiceError

structure Query where
  workflowId : Option WorkflowId := none
  stepId : Option String := none
  status : Option Status := none
  parent : Option String := none
  topLevelOnly : Bool := false
  limit : Option Nat := none

def Query.accepts (q : Query) (e : Entry) : Bool :=
  q.workflowId.all (· == e.workflowId) && q.stepId.all (· == e.stepId) &&
    q.status.all (· == e.status) && q.parent.all (fun p => e.parent == some p) &&
    (!q.topLevelOnly || e.parent.isNone)

/-- The entries that a query finds, oldest first. -/
def list (b : Book) (q : Query) : List Entry :=
  let found := b.filter q.accepts
  match q.limit with
  | some n => found.take n
  | none => found

end Book

end Stepflow.Audit
