/-
  Stepflow.Records.Store — business records in the order of their creation.

  A record belongs to a type, written in any case, and has an id that is one of its
  fields. The id is given at creation, and no later write changes it.
-/

import Stepflow.Failure
import Stepflow.Records.Query

namespace Stepflow.Records

structure RecordRef where
  type : String
  id : String
  deriving DecidableEq

def RecordRef.text (r : RecordRef) : String := r.type ++ "/" ++ r.id

structure Stored where
  type : String
  fields : Fields

def idKey : String := "id"

namespace Stored

def hasType (r : Stored) (type : String) : Bool := Text.lower r.type == Text.lower type

def isAt (r : Stored) (type id : String) : Bool :=
  r.hasType type && (r.fields.get? idKey).bind (·.string?) == some id

/-- The record with fields written over; the id stays. -/
def write (r : Stored) (fields : Fields) : Stored :=
  { r with fields := r.fields.insertAll (fields.filter (·.1 != idKey)) }

end Stored

/-- Records, oldest first. -/
abbrev Store := List Stored

namespace Store

def create (s : Store) (id type : String) (fields : Fields) : Except ServiceError (RecordRef × Store) :=
  if Text.isBlankText type then .error (.validation "Entity type cannot be empty")
  else .ok (⟨type, id⟩, s ++ [⟨type, fields.insert idKey (.string id)⟩])

def modifyFirst (s : Store) (type id : String) (f : Stored → Stored) : Store :=
  match s with
  | [] => []
  | r :: rest => if r.isAt type id then f r :: rest else r :: modifyFirst rest type id f

def update (s : Store) (type id : String) (fields : Fields) : Except ServiceError Store :=
  if s.any (·.isAt type id) then .ok (s.modifyFirst type id (·.write fields))
  else .error (.notFound ("Record '" ++ type ++ "/" ++ id ++ "' not found"))

def get? (s : Store) (type id : String) : Option Fields :=
  (s.find? (·.isAt type id)).map (·.fields)

def ofType (s : Store) (type : String) : List Fields :=
  (s.filter (·.hasType type)).map (·.fields)

def query (s : Store) (type : String) (q : Query) : Option (List Fields) := q.apply (s.ofType type)

end Store

end Stepflow.Records
