/-
  Stepflow.Value.Basic — dynamic values, and objects as lists of fields.

  An object is a list of fields, written and visited in the order of its keys. Keys
  are ordered by code points. `insert` keeps that order; the look-up finds the first
  field of a key, so the laws `get?_insert` and `get?_erase` hold of every list of
  fields, ordered or not. `Ordered` is the invariant that all operations keep.
-/

import Stepflow.Value.Number

namespace Stepflow

inductive Value where
  | null
  | bool (b : Bool)
  | number (n : Number)
  | string (s : String)
  | array (items : List Value)
  | object (fields : List (String × Value))

instance : Inhabited Value := ⟨.null⟩

abbrev Table (α : Type) := List (String × α)

abbrev Fields := Table Value

namespace Table

variable {α : Type}

def get? : Table α → String → Option α
  | [], _ => none
  | (k, a) :: rest, key => if k = key then some a else get? rest key

def has (t : Table α) (key : String) : Bool := (t.get? key).isSome

def insert : Table α → String → α → Table α
  | [], key, a => [(key, a)]
  | (k, b) :: rest, key, a =>
    if k = key then (key, a) :: rest
    else if key < k then (key, a) :: (k, b) :: rest
    else (k, b) :: insert rest key a

def erase (t : Table α) (key : String) : Table α := t.filter (·.1 != key)

def insertAll (t : Table α) (entries : List (String × α)) : Table α :=
  entries.foldl (fun t e => insert t e.1 e.2) t

/-- The table of a list of entries in any order; the last entry of a key wins. -/
def ofList (entries : List (String × α)) : Table α := insertAll [] entries

def keys (t : Table α) : List String := t.map (·.1)

def Ordered (t : Table α) : Prop := t.Pairwise (·.1 < ·.1)

theorem get?_insert (t : Table α) (key other : String) (a : α) :
    get? (insert t key a) other = if key = other then some a else get? t other := by
  induction t with
  | nil => simp [insert, get?]
  | cons e rest ih =>
    obtain ⟨k, b⟩ := e
    by_cases hk : k = key
    · subst hk
      by_cases ho : k = other <;> simp [insert, get?, ho]
    · by_cases hlt : key < k
      · simp [insert, get?, hk, hlt]
      · by_cases ho : k = other
        · subst ho
          simp [insert, get?, hk, hlt, Ne.symm hk]
        · simp [insert, get?, hk, hlt, ho, ih]

theorem has_insert (t : Table α) {key other : String} (a : α) :
    has (insert t key a) other = true ↔ key = other ∨ has t other = true := by
  by_cases h : key = other <;> simp [has, get?_insert, h]

theorem get?_erase (t : Table α) (key other : String) :
    get? (erase t key) other = if key = other then none else get? t other := by
  induction t with
  | nil => simp [erase, get?]
  | cons e rest ih =>
    obtain ⟨k, b⟩ := e
    simp only [erase, List.filter_cons] at ih ⊢
    by_cases hk : k = key
    · subst hk
      by_cases ho : k = other
      · simpa [ho] using ih
      · simpa [get?, ho] using ih
    · by_cases ho : k = other
      · subst ho
        simp [get?, hk, Ne.symm hk]
      · simpa [get?, hk, ho] using ih

/-- Entries of other keys leave what a key names. -/
theorem get?_insertAll_other (t : Table α) {entries : List (String × α)} {key : String}
    (h : ∀ e ∈ entries, e.1 ≠ key) : get? (insertAll t entries) key = get? t key := by
  unfold insertAll
  induction entries generalizing t with
  | nil => rfl
  | cons e rest ih =>
    rw [List.foldl_cons, ih _ fun f hf => h f (List.mem_cons_of_mem e hf), get?_insert,
      if_neg (h e (List.mem_cons_self ..))]

end Table

namespace Value

mutual
/-- Equality of structure: arrays item by item, objects field by field. -/
def beq : Value → Value → Bool
  | null, null => true
  | bool a, bool b => a == b
  | number a, number b => a == b
  | string a, string b => a == b
  | array xs, array ys => beqItems xs ys
  | object xs, object ys => beqFields xs ys
  | _, _ => false

def beqItems : List Value → List Value → Bool
  | [], [] => true
  | x :: xs, y :: ys => beq x y && beqItems xs ys
  | _, _ => false

def beqFields : List (String × Value) → List (String × Value) → Bool
  | [], [] => true
  | (k, x) :: xs, (l, y) :: ys => k == l && beq x y && beqFields xs ys
  | _, _ => false
end

instance : BEq Value := ⟨beq⟩

def fields? : Value → Option Fields
  | object fields => some fields
  | _ => none

def items? : Value → Option (List Value)
  | array items => some items
  | _ => none

def string? : Value → Option String
  | string s => some s
  | _ => none

def bool? : Value → Option Bool
  | bool b => some b
  | _ => none

def isNull : Value → Bool
  | null => true
  | _ => false

/-- A field of an object; nothing of any other value. -/
def field? (v : Value) (key : String) : Option Value := v.fields?.bind (·.get? key)

/-- The object of a list of fields in any order; the last field of a key wins. -/
def record (fields : List (String × Value)) : Value := object (Table.ofList fields)

def count (n : Nat) : Value := number (.ofNat n)

/-- A double as a value; one that is no number becomes null. -/
def double (x : Float) : Value := if x.isFinite then number (.double x) else null

def ofOption {α : Type} (f : α → Value) : Option α → Value
  | some a => f a
  | none => null

mutual
def depth : Value → Nat
  | array items => 1 + depthItems items
  | object fields => 1 + depthFields fields
  | _ => 0

def depthItems : List Value → Nat
  | [] => 0
  | v :: vs => max (depth v) (depthItems vs)

def depthFields : List (String × Value) → Nat
  | [] => 0
  | (_, v) :: rest => max (depth v) (depthFields rest)
end

end Value

end Stepflow
