/-
  Stepflow.Value.Merge — merging one object into another.

  Objects merge key by key, at every level. Any other value, arrays included, replaces
  what was there before.
-/

import Stepflow.Value.Basic

namespace Stepflow

mutual
def Value.merge (target : Value) : Value → Value
  | .object incoming =>
    match target with
    | .object fields => .object (Fields.merge fields incoming)
    | _ => .object incoming
  | v => v

def Fields.merge (target : List (String × Value)) : List (String × Value) → List (String × Value)
  | [] => target
  | (key, v) :: rest =>
    let merged :=
      match Table.get? target key with
      | some old => Value.merge old v
      | none => v
    Fields.merge (Table.insert target key merged) rest
end

/-- An object merged into anything gives an object. -/
theorem Value.merge_object (target : Value) (fields : Fields) :
    ∃ merged, Value.merge target (.object fields) = .object merged := by
  cases target <;> simp [Value.merge]

/-- A key that `incoming` lacks names what it named in `target`. -/
theorem Fields.get?_merge_other (target incoming : Fields) {key : String} (h : Table.get? incoming key = none) :
    Table.get? (Fields.merge target incoming) key = Table.get? target key := by
  induction incoming generalizing target with
  | nil => simp only [Fields.merge]
  | cons field rest ih =>
    obtain ⟨k, v⟩ := field
    by_cases hk : k = key
    · simp only [Table.get?, hk, if_true, reduceCtorEq] at h
    · simp only [Table.get?, hk, if_false] at h
      simp only [Fields.merge, ih _ h, Table.get?_insert, hk, if_false]

/-- Merging removes no key. -/
theorem Fields.has_merge (target incoming : Fields) {key : String} (h : Table.has target key = true) :
    Table.has (Fields.merge target incoming) key = true := by
  induction incoming generalizing target with
  | nil => simpa only [Fields.merge] using h
  | cons field rest ih =>
    obtain ⟨k, v⟩ := field
    rw [Fields.merge]
    exact ih _ ((Table.has_insert target _).mpr (.inr h))

end Stepflow
