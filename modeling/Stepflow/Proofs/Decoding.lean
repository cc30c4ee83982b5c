/-
  Stepflow.Proofs.Decoding — what decoders make of trees, and of the trees of values.

  (1) What holds of all that a decoder returns holds of the items of a list and of the
  entries of an object (`items_all`, `entries_all`), and what every field of a record keeps
  holds when the record is put together (`RecordSpec.read_all`).

  (2) Decoded values are normal (`normal_value`, `normal_table`): the fields of their
  objects stand in order, at every level, so none stands twice.

  (3) Normal values, taken as trees, are decoded as themselves, with a budget of no less
  than their depth (`value_ofValue`, `table_ofFields`).

  (4) An object whose fields are declared, and are in order, is read as the record in which
  each of them has been set (`RecordSpec.read_ofFields`).
-/

import Stepflow.Json.Decode
import Stepflow.Proofs.Tables

namespace Stepflow

theorem Except.ok_bind {ε α β : Type} (a : α) (f : α → Except ε β) : Except.ok a >>= f = f a := rfl

theorem Except.bind_eq_ok {ε α β : Type} {x : Except ε α} {f : α → Except ε β} {b : β} :
    x >>= f = .ok b ↔ ∃ a, x = .ok a ∧ f a = .ok b := by
  cases x with
  | error e => exact ⟨nofun, fun ⟨_, h, _⟩ => nomatch h⟩
  | ok a => exact ⟨fun h => ⟨a, rfl, h⟩, fun ⟨_, ha, hf⟩ => Except.ok.inj ha ▸ hf⟩

theorem Except.mapError_eq_ok {ε ε' α : Type} {x : Except ε α} {f : ε → ε'} {a : α} :
    x.mapError f = .ok a ↔ x = .ok a := by
  cases x with
  | error e => exact ⟨nofun, nofun⟩
  | ok b => exact ⟨fun h => Except.ok.inj h ▸ rfl, fun h => Except.ok.inj h ▸ rfl⟩

namespace Json.Decode

/-! ## (1) Parts of what is decoded -/

section Parts

variable {α : Type} {f : Tree → Except DecodeError α} {P : α → Prop}

theorem items_all (hf : ∀ t a, f t = .ok a → P a) {ts : List Tree} {as : List α} (h : items f ts = .ok as) :
    ∀ a ∈ as, P a := by
  induction ts generalizing as with
  | nil =>
    cases h
    exact nofun
  | cons t ts ih =>
    obtain ⟨a, ha, h⟩ := Except.bind_eq_ok.mp h
    obtain ⟨as, has, h⟩ := Except.bind_eq_ok.mp h
    cases h
    exact List.forall_mem_cons.mpr ⟨hf t a ha, ih has⟩

theorem listOf_all (hf : ∀ t a, f t = .ok a → P a) {t : Tree} {as : List α} (h : listOf f t = .ok as) :
    ∀ a ∈ as, P a := by
  cases t with
  | array ts stop =>
    obtain ⟨as, has, h⟩ := Except.bind_eq_ok.mp h
    obtain ⟨-, -, h⟩ := Except.bind_eq_ok.mp h
    cases h
    exact items_all hf has
  | _ => cases h

theorem entries_all (hf : ∀ t a, f t = .ok a → P a) {members : List (Except Fault String × Tree)}
    {es : List (String × α)} (h : entries f members = .ok es) : ∀ e ∈ es, P e.2 := by
  induction members generalizing es with
  | nil =>
    cases h
    exact nofun
  | cons m rest ih =>
    obtain ⟨key, t⟩ := m
    cases key with
    | error fault => cases h
    | ok key =>
      obtain ⟨a, ha, h⟩ := Except.bind_eq_ok.mp h
      obtain ⟨es, hes, h⟩ := Except.bind_eq_ok.mp h
      cases h
      exact List.forall_mem_cons.mpr ⟨hf t a ha, ih hes⟩

end Parts

namespace RecordSpec

variable {ρ α : Type} {spec : RecordSpec ρ} {P : ρ → Prop}

theorem members_all (hset : ∀ name t r r', P r → spec.set name t r = .ok r' → P r')
    {ms : List (Except Fault String × Tree)} {seen : List String} {r r' : ρ} (hr : P r)
    (h : spec.members ms seen r = .ok r') : P r' := by
  induction ms generalizing seen r with
  | nil =>
    cases h
    exact hr
  | cons m rest ih =>
    obtain ⟨key, t⟩ := m
    cases key with
    | error fault => cases h
    | ok key =>
      unfold members at h
      split at h
      · split at h
        · cases h
        · obtain ⟨r₁, hr₁, h⟩ := Except.bind_eq_ok.mp h
          exact ih (hset key t r r₁ hr hr₁) h
      · split at h
        · cases h
        · exact ih hr h

theorem positions_all (hset : ∀ name t r r', P r → spec.set name t r = .ok r' → P r') {fields : List String}
    {ts : List Tree} {r r' : ρ} (hr : P r) (h : spec.positions fields ts r = .ok r') : P r' := by
  induction fields generalizing ts r with
  | nil =>
    cases h
    exact hr
  | cons field fields ih =>
    cases ts with
    | nil =>
      cases h
      exact hr
    | cons t ts =>
      obtain ⟨r₁, hr₁, h⟩ := Except.bind_eq_ok.mp h
      exact ih (hset field t r r₁ hr hr₁) h

/-- What each field keeps holds of the fields that a record is made of. -/
theorem read_all (hset : ∀ name t r r', P r → spec.set name t r = .ok r' → P r') {origin : Origin} {t : Tree}
    {start : ρ} (hstart : P start) {finish : ρ → Except String α} {a : α}
    (h : spec.read origin t start finish = .ok a) : ∃ r, P r ∧ finish r = .ok a := by
  cases t with
  | object ms stop =>
    obtain ⟨r, hr, h⟩ := Except.bind_eq_ok.mp h
    obtain ⟨-, -, h⟩ := Except.bind_eq_ok.mp h
    exact ⟨r, members_all hset hstart hr, Except.mapError_eq_ok.mp h⟩
  | array ts stop =>
    obtain ⟨r, hr, h⟩ := Except.bind_eq_ok.mp h
    refine ⟨r, positions_all hset hstart hr, ?_⟩
    dsimp only at h
    -- whatever is checked of the list, the record is what `finish` makes of the fields
    have hlast : ∃ b, finish r = .ok b ∧ (if spec.fields.length ≤ ts.length then do
        spec.leftOver origin ts.length stop
        pure b
      else pure b) = .ok a := by
      split at h
      · obtain ⟨-, -, h⟩ := Except.bind_eq_ok.mp h
        obtain ⟨b, hb, h⟩ := Except.bind_eq_ok.mp h
        exact ⟨b, Except.mapError_eq_ok.mp hb, h⟩
      · obtain ⟨b, hb, h⟩ := Except.bind_eq_ok.mp h
        exact ⟨b, Except.mapError_eq_ok.mp hb, h⟩
    obtain ⟨b, hb, h⟩ := hlast
    split at h
    · obtain ⟨-, -, h⟩ := Except.bind_eq_ok.mp h
      exact Except.ok.inj h ▸ hb
    · exact Except.ok.inj h ▸ hb
  | _ => cases h

end RecordSpec

end Json.Decode

/-! ## (2) Normal values -/

namespace Value

mutual
def Normal : Value → Prop
  | array items => NormalItems items
  | object fields => Table.Ordered fields ∧ NormalFields fields
  | _ => True

def NormalItems : List Value → Prop
  | [] => True
  | v :: vs => Normal v ∧ NormalItems vs

def NormalFields : List (String × Value) → Prop
  | [] => True
  | (_, v) :: rest => Normal v ∧ NormalFields rest
end

theorem normalItems_iff {vs : List Value} : NormalItems vs ↔ ∀ v ∈ vs, v.Normal := by
  induction vs with
  | nil => simp [NormalItems]
  | cons v vs ih => simp [NormalItems, ih]

theorem normalFields_iff {fields : Fields} : NormalFields fields ↔ ∀ f ∈ fields, f.2.Normal := by
  induction fields with
  | nil => simp [NormalFields]
  | cons f rest ih => simp [NormalFields, ih]

theorem normal_ofList {fields : Fields} (h : ∀ f ∈ fields, f.2.Normal) : (object (Table.ofList fields)).Normal :=
  ⟨Table.ordered_ofList fields, normalFields_iff.mpr fun f hf => h f (Table.mem_ofList hf)⟩

end Value

namespace Json.Decode

theorem normal_value (budget : Nat) {t : Tree} {v : Value} (h : value budget t = .ok v) : v.Normal := by
  induction budget generalizing t v with
  | zero => cases t <;> cases h <;> trivial
  | succ b ih =>
    have hbelow : ∀ t a, value b t = .ok a → a.Normal := fun _ _ => ih
    cases t with
    | array ts stop =>
      obtain ⟨vs, hvs, h⟩ := Except.bind_eq_ok.mp h
      obtain ⟨-, -, h⟩ := Except.bind_eq_ok.mp h
      cases h
      exact Value.normalItems_iff.mpr (items_all hbelow hvs)
    | object members stop =>
      obtain ⟨es, hes, h⟩ := Except.bind_eq_ok.mp h
      obtain ⟨-, -, h⟩ := Except.bind_eq_ok.mp h
      cases h
      exact Value.normal_ofList (entries_all hbelow hes)
    | _ => cases h <;> trivial

theorem normal_table {budget : Nat} {t : Tree} {fields : Fields} (h : table budget value t = .ok fields) :
    (Value.object fields).Normal := by
  unfold table at h
  split at h
  · cases h
  · rename_i b members stop
    obtain ⟨es, hes, h⟩ := Except.bind_eq_ok.mp h
    obtain ⟨-, -, h⟩ := Except.bind_eq_ok.mp h
    cases h
    exact Value.normal_ofList (entries_all (fun _ _ => normal_value b) hes)
  · cases h

/-! ## (3) Values as trees -/

mutual

/-- A normal value, taken as a tree, is decoded as itself. -/
theorem value_ofValue : (v : Value) → v.Normal → (b : Nat) → v.depth ≤ b → value b (Tree.ofValue v) = .ok v
  | .null, _, b, _ => by cases b <;> rfl
  | .bool _, _, b, _ => by cases b <;> rfl
  | .number _, _, b, _ => by cases b <;> rfl
  | .string _, _, b, _ => by cases b <;> rfl
  | .array items, hv, b, hb => by
    simp only [Value.depth] at hb
    obtain ⟨b, rfl⟩ : ∃ n, b = n + 1 := ⟨b - 1, by omega⟩
    simp only [Tree.ofValue, value, items_ofItems items hv b (by omega)]
    rfl
  | .object fields, hv, b, hb => by
    simp only [Value.depth] at hb
    obtain ⟨b, rfl⟩ : ∃ n, b = n + 1 := ⟨b - 1, by omega⟩
    simp only [Tree.ofValue, value, entries_ofFields fields hv.2 b (by omega)]
    exact congrArg (fun fields => Except.ok (Value.object fields)) (Table.ofList_of_ordered hv.1)

theorem items_ofItems : (vs : List Value) → Value.NormalItems vs → (b : Nat) → Value.depthItems vs ≤ b →
    items (value b) (Tree.ofItems vs) = .ok vs
  | [], _, _, _ => rfl
  | v :: vs, hvs, b, hb => by
    simp only [Value.depthItems] at hb
    simp only [Tree.ofItems, items, value_ofValue v hvs.1 b (by omega), items_ofItems vs hvs.2 b (by omega)]
    rfl

theorem entries_ofFields : (fields : Fields) → Value.NormalFields fields → (b : Nat) → Value.depthFields fields ≤ b →
    entries (value b) (Tree.ofFields fields) = .ok fields
  | [], _, _, _ => rfl
  | (k, v) :: rest, hfields, b, hb => by
    simp only [Value.depthFields] at hb
    simp only [Tree.ofFields, entries, value_ofValue v hfields.1 b (by omega),
      entries_ofFields rest hfields.2 b (by omega)]
    rfl

end

theorem table_ofFields {fields : Fields} (h : (Value.object fields).Normal) {b : Nat}
    (hb : (Value.object fields).depth ≤ b) : table b value (Tree.ofValue (.object fields)) = .ok fields := by
  simp only [Value.depth] at hb
  obtain ⟨b, rfl⟩ : ∃ n, b = n + 1 := ⟨b - 1, by omega⟩
  simp only [Tree.ofValue, table, entries_ofFields fields h.2 b (by omega)]
  exact congrArg Except.ok (Table.ofList_of_ordered h.1)

/-! ## (4) Records as data -/

theorem ordered_of_record {entries fields : Fields} (h : Value.record entries = .object fields) : fields.Ordered :=
  Value.object.inj h ▸ Table.ordered_ofList entries

namespace RecordSpec

variable {ρ α : Type} (spec : RecordSpec ρ)

def setAll (fields : Fields) (r : ρ) : Except DecodeError ρ :=
  fields.foldlM (fun r f => spec.set f.1 (Tree.ofValue f.2) r) r

@[simp] theorem setAll_nil (r : ρ) : spec.setAll [] r = .ok r := rfl

theorem setAll_cons {name : String} {v : Value} {fields : Fields} {r r' : ρ}
    (h : spec.set name (Tree.ofValue v) r = .ok r') :
    spec.setAll ((name, v) :: fields) r = spec.setAll fields r' := by
  simp only [setAll, List.foldlM_cons, h, Except.ok_bind]

theorem setAll_append {fields rest : Fields} {r r' : ρ} (h : spec.setAll fields r = .ok r') :
    spec.setAll (fields ++ rest) r = spec.setAll rest r' := by
  unfold setAll at *
  rw [List.foldlM_append, h, Except.ok_bind]

/-- Fields that are declared, and none of them twice, are all set. -/
theorem members_ofFields {fields : Fields} {seen : List String} {r : ρ} (hfields : ∀ k ∈ fields.keys, k ∈ spec.fields)
    (hnodup : fields.keys.Nodup) (hseen : ∀ k ∈ fields.keys, k ∉ seen) :
    spec.members (Tree.ofFields fields) seen r = spec.setAll fields r := by
  induction fields generalizing seen r with
  | nil => rfl
  | cons f rest ih =>
    obtain ⟨name, v⟩ := f
    obtain ⟨hname, hrest⟩ := List.forall_mem_cons.mp hfields
    obtain ⟨hnew, hnodup⟩ := List.nodup_cons.mp hnodup
    obtain ⟨hunseen, hseen⟩ := List.forall_mem_cons.mp hseen
    have hbelow : ∀ r, spec.members (Tree.ofFields rest) (name :: seen) r = spec.setAll rest r := fun r =>
      ih hrest hnodup fun k hk => List.not_mem_cons_of_ne_of_not_mem (fun h => hnew (h ▸ hk)) (hseen k hk)
    simp only [Tree.ofFields, members, if_pos hname, if_neg hunseen, hbelow]
    rfl

theorem read_ofFields {fields : Fields} (hfields : ∀ k ∈ fields.keys, k ∈ spec.fields) (hordered : fields.Ordered)
    {start r : ρ} {finish : ρ → Except String α} {a : α} (hset : spec.setAll fields start = .ok r)
    (hfinish : finish r = .ok a) : spec.read .value (Tree.ofValue (.object fields)) start finish = .ok a := by
  simp only [Tree.ofValue, read, members_ofFields spec hfields hordered.nodup (fun _ _ => List.not_mem_nil), hset,
    Except.ok_bind, hfinish]
  rfl

end RecordSpec

end Json.Decode

end Stepflow
