/-
  Stepflow.Proofs.Merging — what a merge says at every path.

  (1) A path reaches through an object what the rest of it reaches in there, and through
  any other value nothing (`at?_cons`).

  (2) Where the object that is merged in says something at a path, the result says the
  same there, merged over what was held (`at?_merge_of_some`); the induction is on the
  path, and one step of it is one key of the merge.

  (3) Where it says nothing, what was held stays, unless a value that is no object stands
  on the way: this one has taken the place of all that was held below
  (`at?_merge_of_none`).

  (4) A merge that is made again changes nothing (`merge_twice`): a table in order stays
  when a key is given what it has (`insert_same`), and below a key the value has been
  merged in already.

  `merge_at_every_path` puts them together.
-/

import Stepflow.Proofs.Decoding
import Stepflow.Value.Path

namespace Stepflow

namespace Table

variable {α : Type} {t : Table α} {key : String} {a : α}

/-- A key that is given what it has leaves the table as it is. -/
theorem insert_same (hordered : Ordered t) (h : t.get? key = some a) : t.insert key a = t := by
  induction t with
  | nil => cases h
  | cons e rest ih =>
    obtain ⟨k, b⟩ := e
    obtain ⟨hfirst, hrest⟩ := List.pairwise_cons.mp hordered
    unfold get? at h
    unfold insert
    by_cases hk : k = key
    · rw [if_pos hk] at h
      cases h
      rw [if_pos hk, hk]
    · rw [if_neg hk] at h
      have hlt : ¬ key < k := fun hlt => lt_asymm hlt (hfirst _ (mem_of_get? h))
      rw [if_neg hk, if_neg hlt, ih hrest h]

end Table

theorem Value.fields?_eq_some {v : Value} {fields : Fields} : v.fields? = some fields ↔ v = .object fields := by
  cases v <;> simp [Value.fields?]

namespace Fields

variable {t p o : Fields} {key : String} {keys : List String} {v : Value}

/-! ## (1) Paths -/

theorem at?_cons (root : Fields) (key next : String) (keys : List String) :
    root.at? (key :: next :: keys) = ((root.get? key).bind Value.fields?).bind (Fields.at? · (next :: keys)) := by
  cases hkey : root.get? key with
  | none => simp [Fields.at?, hkey]
  | some v =>
    cases v with
    | object fields =>
      cases hnext : Table.get? fields next <;> simp [Fields.at?, hkey, Value.walk, Value.field?, Value.fields?, hnext]
    | _ => simp [Fields.at?, hkey, Value.walk, Value.field?, Value.fields?]

theorem at?_singleton (root : Fields) (key : String) : root.at? [key] = root.get? key := by
  cases hkey : root.get? key <;> simp [Fields.at?, hkey, Value.walk]

/-! ## (2) What is merged in -/

/-- An object merged over a value is merged over the fields of this, if it has any. -/
theorem mergedOver_object (held : Option Value) (o : Fields) : Value.mergedOver held (.object o) =
    .object (((held.bind Value.fields?).map (Fields.merge · o)).getD o) := by
  cases held with
  | none => rfl
  | some old => cases old <;> simp [Value.mergedOver, Value.merge, Value.fields?]

/-- A value that is no object takes the place of what was held. -/
theorem mergedOver_leaf (held : Option Value) (h : v.fields? = none) : Value.mergedOver held v = v := by
  apply Value.mergedOver_eq
  rintro ⟨old, new, -, rfl⟩
  cases h

theorem normal_of_get? (h : (Value.object t).Normal) (hkey : t.get? key = some v) : v.Normal :=
  Value.normalFields_iff.mp h.2 _ (Table.mem_of_get? hkey)

theorem at?_merge_of_some (hp : (Value.object p).Normal) (h : p.at? keys = some v) :
    Fields.at? (Fields.merge t p) keys = some (Value.mergedOver (t.at? keys) v) := by
  induction keys generalizing t p with
  | nil => cases h
  | cons key keys ih =>
    have hmerge := Fields.get?_merge t hp.1.nodup key
    cases keys with
    | nil =>
      rw [at?_singleton] at h
      rw [at?_singleton, at?_singleton, hmerge, h]
      rfl
    | cons next keys =>
      rw [at?_cons] at h
      obtain ⟨o, ho, h⟩ := Option.bind_eq_some_iff.mp h
      obtain ⟨w, hw, ho⟩ := Option.bind_eq_some_iff.mp ho
      obtain rfl := Value.fields?_eq_some.mp ho
      have hbelow : (Value.object o).Normal := normal_of_get? hp hw
      rw [at?_cons, at?_cons, hmerge, hw, Option.map_some, Option.some_or, mergedOver_object, Option.bind_some]
      show Fields.at? _ (next :: keys) = _
      cases (t.get? key).bind Value.fields? with
      | none => exact h
      | some held => exact ih hbelow h

/-! ## (3) What is kept -/

def Blocked (p : Fields) (keys : List String) : Prop :=
  ∃ front, front ≠ [] ∧ front <+: keys ∧ front ≠ keys ∧ ∃ v, p.at? front = some v ∧ v.fields? = none

theorem not_blocked_singleton : ¬ Blocked p [key] := by
  rintro ⟨front, hne, hprefix, hproper, -⟩
  rcases List.prefix_cons_iff.mp hprefix with rfl | ⟨rest, rfl, hrest⟩
  · exact hne rfl
  · exact hproper (List.prefix_nil.mp hrest ▸ rfl)

/-- On the way to a longer path stands the value of its first key, or something below it. -/
theorem blocked_cons {next : String} : Blocked p (key :: next :: keys) ↔
    ∃ w, p.get? key = some w ∧ (w.fields? = none ∨ ∃ o, w = .object o ∧ Blocked o (next :: keys)) := by
  constructor
  · rintro ⟨front, hne, hprefix, hproper, v, hv, hleaf⟩
    rcases List.prefix_cons_iff.mp hprefix with rfl | ⟨front, rfl, hrest⟩
    · exact absurd rfl hne
    cases front with
    | nil =>
      rw [at?_singleton] at hv
      exact ⟨v, hv, .inl hleaf⟩
    | cons following front =>
      rw [at?_cons] at hv
      obtain ⟨o, ho, hv⟩ := Option.bind_eq_some_iff.mp hv
      obtain ⟨w, hw, ho⟩ := Option.bind_eq_some_iff.mp ho
      obtain rfl := Value.fields?_eq_some.mp ho
      exact ⟨_, hw, .inr ⟨o, rfl, following :: front, nofun, hrest, fun heq => hproper (by rw [heq]), v, hv, hleaf⟩⟩
  · rintro ⟨w, hw, hleaf | ⟨o, rfl, front, hne, hprefix, hproper, v, hv, hleaf⟩⟩
    · exact ⟨[key], nofun, ⟨next :: keys, rfl⟩, by simp, w, (at?_singleton p key).trans hw, hleaf⟩
    · obtain ⟨following, front, rfl⟩ := List.exists_cons_of_ne_nil hne
      refine ⟨key :: following :: front, nofun, List.cons_prefix_cons.mpr ⟨rfl, hprefix⟩,
        fun heq => hproper (List.cons.inj heq).2, v, ?_, hleaf⟩
      rw [at?_cons, hw]
      exact hv

theorem not_blocked_of_none (h : p.get? key = none) : ¬ Blocked p (key :: keys) := by
  cases keys with
  | nil => exact not_blocked_singleton
  | cons next keys =>
    rw [blocked_cons]
    rintro ⟨w, hw, -⟩
    rw [h] at hw
    cases hw

theorem blocked_of_leaf {next : String} (h : p.get? key = some v) (hleaf : v.fields? = none) :
    Blocked p (key :: next :: keys) := blocked_cons.mpr ⟨v, h, .inl hleaf⟩

theorem blocked_object {next : String} (h : p.get? key = some (.object o)) :
    Blocked p (key :: next :: keys) ↔ Blocked o (next :: keys) := by
  rw [blocked_cons]
  constructor
  · rintro ⟨w, hw, hcase⟩
    rw [h] at hw
    cases hw
    rcases hcase with hleaf | ⟨o', heq, hblocked⟩
    · cases hleaf
    · cases heq
      exact hblocked
  · intro hblocked
    exact ⟨.object o, h, .inr ⟨o, rfl, hblocked⟩⟩

open Classical in
theorem at?_merge_of_none (hp : (Value.object p).Normal) (h : p.at? keys = none) :
    Fields.at? (Fields.merge t p) keys = if Blocked p keys then none else t.at? keys := by
  induction keys generalizing t p with
  | nil => simp [Fields.at?]
  | cons key keys ih =>
    have hmerge := Fields.get?_merge t hp.1.nodup key
    cases keys with
    | nil =>
      rw [at?_singleton] at h
      rw [if_neg not_blocked_singleton, at?_singleton, at?_singleton, hmerge, h]
      rfl
    | cons next keys =>
      rw [at?_cons] at h
      rw [at?_cons, at?_cons, hmerge]
      cases hw : p.get? key with
      | none =>
        rw [if_neg (not_blocked_of_none hw)]
        rfl
      | some w =>
        rw [Option.map_some, Option.some_or]
        cases hfields : w.fields? with
        | none =>
          rw [if_pos (blocked_of_leaf hw hfields), mergedOver_leaf _ hfields, Option.bind_some, hfields]
          rfl
        | some o =>
          obtain rfl := Value.fields?_eq_some.mp hfields
          have hbelow : (Value.object o).Normal := normal_of_get? hp hw
          have h : o.at? (next :: keys) = none := by
            rw [hw] at h
            exact h
          rw [mergedOver_object, Option.bind_some]
          show Fields.at? _ (next :: keys) = _
          cases (t.get? key).bind Value.fields? with
          | none =>
            show o.at? (next :: keys) = if _ then none else none
            rw [h, ite_self]
          | some held =>
            show Fields.at? (Fields.merge held o) (next :: keys) = if _ then none else held.at? (next :: keys)
            rw [ih hbelow h]
            simp only [blocked_object hw]

/-- Nothing is said, and nothing stands on the way, where the object on the way lacks the next key. -/
theorem unmentioned {front : List String} (hwalk : (Value.object p).walk front = some (.object o))
    (hkey : o.get? key = none) (rest : List String) :
    p.at? (front ++ key :: rest) = none ∧ ¬ Blocked p (front ++ key :: rest) := by
  induction front generalizing p with
  | nil =>
    cases hwalk
    exact ⟨by rw [List.nil_append, Fields.at?, hkey, Option.bind_none], not_blocked_of_none hkey⟩
  | cons first front ih =>
    obtain ⟨w, hw, hwalk⟩ : ∃ w, p.get? first = some w ∧ w.walk front = some (.object o) := by
      cases hw : p.get? first with
      | none => simp [Value.walk, Value.field?, Value.fields?, hw] at hwalk
      | some w =>
        refine ⟨w, rfl, ?_⟩
        simpa [Value.walk, Value.field?, Value.fields?, hw] using hwalk
    obtain ⟨fields, rfl⟩ : ∃ fields, w = .object fields := by
      cases w with
      | object fields => exact ⟨fields, rfl⟩
      | _ => cases front <;> simp [Value.walk, Value.field?, Value.fields?] at hwalk
    obtain ⟨hnone, hfree⟩ := ih hwalk
    obtain ⟨next, keys, hkeys⟩ : ∃ next keys, front ++ key :: rest = next :: keys :=
      List.exists_cons_of_ne_nil (by simp)
    rw [hkeys] at hnone hfree
    rw [List.cons_append, hkeys]
    constructor
    · rw [at?_cons, hw]
      exact hnone
    · rw [blocked_object hw]
      exact hfree

/-! ## (4) The same again -/

theorem ordered_merge (h : Table.Ordered t) (p : Fields) : Table.Ordered (Fields.merge t p) := by
  induction p generalizing t with
  | nil => rwa [Fields.merge]
  | cons e rest ih =>
    rw [Fields.merge]
    exact ih (h.insert ..)

/-- What has been merged in below every key changes nothing. -/
theorem merge_eq_self (h : Table.Ordered t) (hkeys : ∀ e ∈ p, ∃ v, t.get? e.1 = some v ∧ v.merge e.2 = v) :
    Fields.merge t p = t := by
  induction p with
  | nil => rw [Fields.merge]
  | cons e rest ih =>
    obtain ⟨v, hv, hmerge⟩ := hkeys e (List.mem_cons_self ..)
    simp only [Fields.merge, hv, hmerge, Table.insert_same h hv]
    exact ih fun e he => hkeys e (List.mem_cons_of_mem _ he)

def Settles (v : Value) : Prop := ∀ old : Value, old.Normal → (old.merge v).merge v = old.merge v

theorem null_merge (v : Value) : Value.null.merge v = v := by cases v <;> simp [Value.merge]

/-- A value that is merged into itself, which is what it is after a merge into null. -/
theorem Settles.merge_self (h : Settles v) : v.merge v = v := by
  have := h .null trivial
  rwa [null_merge] at this

theorem merge_self (hp : Table.Ordered p) (hvalues : ∀ e ∈ p, Settles e.2) : Fields.merge p p = p :=
  merge_eq_self hp fun e he => ⟨e.2, Table.get?_of_mem hp.nodup he, (hvalues e he).merge_self⟩

theorem merge_twice_of_settles (ht : (Value.object t).Normal) (hp : Table.Ordered p)
    (hvalues : ∀ e ∈ p, Settles e.2) : Fields.merge (Fields.merge t p) p = Fields.merge t p := by
  refine merge_eq_self (ordered_merge ht.1 p) fun e he => ?_
  have hget : Table.get? p e.1 = some e.2 := Table.get?_of_mem hp.nodup he
  refine ⟨Value.mergedOver (t.get? e.1) e.2, ?_, ?_⟩
  · rw [Fields.get?_merge t hp.nodup, hget]
    rfl
  · cases hold : t.get? e.1 with
    | none => exact (hvalues e he).merge_self
    | some old => exact hvalues e he old (normal_of_get? ht hold)

mutual

theorem settles : (v : Value) → v.Normal → Settles v
  | .object p, hp, old, hold => by
    have hvalues := settles_fields p hp.2
    cases old with
    | object t => simp only [Value.merge, merge_twice_of_settles hold hp.1 hvalues]
    | _ => simp only [Value.merge, merge_self hp.1 hvalues]
  | .null, _, _, _ => by simp only [Value.merge]
  | .bool _, _, _, _ => by simp only [Value.merge]
  | .number _, _, _, _ => by simp only [Value.merge]
  | .string _, _, _, _ => by simp only [Value.merge]
  | .array _, _, _, _ => by simp only [Value.merge]

theorem settles_fields : (p : Fields) → Value.NormalFields p → ∀ e ∈ p, Settles e.2
  | [], _, _, he => nomatch he
  | (_, v) :: rest, hp, e, he => by
    rcases List.mem_cons.mp he with rfl | he
    · exact settles v hp.1
    · exact settles_fields rest hp.2 e he

end

theorem merge_twice (ht : (Value.object t).Normal) (hp : (Value.object p).Normal) :
    Fields.merge (Fields.merge t p) p = Fields.merge t p :=
  merge_twice_of_settles ht hp.1 (settles_fields p hp.2)

/-! ## All paths -/

/-- At a path where the object merged in holds a value that is no object, the result holds this one; where it holds an
    object, this one merged into the object that was held there, or alone; where it holds nothing, what was held, unless
    one of the values on the way has taken its place. Merged in once more it changes nothing. -/
theorem merge_at_every_path (ht : (Value.object t).Normal) (hp : (Value.object p).Normal) :
    (∀ keys v, p.at? keys = some v → v.fields? = none → Fields.at? (Fields.merge t p) keys = some v) ∧
    (∀ keys o o', p.at? keys = some (.object o) → t.at? keys = some (.object o') →
      Fields.at? (Fields.merge t p) keys = some (Value.merge (.object o') (.object o))) ∧
    (∀ keys o, p.at? keys = some (.object o) → (∀ o', t.at? keys ≠ some (.object o')) →
      Fields.at? (Fields.merge t p) keys = some (.object o)) ∧
    (∀ keys, p.at? keys = none → Blocked p keys → Fields.at? (Fields.merge t p) keys = none) ∧
    (∀ keys, p.at? keys = none → ¬ Blocked p keys → Fields.at? (Fields.merge t p) keys = t.at? keys) ∧
    (∀ front (o : Fields) key rest, (Value.object p).walk front = some (.object o) → o.get? key = none →
      Fields.at? (Fields.merge t p) (front ++ key :: rest) = t.at? (front ++ key :: rest)) ∧
    Fields.merge (Fields.merge t p) p = Fields.merge t p := by
  refine ⟨?_, ?_, ?_, ?_, ?_, ?_, merge_twice ht hp⟩
  · intro keys v hv hleaf
    rw [at?_merge_of_some hp hv, mergedOver_leaf _ hleaf]
  · intro keys o o' ho ho'
    rw [at?_merge_of_some hp ho, ho']
    rfl
  · intro keys o ho hno
    have hover : Value.mergedOver (t.at? keys) (.object o) = .object o := by
      apply Value.mergedOver_eq
      rintro ⟨old, new, hold, -⟩
      exact hno old hold
    rw [at?_merge_of_some hp ho, hover]
  · intro keys hnone hblocked
    rw [at?_merge_of_none hp hnone, if_pos hblocked]
  · intro keys hnone hfree
    rw [at?_merge_of_none hp hnone, if_neg hfree]
  · intro front o key rest hwalk hkey
    obtain ⟨hnone, hfree⟩ := unmentioned hwalk hkey rest
    rw [at?_merge_of_none hp hnone, if_neg hfree]

namespace Sample

def acme : Fields := [("address", .object [("city", .string "Lyon")]), ("name", .string "ACME")]

def client : Fields := [("client", .object acme), ("list", .array [])]

def news : Fields :=
  [("client", .object [("address", .object [("zip", .string "69001")])]), ("list", .object [("size", .count 1)])]

end Sample

open Sample in
/-- The address has its city and its number, the name stays, and an object takes the place of the list. -/
theorem sample_client_is_merged :
    (Value.object client).Normal ∧ (Value.object news).Normal ∧
      Fields.at? (Fields.merge client news) ["client", "address", "zip"] = some (.string "69001") ∧
      Fields.at? (Fields.merge client news) ["client", "address", "city"] = some (.string "Lyon") ∧
      Fields.at? (Fields.merge client news) ["client", "name"] = some (.string "ACME") ∧
      Fields.at? (Fields.merge client news) ["list"] = some (.object [("size", .count 1)]) ∧
      Fields.merge (Fields.merge client news) news = Fields.merge client news := by
  have hclient : (Value.object client).Normal := by
    refine ⟨?_, ⟨?_, ⟨List.pairwise_singleton .., trivial, trivial⟩, trivial, trivial⟩, trivial, trivial⟩
    · show client.Pairwise (·.1 < ·.1)
      decide +kernel
    · show acme.Pairwise (·.1 < ·.1)
      decide +kernel
  have hnews : (Value.object news).Normal := by
    refine ⟨?_, ⟨List.pairwise_singleton .., ⟨List.pairwise_singleton .., trivial, trivial⟩, trivial⟩,
      ⟨List.pairwise_singleton .., trivial, trivial⟩, trivial⟩
    show news.Pairwise (·.1 < ·.1)
    decide +kernel
  obtain ⟨hleaf, -, hobject, -, -, hkept, htwice⟩ := merge_at_every_path hclient hnews
  have hlist : ∀ o, client.at? ["list"] ≠ some (.object o) := by
    intro o
    rw [show client.at? ["list"] = some (.array []) from rfl]
    rintro ⟨⟩
  refine ⟨hclient, hnews, hleaf _ _ rfl rfl, ?_, ?_, hobject _ _ rfl hlist, htwice⟩
  · exact hkept ["client", "address"] _ "city" [] rfl rfl
  · exact hkept ["client"] _ "name" [] rfl rfl

end Fields

end Stepflow
