/-
  Stepflow.Proofs.RecordMap — the record store is a map in the order of creation.

  The map takes a type in lower case and an id to fields (`RecordMap`), and keeps what is
  new at the end. The store holds the id among the fields of a record instead, and looks
  for it there.

  (1) Fields written over a record, one after the other, are the last ones of their names;
  the id is none of them (`get?_overwrite`).

  (2) Records that have their ids (`Numbered`) are found by them: to look for a type and
  an id in the store is to look the key up in the map (`isAt_iff`), and to write over the
  first record found is to put fields under the key (`view_modifyFirst`).

  (3) So each call of the store does what the same call of the map does (`perform_view`),
  and keeps the ids (`numbered_perform`); runs do as well (`run_view`).

  (4) In the map a record is what was created, with its id, and what was written under its
  key later (`get?_run`), and the keys stand in the order of creation (`keys_run`).

  (5) What fails changes nothing (`perform_failed`), an update changes one record
  (`update_perform`), and a query for a type finds all of it (`query_perform`).

  The ids come from a source that gives none twice. `store_is_a_map_in_order_of_creation`
  puts this together.
-/

import Stepflow.Proofs.SideEffects

namespace Stepflow.Records

/-! ## (1) Fields written over -/

/-- Fields with others written over them, one after the other; the id stays. -/
def overwrite (old new : Fields) : Fields :=
  new.foldl (fun fields f => if f.1 = idKey then fields else fields.insert f.1 f.2) old

theorem write_fields (r : Stored) (fields : Fields) : (r.write fields).fields = overwrite r.fields fields := by
  simp only [Stored.write, Table.insertAll, overwrite, List.foldl_filter, bne_iff_ne, ne_eq, ite_not]

theorem overwrite_append (old new more : Fields) : overwrite old (new ++ more) = overwrite (overwrite old new) more :=
  List.foldl_append ..

theorem get?_overwrite_id (old new : Fields) : (overwrite old new).get? idKey = old.get? idKey := by
  induction new generalizing old with
  | nil => rfl
  | cons f rest ih =>
    rw [overwrite, List.foldl_cons, ← overwrite, ih]
    split
    · rfl
    · rename_i hne
      rw [Table.get?_insert, if_neg hne]

/-- Of the fields of a name the last one counts. -/
theorem get?_overwrite (old new : Fields) {name : String} (h : name ≠ idKey) :
    (overwrite old new).get? name = (new.reverse.lookup name).or (old.get? name) := by
  induction new generalizing old with
  | nil => rfl
  | cons f rest ih =>
    obtain ⟨other, v⟩ := f
    rw [overwrite, List.foldl_cons, ← overwrite, ih, List.reverse_cons, List.lookup_append, Option.or_assoc]
    congr 1
    by_cases hname : name = other
    · subst hname
      simp [h, Table.get?_insert]
    · have hother : (name == other) = false := by simpa using hname
      simp only [List.lookup_cons, hother, List.lookup_nil, Option.none_or]
      split
      · rfl
      · rw [Table.get?_insert, if_neg (Ne.symm hname)]

/-! ## The map -/

abbrev Key := String × String

def keyOf (type id : String) : Key := (Text.lower type, id)

abbrev RecordMap := List (Key × Fields)

inductive Call where
  | create (type : String) (fields : Fields)
  | update (type id : String) (fields : Fields)
  | get (type id : String)
  | query (type : String) (q : Query)

inductive Answer where
  | created (ref : RecordRef)
  | updated
  | found (fields : Option Fields)
  | listed (records : Option (List Fields))
  | failed (err : ServiceError)

namespace RecordMap

def get? (m : RecordMap) (key : Key) : Option Fields := m.lookup key

def keys (m : RecordMap) : List Key := m.map (·.1)

/-- The map with other fields under a key, where the key stands, or at the end. -/
def put (m : RecordMap) (key : Key) (fields : Fields) : RecordMap :=
  match m with
  | [] => [(key, fields)]
  | (k, old) :: rest => if k = key then (k, fields) :: rest else (k, old) :: put rest key fields

def ofType (m : RecordMap) (type : String) : List Fields := (m.filter (·.1.1 == type)).map (·.2)

/-- A call of the map; the `n`-th record gets the id `ids n`. -/
def perform (ids : Nat → String) (m : RecordMap) : Call → Answer × RecordMap
  | .create type fields =>
    if Text.isBlankText type then (.failed (.validation "Entity type cannot be empty"), m)
    else
      let id := ids m.length
      (.created ⟨type, id⟩, m.put (keyOf type id) (fields.insert idKey (.string id)))
  | .update type id fields =>
    match m.get? (keyOf type id) with
    | some old => (.updated, m.put (keyOf type id) (overwrite old fields))
    | none => (.failed (.notFound ("Record '" ++ type ++ "/" ++ id ++ "' not found")), m)
  | .get type id => (.found (m.get? (keyOf type id)), m)
  | .query type q => (.listed (q.apply (m.ofType (Text.lower type))), m)

def run (ids : Nat → String) (m : RecordMap) : List Call → List Answer × RecordMap
  | [] => ([], m)
  | c :: rest => ((m.perform ids c).1 :: (run ids (m.perform ids c).2 rest).1, (run ids (m.perform ids c).2 rest).2)

end RecordMap

namespace Store

/-- A call of the store; the `n`-th record gets the id `ids n`. -/
def perform (ids : Nat → String) (s : Store) : Call → Answer × Store
  | .create type fields =>
    match s.create (ids s.length) type fields with
    | .ok (ref, grown) => (.created ref, grown)
    | .error err => (.failed err, s)
  | .update type id fields =>
    match s.update type id fields with
    | .ok changed => (.updated, changed)
    | .error err => (.failed err, s)
  | .get type id => (.found (s.get? type id), s)
  | .query type q => (.listed (s.query type q), s)

def run (ids : Nat → String) (s : Store) : List Call → List Answer × Store
  | [] => ([], s)
  | c :: rest => ((s.perform ids c).1 :: (run ids (s.perform ids c).2 rest).1, (run ids (s.perform ids c).2 rest).2)

end Store

namespace RecordMap

variable {m : RecordMap} {key other : Key} {fields : Fields}

theorem get?_cons (x : Key × Fields) : get? (x :: m) key = if x.1 = key then some x.2 else m.get? key := by
  obtain ⟨k, fields⟩ := x
  by_cases h : k = key
  · simp [get?, h]
  · have hne : (key == k) = false := by simpa using Ne.symm h
    simp [get?, List.lookup_cons, h, hne]

theorem get?_isSome_iff : (m.get? key).isSome ↔ key ∈ m.keys := by
  induction m with
  | nil => simp [get?, keys]
  | cons x rest ih =>
    simp only [get?_cons, keys, List.map_cons, List.mem_cons] at ih ⊢
    by_cases h : x.1 = key
    · simp [h]
    · simp [h, Ne.symm h, ih]

theorem get?_put : (m.put key fields).get? other = if key = other then some fields else m.get? other := by
  induction m with
  | nil => simp only [put, get?_cons]
  | cons x rest ih =>
    obtain ⟨k, old⟩ := x
    unfold put
    by_cases hk : k = key
    · subst hk
      by_cases h : k = other <;> simp [get?_cons, h]
    · by_cases h : key = other
      · subst h
        simp [get?_cons, hk, ih]
      · simp [get?_cons, hk, ih, h]

theorem keys_put_of_mem (h : key ∈ m.keys) : (m.put key fields).keys = m.keys := by
  induction m with
  | nil => cases h
  | cons x rest ih =>
    unfold put
    by_cases hk : x.1 = key
    · simp [hk, keys]
    · have hrest : key ∈ keys rest := (List.mem_cons.mp h).resolve_left (Ne.symm hk)
      simpa [hk, keys] using ih hrest

theorem put_of_not_mem (h : key ∉ m.keys) : m.put key fields = m ++ [(key, fields)] := by
  induction m with
  | nil => rfl
  | cons x rest ih =>
    have hk : ¬ x.1 = key := fun hk => h (hk ▸ List.mem_cons_self ..)
    simp only [put, hk, if_false, List.cons_append, ih fun hmem => h (List.mem_cons_of_mem _ hmem)]

end RecordMap

/-! ## (2) Records that have their ids -/

def Stored.key (r : Stored) : Key := keyOf r.type (r.name.2.getD "")

/-- A record is found by its type and the id among its fields. -/
theorem Stored.isAt_iff {r : Stored} {own : String} (h : r.name.2 = some own) (type id : String) :
    r.isAt type id = true ↔ r.key = keyOf type id := by
  have hid : (r.fields.get? idKey).bind (·.string?) = some own := h
  simp [isAt, hasType, key, keyOf, h, hid]

/-- The id of a record stands among its fields. -/
theorem Stored.get?_id {r : Stored} {own : String} (h : r.name.2 = some own) :
    r.fields.get? idKey = some (.string own) := by
  obtain ⟨v, hv, hs⟩ := Option.bind_eq_some_iff.mp h
  cases v with
  | string s => rw [hv, Option.some.inj hs]
  | _ => cases hs

namespace Store

def view (s : Store) : RecordMap := s.map fun r => (r.key, r.fields)

/-- Each record has the id that it was given. -/
def Numbered (ids : Nat → String) (s : Store) : Prop :=
  s.map (·.name.2) = (List.range s.length).map fun n => some (ids n)

variable {ids : Nat → String} {s : Store} {type id : String}

theorem length_view (s : Store) : s.view.length = s.length := List.length_map ..

theorem Numbered.of_mem (h : s.Numbered ids) {r : Stored} (hr : r ∈ s) :
    ∃ n, n < s.length ∧ r.name.2 = some (ids n) := by
  have hmem : r.name.2 ∈ (List.range s.length).map fun n => some (ids n) := h ▸ List.mem_map_of_mem hr
  obtain ⟨n, hn, hname⟩ := List.mem_map.mp hmem
  exact ⟨n, List.mem_range.mp hn, hname.symm⟩

/-- The ids of the keys are those that were given. -/
theorem Numbered.of_mem_keys (h : s.Numbered ids) {key : Key} (hkey : key ∈ s.view.keys) :
    ∃ n, n < s.length ∧ key.2 = ids n := by
  simp only [view, RecordMap.keys, List.map_map, List.mem_map, Function.comp_apply] at hkey
  obtain ⟨r, hr, rfl⟩ := hkey
  obtain ⟨n, hn, hname⟩ := h.of_mem hr
  exact ⟨n, hn, by simp [Stored.key, keyOf, hname]⟩

theorem find?_view (h : ∀ r ∈ s, ∃ own, r.name.2 = some own) (type id : String) :
    s.get? type id = s.view.get? (keyOf type id) := by
  induction s with
  | nil => rfl
  | cons r rest ih =>
    obtain ⟨own, hown⟩ := h r (List.mem_cons_self ..)
    have hrest := ih fun x hx => h x (List.mem_cons_of_mem r hx)
    have hat := Stored.isAt_iff hown type id
    simp only [get?, view, List.map_cons, RecordMap.get?_cons, List.find?_cons] at hrest ⊢
    by_cases hr : r.isAt type id = true
    · simp only [hr, hat.mp hr, if_true, Option.map_some]
    · simp only [hr, mt hat.mpr hr, if_false, hrest]

theorem any_isAt_iff {s : Store} {type id : String} :
    s.any (·.isAt type id) = true ↔ (s.get? type id).isSome = true := by
  rw [get?, Option.isSome_map, List.find?_isSome, List.any_eq_true]

theorem view_modifyFirst (h : ∀ r ∈ s, ∃ own, r.name.2 = some own) {old : Fields}
    (hold : s.view.get? (keyOf type id) = some old) (fields : Fields) :
    view (s.modifyFirst type id (·.write fields)) = s.view.put (keyOf type id) (overwrite old fields) := by
  induction s with
  | nil => cases hold
  | cons r rest ih =>
    obtain ⟨own, hown⟩ := h r (List.mem_cons_self ..)
    have hat := Stored.isAt_iff hown type id
    simp only [view, List.map_cons, RecordMap.get?_cons] at hold ih ⊢
    by_cases hr : r.isAt type id = true
    · have hkey : (r.write fields).key = r.key := by simp only [Stored.key, Stored.name_write]; rfl
      simp only [hat.mp hr, if_true, Option.some.injEq] at hold
      simp only [modifyFirst, hr, if_true, List.map_cons, RecordMap.put, hkey, hat.mp hr, write_fields, hold]
    · simp only [mt hat.mpr hr, if_false] at hold
      simp only [modifyFirst, hr, Bool.false_eq_true, if_false, List.map_cons, RecordMap.put, mt hat.mpr hr,
        ih (fun x hx => h x (List.mem_cons_of_mem r hx)) hold]

theorem ofType_view (s : Store) (type : String) : s.ofType type = s.view.ofType (Text.lower type) := by
  simp only [ofType, view, RecordMap.ofType, List.filter_map, List.map_map]
  rfl

end Store

/-! ## (3) The store and the map -/

namespace Store

variable {ids : Nat → String} {s : Store}

/-- Each call keeps the ids. -/
theorem numbered_perform (hs : s.Numbered ids) (c : Call) : (s.perform ids c).2.Numbered ids := by
  cases c with
  | create type fields =>
    by_cases hblank : Text.isBlankText type = true
    · simp only [perform, create, hblank, if_true]
      exact hs
    · simp only [perform, create, hblank, Bool.false_eq_true, if_false]
      have hname : (⟨type, fields.insert idKey (.string (ids s.length))⟩ : Stored).name.2 = some (ids s.length) := by
        simp only [Stored.name, Table.get?_insert, if_true]
        rfl
      rw [Numbered, List.map_append, List.map_singleton, hname, hs, List.length_append, List.length_singleton,
        List.range_succ, List.map_append, List.map_singleton]
  | update type id fields =>
    simp only [perform]
    split
    · rename_i changed hupdate
      have hnames := names_update hupdate
      have hids := congrArg (List.map Prod.snd) hnames
      have hlength := congrArg List.length hnames
      simp only [List.map_map, List.length_map] at hids hlength
      simp only [Numbered, hlength] at hs ⊢
      exact hids.trans hs
    · exact hs
  | get type id => exact hs
  | query type q => exact hs

/-- Each call does to the store what it does to the map. -/
theorem perform_view (hids : Function.Injective ids) (hs : s.Numbered ids) (c : Call) :
    (s.perform ids c).1 = (s.view.perform ids c).1 ∧ (s.perform ids c).2.view = (s.view.perform ids c).2 := by
  have hnamed : ∀ r ∈ s, ∃ own, r.name.2 = some own := by
    intro r hr
    obtain ⟨n, -, hname⟩ := hs.of_mem hr
    exact ⟨ids n, hname⟩
  cases c with
  | create type fields =>
    by_cases hblank : Text.isBlankText type = true
    · simp only [perform, create, RecordMap.perform, hblank, if_true]
      exact ⟨trivial, trivial⟩
    · simp only [perform, create, RecordMap.perform, length_view, hblank, Bool.false_eq_true, if_false]
      have hnew : keyOf type (ids s.length) ∉ s.view.keys := by
        intro hkey
        obtain ⟨n, hn, hid⟩ := hs.of_mem_keys hkey
        exact absurd (hids hid) (by omega)
      rw [RecordMap.put_of_not_mem hnew]
      simp [view, Stored.key, Stored.name, Table.get?_insert, Value.string?]
  | update type id fields =>
    have hfind := find?_view hnamed type id
    simp only [perform, RecordMap.perform, update]
    cases hold : s.view.get? (keyOf type id) with
    | none =>
      have hnone : ¬ s.any (·.isAt type id) = true := by rw [any_isAt_iff, hfind, hold]; decide
      simp only [if_neg hnone]
      exact ⟨trivial, trivial⟩
    | some old =>
      have hsome : s.any (·.isAt type id) = true := by rw [any_isAt_iff, hfind, hold]; rfl
      simp only [if_pos hsome]
      exact ⟨trivial, view_modifyFirst hnamed hold fields⟩
  | get type id =>
    simp only [perform, RecordMap.perform, find?_view hnamed]
    exact ⟨trivial, trivial⟩
  | query type q =>
    simp only [perform, RecordMap.perform, query, ofType_view]
    exact ⟨trivial, trivial⟩

theorem numbered_run (hs : s.Numbered ids) (calls : List Call) : (s.run ids calls).2.Numbered ids := by
  induction calls generalizing s with
  | nil => exact hs
  | cons c rest ih => exact ih (numbered_perform hs c)

/-- So do calls, one after the other. -/
theorem run_view (hids : Function.Injective ids) (hs : s.Numbered ids) (calls : List Call) :
    (s.run ids calls).1 = (s.view.run ids calls).1 ∧ (s.run ids calls).2.view = (s.view.run ids calls).2 := by
  induction calls generalizing s with
  | nil => exact ⟨rfl, rfl⟩
  | cons c rest ih =>
    obtain ⟨hanswer, hview⟩ := perform_view hids hs c
    obtain ⟨hanswers, hviews⟩ := ih (numbered_perform hs c)
    simp only [run, RecordMap.run, ← hanswer, ← hview]
    exact ⟨by rw [hanswers], hviews⟩

/-- The store is what calls have made of the empty one. -/
def Reached (ids : Nat → String) (s : Store) : Prop := ∃ calls, (run ids [] calls).2 = s

theorem Reached.numbered (h : s.Reached ids) : s.Numbered ids := by
  obtain ⟨calls, rfl⟩ := h
  have hempty : Numbered ids [] := rfl
  exact numbered_run hempty calls

theorem run_append (s : Store) (calls more : List Call) :
    (s.run ids (calls ++ more)).2 = ((s.run ids calls).2.run ids more).2 := by
  induction calls generalizing s with
  | nil => rfl
  | cons c rest ih => exact ih (s.perform ids c).2

theorem Reached.perform (h : s.Reached ids) (c : Call) : (s.perform ids c).2.Reached ids := by
  obtain ⟨calls, rfl⟩ := h
  exact ⟨calls ++ [c], run_append [] calls [c]⟩

/-- No key stands twice. -/
theorem Numbered.keys_nodup (hids : Function.Injective ids) (hs : s.Numbered ids) : s.view.keys.Nodup := by
  have hnumbers : ((s.map (·.name.2))).Nodup := by
    rw [hs]
    exact List.nodup_range.map fun m n h => hids (Option.some.inj h)
  refine List.Nodup.of_map (fun key : Key => some key.2) ?_
  have hsame : s.view.keys.map (fun key => some key.2) = s.map (·.name.2) := by
    simp only [view, RecordMap.keys, List.map_map]
    refine List.map_congr_left fun r hr => ?_
    obtain ⟨n, -, hname⟩ := hs.of_mem hr
    simp [Stored.key, keyOf, hname]
  rwa [hsame]

end Store

/-! ## (4) What a record consists of, and where it stands -/

def Call.writes (key : Key) : Call → Fields
  | .update type id fields => if keyOf type id = key then fields else []
  | _ => []

namespace RecordMap

variable {ids : Nat → String} {m : RecordMap} {key : Key} {old : Fields} {n : Nat}

theorem length_le_put (m : RecordMap) (key : Key) (fields : Fields) : m.length ≤ (m.put key fields).length := by
  by_cases hkey : key ∈ m.keys
  · have hkeys : (m.put key fields).keys = m.keys := keys_put_of_mem hkey
    have hlength := congrArg List.length hkeys
    simp only [keys, List.length_map] at hlength
    omega
  · rw [put_of_not_mem hkey, List.length_append]
    omega

/-- A call writes over the fields of a key, and makes the map no smaller. -/
theorem get?_perform (hids : Function.Injective ids) (hn : n < m.length) (hkey : key.2 = ids n)
    (hold : m.get? key = some old) (c : Call) :
    (m.perform ids c).2.get? key = some (overwrite old (c.writes key)) ∧ n < (m.perform ids c).2.length := by
  cases c with
  | create type fields =>
    simp only [perform]
    split
    · exact ⟨hold, hn⟩
    · have hother : keyOf type (ids m.length) ≠ key := by
        rintro rfl
        exact absurd (hids hkey) (by omega)
      refine ⟨?_, Nat.lt_of_lt_of_le hn (length_le_put ..)⟩
      rw [get?_put, if_neg hother]
      exact hold
  | update type id fields =>
    simp only [perform, Call.writes]
    by_cases hown : keyOf type id = key
    · simp only [hown, hold, get?_put, if_true]
      exact ⟨trivial, Nat.lt_of_lt_of_le hn (length_le_put ..)⟩
    · simp only [hown, if_false]
      split
      · refine ⟨?_, Nat.lt_of_lt_of_le hn (length_le_put ..)⟩
        rw [get?_put, if_neg hown]
        exact hold
      · exact ⟨hold, hn⟩
  | get type id => exact ⟨hold, hn⟩
  | query type q => exact ⟨hold, hn⟩

/-- Calls write over the fields of a key, one after the other. -/
theorem get?_run (hids : Function.Injective ids) (hn : n < m.length) (hkey : key.2 = ids n)
    (hold : m.get? key = some old) (calls : List Call) :
    (m.run ids calls).2.get? key = some (overwrite old (calls.flatMap (·.writes key))) := by
  induction calls generalizing m old with
  | nil => exact hold
  | cons c rest ih =>
    obtain ⟨hnext, hlonger⟩ := get?_perform hids hn hkey hold c
    rw [List.flatMap_cons, overwrite_append]
    exact ih hlonger hnext

def created (ids : Nat → String) (n : Nat) : List Call → List Key
  | [] => []
  | .create type _ :: rest =>
    if Text.isBlankText type then created ids n rest else keyOf type (ids n) :: created ids (n + 1) rest
  | _ :: rest => created ids n rest

/-- The keys stand in the order in which the records were created. -/
theorem keys_run (hids : Function.Injective ids) (hm : ∀ key ∈ m.keys, ∃ n, n < m.length ∧ key.2 = ids n)
    (calls : List Call) : (m.run ids calls).2.keys = m.keys ++ created ids m.length calls := by
  induction calls generalizing m with
  | nil => rw [created, List.append_nil]; rfl
  | cons c rest ih =>
    rw [run]
    have hkept : ∀ m' : RecordMap, m'.keys = m.keys →
        (m'.run ids rest).2.keys = m.keys ++ created ids m.length rest := by
      intro m' hkeys
      have hlength : m'.length = m.length := by simpa [keys] using congrArg List.length hkeys
      have := ih (m := m') (by rw [hkeys, hlength]; exact hm)
      rwa [hkeys, hlength] at this
    cases c with
    | create type fields =>
      by_cases hblank : Text.isBlankText type = true
      · simp only [perform, created, hblank, if_true]
        exact hkept m rfl
      · have hnew : keyOf type (ids m.length) ∉ m.keys := by
          intro hkey
          obtain ⟨n, hn, hid⟩ := hm _ hkey
          exact absurd (hids hid) (by omega)
        simp only [perform, created, hblank, Bool.false_eq_true, if_false, put_of_not_mem hnew]
        rw [ih]
        · simp [keys]
        · intro key hkey
          rw [keys, List.map_append, List.mem_append, List.map_singleton, List.mem_singleton] at hkey
          rw [List.length_append, List.length_singleton]
          rcases hkey with hkey | rfl
          · obtain ⟨n, hn, hid⟩ := hm key hkey
            exact ⟨n, by omega, hid⟩
          · exact ⟨m.length, by omega, rfl⟩
    | update type id fields =>
      simp only [perform, created]
      split
      · rename_i old hold
        exact hkept _ (keys_put_of_mem (get?_isSome_iff.mp (by rw [hold]; rfl)))
      · exact hkept m rfl
    | get type id => exact hkept m rfl
    | query type q => exact hkept m rfl

end RecordMap

namespace Store

variable {ids : Nat → String} {s : Store}

/-! ## (5) Calls that fail, updates and queries -/

theorem perform_failed {c : Call} {err : ServiceError} (h : (s.perform ids c).1 = .failed err) :
    (s.perform ids c).2 = s := by
  cases c with
  | create type fields =>
    simp only [perform] at h ⊢
    split at h
    · cases h
    · rfl
  | update type id fields =>
    simp only [perform] at h ⊢
    split at h
    · cases h
    · rfl
  | get type id => rfl
  | query type q => rfl

theorem create_failed_iff (s : Store) (type : String) (fields : Fields) :
    (∃ err, (s.perform ids (.create type fields)).1 = .failed err) ↔ Text.isBlankText type = true := by
  by_cases hblank : Text.isBlankText type = true
  · simp [perform, create, hblank]
  · simp [perform, create, hblank]

/-- An update fails if the map has not the key, and else writes under it and nowhere else. -/
theorem update_perform (hids : Function.Injective ids) (hs : s.Numbered ids) (type id : String) (fields : Fields) :
    ((∃ err, (s.perform ids (.update type id fields)).1 = .failed err) ↔ keyOf type id ∉ s.view.keys) ∧
      (s.perform ids (.update type id fields)).2.view.keys = s.view.keys ∧
      ∀ key, key ≠ keyOf type id →
        (s.perform ids (.update type id fields)).2.view.get? key = s.view.get? key := by
  obtain ⟨hanswer, hview⟩ := perform_view hids hs (.update type id fields)
  rw [hanswer, hview, ← RecordMap.get?_isSome_iff]
  simp only [RecordMap.perform]
  cases hold : s.view.get? (keyOf type id) with
  | none => simp
  | some old =>
    have hkey : keyOf type id ∈ s.view.keys := RecordMap.get?_isSome_iff.mp (by rw [hold]; rfl)
    refine ⟨by simp, RecordMap.keys_put_of_mem hkey, fun key hother => ?_⟩
    rw [RecordMap.get?_put, if_neg (Ne.symm hother)]

/-- A query that asks for nothing but a type finds all of that type. -/
theorem query_perform (s : Store) (type : String) :
    s.perform ids (.query type {}) = (.listed (some (s.view.ofType (Text.lower type))), s) := by
  simp [perform, query, Query.apply, Query.matching, Query.accepts, ofType_view]

/-- Every record is what its creation says, its id included, and what was written over it
    later, the last value of each name. -/
theorem get?_created (hids : Function.Injective ids) (before : List Call) {type : String} (fields : Fields)
    (after : List Call) (htype : Text.isBlankText type = false) :
    let id := ids (run ids [] before).2.length
    ∃ record, (run ids [] (before ++ .create type fields :: after)).2.get? type id = some record ∧
      record.get? idKey = some (.string id) ∧
      ∀ name, name ≠ idKey → record.get? name =
        ((after.flatMap (·.writes (keyOf type id))).reverse.lookup name).or (fields.get? name) := by
  have hempty : Numbered ids [] := rfl
  have hs := numbered_run hempty before
  generalize hstore : (run ids [] before).2 = s at hs ⊢
  intro id
  have hcall := numbered_perform hs (.create type fields)
  have hnew : (s.perform ids (.create type fields)).2.view.get? (keyOf type id) =
      some (fields.insert idKey (.string id)) := by
    rw [(perform_view hids hs _).2]
    simp only [RecordMap.perform, htype, Bool.false_eq_true, if_false, length_view, RecordMap.get?_put]
    exact if_pos rfl
  have hlength : s.length < (s.perform ids (.create type fields)).2.view.length := by
    simp [length_view, perform, create, htype]
  have hlast : (run ids [] (before ++ .create type fields :: after)).2.get? type id =
      some (overwrite (fields.insert idKey (.string id)) (after.flatMap (·.writes (keyOf type id)))) := by
    have hrun := numbered_run hcall after
    rw [run_append, hstore, run, find?_view fun r hr => by
        obtain ⟨n, -, hname⟩ := hrun.of_mem hr
        exact ⟨ids n, hname⟩,
      (run_view hids hcall after).2]
    exact RecordMap.get?_run hids hlength rfl hnew after
  refine ⟨_, hlast, ?_, fun name hname => ?_⟩
  · rw [get?_overwrite_id, Table.get?_insert, if_pos rfl]
  · rw [get?_overwrite _ _ hname, Table.get?_insert, if_neg (Ne.symm hname)]

/-- Whatever is called, the store is a map from types in lower case and ids to fields, each
    answer is that of the map, and its keys stand in the order of creation. A record is what
    was created, with the id that it was given, and what was written over it later. Calls
    that fail change nothing, updates change one record, and a query for a type finds the
    records of the type. -/
theorem store_is_a_map_in_order_of_creation (hids : Function.Injective ids) (calls : List Call) :
    let s := (run ids [] calls).2
    let m := (RecordMap.run ids [] calls).2
    ((run ids [] calls).1 = (RecordMap.run ids [] calls).1 ∧ s.view = m ∧ m.keys.Nodup ∧
      m.keys = RecordMap.created ids 0 calls) ∧
    (∀ before type fields after, calls = before ++ .create type fields :: after → Text.isBlankText type = false →
      let id := ids (run ids [] before).2.length
      ∃ record, s.get? type id = some record ∧ record.get? idKey = some (.string id) ∧
        ∀ name, name ≠ idKey → record.get? name =
          ((after.flatMap (·.writes (keyOf type id))).reverse.lookup name).or (fields.get? name)) ∧
    (∀ c err, (s.perform ids c).1 = .failed err → (s.perform ids c).2 = s) ∧
    (∀ type fields, (∃ err, (s.perform ids (.create type fields)).1 = .failed err) ↔
      Text.isBlankText type = true) ∧
    (∀ type id fields,
      ((∃ err, (s.perform ids (.update type id fields)).1 = .failed err) ↔ keyOf type id ∉ m.keys) ∧
      (s.perform ids (.update type id fields)).2.view.keys = m.keys ∧
      ∀ key, key ≠ keyOf type id → (s.perform ids (.update type id fields)).2.view.get? key = m.get? key) ∧
    ∀ type, s.perform ids (.query type {}) = (.listed (some (m.ofType (Text.lower type))), s) := by
  intro s m
  have hempty : Numbered ids [] := rfl
  have hs : s.Numbered ids := numbered_run hempty calls
  obtain ⟨hanswers, hview⟩ := run_view hids hempty calls
  have hm : s.view = m := hview
  refine ⟨⟨hanswers, hm, hm ▸ hs.keys_nodup hids, ?_⟩, ?_, fun _ _ => perform_failed, create_failed_iff s,
    fun type id fields => hm ▸ update_perform hids hs type id fields, fun type => hm ▸ query_perform s type⟩
  · exact RecordMap.keys_run (m := []) hids (fun key hkey => nomatch hkey) calls
  · rintro before type fields after rfl htype
    exact get?_created hids before fields after htype

namespace Sample

def recordIds (n : Nat) : String := "rec-" ++ toString (n + 1)

theorem recordIds_injective : Function.Injective recordIds := by
  intro m n h
  have htext : "rec-" ++ (m + 1).repr = "rec-" ++ (n + 1).repr := h
  have hrepr : (m + 1).repr = (n + 1).repr := (String.append_right_inj "rec-").mp htext
  have := Nat.repr_inj.mp hrepr
  omega

/-- Two records are created; an update under another case of the type writes a score and tries to
    write the id, and one under the type of the other record fails. -/
def calls : List Call :=
  [.create "Lead" [("id", .string "mine"), ("name", .string "Ann")], .create "Task" [],
    .update "LEAD" "rec-1" [("id", .string "yours"), ("score", .bool true)],
    .update "Task" "rec-1" [("name", .string "Bob")], .create " " []]

end Sample

/-- The first of the records keeps its name and its id, and has the score. -/
theorem sample_store_is_a_map_in_order_of_creation :
    Function.Injective Sample.recordIds ∧
      (run Sample.recordIds [] Sample.calls).2.view.keys = [("lead", "rec-1"), ("task", "rec-2")] ∧
      ∃ record, (run Sample.recordIds [] Sample.calls).2.get? "Lead" "rec-1" = some record ∧
        record.get? idKey = some (.string "rec-1") ∧ record.get? "name" = some (.string "Ann") ∧
        record.get? "score" = some (.bool true) := by
  obtain ⟨⟨-, hview, -, hkeys⟩, hrecord, -⟩ :=
    store_is_a_map_in_order_of_creation Sample.recordIds_injective Sample.calls
  obtain ⟨record, hget, hid, hrest⟩ := hrecord [] "Lead" _ _ rfl (by decide +kernel)
  refine ⟨Sample.recordIds_injective, ?_, record, hget, hid, ?_, ?_⟩
  · rw [hview, hkeys]
    decide +kernel
  · rw [hrest "name" (by decide)]
    rfl
  · rw [hrest "score" (by decide)]
    rfl

end Store

end Stepflow.Records
