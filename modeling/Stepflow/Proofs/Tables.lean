/-
  Stepflow.Proofs.Tables — what is put into a table in the order of its keys.

  (1) Tables in the order of their keys stay so (`Ordered.insert`), so a table made of any
  list of entries is (`ordered_ofList`), and it has no key twice (`Ordered.nodup`).

  (2) A table that is in order is the table of its entries (`ofList_of_ordered`).

  (3) Where no key of the entries stands twice, putting them in says of each key what the
  entries say, if they do (`get?_insertAll`), and the table made of them holds just these
  (`get?_ofList`). A merge says so too, with what was held before merged into
  (`Fields.get?_merge`).

  (4) Where keys may stand more than once, the table made of the entries holds under each
  key what its last entry holds (`get?_ofList_eq_some_iff`).
-/

import Mathlib.Data.List.Nodup
import Mathlib.Data.String.Basic
import Stepflow.Value.Merge

namespace Stepflow

namespace Table

variable {α : Type} {t entries : Table α} {key : String} {a : α}

/-! ## (1) Order -/

theorem mem_insert {e : String × α} (h : e ∈ insert t key a) : e = (key, a) ∨ e ∈ t := by
  induction t with
  | nil => exact .inl (List.mem_singleton.mp h)
  | cons x rest ih =>
    obtain ⟨k, b⟩ := x
    unfold insert at h
    split at h
    · exact (List.mem_cons.mp h).imp id (List.mem_cons_of_mem _)
    · split at h
      · exact List.mem_cons.mp h
      · rcases List.mem_cons.mp h with rfl | h
        · exact .inr (List.mem_cons_self ..)
        · exact (ih h).imp id (List.mem_cons_of_mem _)

theorem mem_insertAll {e : String × α} {entries : List (String × α)} (h : e ∈ t.insertAll entries) :
    e ∈ t ∨ e ∈ entries := by
  unfold insertAll at h
  induction entries generalizing t with
  | nil => exact .inl h
  | cons x rest ih =>
    rcases ih h with h | h
    · rcases mem_insert h with rfl | h
      · exact .inr (List.mem_cons_self ..)
      · exact .inl h
    · exact .inr (List.mem_cons_of_mem x h)

theorem mem_ofList {e : String × α} {entries : List (String × α)} (h : e ∈ ofList entries) : e ∈ entries :=
  (mem_insertAll h).resolve_left (List.not_mem_nil ·)

theorem Ordered.insert (h : Ordered t) (key : String) (a : α) : Ordered (t.insert key a) := by
  unfold Ordered at h ⊢
  induction t with
  | nil => exact List.pairwise_singleton ..
  | cons x rest ih =>
    obtain ⟨k, b⟩ := x
    obtain ⟨hfirst, hrest⟩ := List.pairwise_cons.mp h
    unfold Table.insert
    split
    · rename_i hk
      subst hk
      exact List.pairwise_cons.mpr ⟨hfirst, hrest⟩
    · rename_i hk
      split
      · rename_i hlt
        refine List.pairwise_cons.mpr ⟨fun e he => ?_, h⟩
        rcases List.mem_cons.mp he with rfl | he
        · exact hlt
        · exact String.lt_trans hlt (hfirst e he)
      · rename_i hlt
        refine List.pairwise_cons.mpr ⟨fun e he => ?_, ih hrest⟩
        rcases mem_insert he with rfl | he
        · exact lt_of_le_of_ne (not_lt.mp hlt) hk
        · exact hfirst e he

theorem Ordered.insertAll (h : Ordered t) (entries : List (String × α)) : Ordered (t.insertAll entries) := by
  unfold Table.insertAll
  induction entries generalizing t with
  | nil => exact h
  | cons e rest ih => exact ih (h.insert e.1 e.2)

theorem ordered_ofList (entries : List (String × α)) : Ordered (ofList entries) :=
  Ordered.insertAll List.Pairwise.nil entries

theorem Ordered.nodup (h : Ordered t) : t.keys.Nodup :=
  List.pairwise_map.mpr (h.imp fun hlt => ne_of_lt hlt)

/-! ## (2) Entries in order -/

/-- An entry of a greater key goes to the end. -/
theorem insert_of_greater (h : ∀ e ∈ t, e.1 < key) (a : α) : insert t key a = t ++ [(key, a)] := by
  induction t with
  | nil => rfl
  | cons x rest ih =>
    have hx : x.1 < key := h x (List.mem_cons_self ..)
    simp only [insert, if_neg (ne_of_lt hx), if_neg (lt_asymm hx), List.cons_append,
      ih fun e he => h e (List.mem_cons_of_mem x he)]

theorem insertAll_of_ordered (h : Ordered (t ++ entries)) : insertAll t entries = t ++ entries := by
  unfold insertAll
  induction entries generalizing t with
  | nil => simp
  | cons e rest ih =>
    have hgreater : ∀ x ∈ t, x.1 < e.1 := fun x hx =>
      (List.pairwise_append.mp h).2.2 x hx e (List.mem_cons_self ..)
    rw [List.append_cons] at h ⊢
    rw [List.foldl_cons, insert_of_greater hgreater]
    exact ih h

theorem ofList_of_ordered (h : Ordered entries) : ofList entries = entries := insertAll_of_ordered h

/-! ## (3) Entries of which no two have one key -/

theorem get?_eq_none (h : key ∉ t.keys) : t.get? key = none := by
  induction t with
  | nil => rfl
  | cons x rest ih =>
    simp only [keys, List.map_cons, List.mem_cons, not_or] at h
    simp only [get?, if_neg (Ne.symm h.1), ih h.2]

theorem mem_of_get? (h : t.get? key = some a) : (key, a) ∈ t := by
  induction t with
  | nil => cases h
  | cons x rest ih =>
    obtain ⟨k, b⟩ := x
    unfold get? at h
    split at h
    · rename_i hk
      rw [hk, Option.some.inj h]
      exact List.mem_cons_self ..
    · exact List.mem_cons_of_mem _ (ih h)

theorem get?_of_mem (hkeys : t.keys.Nodup) (h : (key, a) ∈ t) : t.get? key = some a := by
  induction t with
  | nil => cases h
  | cons e rest ih =>
    obtain ⟨k, b⟩ := e
    obtain ⟨hfirst, hrest⟩ := List.nodup_cons.mp hkeys
    rcases List.mem_cons.mp h with heq | h
    · cases heq
      simp [get?]
    · have hne : k ≠ key := by
        rintro rfl
        exact hfirst (List.mem_map.mpr ⟨_, h, rfl⟩)
      rw [get?, if_neg hne]
      exact ih hrest h

theorem get?_insertAll (t : Table α) (h : entries.keys.Nodup) (key : String) :
    (t.insertAll entries).get? key = (entries.get? key).or (t.get? key) := by
  unfold insertAll
  induction entries generalizing t with
  | nil => rfl
  | cons e rest ih =>
    obtain ⟨hfirst, hrest⟩ := List.nodup_cons.mp h
    rw [List.foldl_cons, ih _ hrest, get?_insert]
    by_cases hk : e.1 = key
    · subst hk
      simp [get?, get?_eq_none hfirst]
    · simp [get?, hk]

theorem get?_ofList (h : entries.keys.Nodup) : (ofList entries).get? key = some a ↔ (key, a) ∈ entries := by
  rw [ofList, get?_insertAll _ h, get?, Option.or_none]
  exact ⟨mem_of_get?, get?_of_mem h⟩

/-! ## (4) The last entry of a key -/

def LastOf (entries : List (String × α)) (key : String) (a : α) : Prop :=
  ∃ before after, entries = before ++ (key, a) :: after ∧ ∀ e ∈ after, e.1 ≠ key

/-- The last of the entries that are made of some of the members of a list. -/
theorem lastOf_filterMap_iff {β : Type} {f : β → Option (String × α)} {l : List β} :
    LastOf (l.filterMap f) key a ↔
      ∃ before x after, l = before ++ x :: after ∧ f x = some (key, a) ∧ ∀ y ∈ after, ∀ b, f y ≠ some (key, b) := by
  constructor
  · rintro ⟨before, after, hsplit, hafter⟩
    obtain ⟨before, rest, rfl, -, hrest⟩ := List.filterMap_eq_append_iff.mp hsplit
    obtain ⟨skipped, x, after, rfl, -, hx, rfl⟩ := List.filterMap_eq_cons_iff.mp hrest
    refine ⟨before ++ skipped, x, after, by rw [List.append_assoc], hx, ?_⟩
    intro y hy b hyb
    exact hafter _ (List.mem_filterMap.mpr ⟨y, hy, hyb⟩) rfl
  · rintro ⟨before, x, after, rfl, hx, hafter⟩
    refine ⟨before.filterMap f, after.filterMap f, by rw [List.filterMap_append, List.filterMap_cons_some hx], ?_⟩
    intro e he hkey
    obtain ⟨y, hy, hye⟩ := List.mem_filterMap.mp he
    exact hafter y hy e.2 (by rw [hye, ← hkey])

theorem lastOf_map_iff {β : Type} {f : β → String × α} {l : List β} :
    LastOf (l.map f) key a ↔
      ∃ before x after, l = before ++ x :: after ∧ f x = (key, a) ∧ ∀ y ∈ after, (f y).1 ≠ key := by
  have hother : ∀ y, (∀ b, some (f y) ≠ some (key, b)) ↔ (f y).1 ≠ key := by
    intro y
    constructor
    · intro h hkey
      exact h (f y).2 (by rw [← hkey])
    · intro h b heq
      exact h (congrArg Prod.fst (Option.some.inj heq))
  rw [← List.filterMap_eq_map, lastOf_filterMap_iff]
  simp only [Function.comp, hother, Option.some_inj]

theorem exists_lastOf (h : ∃ e ∈ entries, e.1 = key) : ∃ a, LastOf entries key a := by
  induction entries with
  | nil =>
    obtain ⟨e, he, -⟩ := h
    cases he
  | cons e rest ih =>
    by_cases hrest : ∃ f ∈ rest, f.1 = key
    · obtain ⟨a, before, after, hsplit, hafter⟩ := ih hrest
      exact ⟨a, e :: before, after, by rw [hsplit, List.cons_append], hafter⟩
    · obtain ⟨f, hf, hkey⟩ := h
      rcases List.mem_cons.mp hf with rfl | hf
      · exact ⟨f.2, [], rest, by rw [← hkey]; rfl, fun x hx hxkey => hrest ⟨x, hx, hxkey⟩⟩
      · exact absurd ⟨f, hf, hkey⟩ hrest

theorem LastOf.get?_ofList (h : LastOf entries key a) : (ofList entries).get? key = some a := by
  obtain ⟨before, after, rfl, hafter⟩ := h
  have hcut : ofList (before ++ (key, a) :: after) = insertAll (insert (ofList before) key a) after :=
    List.foldl_append ..
  rw [hcut, get?_insertAll_other _ hafter, get?_insert, if_pos rfl]

theorem get?_ofList_eq_none_iff : (ofList entries).get? key = none ↔ ∀ e ∈ entries, e.1 ≠ key := by
  refine ⟨fun h e he hkey => ?_, fun h => get?_insertAll_other [] h⟩
  obtain ⟨a, ha⟩ := exists_lastOf ⟨e, he, hkey⟩
  rw [ha.get?_ofList] at h
  cases h

theorem get?_ofList_eq_some_iff : (ofList entries).get? key = some a ↔ LastOf entries key a := by
  refine ⟨fun h => ?_, LastOf.get?_ofList⟩
  by_cases hkey : ∃ e ∈ entries, e.1 = key
  · obtain ⟨b, hb⟩ := exists_lastOf hkey
    obtain rfl : b = a := Option.some.inj (hb.get?_ofList.symm.trans h)
    exact hb
  · rw [get?_ofList_eq_none_iff.mpr fun e he hk => hkey ⟨e, he, hk⟩] at h
    cases h

end Table

def Value.mergedOver (held : Option Value) (v : Value) : Value :=
  match held with
  | some old => old.merge v
  | none => v

/-- Unless both are objects the value replaces what is held. -/
theorem Value.mergedOver_eq {held : Option Value} {v : Value}
    (h : ¬ ∃ old new, held = some (.object old) ∧ v = .object new) : Value.mergedOver held v = v := by
  cases held with
  | none => rfl
  | some old =>
    cases v with
    | object new =>
      cases old with
      | object fields => exact absurd ⟨fields, new, rfl, rfl⟩ h
      | _ => simp [mergedOver, Value.merge]
    | _ => simp [mergedOver, Value.merge]

theorem Fields.get?_merge (target : Fields) {incoming : Fields} (h : incoming.keys.Nodup) (key : String) :
    Table.get? (Fields.merge target incoming) key =
      ((incoming.get? key).map (Value.mergedOver (target.get? key))).or (target.get? key) := by
  induction incoming generalizing target with
  | nil => simp [Fields.merge, Table.get?]
  | cons e rest ih =>
    obtain ⟨k, v⟩ := e
    obtain ⟨hfirst, hrest⟩ := List.nodup_cons.mp h
    have hfirst : Table.get? rest k = none := Table.get?_eq_none hfirst
    rw [Fields.merge, ih _ hrest, Table.get?_insert]
    by_cases hk : k = key
    · subst hk
      cases hold : Table.get? target k <;> simp [Table.get?, hfirst, Value.mergedOver]
    · simp [Table.get?, hk]

end Stepflow
