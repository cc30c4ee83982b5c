/-
  Stepflow.Proofs.Definitions — definitions survive being written as data.

  (1) A step is readable when its kind is the one that its key names, its configuration is
  normal and its rank fits a word, at every depth (`Step.Readable`). Whatever is decoded as
  a step is readable (`Step.readable_decode`), from a text of either format or from data.

  (2) A readable step is decoded from its own data as itself (`Step.decode_toValue`), though
  an empty list of children and an error policy that it has not are not written.

  (3) The same holds of workflows, whose timestamps have to be valid
  (`Workflow.readable_decode`, `Workflow.decode_toValue`).

  `parsed_definitions_survive_as_data` says so of every text that defines a workflow; the
  id of the workflow has the form of an id.
-/

import Stepflow.Proofs.Casing
import Stepflow.Proofs.Timestamps
import Stepflow.Workflow.Source

namespace Stepflow

open Json

/-! ## Parts of a definition as data -/

namespace Json.Decode

theorem whole_ofInt {least greatest n : Int} (expected : String) (hfrom : Int64.minValue.toInt ≤ n)
    (hto : n < UInt64.size) (h₁ : least ≤ n) (h₂ : n ≤ greatest) :
    whole least greatest expected (Tree.ofValue (.number (.ofInt n))) = .ok n := by
  have hbounded : whole.bounded least greatest expected n = .ok n := by simp [whole.bounded, h₁, h₂]
  have hleast : -2 ^ 63 ≤ n := hfrom
  by_cases hsign : 0 ≤ n
  · have hn : ((UInt64.ofNat n.toNat).toNat : Int) = n := by
      have hsize : UInt64.size = 2 ^ 64 := rfl
      rw [UInt64.toNat_ofNat', Nat.mod_eq_of_lt (by omega)]
      omega
    simp only [Number.ofInt, if_pos hsign, if_pos hto, Tree.ofValue, whole, hn, hbounded]
  · have hn : (Int64.ofInt n).toInt = n := Int64.toInt_ofInt_of_le hleast (by omega)
    simp only [Number.ofInt, if_neg hsign, if_pos hfrom, Tree.ofValue, whole, hn, hbounded]

theorem natural_count {bound n : Nat} (expected : String) (hbound : bound ≤ UInt64.size) (h : n < bound) :
    natural bound expected (Tree.ofValue (.count n)) = .ok n := by
  have hfrom : Int64.minValue.toInt ≤ n := Int.le_trans (by decide) (Int.natCast_nonneg n)
  have hwhole : whole 0 (bound - 1) expected (Tree.ofValue (.number (.ofInt n))) = .ok (n : Int) :=
    whole_ofInt expected hfrom (by omega) (by omega) (by omega)
  unfold natural Value.count Number.ofNat
  rw [hwhole]
  rfl

theorem required_eq_ok {α : Type} {field : String} {o : Option α} {a : α} : required field o = .ok a ↔ o = some a := by
  cases o with
  | none => exact ⟨nofun, nofun⟩
  | some b => exact ⟨fun h => congrArg some (Except.ok.inj h), fun h => congrArg Except.ok (Option.some.inj h)⟩

end Json.Decode

namespace Step

/-! ## (1) Readable steps -/

def Fits (order : Int) : Prop := Int64.minValue.toInt ≤ order ∧ order ≤ Int64.maxValue.toInt

mutual
/-- The kind, the configuration and the rank of the step, and of all below it, are such as are read. -/
def Readable : Step → Prop
  | ⟨_, kind, config, children, order, _⟩ =>
    StepKind.ofString kind.key = kind ∧ (Value.object config).Normal ∧ Fits order ∧ ReadableAll children

def ReadableAll : List Step → Prop
  | [] => True
  | s :: rest => Readable s ∧ ReadableAll rest
end

theorem readableAll_iff {steps : List Step} : ReadableAll steps ↔ ∀ s ∈ steps, s.Readable := by
  induction steps with
  | nil => simp [ReadableAll]
  | cons s rest ih => simp [ReadableAll, ih]

structure Draft.Readable (r : Draft) : Prop where
  kind : ∀ k, r.kind = some k → StepKind.ofString k.key = k
  config : (Value.object r.config).Normal
  order : Fits r.order
  children : ∀ s ∈ r.children, s.Readable

theorem Draft.readable_new : ({} : Draft).Readable :=
  ⟨nofun, ⟨List.Pairwise.nil, trivial⟩, ⟨by decide, by decide⟩, nofun⟩

theorem whole_fits {t : Tree} {n : Int}
    (h : Decode.whole Int64.minValue.toInt Int64.maxValue.toInt "i64" t = .ok n) : Fits n := by
  have hbounded : ∀ m, Decode.whole.bounded Int64.minValue.toInt Int64.maxValue.toInt "i64" m = .ok n → Fits n := by
    intro m h
    unfold Decode.whole.bounded at h
    split at h
    · cases h
      simp_all [Fits]
    · cases h
  unfold Decode.whole at h
  split at h
  · exact hbounded _ h
  · exact hbounded _ h
  · cases h

theorem readable_set {origin : Origin} {children : Tree → Except DecodeError (List Step)} {budget : Nat}
    (hchildren : ∀ t steps, children t = .ok steps → ∀ s ∈ steps, s.Readable) (name : String) (t : Tree)
    (r r' : Draft) (hr : r.Readable) (h : (recordSpec origin children budget).set name t r = .ok r') :
    r'.Readable := by
  unfold recordSpec at h
  dsimp only at h
  split at h
  all_goals
    obtain ⟨x, hx, h⟩ := Except.bind_eq_ok.mp h
    cases h
  · exact ⟨hr.kind, hr.config, hr.order, hr.children⟩
  · refine ⟨?_, hr.config, hr.order, hr.children⟩
    intro k hk
    rw [← Option.some.inj hk]
    exact StepKind.ofString_key x
  · exact ⟨hr.kind, Decode.normal_table hx, hr.order, hr.children⟩
  · exact ⟨hr.kind, hr.config, hr.order, hchildren _ _ hx⟩
  · exact ⟨hr.kind, hr.config, whole_fits hx, hr.children⟩
  · exact ⟨hr.kind, hr.config, hr.order, hr.children⟩

/-- A step is as its fields are. -/
theorem readable_ofDraft {r : Draft} (hr : r.Readable) {s : Step} (h : ofDraft r = .ok s) : s.Readable := by
  obtain ⟨id, -, h⟩ := Except.bind_eq_ok.mp h
  obtain ⟨kind, hkind, h⟩ := Except.bind_eq_ok.mp h
  have hs := Except.ok.inj h
  subst hs
  exact ⟨hr.kind kind (Decode.required_eq_ok.mp hkind), hr.config, hr.order, readableAll_iff.mpr hr.children⟩

/-- Whatever is decoded as a step is readable. -/
theorem readable_decode (origin : Origin) :
    ∀ (budget : Nat) (t : Tree) (s : Step), decode origin budget t = .ok s → s.Readable
  | 0, t, s, h => by
    rw [decode] at h
    cases h
  | 1, t, s, h => by
    rw [decode] at h
    have hchildren : ∀ (t : Tree) (steps : List Step),
        (.error (Decode.exhausted t "a sequence") : Except DecodeError (List Step)) = .ok steps →
          ∀ s ∈ steps, s.Readable := nofun
    obtain ⟨r, hr, h⟩ := Decode.RecordSpec.read_all (readable_set hchildren) Draft.readable_new h
    exact readable_ofDraft hr h
  | budget + 2, t, s, h => by
    rw [decode] at h
    have hchildren : ∀ t steps, Decode.listOf (decode origin budget) t = .ok steps → ∀ s ∈ steps, s.Readable :=
      fun _ _ h => Decode.listOf_all (readable_decode origin budget) h
    obtain ⟨r, hr, h⟩ := Decode.RecordSpec.read_all (readable_set hchildren) Draft.readable_new h
    exact readable_ofDraft hr h

/-! ## (2) Steps as data -/

def dataFields : Step → Fields
  | ⟨id, kind, config, children, order, onError⟩ =>
    (if children.isEmpty then [] else [("children", .array (toValues children))]) ++
      ([("config", .object config), ("id", .string id)] ++
        ((onError.map fun a => ("on_error", a.toValue)).toList ++
          [("order", .number (.ofInt order)), ("type", .string kind.key)]))

theorem toValue_eq (s : Step) : s.toValue = .object s.dataFields := by
  obtain ⟨id, kind, config, children, order, onError⟩ := s
  unfold toValue Value.record dataFields
  dsimp only
  generalize Value.string id = i, Value.string kind.key = k, Value.object config = c,
    Value.array (toValues children) = s, Value.number (.ofInt order) = o
  unfold Table.ofList Table.insertAll
  cases children <;> cases onError <;>
    simp only [List.isEmpty_nil, List.isEmpty_cons, Bool.false_eq_true, if_true, if_false, Option.map_some,
      Option.map_none, Option.toList_some, Option.toList_none, List.cons_append, List.nil_append, List.foldl_cons,
      List.foldl_nil] <;>
    cbv

theorem ordered_dataFields (s : Step) : s.dataFields.Ordered := by
  have h := toValue_eq s
  obtain ⟨id, kind, config, children, order, onError⟩ := s
  exact Decode.ordered_of_record h

theorem declared_dataFields (s : Step) :
    ∀ k ∈ s.dataFields.keys, k ∈ ["id", "type", "config", "children", "order", "on_error"] := by
  obtain ⟨id, kind, config, children, order, onError⟩ := s
  unfold dataFields
  cases children <;> cases onError <;> simp [Table.keys]

/-- The fields that the data of a readable step has are those of the step. -/
theorem setAll_dataFields {read : Tree → Except DecodeError (List Step)} {budget : Nat} {s : Step} (hs : s.Readable)
    (hconfig : (Value.object s.config).depth ≤ budget)
    (hchildren : s.children ≠ [] → read (Tree.ofValue (.array (toValues s.children))) = .ok s.children) :
    (recordSpec .value read budget).setAll s.dataFields {} =
      .ok ⟨some s.id, some s.kind, s.config, s.children, s.order, s.onError⟩ := by
  obtain ⟨id, kind, config, children, order, onError⟩ := s
  obtain ⟨hkind, hnormal, horder, -⟩ := hs
  have hsteps : (recordSpec .value read budget).setAll
      (if children.isEmpty then [] else [("children", .array (toValues children))]) {} = .ok { children } := by
    cases children with
    | nil => rfl
    | cons s rest =>
      refine Decode.RecordSpec.setAll_cons _ ?_
      simp only [recordSpec, hchildren (List.cons_ne_nil s rest)]
      rfl
  have htable : (recordSpec .value read budget).set "config" (Tree.ofValue (.object config)) { children } =
      .ok { config, children } := by
    simp only [recordSpec, Decode.table_ofFields hnormal hconfig]
    rfl
  have hid : (recordSpec .value read budget).set "id" (Tree.ofValue (.string id)) { config, children } =
      .ok { id := some id, config, children } := by
    cases budget <;> rfl
  have hpolicy : (recordSpec .value read budget).setAll (onError.map fun a => ("on_error", a.toValue)).toList
      { id := some id, config, children } = .ok { id := some id, config, children, onError } := by
    cases onError with
    | none => rfl
    | some a => cases a <;> rfl
  have hrank : (recordSpec .value read budget).set "order" (Tree.ofValue (.number (.ofInt order)))
      { id := some id, config, children, onError } = .ok { id := some id, config, children, order, onError } := by
    have hsize : order < UInt64.size := Int.lt_of_le_of_lt horder.2 (by decide)
    simp only [recordSpec, Decode.whole_ofInt "i64" horder.1 hsize horder.1 horder.2]
    rfl
  have hname : (recordSpec .value read budget).set "type" (Tree.ofValue (.string kind.key))
      { id := some id, config, children, order, onError } =
        .ok { id := some id, kind := some kind, config, children, order, onError } :=
    congrArg (fun k => Except.ok (Draft.mk (some id) (some k) config children order onError)) hkind
  unfold dataFields
  rw [Decode.RecordSpec.setAll_append _ hsteps, List.cons_append, Decode.RecordSpec.setAll_cons _ htable,
    List.cons_append, Decode.RecordSpec.setAll_cons _ hid, List.nil_append,
    Decode.RecordSpec.setAll_append _ hpolicy, Decode.RecordSpec.setAll_cons _ hrank,
    Decode.RecordSpec.setAll_cons _ hname, Decode.RecordSpec.setAll_nil]

mutual

/-- A readable step is decoded from its data as itself. -/
theorem decode_toValue : (s : Step) → s.Readable → (budget : Nat) → s.toValue.depth ≤ budget →
    decode .value budget (Tree.ofValue s.toValue) = .ok s
  | ⟨id, kind, config, children, order, onError⟩, hs, budget, hbudget => by
    have hdepth : (Value.object config).depth + 1 ≤ budget ∧
        (children ≠ [] → Value.depthItems (toValues children) + 2 ≤ budget) := by
      rw [toValue_eq] at hbudget
      cases children <;> simp [dataFields, Value.depth, Value.depthFields] at hbudget ⊢ <;> omega
    have hpositive : 1 ≤ (Value.object config).depth := Nat.le_add_right 1 _
    obtain ⟨budget, rfl⟩ : ∃ n, budget = n + 2 := ⟨budget - 2, by omega⟩
    have hchildren : children ≠ [] →
        Decode.listOf (decode .value budget) (Tree.ofValue (.array (toValues children))) = .ok children := by
      intro hsome
      have hbelow := hdepth.2 hsome
      simp only [Tree.ofValue, Decode.listOf, items_toValues children hs.2.2.2 budget (by omega)]
      rfl
    rw [toValue_eq, decode]
    exact Decode.RecordSpec.read_ofFields _ (declared_dataFields _) (ordered_dataFields _)
      (setAll_dataFields hs (Nat.le_of_succ_le_succ hdepth.1) hchildren) rfl

theorem items_toValues : (steps : List Step) → ReadableAll steps → (budget : Nat) →
    Value.depthItems (toValues steps) ≤ budget →
    Decode.items (decode .value budget) (Tree.ofItems (toValues steps)) = .ok steps
  | [], _, _, _ => rfl
  | s :: rest, ⟨hs, hrest⟩, budget, hbudget => by
    simp only [toValues, Value.depthItems] at hbudget
    simp only [toValues, Tree.ofItems, Decode.items, decode_toValue s hs budget (by omega),
      items_toValues rest hrest budget (by omega)]
    rfl

end

end Step

namespace WorkflowId

/-! ## (3) Workflows -/

/-- One to 64 bytes: one letter or digit, or letters, digits, hyphens and underscores between two of them. -/
def HasForm (s : String) : Prop :=
  1 ≤ s.utf8ByteSize ∧ s.utf8ByteSize ≤ 64 ∧
  ((∃ c, s.toList = [c] ∧ c.isAlphanum = true) ∨
    ∃ first inner last, s.toList = first :: (inner ++ [last]) ∧ first.isAlphanum = true ∧ last.isAlphanum = true ∧
      ∀ c ∈ inner, c.isAlphanum = true ∨ c = '-' ∨ c = '_')

theorem pattern_of_wellFormed {cs : List Char} (h : wellFormed cs = true) :
    (∃ c, cs = [c] ∧ c.isAlphanum = true) ∨
    ∃ first inner last, cs = first :: (inner ++ [last]) ∧ first.isAlphanum = true ∧ last.isAlphanum = true ∧
      ∀ c ∈ inner, c.isAlphanum = true ∨ c = '-' ∨ c = '_' := by
  simp only [wellFormed, Bool.and_eq_true, List.all_eq_true] at h
  obtain ⟨⟨hinner, hfirst⟩, hlast⟩ := h
  cases cs with
  | nil => simp at hfirst
  | cons first rest =>
    obtain rfl | ⟨inner, last, rfl⟩ := rest.eq_nil_or_concat
    · exact .inl ⟨first, rfl, by simpa using hfirst⟩
    · rw [List.concat_eq_append] at *
      rw [← List.cons_append, List.getLast?_concat] at hlast
      refine .inr ⟨first, inner, last, rfl, by simpa using hfirst, by simpa using hlast, fun c hc => ?_⟩
      have hmem : c ∈ first :: (inner ++ [last]) := List.mem_cons_of_mem first (List.mem_append_left [last] hc)
      simpa [isInner, or_assoc] using hinner c hmem

theorem hasForm (id : WorkflowId) : HasForm id.text := by
  obtain ⟨s, h⟩ := id
  unfold problem? at h
  split at h
  · cases h
  rename_i hempty
  split at h
  · cases h
  rename_i hlength
  split at h
  · rename_i hform
    have hbytes : s.utf8ByteSize ≠ 0 := by simpa [String.isEmpty] using hempty
    exact ⟨Nat.pos_of_ne_zero hbytes, Nat.not_lt.mp hlength, pattern_of_wellFormed hform⟩
  · cases h

theorem ofString_text (id : WorkflowId) : ofString id.text = .ok id := by
  unfold ofString
  split
  · rfl
  · rename_i problem h
    rw [id.valid] at h
    cases h

end WorkflowId

namespace Workflow

open Time

structure Readable (w : Workflow) : Prop where
  steps : Step.ReadableAll w.steps
  createdAt : w.createdAt.Valid
  updatedAt : w.updatedAt.Valid

structure Draft.Readable (r : Draft) : Prop where
  steps : ∀ s ∈ r.steps, s.Readable
  createdAt : ∀ t, r.createdAt = some t → t.Valid
  updatedAt : ∀ t, r.updatedAt = some t → t.Valid

theorem Draft.readable_new : ({} : Draft).Readable := ⟨nofun, nofun, nofun⟩

theorem valid_of_decodeTime {t : Tree} {time : Timestamp} (h : decodeTime t = .ok time) : time.Valid := by
  cases t with
  | string s => exact Timestamp.valid_of_readLoosely (Except.mapError_eq_ok.mp h)
  | _ => cases h

theorem readable_set {origin : Origin} {budget : Nat} (name : String) (t : Tree) (r r' : Draft) (hr : r.Readable)
    (h : (recordSpec origin budget).set name t r = .ok r') : r'.Readable := by
  unfold recordSpec at h
  dsimp only at h
  split at h
  all_goals
    obtain ⟨x, hx, h⟩ := Except.bind_eq_ok.mp h
    cases h
  case h_4 =>
    refine ⟨?_, hr.createdAt, hr.updatedAt⟩
    cases budget with
    | zero => cases hx
    | succ b => exact Decode.listOf_all (Step.readable_decode origin b) hx
  case h_8 => exact ⟨hr.steps, fun t ht => Option.some.inj ht ▸ valid_of_decodeTime hx, hr.updatedAt⟩
  case h_9 => exact ⟨hr.steps, hr.createdAt, fun t ht => Option.some.inj ht ▸ valid_of_decodeTime hx⟩
  all_goals exact ⟨hr.steps, hr.createdAt, hr.updatedAt⟩

/-- Whatever is decoded as a workflow is readable. -/
theorem readable_decode {now : Timestamp} (hnow : now.Valid) {origin : Origin} {budget : Nat} {t : Tree} {w : Workflow}
    (h : decode now origin budget t = .ok w) : w.Readable := by
  cases budget with
  | zero => cases h
  | succ b =>
    obtain ⟨r, hr, h⟩ := Decode.RecordSpec.read_all (readable_set) Draft.readable_new h
    obtain ⟨id, -, h⟩ := Except.bind_eq_ok.mp h
    obtain ⟨name, -, h⟩ := Except.bind_eq_ok.mp h
    have hw := Except.ok.inj h
    subst hw
    have htime : ∀ o : Option Timestamp, (∀ t, o = some t → t.Valid) → (o.getD now).Valid := by
      intro o ho
      cases o with
      | none => exact hnow
      | some t => exact ho t rfl
    exact ⟨Step.readableAll_iff.mpr hr.steps, htime _ hr.createdAt, htime _ hr.updatedAt⟩

def dataFields (w : Workflow) : Fields :=
  ("created_at", .string w.createdAt.zulu) ::
    ((w.description.map fun d => ("description", Value.string d)).toList ++
      ([("enabled", .bool w.enabled), ("id", .string w.id.text), ("name", .string w.name)] ++
        ((w.onError.map fun a => ("on_error", a.toValue)).toList ++
          [("steps", .array (Step.toValues w.steps)), ("updated_at", .string w.updatedAt.zulu),
            ("version", .count w.version.toNat)])))

theorem toValue_eq (w : Workflow) : w.toValue = .object w.dataFields := by
  obtain ⟨id, name, description, steps, onError, enabled, version, createdAt, updatedAt⟩ := w
  unfold toValue Value.record dataFields
  generalize Value.string id.text = i, Value.string name = n, Value.array (Step.toValues steps) = s,
    Value.bool enabled = e, Value.count version.toNat = v, Value.string createdAt.zulu = c,
    Value.string updatedAt.zulu = u
  unfold Table.ofList Table.insertAll
  cases description <;> cases onError <;>
    simp only [Option.map_some, Option.map_none, Option.toList_some, Option.toList_none, List.cons_append,
      List.nil_append, List.foldl_cons, List.foldl_nil] <;>
    cbv

theorem declared_dataFields (w : Workflow) : ∀ k ∈ w.dataFields.keys,
    k ∈ ["id", "name", "description", "steps", "on_error", "enabled", "version", "created_at", "updated_at"] := by
  obtain ⟨id, name, description, steps, onError, enabled, version, createdAt, updatedAt⟩ := w
  unfold dataFields
  cases description <;> cases onError <;> simp [Table.keys]

theorem ordered_dataFields (w : Workflow) : w.dataFields.Ordered := Decode.ordered_of_record (toValue_eq w)

theorem setAll_dataFields {w : Workflow} (hw : w.Readable) {budget : Nat} (hsteps :
    Decode.list budget (Step.decode .value) (Tree.ofValue (.array (Step.toValues w.steps))) = .ok w.steps) :
    (recordSpec .value budget).setAll w.dataFields {} =
      .ok ⟨some w.id, some w.name, w.description, w.steps, w.onError, w.enabled, w.version, some w.createdAt,
        some w.updatedAt⟩ := by
  obtain ⟨id, name, description, steps, onError, enabled, version, createdAt, updatedAt⟩ := w
  have hcreated : (recordSpec .value budget).set "created_at" (Tree.ofValue (.string createdAt.zulu)) {} =
      .ok { createdAt := some createdAt } := by
    simp only [recordSpec, Tree.ofValue, decodeTime, Timestamp.readLoosely_zulu hw.createdAt]
    rfl
  have hdescription : (recordSpec .value budget).setAll
      (description.map fun d => ("description", Value.string d)).toList { createdAt := some createdAt } =
        .ok { description, createdAt := some createdAt } := by
    cases description <;> rfl
  have hid : (recordSpec .value budget).set "id" (Tree.ofValue (.string id.text))
      { description, enabled, createdAt := some createdAt } =
        .ok { id := some id, description, enabled, createdAt := some createdAt } := by
    simp only [recordSpec, Tree.ofValue, decodeId, Decode.string, WorkflowId.ofString_text, Except.ok_bind]
    rfl
  have hpolicy : (recordSpec .value budget).setAll (onError.map fun a => ("on_error", a.toValue)).toList
      { id := some id, name := some name, description, enabled, createdAt := some createdAt } =
        .ok { id := some id, name := some name, description, onError, enabled, createdAt := some createdAt } := by
    cases onError with
    | none => rfl
    | some a => cases a <;> rfl
  have hlist : (recordSpec .value budget).set "steps" (Tree.ofValue (.array (Step.toValues steps)))
      { id := some id, name := some name, description, onError, enabled, createdAt := some createdAt } =
        .ok { id := some id, name := some name, description, steps, onError, enabled
              createdAt := some createdAt } := by
    simp only [recordSpec, hsteps]
    rfl
  have hupdated : (recordSpec .value budget).set "updated_at" (Tree.ofValue (.string updatedAt.zulu))
      { id := some id, name := some name, description, steps, onError, enabled, createdAt := some createdAt } =
        .ok { id := some id, name := some name, description, steps, onError, enabled, createdAt := some createdAt,
              updatedAt := some updatedAt } := by
    simp only [recordSpec, Tree.ofValue, decodeTime, Timestamp.readLoosely_zulu hw.updatedAt]
    rfl
  have hversion : (recordSpec .value budget).set "version" (Tree.ofValue (.count version.toNat))
      { id := some id, name := some name, description, steps, onError, enabled, createdAt := some createdAt,
        updatedAt := some updatedAt } =
        .ok ⟨some id, some name, description, steps, onError, enabled, version, some createdAt, some updatedAt⟩ := by
    simp only [recordSpec, Decode.natural_count "u32" (by decide) version.toNat_lt, Except.ok_bind, UInt32.ofNat_toNat]
    rfl
  unfold dataFields
  rw [Decode.RecordSpec.setAll_cons _ hcreated, Decode.RecordSpec.setAll_append _ hdescription, List.cons_append,
    Decode.RecordSpec.setAll_cons _ rfl, List.cons_append, Decode.RecordSpec.setAll_cons _ hid, List.cons_append,
    Decode.RecordSpec.setAll_cons _ rfl, List.nil_append, Decode.RecordSpec.setAll_append _ hpolicy,
    Decode.RecordSpec.setAll_cons _ hlist, Decode.RecordSpec.setAll_cons _ hupdated,
    Decode.RecordSpec.setAll_cons _ hversion, Decode.RecordSpec.setAll_nil]

/-- A readable workflow is decoded from its data as itself, whatever the time is. -/
theorem decode_toValue {w : Workflow} (hw : w.Readable) (now : Timestamp) :
    decodeValue (decode now) w.toValue = .ok w := by
  have hdepth : Value.depthItems (Step.toValues w.steps) + 2 ≤ w.toValue.depth := by
    rw [toValue_eq]
    obtain ⟨id, name, description, steps, onError, enabled, version, createdAt, updatedAt⟩ := w
    cases description <;> cases onError <;> simp [dataFields, Value.depth, Value.depthFields] <;> omega
  unfold decodeValue
  obtain ⟨budget, hbudget⟩ : ∃ n, w.toValue.depth = n + 2 := ⟨w.toValue.depth - 2, by omega⟩
  have hsteps : Decode.list (budget + 1) (Step.decode .value) (Tree.ofValue (.array (Step.toValues w.steps))) =
      .ok w.steps := by
    simp only [Tree.ofValue, Decode.list, Decode.listOf, Step.items_toValues w.steps hw.steps budget (by omega)]
    rfl
  rw [hbudget, toValue_eq]
  exact Decode.RecordSpec.read_ofFields _ (declared_dataFields w) (ordered_dataFields w)
    (setAll_dataFields hw hsteps) rfl

/-- A text is parsed as what its tree is decoded as. -/
theorem decode_of_parse {now : Timestamp} {text : String} {format : DefinitionFormat} {w : Workflow}
    (h : parse now text format = .ok w) : ∃ origin budget t, decode now origin budget t = .ok w := by
  cases format with
  | json =>
    obtain ⟨a, ha, h⟩ := Except.bind_eq_ok.mp (Except.mapError_eq_ok.mp h)
    split at h
    · cases h
    · exact ⟨_, _, _, Except.ok.inj h ▸ ha⟩
  | toml =>
    unfold parse at h
    dsimp only at h
    split at h
    · cases h
    · exact ⟨_, _, _, Except.mapError_eq_ok.mp h⟩

end Workflow

/-! ## Definition texts -/

/-- The workflow that a text defines, read at any time, is decoded again from its data, and
    as the very same workflow: its steps, at every depth, have the same ids, kinds (and so
    handler keys), configurations, ranks, policies and children. Its id has the form of ids. -/
theorem parsed_definitions_survive_as_data {now : Time.Timestamp} (hnow : now.Valid) {text : String}
    {format : DefinitionFormat} {w : Workflow} (h : Workflow.parse now text format = .ok w) :
    (∀ later, Json.decodeValue (Workflow.decode later) w.toValue = .ok w) ∧ WorkflowId.HasForm w.id.text := by
  obtain ⟨origin, budget, t, ht⟩ := Workflow.decode_of_parse h
  exact ⟨Workflow.decode_toValue (Workflow.readable_decode hnow ht), w.id.hasForm⟩

namespace Sample

/-- A definition of a step whose id is a number, with outer blanks and lower case in its kind, and one below it. -/
def nested : String :=
  "id = \"a\"\nname = \"A\"\n" ++
    "[[steps]]\nid = 1\ntype = \" action \"\nconfig.b = 2\nconfig.a = [true]\n" ++
    "[[steps.children]]\nid = \"b\"\ntype = \"LOOP\"\n"

end Sample

theorem sample_definition_survives_as_data : ∃ w, Workflow.parse ⟨0, 0⟩ Sample.nested .toml = .ok w ∧
    (∀ later, Json.decodeValue (Workflow.decode later) w.toValue = .ok w) ∧ WorkflowId.HasForm w.id.text := by
  have hread : (Workflow.parse ⟨0, 0⟩ Sample.nested .toml).isOk = true := by decide +kernel
  cases h : Workflow.parse ⟨0, 0⟩ Sample.nested .toml with
  | error e =>
    rw [h] at hread
    cases hread
  | ok w => exact ⟨w, rfl, parsed_definitions_survive_as_data ⟨by decide, by decide, by decide⟩ h⟩

end Stepflow
