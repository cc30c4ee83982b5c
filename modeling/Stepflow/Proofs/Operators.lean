/-
  Stepflow.Proofs.Operators — an operator asks the same of a record as of a context.

  A filter of records and a rule of a condition are both made of a path, an operator and a
  value, and each reads them in its own way.

  (1) The operator: a filter takes the names of its own tests first, without regard to case and
  blanks, and none of them is a name of an operator of conditions. So by each of these it is the
  operator that a rule has by it (`parse_of_name`, `decode_of_name`).

  (2) The path: a rule takes the path out of a placeholder. A path that is none is looked up
  alike, its outer blanks not counted (`resolve_barePath`).

  (3) The value: a rule fills in the texts in it, and a value without a placeholder stays. A
  filter takes it as it is, except that what a field is to be one of becomes a list, and a list
  is one already.

  `filters_and_rules_agree` puts them together.
-/

import Stepflow.Proofs.Filling
import Stepflow.Records.Filter

namespace Stepflow

/-! ## (1) Operators by their names -/

namespace Operator

variable {name : String} {op : Operator}

theorem ofName?_of_mem (h : (name, op) ∈ names) : ofName? name = some op := by
  have hall : ∀ e ∈ names, ofName? e.1 = some e.2 := by decide
  exact hall _ h

theorem decode_of_name (h : (name, op) ∈ names) : Json.decodeValue decode (.string name) = .ok op := by
  have hlookup : names.lookup name = some op := ofName?_of_mem h
  have hdecode : Json.decodeValue decode (.string name) = Json.Decode.named names name := rfl
  rw [hdecode, Json.Decode.named, hlookup]

end Operator

namespace Records.Filter

variable {name field : String} {op : Operator}

def asksMembership (op : Operator) : Prop := op = .isIn ∨ op = .notIn

instance : DecidablePred asksMembership := fun _ => inferInstanceAs (Decidable (_ ∨ _))

theorem parse_of_name (h : (name, op) ∈ Operator.names) (now : Time.Timestamp) (field : String) (v : Value) :
    parse now field name v = ⟨field, .compare op, if asksMembership op then listed v else v⟩ := by
  have hnames : Operator.names.all (fun e => Text.lower (Text.trim e.1) == e.1) = true := by decide +kernel
  have hname : Text.lower (Text.trim name) = name := by simpa using List.all_eq_true.mp hnames _ h
  have hlists : ∀ e ∈ Operator.names, asksMembership e.2 → e.1 = "in" ∨ e.1 = "not_in" := by decide
  have hop := Operator.ofName?_of_mem h
  rw [parse, hname]
  split
  case h_8 =>
    obtain rfl : .isIn = op := Option.some.inj hop
    rfl
  case h_10 =>
    obtain rfl : .notIn = op := Option.some.inj hop
    rfl
  case h_15 hin _ hnotIn _ _ _ _ =>
    have hother : ¬ asksMembership op := by
      intro hasks
      rcases hlists _ h hasks with heq | heq
      · exact hin heq
      · exact hnotIn heq
    rw [hop, if_neg hother]
    rfl
  all_goals cases hop

end Records.Filter

/-! ## (2) Paths -/

/-- What is no placeholder is the path itself. -/
theorem Template.resolve_barePath {field : String} (h : ∀ before body after, ¬ Lone field before body after)
    (root : Fields) : root.resolve (barePath field) = root.resolve field := by
  have hnone : single? field = none := by
    cases hsingle : single? field with
    | none => rfl
    | some path =>
      obtain ⟨before, body, after, hlone⟩ := lone_of_single? hsingle
      exact absurd hlone (h before body after)
  refine resolve_congr ?_
  rw [barePath, hnone, Option.getD_none, Text.trim, Text.trim, String.toList_ofList,
    Text.trimChars_of_trimmed (Text.trimmed_trimChars _)]

/-! ## (3) Filters and rules -/

namespace Records.Filter

/-- By every name of an operator a rule has it, and a filter passes just the records in which the rule holds, if the
    field is no placeholder and the value has none in it. What a field is to be one of is to be written as a list. -/
theorem filters_and_rules_agree {name : String} {op : Operator} (hname : (name, op) ∈ Operator.names) :
    Json.decodeValue Operator.decode (.string name) = .ok op ∧
    ∀ (now : Time.Timestamp) (field : String) (v : Value) (record : Fields),
      (∀ before body after, ¬ Template.Lone field before body after) → v.WithoutPlaceholders →
      (op = .isIn ∨ op = .notIn → ∃ items, v = .array items) →
      (parse now field name v).accepts record = (Rule.mk field op v).holds record := by
  refine ⟨Operator.decode_of_name hname, fun now field v record hfield hplain hlist => ?_⟩
  have hvalue : (if asksMembership op then listed v else v) = v := by
    split
    · rename_i hasks
      obtain ⟨items, rfl⟩ := hlist hasks
      rfl
    · rfl
  calc (parse now field name v).accepts record
    _ = op.test ((record.resolve field).getD .null) v := by
      rw [parse_of_name hname, hvalue]
      rfl
    _ = (Rule.mk field op v).holds record := by
      rw [Rule.holds, Template.resolve_barePath hfield, Value.templated_of_no_placeholder record v hplain]

namespace Sample

def owned : Fields := [("owner", .object [("name", .string "Ada")]), ("status", .string "new")]

def owners : Value := .array [.string "Grace", .string "Ada"]

theorem owners_without_placeholders : owners.WithoutPlaceholders := by
  intro path text h
  cases h with
  | item hitem hrest =>
    have hmem := List.mem_of_getElem? hitem
    simp only [List.mem_cons, List.not_mem_nil, or_false] at hmem
    rcases hmem with rfl | rfl
    all_goals
      cases hrest
      exact Template.not_hasPlaceholders (by decide)

end Sample

open Sample in
/-- The owner is one of those named, for a filter as for a rule. -/
theorem sample_owner_is_one_of_those_named :
    ("in", Operator.isIn) ∈ Operator.names ∧ Json.decodeValue Operator.decode (.string "in") = .ok .isIn ∧
      (∀ before body after, ¬ Template.Lone " owner:name " before body after) ∧ owners.WithoutPlaceholders ∧
      (parse ⟨0, 0⟩ " owner:name " "in" owners).accepts owned = (Rule.mk " owner:name " .isIn owners).holds owned ∧
      (parse ⟨0, 0⟩ " owner:name " "in" owners).accepts owned = true := by
  have hname : ("in", Operator.isIn) ∈ Operator.names := by decide
  have hfield : ∀ before body after, ¬ Template.Lone " owner:name " before body after := by
    intro before body after h
    have hnone : Template.single? " owner:name " = none := by decide +kernel
    rw [h.single?_eq] at hnone
    cases hnone
  obtain ⟨hdecode, hagree⟩ := filters_and_rules_agree hname
  exact ⟨hname, hdecode, hfield, owners_without_placeholders,
    hagree ⟨0, 0⟩ _ _ owned hfield owners_without_placeholders fun _ => ⟨_, rfl⟩, by decide +kernel⟩

open Sample in
/-- Names between commas are a list to a filter alone. -/
example : (parse ⟨0, 0⟩ "owner.name" "in" (.string "Grace, Ada")).accepts owned = true ∧
    (Rule.mk "owner.name" .isIn (.string "Grace, Ada")).holds owned = false := by decide +kernel

end Records.Filter

end Stepflow
