/-
  Stepflow.Proofs.Spellings — fields and variables written as an object or as a list.

  The fields of a record and the variables of a step are pairs of a name and a value. They
  are written as an object, or as a list of entries that each give one of them (`entriesUnder`).

  (1) An entry is read as the pair that it gives, a field under any of the keys for its name
  (`fieldName?_entryUnder`, `variableName?_entryUnder`). So a list of entries holds the same pairs as
  the object whose pairs they give, in the same order (`pairsOf_entriesUnder`).

  (2) The values of pairs are put under their names without the outer blanks. Of the pairs that
  have one name then, the last one counts (`collects_namedValues`), and those with a blank name
  might as well not be there (`namedValues_nonblank`).

  `spellings_agree` puts them together, for fields, for variables, and for the step that
  defines variables.
-/

import Stepflow.Handler.Fields
import Stepflow.Proofs.Casing
import Stepflow.Proofs.Tables

namespace Stepflow

def Step.setting (s : Step) (key : String) (v : Value) : Step := { s with config := s.config.insert key v }

namespace Handler

open Time

/-! ## (1) Entries -/

def entryUnder (key : String) (pair : String × Value) : Value :=
  .record [(key, .string pair.1), ("value", pair.2)]

def entriesUnder (key : String) (o : Fields) : Value := .array (o.map (entryUnder key))

section Entries

variable {key : String} (pair : String × Value)

theorem field?_entryUnder (other : String) : (entryUnder key pair).field? other =
    if "value" = other then some pair.2 else if key = other then some (.string pair.1) else none := by
  simp only [entryUnder, Value.record, Value.field?, Value.fields?, Option.bind_some, Table.ofList, Table.insertAll,
    List.foldl_cons, List.foldl_nil, Table.get?_insert, Table.get?]

theorem entryValue_entryUnder : entryValue (entryUnder key pair) = pair.2 := by
  simp [entryValue, field?_entryUnder]

theorem fieldName?_entryUnder (h : key ∈ fieldNameKeys) : fieldName? (entryUnder key pair) = Text.trimmed? pair.1 := by
  simp only [fieldNameKeys, List.mem_cons, List.not_mem_nil, or_false] at h
  rcases h with rfl | rfl | rfl
  all_goals
    simp only [fieldName?, fieldNameKeys, List.findSome?_cons, List.findSome?_nil, field?_entryUnder]
    cases htrim : Text.trimmed? pair.1 <;> simp [Value.string?, htrim]

theorem variableName?_entryUnder : variableName? (entryUnder "name" pair) = Text.trimmed? pair.1 := by
  simp [variableName?, field?_entryUnder, Value.string?]

end Entries

theorem pairsOf_entriesUnder {name? : Value → Option String} {key : String}
    (h : ∀ pair, name? (entryUnder key pair) = Text.trimmed? pair.1) (o : Fields) :
    pairsOf name? (some (entriesUnder key o)) = pairsOf name? (some (.object o)) := by
  simp only [pairsOf, entriesUnder, List.map_map]
  refine List.map_congr_left ?_
  intro pair _
  rw [Function.comp, h, entryValue_entryUnder]

/-! ## (2) Names without their outer blanks -/

/-- Of the pairs whose names without outer blanks are `name`, the last one holds `v`. -/
def LastGiven (o : Fields) (name : String) (v : Value) : Prop :=
  ∃ before key after, o = before ++ (key, v) :: after ∧ Text.trim key = name ∧ ∀ pair ∈ after, Text.trim pair.1 ≠ name

/-- The table has the names that are not blank, each with what is made of the value of the last pair of that name. -/
structure Collects (value : Value → Value) (o t : Fields) : Prop where
  ordered : t.Ordered
  get?_iff : ∀ name v, t.get? name = some v ↔ name ≠ "" ∧ ∃ given, LastGiven o name given ∧ value given = v

section Names

variable (value : Value → Value) (name? : Value → Option String) (o : Fields)

/-- What a pair puts into the table: its name without outer blanks, if anything is left of it, and a value. -/
def placed? (pair : String × Value) : Option (String × Value) :=
  (Text.trimmed? pair.1).map fun name => (name, value pair.2)

theorem placed?_eq_some_iff {pair : String × Value} {name : String} {v : Value} :
    placed? value pair = some (name, v) ↔ (Text.trim pair.1 = name ∧ name ≠ "") ∧ value pair.2 = v := by
  rw [placed?, Option.map_eq_some_iff]
  constructor
  · intro h
    obtain ⟨given, hgiven, heq⟩ := h
    cases heq
    exact ⟨Text.trimmed?_eq_some_iff.mp hgiven, rfl⟩
  · intro h
    obtain ⟨hname, rfl⟩ := h
    exact ⟨name, Text.trimmed?_eq_some_iff.mpr hname, rfl⟩

theorem namedValues_object :
    namedValues value (pairsOf name? (some (.object o))) = Table.ofList (o.filterMap (placed? value)) := by
  simp only [namedValues, pairsOf, List.filterMap_map]
  rfl

theorem collects_namedValues : Collects value o (namedValues value (pairsOf name? (some (.object o)))) := by
  rw [namedValues_object]
  refine ⟨Table.ordered_ofList _, ?_⟩
  intro name v
  rw [Table.get?_ofList_eq_some_iff, Table.lastOf_filterMap_iff]
  simp only [ne_eq, placed?_eq_some_iff]
  constructor
  · intro h
    obtain ⟨before, ⟨key, given⟩, after, hsplit, ⟨⟨hkey, hname⟩, hv⟩, hafter⟩ := h
    refine ⟨hname, given, ⟨before, key, after, hsplit, hkey, ?_⟩, hv⟩
    -- a later pair of this name would have put its own value in
    intro pair hpair hsame
    exact hafter pair hpair _ ⟨⟨hsame, hname⟩, rfl⟩
  · intro h
    obtain ⟨hname, given, ⟨before, key, after, hsplit, hkey, hafter⟩, hv⟩ := h
    refine ⟨before, (key, given), after, hsplit, ⟨⟨hkey, hname⟩, hv⟩, ?_⟩
    intro pair hpair w hsame
    exact hafter pair hpair hsame.1.1

def nonblank (o : Fields) : Fields := o.filter fun pair => !Text.isBlankText pair.1

/-- Pairs with a blank name might as well not be there. -/
theorem namedValues_nonblank : namedValues value (pairsOf name? (some (.object (nonblank o)))) =
    namedValues value (pairsOf name? (some (.object o))) := by
  rw [namedValues_object, namedValues_object, nonblank, List.filterMap_filter]
  refine congrArg Table.ofList (List.filterMap_congr ?_)
  intro pair _
  rw [placed?, Text.trimmed?_eq]
  cases Text.isBlankText pair.1 <;> rfl

end Names

/-! ## Fields and variables -/

theorem resolveFields_entriesUnder {key : String} (h : key ∈ fieldNameKeys) (now : Timestamp) (ctx : Context)
    (o : Fields) : resolveFields now ctx (some (entriesUnder key o)) = resolveFields now ctx (some (.object o)) := by
  rw [resolveFields, pairsOf_entriesUnder fun pair => fieldName?_entryUnder pair h, ← resolveFields]

theorem collectVariables_entriesUnder (ctx : Context) (o : Fields) :
    collectVariables ctx (some (entriesUnder "name" o)) = collectVariables ctx (some (.object o)) := by
  rw [collectVariables, pairsOf_entriesUnder variableName?_entryUnder, ← collectVariables]

/-- What a step defines hangs on the variables that are written in it. -/
theorem defineVariable_setting {ctx : Context} {written other : Value}
    (h : collectVariables ctx (some written) = collectVariables ctx (some other)) (step : Step) :
    defineVariable (step.setting "variables" written) ctx = defineVariable (step.setting "variables" other) ctx := by
  simp only [defineVariable, ofWork, Step.setting, Table.get?_insert, if_true, h]

/-- An object and the list of its pairs give the same fields, and the same variables. Each name stands there without
    its outer blanks, with the value of the last pair that has it, and the pairs with a blank name count for nothing. -/
theorem spellings_agree (now : Timestamp) (ctx : Context) (o : Fields) :
    let fields := resolveFields now ctx (some (.object o))
    let defined := collectVariables ctx (some (.object o))
    (resolveFields now ctx (some (entriesUnder "column" o)) = fields ∧
      Collects (fieldValue now ctx) o fields ∧
      resolveFields now ctx (some (.object (nonblank o))) = fields) ∧
    (collectVariables ctx (some (entriesUnder "name" o)) = defined ∧
      Collects (Value.templated ctx) o defined ∧
      collectVariables ctx (some (.object (nonblank o))) = defined) ∧
    ∀ step : Step, defineVariable (step.setting "variables" (entriesUnder "name" o)) ctx =
      defineVariable (step.setting "variables" (.object o)) ctx := by
  intro fields defined
  have hcolumn : "column" ∈ fieldNameKeys := by decide
  have hfields : Collects (fieldValue now ctx) o fields := collects_namedValues _ fieldName? o
  have hdefined : Collects (Value.templated ctx) o defined := collects_namedValues _ variableName? o
  have hlisted := collectVariables_entriesUnder ctx o
  refine ⟨⟨resolveFields_entriesUnder hcolumn now ctx o, hfields, ?_⟩, ⟨hlisted, hdefined, ?_⟩, ?_⟩
  · exact namedValues_nonblank _ fieldName? o
  · exact namedValues_nonblank _ variableName? o
  · exact defineVariable_setting hlisted

/-- Of three spellings of one name the last one counts, and a blank name does not. -/
example :
    let limits : Fields := [(" ", .count 1), (" limit", .count 2), ("limit", .count 3), ("limit ", .count 4)]
    resolveFields ⟨0, 0⟩ [] (some (entriesUnder "field" limits)) = [("limit", .count 4)] ∧
      collectVariables [] (some (.object limits)) = [("limit", .count 4)] := ⟨rfl, rfl⟩

end Handler

end Stepflow
