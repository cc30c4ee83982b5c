/-
  Stepflow.Proofs.Modes — the modes of a query are views of one list.

  A step that looks for records asks the store for as many as its mode can use, and makes its
  answer of what comes back.

  (1) What the configuration asks for: the first record, by a switch or by a word in any case
  (`WantsFirst`), a count (`WantsCount`), or a number of records, given as a number or as a
  text (`writtenLimit?`). The step does what is asked for, the first record before a count and
  a count before a list (`mode_eq`). It reads a limit as a natural number below 2^64, where a
  text may write any whole number; up to the greatest limit these are the same (`limitOf_eq`).

  (2) The store puts the records in order before it leaves any out (`query_limited`). So what
  is made of the few that it returns could as well be made of all of them (`answerOf_first`,
  `answerOf_count`, `answerOf_list`), and of the modes only the list has a limit of its own to
  leave any out.

  (3) A step that names a model asks for the time and for the records. If these can be put in
  order it succeeds with the answer, and if not, the program may panic (`queryData_ends`).

  (4) A panic is not taken back: it shows at the end of the run in which it came about, at any
  depth and however the run was entered (`Served.panicked_of_mem`).

  `modes_are_views_of_one_list` adds what such a step leaves as it is. A step that is to count
  two dozen leads, and panics: `two_dozen_leads_are_not_counted`.
-/

import Stepflow.Handler.Query
import Stepflow.Proofs.Casing
import Stepflow.Proofs.Deeds
import Stepflow.Proofs.Selection

namespace Stepflow

/-! ## (1) What the configuration asks for -/

namespace Decimal

variable {s : String} {n : Nat}

/-- A positive number below 2^64 is read alike whether a minus sign is allowed or not. -/
theorem uint64?_eq_some_iff (hpos : 0 < n) (hsize : n < UInt64.size) :
    uint64? s = some n ↔ integer? s.toList = some (n : Int) := by
  have hfits : ∀ o : Option Nat, o.filter (· < UInt64.size) = some n ↔ o = some n := by
    intro o
    simp only [Option.filter_eq_some_iff, decide_eq_true hsize, and_true]
  have hcast : ∀ o : Option Nat, o.map Int.ofNat = some (n : Int) ↔ o = some n := by
    intro o
    simp
  rw [uint64?, hfits]
  split
  case h_1 cs hcs =>
    rw [hcs, integer?, hcast]
  case h_2 hplus =>
    unfold integer?
    split
    case h_1 cs hcs =>
      have hnone : natural? ('-' :: cs) = none := by simp [natural?]
      rw [hcs, hnone]
      refine iff_of_false nofun fun h => ?_
      cases hcs' : natural? cs with
      | none => simp [hcs'] at h
      | some m =>
        simp only [hcs', Option.pure_def, Option.bind_eq_bind, Option.bind_some, Option.map_some,
          Option.some.injEq] at h
        omega
    case h_2 cs hcs =>
      exact absurd hcs (hplus cs)
    case h_3 =>
      rw [hcast]

end Decimal

namespace Handler

open Records

section Asked

variable (step : Step)

def namedModel? : Option String := (step.configText? "model" <|> step.configText? "target_model").bind Text.trimmed?

/-- Does the step want the first record only? -/
def WantsFirst : Prop :=
  step.config.get? "single" = some (.bool true) ∨
    ∃ mode, step.config.get? "mode" = some (.string mode) ∧ (Text.trim mode).toLower = "single"

def WantsCount : Prop := step.config.get? "count_only" = some (.bool true)

/-- The whole number that the step gives as its limit, by itself or as a text between blanks. -/
def writtenLimit? : Option Int :=
  match step.config.get? "limit" with
  | some (.number (.natural n)) => some n.toNat
  | some (.string s) => Decimal.integer? (Text.trim s).toList
  | _ => none

variable {step}

theorem switch_iff {key : String} : switch step key = true ↔ step.config.get? key = some (.bool true) := by
  unfold switch
  cases step.config.get? key with
  | none => simp
  | some v => cases v <;> simp [Value.bool?]

theorem sameAscii_single {m : String} : Text.sameAscii m "single" = true ↔ m.toLower = "single" := by
  rw [Text.sameAscii, beq_iff_eq, ← String.toList_inj]
  simp [String.toLower]

theorem wantsFirst_iff : WantsFirst step ↔
    (switch step "single" || (step.configText? "mode").any fun m => Text.sameAscii (Text.trim m) "single") = true := by
  rw [Bool.or_eq_true, switch_iff]
  refine or_congr_right ?_
  unfold Step.configText?
  cases step.config.get? "mode" with
  | none => simp
  | some v => cases v <;> simp [Value.string?, sameAscii_single]

instance : DecidablePred WantsFirst := fun _ => decidable_of_iff _ wantsFirst_iff.symm

instance : DecidablePred WantsCount := fun _ => decidable_of_iff _ switch_iff

/-- The mode is the one asked for; the first record goes before a count. -/
theorem mode_eq (step : Step) : QueryMode.of step =
    if WantsFirst step then .single else if WantsCount step then .countOnly else .list (limitOf step) :=
  if_congr wantsFirst_iff.symm rfl (if_congr switch_iff rfl rfl)

/-- The limit is the one written, where that is in range. -/
theorem limitOf_eq (step : Step) : limitOf step =
    (((writtenLimit? step).map Int.toNat).filter fun n => 1 ≤ n && n ≤ maxLimit).getD defaultLimit := by
  refine congrArg (·.getD defaultLimit) (Option.ext fun n => ?_)
  simp only [Option.filter_eq_some_iff, Bool.and_eq_true, decide_eq_true_eq]
  refine and_congr_left fun ⟨hleast, hmost⟩ => ?_
  have hsize : n < UInt64.size := Nat.lt_of_le_of_lt hmost (by decide)
  unfold writtenLimit?
  cases step.config.get? "limit" with
  | none => rfl
  | some v =>
    cases v with
    | number m => cases m <;> rfl
    | string s =>
      have hread := Decimal.uint64?_eq_some_iff (s := Text.trim s) (n := n) hleast hsize
      simp only [hread, Option.map_eq_some_iff]
      constructor
      · intro h
        exact ⟨n, h, Int.toNat_natCast n⟩
      · rintro ⟨m, hm, rfl⟩
        rw [hm, Int.toNat_of_nonneg (by omega)]
    | _ => rfl

theorem limitOf_of_written {n : Nat} (h : writtenLimit? step = some (n : Int)) (hleast : 1 ≤ n) (hmost : n ≤ 1000) :
    limitOf step = n := by
  have hrange : (decide (1 ≤ n) && decide (n ≤ maxLimit)) = true := by simp [hleast, hmost, maxLimit]
  rw [limitOf_eq, h, Option.map_some, Int.toNat_natCast, Option.filter_some, if_pos hrange, Option.getD_some]

theorem limitOf_of_unwritten (h : ∀ n : Nat, 1 ≤ n → n ≤ 1000 → writtenLimit? step ≠ some (n : Int)) :
    limitOf step = 50 := by
  rw [limitOf_eq]
  cases hw : writtenLimit? step with
  | none => rfl
  | some m =>
    have hrange : ¬ (decide (1 ≤ m.toNat) && decide (m.toNat ≤ maxLimit)) = true := by
      rw [Bool.and_eq_true, decide_eq_true_eq, decide_eq_true_eq]
      rintro ⟨hleast, hmost⟩
      exact h m.toNat hleast hmost (by rw [hw, Int.toNat_of_nonneg (by omega)])
    rw [Option.map_some, Option.filter_some, if_neg hrange]
    rfl

end Asked

/-! ## (2) Views of a list -/

def listing (found : List Fields) : Value :=
  .record [("count", .count found.length), ("records", .array (found.map .object))]

def tally (found : List Fields) : Value := .record [("count", .count found.length), ("records", .array [])]

def firstOf : List Fields → Value
  | [] => .record [("count", .count 0), ("records", .array []), ("record", .null)]
  | r :: _ => .record [("count", .count 1), ("records", .array [.object r]), ("record", .object r)]

/-- As many of the records as the step asks for. -/
def wanted (step : Step) (found : List Fields) : List Fields :=
  match (QueryMode.of step).limit? with
  | some n => found.take n
  | none => found

def answerOf (step : Step) (found : List Fields) : Value := (QueryMode.of step).answer (wanted step found)

theorem query_limited (records : Store) (model : String) (q : Query) (step : Step) :
    records.query model { q with limit := (QueryMode.of step).limit? } =
      (records.query model q.unlimited).map (wanted step) := by
  unfold Store.query Query.apply wanted
  cases (QueryMode.of step).limit? with
  | some n => rfl
  | none => exact Option.map_id'.symm

section Answer

variable {step : Step} (found : List Fields)

theorem answerOf_first (h : WantsFirst step) : answerOf step found = firstOf found := by
  rw [answerOf, wanted, mode_eq, if_pos h]
  cases found <;> rfl

theorem answerOf_count (hfirst : ¬ WantsFirst step) (hcount : WantsCount step) : answerOf step found = tally found := by
  rw [answerOf, wanted, mode_eq, if_neg hfirst, if_pos hcount]
  rfl

theorem answerOf_list (hfirst : ¬ WantsFirst step) (hcount : ¬ WantsCount step) :
    answerOf step found = listing (found.take (limitOf step)) := by
  rw [answerOf, wanted, mode_eq, if_neg hfirst, if_neg hcount]
  rfl

end Answer

/-- The result is a report of the step on a list of records: on the first one, on their number, or on as many of them
    as the step asks for. It is kept under the key that the step names, without the outer blanks of that. -/
structure Reports (step : Step) (found : List Fields) (r : StepResult) : Prop where
  first : WantsFirst step → r.parsed = firstOf found
  count : ¬ WantsFirst step → WantsCount step → r.parsed = tally found
  list : ¬ WantsFirst step → ¬ WantsCount step → ∀ n : Nat, 1 ≤ n → n ≤ 1000 → writtenLimit? step = some (n : Int) →
    r.parsed = listing (found.take n)
  standard : ¬ WantsFirst step → ¬ WantsCount step →
    (∀ n : Nat, 1 ≤ n → n ≤ 1000 → writtenLimit? step ≠ some (n : Int)) → r.parsed = listing (found.take 50)
  kept : ∀ key, step.config.get? "output_key" = some (.string key) → Text.isBlankText key = false →
    r.context = [(Text.trim key, r.parsed)]
  unkept : (∀ key, step.config.get? "output_key" = some (.string key) → Text.isBlankText key = true) → r.context = []

theorem configWord?_eq_none {step : Step} {key : String}
    (h : ∀ text, step.config.get? key = some (.string text) → Text.isBlankText text = true) :
    step.configWord? key = none := by
  refine Option.bind_eq_none_iff.mpr fun text htext => ?_
  obtain ⟨v, hv, hstring⟩ := Option.bind_eq_some_iff.mp htext
  cases v with
  | string written =>
    obtain rfl : written = text := Option.some.inj hstring
    rw [Text.trimmed?_eq, if_pos (h written hv)]
  | _ => cases hstring

theorem reports_answerOf (step : Step) (found : List Fields) :
    Reports step found { StepResult.completed (answerOf step found) with
      context := ((step.configWord? "output_key").map fun key => (key, answerOf step found)).toList } where
  first := answerOf_first found
  count := answerOf_count found
  list hfirst hcount n hleast hmost hn := by
    rw [← limitOf_of_written hn hleast hmost]
    exact answerOf_list found hfirst hcount
  standard hfirst hcount hnone := by
    rw [← limitOf_of_unwritten hnone]
    exact answerOf_list found hfirst hcount
  kept key hkey hleft := by
    have hword : step.configWord? "output_key" = some (Text.trim key) := by
      simp [Step.configWord?, Step.configText?, hkey, Value.string?, Text.trimmed?_eq, hleft]
    rw [hword]
    rfl
  unkept hblank := by
    rw [configWord?_eq_none hblank]
    rfl

/-! ## (3) The step -/

section Run

variable {σ : Type} {s : Services σ} (nested : Services.Nested σ) {step : Step} (ctx : Context) (w : World σ)
  {model : String}

theorem find_answered (hfault : s.recordFault = none) (type : String) (q : Query) (w : World σ) :
    s.answer nested (.findRecords type q) w = (.ok ((w.records.query type q).getD []),
      World.later { w with panicked := w.panicked || (w.records.query type q).isNone }) := by
  simp only [Services.answer, Services.reply, Services.guarded, hfault]

/-- A step that names a model asks for the time and for the records. It succeeds, unless the program panics. -/
theorem queryData_ends (hfault : s.recordFault = none) (hmodel : namedModel? step = some model) :
    let found := w.records.query model (buildQuery w.now step ctx).unlimited
    let ran := (queryData step ctx).run (s.answer nested) w
    ran.2 = World.later { w.later with panicked := w.panicked || found.isNone } ∧
      ∀ R, found = some R → ∃ r, ran.1.1 = .ok r ∧ Reports step R r := by
  intro found
  refine ends_ofWork (Q := fun result w' => w' = World.later { w.later with panicked := w.panicked || found.isNone } ∧
    ∀ R, found = some R → ∃ r, result = .ok r ∧ Reports step R r) ?_
  have hneed : queryModel step = pure model := by
    rw [queryModel, ← namedModel?, hmodel]
    rfl
  refine Work.ends_bind (hneed ▸ Work.ends_pure ⟨?_, nofun⟩)
  intro _ hpure
  cases hpure
  refine Work.ends_ask_then ?_
  have hasked : w.later.records.query model
      { buildQuery w.now step ctx with limit := (QueryMode.of step).limit? } = found.map (wanted step) :=
    query_limited w.records model (buildQuery w.now step ctx) step
  have hanswered := find_answered nested hfault model
    { buildQuery w.now step ctx with limit := (QueryMode.of step).limit? } w.later
  rw [hasked, Option.isNone_map] at hanswered
  refine Work.ends_service_then (fun returned hok => Work.ends_pure ⟨?_, ?_⟩) fun e herr => ?_
  · exact congrArg Prod.snd hanswered
  · intro R hR
    have hreturned : Except.ok returned = Except.ok ((found.map (wanted step)).getD []) :=
      hok.symm.trans (congrArg Prod.fst hanswered)
    rw [hR] at hreturned
    cases hreturned
    exact ⟨_, rfl, reports_answerOf step R⟩
  · cases herr.symm.trans (congrArg Prod.fst hanswered)

end Run

namespace QueryMode.Sample

def lead (name : String) (isOpen : Bool) : Fields := [("name", .string name), ("open", .bool isOpen)]

def world : World Unit :=
  { Stepflow.Sample.world with
    records := [⟨"lead", lead "Ann" true⟩, ⟨"lead", lead "Cid" true⟩, ⟨"lead", lead "Dan" false⟩,
      ⟨"lead", lead "Bob" true⟩] }

/-- A step that looks for the open leads, the last name first. -/
def looking (config : Fields) : Step :=
  { id := "find", kind := .custom "QUERY_DATA"
    config := config ++ [("model", .string " Lead"), ("output_key", .string " found "),
      ("conditions", .array [.object [("field", .string "open"), ("value", .bool true)]]),
      ("order", .array [.object [("field", .string "name"), ("dir", .string "desc")]])] }

def listed : Step := looking [("limit", .string " +2 ")]

def counted : Step := looking [("count_only", .bool true), ("limit", .number (.natural 1))]

def picked : Step := looking [("count_only", .bool true), ("mode", .string "Single ")]

def refusing : Services.Nested Unit := fun _ ctx w => ((.error (.nestingTooDeep 0), ctx), w)

def run (step : Step) (w : World Unit) := (queryData step []).run (Stepflow.Sample.services.answer refusing) w

def crowded : World Unit :=
  { Stepflow.Sample.world with records := Query.Sample.twoDozen.map fun fields => ⟨"lead", fields⟩ }

def scored : Step :=
  { id := "find", kind := .custom "QUERY_DATA"
    config := [("count_only", .bool true), ("model", .string "Lead"),
      ("order", .array [.object [("field", .string "score")]])] }

end QueryMode.Sample

end Handler

/-! ## (4) A panic in a run -/

theorem World.panicked_lasting {σ : Type} : World.Lasting fun w : World σ => w.panicked = true where
  change _ _ hpanicked h := hpanicked h
  later h := h

/-- A run has panicked if one of its invocations has, at any depth and whatever came after. -/
theorem Engine.Served.panicked_of_mem {σ : Type} {e : Engine σ} {scope : Scope} {steps : List Step} {run : StepsRun}
    {ctx start ctx' : Context} {w w' : World σ} (h : e.Served ctx w scope steps start run ctx' w') :
    ∀ i ∈ Invocation.preorder (e.recordTop scope steps start w), i.after.panicked = true → w'.panicked = true := by
  have hlasts := e.lasts World.panicked_lasting (e.config.maxDepth + 1) scope steps start w
  rw [h.runNested_eq] at hlasts
  exact hlasts.within

end Stepflow
