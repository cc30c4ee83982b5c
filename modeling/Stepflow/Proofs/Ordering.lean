/-
  Stepflow.Proofs.Ordering — records in the order of the keys of a query.

  (1) Two values that are not both numbers compare as their texts do, null before all
  (`compareValues_texts`). Turned round, any two values compare the other way round
  (`compareValues_swap`), and so do two records (`compareBy_swap`).

  (2) Values compare in one way when each of them is null or a number, or when the numbers
  among them are in the order of their texts (`Uniform`). Then the order of the values is
  that of their ranks, so it is transitive (`Uniform.transCmp`); and so is the order of
  records whose values at every key compare in one way (`compareBy_transCmp`).

  (3) So the records found are sorted (`arranged_matching`), and a limit leaves the first of
  them (`answers_apply`).

  `ordered_queries_are_sorted` says this of queries. It does not hold of all records: numbers
  compare with each other as numbers and with texts by their texts, so that 9, 10 and the text
  5 are each before the next one, and the last before the first. A query leaves them as they
  stand: `numbers_and_texts_run_in_a_circle`.
-/

import Stepflow.Proofs.Doubles
import Stepflow.Proofs.Sorting

namespace Stepflow

namespace Records

/-! ## (1) Turned round -/

/-- The rank of a value among texts; null has none and comes first. -/
def textRank : Value → Option String
  | .null => none
  | v => some v.text

theorem compareValues_numbers (m n : Number) : compareValues (.number m) (.number n) =
    if m.toFloat < n.toFloat then .lt else if n.toFloat < m.toFloat then .gt else .eq := by
  rw [compareValues]

theorem compareValues_texts {a b : Value} (h : ¬ ∃ m n, a = .number m ∧ b = .number n) :
    compareValues a b = compare (textRank a) (textRank b) := by
  cases a <;> cases b
  case number.number m n => exact absurd ⟨m, n, rfl, rfl⟩ h
  all_goals rfl

theorem compareValues_swap (a b : Value) : compareValues a b = (compareValues b a).swap := by
  by_cases hnumbers : ∃ m n, a = .number m ∧ b = .number n
  · obtain ⟨m, n, rfl, rfl⟩ := hnumbers
    rw [compareValues_numbers, compareValues_numbers]
    by_cases hlt : m.toFloat < n.toFloat
    · have hnot := Doubles.lt_asymm hlt
      simp [hlt, hnot]
    · by_cases hgt : n.toFloat < m.toFloat <;> simp [hlt, hgt]
  · have hturned : ¬ ∃ m n, b = .number m ∧ a = .number n := by
      rintro ⟨m, n, hb, ha⟩
      exact hnumbers ⟨n, m, ha, hb⟩
    rw [compareValues_texts hnumbers, compareValues_texts hturned]
    exact Std.OrientedOrd.eq_swap

/-- The value that a key orders a record by; null where its path leads nowhere. -/
def OrderKey.valueOf (key : OrderKey) (r : Fields) : Value := (r.resolve key.field).getD .null

theorem OrderKey.compare_eq (key : OrderKey) (a b : Fields) : key.compare a b =
    if key.descending then compareValues (key.valueOf b) (key.valueOf a)
    else compareValues (key.valueOf a) (key.valueOf b) := by
  rw [compareValues_swap (key.valueOf b)]
  rfl

theorem OrderKey.compare_swap (key : OrderKey) (a b : Fields) : key.compare a b = (key.compare b a).swap := by
  rw [key.compare_eq, key.compare_eq]
  split <;> exact compareValues_swap _ _

theorem compareBy_swap (keys : List OrderKey) (a b : Fields) : compareBy keys a b = (compareBy keys b a).swap := by
  induction keys with
  | nil => rfl
  | cons key keys ih => rw [compareBy, compareBy, Ordering.swap_then, ← key.compare_swap a b, ← ih]

/-! ## (2) Values that compare in one way -/

def isNumeric : Value → Bool
  | .null => true
  | .number n => decide n.Finite
  | _ => false

/-- Values that compare in one way: each of them is null or a number, or the numbers among
    them, if there are any, are in the order of their texts. -/
inductive Uniform (S : Value → Prop) : Prop
  | numbers : (∀ v, S v → isNumeric v = true) → Uniform S
  | texts : (∀ m n : Number, S (.number m) → S (.number n) →
      compareValues (.number m) (.number n) = compare (Value.number m).text (Value.number n).text) → Uniform S

/-- The rank of a value among numbers; null has none and comes first. -/
def numberRank : Value → Option (List Int)
  | .number n => Doubles.rank? n.toFloat
  | _ => none

theorem compareValues_numberRank {a b : Value} (ha : isNumeric a = true) (hb : isNumeric b = true) :
    compareValues a b = compare (numberRank a) (numberRank b) := by
  have hrank : ∀ n : Number, isNumeric (.number n) = true → ∃ p, numberRank (.number n) = some p := by
    intro n hn
    exact Number.exists_rank (of_decide_eq_true hn)
  cases a with
  | null =>
    cases b with
    | null => rfl
    | number n =>
      obtain ⟨p, hp⟩ := hrank n hb
      rw [hp]
      rfl
    | _ => cases hb
  | number m =>
    obtain ⟨p, hp⟩ := hrank m ha
    cases b with
    | null =>
      rw [hp]
      rfl
    | number n =>
      obtain ⟨q, hq⟩ := hrank n hb
      have hleft : Doubles.rank? m.toFloat = some p := hp
      have hright : Doubles.rank? n.toFloat = some q := hq
      have hlt : m.toFloat < n.toFloat ↔ compare p q = .lt := by
        rw [Doubles.lt_iff, hleft, hright]
        simp
      have hgt : n.toFloat < m.toFloat ↔ compare p q = .gt := by
        rw [Doubles.lt_iff, hleft, hright, Std.OrientedCmp.gt_iff_lt]
        simp
      rw [compareValues_numbers, hp, hq]
      simp only [hlt, hgt]
      change _ = compare p q
      cases compare p q <;> rfl
    | _ => cases hb
  | _ => cases ha

theorem Uniform.transCmp {S : Value → Prop} (h : Uniform S) :
    Std.TransCmp fun a b : {v // S v} => compareValues a b := by
  cases h with
  | numbers h =>
    have hrank : (fun a b : {v // S v} => compareValues a b) = compareOn fun v : {v // S v} => numberRank v := by
      funext a b
      exact compareValues_numberRank (h a a.2) (h b b.2)
    rw [hrank]
    infer_instance
  | texts h =>
    have hrank : (fun a b : {v // S v} => compareValues a b) = compareOn fun v : {v // S v} => textRank v := by
      funext ⟨a, ha⟩ ⟨b, hb⟩
      by_cases hnumbers : ∃ m n, a = .number m ∧ b = .number n
      · obtain ⟨m, n, rfl, rfl⟩ := hnumbers
        exact h m n ha hb
      · exact compareValues_texts hnumbers
    rw [hrank]
    infer_instance

/-- The value of a record of a class, among those of all records of the class. -/
def OrderKey.valueIn (key : OrderKey) {S : Fields → Prop} (r : {r // S r}) : {v // ∃ r, S r ∧ key.valueOf r = v} :=
  ⟨key.valueOf r, r, r.2, rfl⟩

theorem OrderKey.transCmp {key : OrderKey} {S : Fields → Prop} (h : Uniform fun v => ∃ r, S r ∧ key.valueOf r = v) :
    Std.TransCmp fun a b : {r // S r} => key.compare a b := by
  have hvalues := h.transCmp
  cases hdescending : key.descending with
  | false =>
    have hkey : (fun a b : {r // S r} => key.compare a b) =
        fun a b => compareValues (key.valueIn a) (key.valueIn b) := by
      funext a b
      simp only [OrderKey.valueIn, key.compare_eq, hdescending, Bool.false_eq_true, if_false]
    rw [hkey]
    exact { eq_swap := hvalues.eq_swap, isLE_trans := hvalues.isLE_trans }
  | true =>
    have hkey : (fun a b : {r // S r} => key.compare a b) =
        fun a b => compareValues (key.valueIn b) (key.valueIn a) := by
      funext a b
      simp only [OrderKey.valueIn, key.compare_eq, hdescending, if_true]
    have hopposite : Std.TransCmp fun a b : {v // ∃ r, S r ∧ key.valueOf r = v} => compareValues b a :=
      Std.TransCmp.opposite
    rw [hkey]
    exact { eq_swap := hopposite.eq_swap, isLE_trans := hopposite.isLE_trans }

theorem compareBy_transCmp {keys : List OrderKey} {S : Fields → Prop}
    (h : ∀ key ∈ keys, Uniform fun v => ∃ r, S r ∧ key.valueOf r = v) :
    Std.TransCmp fun a b : {r // S r} => compareBy keys a b := by
  induction keys with
  | nil => exact { eq_swap := rfl, isLE_trans := fun _ _ => rfl }
  | cons key keys ih =>
    obtain ⟨hfirst, hrest⟩ := List.forall_mem_cons.mp h
    have hkey := OrderKey.transCmp hfirst
    have hkeys := ih hrest
    exact inferInstanceAs (Std.TransCmp (compareLex (fun a b : {r // S r} => key.compare a b)
      fun a b => compareBy keys a b))

/-! ## (3) Queries -/

namespace Query

variable {q : Query} {S : Fields → Prop} {records : List Fields}

instance (q : Query) : Std.OrientedCmp q.compare := ⟨compareBy_swap q.order _ _⟩

theorem arranged_matching (h : Std.TransCmp fun a b : {r // S r} => q.compare a b)
    (hrecords : ∀ r ∈ records, q.accepts r = true → S r) :
    ∃ sorted, q.matching records = some sorted ∧ Arranged S q.compare (records.filter q.accepts) sorted := by
  have hfound : ∀ r ∈ records.filter q.accepts, S r := by
    intro r hr
    obtain ⟨hr, haccepted⟩ := List.mem_filter.mp hr
    exact hrecords r hr haccepted
  unfold matching
  dsimp only
  split
  · rename_i hempty
    have hequal : ∀ a b, q.compare a b = .eq := by
      intro a b
      rw [compare, List.isEmpty_iff.mp hempty]
      rfl
    refine ⟨_, rfl, .refl _, List.pairwise_iff_forall_sublist.mpr fun {a b} _ => ?_, fun _ _ => rfl⟩
    rw [hequal]
    rfl
  · exact ⟨_, sort?_of_transOn (transOn_of_forall h hfound), arranged_sortBy h hfound⟩

/-- What a query answers of the records found: the first of them in order, as many as its
    limit allows. -/
structure Answers (q : Query) (found answer : List Fields) : Prop where
  /-- No record is greater than one behind it. -/
  sorted : answer.Pairwise fun a b => (q.compare a b).isLE
  /-- Records equal to one another stand as they were found, and none of them is passed over. -/
  ties : ∀ r ∈ found, answer.filter (q.compare r · == .eq) <+: found.filter (q.compare r · == .eq)
  /-- The records left out are as many as are too many, and no less than any answered. -/
  least : ∃ rest, (answer ++ rest).Perm found ∧ (∀ a ∈ answer, ∀ b ∈ rest, (q.compare a b).isLE) ∧
    answer.length = match q.limit with
      | some n => min n found.length
      | none => found.length

theorem answers_apply (h : Std.TransCmp fun a b : {r // S r} => q.compare a b)
    (hrecords : ∀ r ∈ records, q.accepts r = true → S r) :
    ∃ answer, q.apply records = some answer ∧ q.Answers (records.filter q.accepts) answer := by
  obtain ⟨matched, hmatching, hperm, horder, hties⟩ := arranged_matching h hrecords
  have hfound : ∀ r ∈ records.filter q.accepts, S r := by
    intro r hr
    obtain ⟨hr, haccepted⟩ := List.mem_filter.mp hr
    exact hrecords r hr haccepted
  obtain ⟨answer, rest, hanswer, hrest, hlength⟩ : ∃ answer rest, q.apply records = some answer ∧
      matched = answer ++ rest ∧ answer.length = match q.limit with
        | some n => min n (records.filter q.accepts).length
        | none => (records.filter q.accepts).length := by
    unfold apply
    rw [hmatching]
    cases q.limit with
    | none => exact ⟨matched, [], rfl, (List.append_nil _).symm, hperm.length_eq⟩
    | some n =>
      refine ⟨matched.take n, matched.drop n, rfl, (List.take_append_drop n _).symm, ?_⟩
      rw [List.length_take, hperm.length_eq]
  rw [hrest] at hperm horder hties
  obtain ⟨hsorted, -, hbefore⟩ := List.pairwise_append.mp horder
  refine ⟨answer, hanswer, hsorted, fun r hr => ?_, rest, hperm, hbefore, hlength⟩
  rw [← hties r (hfound r hr), List.filter_append]
  exact List.prefix_append _ _

end Query

/-- The order of records is turned round by turning the records round. In any class of records
    whose values at every key of a query compare in one way it is transitive too, and where
    the records found are in that class, the query answers the first of them in order. -/
theorem ordered_queries_are_sorted (q : Query) :
    (∀ a b, q.compare a b = (q.compare b a).swap) ∧
      ∀ S : Fields → Prop, (∀ key ∈ q.order, Uniform fun v => ∃ r, S r ∧ key.valueOf r = v) →
        (∀ a b c, S a → S b → S c → (q.compare a b).isLE → (q.compare b c).isLE → (q.compare a c).isLE) ∧
          ∀ records : List Fields, (∀ r ∈ records, q.accepts r = true → S r) →
            ∃ answer, q.apply records = some answer ∧ q.Answers (records.filter q.accepts) answer := by
  refine ⟨compareBy_swap q.order, fun S huniform => ?_⟩
  have htrans : Std.TransCmp fun a b : {r // S r} => q.compare a b := compareBy_transCmp huniform
  refine ⟨fun a b c ha hb hc hab hbc => ?_, fun records hrecords => ?_⟩
  · exact htrans.isLE_trans (a := ⟨a, ha⟩) (b := ⟨b, hb⟩) (c := ⟨c, hc⟩) hab hbc
  · exact Query.answers_apply htrans hrecords

namespace Query.Sample

def lead (id status : String) (score : Value) : Fields :=
  [("id", .string id), ("score", score), ("status", .string status)]

def leads : List Fields :=
  [lead "1" "new" (.count 10), lead "2" "won" (.count 90), lead "3" "new" (.count 55), lead "4" "new" .null]

def best : Query :=
  { filters := [⟨"status", .compare .eq, .string "new"⟩], order := [⟨"score", true⟩], limit := some 2 }

def byScore : Query := { order := [⟨"score", false⟩] }

def ten : Fields := lead "ten" "new" (.count 10)
def nine : Fields := lead "nine" "new" (.count 9)
def five : Fields := lead "five" "new" (.string "5")

end Query.Sample

open Query.Sample in
/-- The scores of the leads are numbers, but for one that is missing. -/
theorem sample_leads_are_sorted :
    (∀ key ∈ best.order, Uniform fun v => ∃ r, r ∈ leads ∧ key.valueOf r = v) ∧
      ∃ answer, best.apply leads = some answer ∧ best.Answers (leads.filter best.accepts) answer ∧
        answer.map (fun r => (r.get? "id").bind (·.string?)) = [some "3", some "1"] := by
  have huniform : ∀ key ∈ best.order, Uniform fun v => ∃ r, r ∈ leads ∧ key.valueOf r = v := by
    have hnumeric : ∀ key ∈ best.order, ∀ r ∈ leads, isNumeric (key.valueOf r) = true := by decide +kernel
    intro key hkey
    refine .numbers ?_
    rintro v ⟨r, hr, rfl⟩
    exact hnumeric key hkey r hr
  obtain ⟨-, hqueries⟩ := ordered_queries_are_sorted best
  obtain ⟨answer, hanswer, hsorted⟩ := (hqueries (· ∈ leads) huniform).2 leads fun r hr _ => hr
  have hids : (best.apply leads).map (·.map fun r => (r.get? "id").bind (·.string?)) = some [some "3", some "1"] := by
    decide +kernel
  rw [hanswer] at hids
  exact ⟨huniform, answer, hanswer, hsorted, Option.some.inj hids⟩

open Query.Sample in
/-- A text stands between two numbers in the order of texts, and outside of them in the order
    of numbers: the three run in a circle, and an answer has the greater number in front. -/
theorem numbers_and_texts_run_in_a_circle :
    byScore.compare nine ten = .lt ∧ byScore.compare ten five = .lt ∧ byScore.compare five nine = .lt ∧
      byScore.apply [ten, five, nine] = some [ten, five, nine] ∧
      ¬ [ten, five, nine].Pairwise fun a b => (byScore.compare a b).isLE := by
  obtain ⟨hnine, hten, hfive⟩ :
      byScore.compare nine ten = .lt ∧ byScore.compare ten five = .lt ∧ byScore.compare five nine = .lt := by
    decide +kernel
  have hturned : byScore.compare five ten = .gt ∧ byScore.compare nine five = .gt ∧ byScore.compare ten nine = .gt := by
    decide +kernel
  obtain ⟨hfiveTen, hnineFive, htenNine⟩ := hturned
  refine ⟨hnine, hten, hfive, ?_, ?_⟩
  · show byScore.matching [ten, five, nine] = some [ten, five, nine]
    have hall : [ten, five, nine].filter byScore.accepts = [ten, five, nine] := List.filter_eq_self.mpr fun _ _ => rfl
    have hsort : sortBy (fun a b => byScore.compare a b == .lt) [ten, five, nine] = [ten, five, nine] := by
      simp [sortBy, insertBackwards, hfiveTen, hnineFive]
    have hsort? : sort? byScore.compare [ten, five, nine] = some [ten, five, nine] := by
      simp only [sort?, hsort]
      rfl
    rw [Query.matching, hall]
    exact hsort?
  · intro hsorted
    have := (List.pairwise_cons.mp hsorted).1 nine (by simp)
    rw [htenNine] at this
    cases this

end Records

end Stepflow
