/-
  Stepflow.Proofs.Membership — loose equality from both sides, and what is in a list.

  (1) It does not matter which of two doubles comes first when they are compared
  (`Doubles.beq_comm`). The same holds of numbers within a kind and, value by value, of equality
  of structure (`Value.beq_comm`).

  (2) Two values are loosely equal by one of three rules (`LooselyEqual`): they have one
  structure, or are numbers and equal as doubles, or are no containers, not both numbers, and
  have one text. Each rule reads the same from both sides (`LooselyEqual.symm`), and the test of
  the program is by these rules (`looseEq_iff`).

  (3) A value is in a list if it is loosely equal to one of its items (`memberOf_iff`). A list
  that holds a value asks this from the other side (`holds_eq_memberOf`), and neither asks where
  the item stands (`memberOf_eq_of_perm`).

  `membership_reads_both_ways` says so of the operators. Loose equality is no equivalence all the
  same: the last example has values that are equal to a third one and not to each other.
-/

import Stepflow.Condition
import Stepflow.Proofs.Doubles

namespace Stepflow

/-! ## (1) Equality of structure -/

namespace Number

theorem beq_comm (a b : Number) : (a == b) = (b == a) := by
  cases a with
  | natural m =>
    cases b with
    | natural n =>
      show (m == n) = (n == m)
      exact Bool.beq_comm
    | _ => rfl
  | negative m =>
    cases b with
    | negative n =>
      show (m == n) = (n == m)
      exact Bool.beq_comm
    | _ => rfl
  | double x =>
    cases b with
    | double y => exact Doubles.beq_comm x y
    | _ => rfl

end Number

namespace Value

mutual

/-- Equality of structure is the same from both sides. -/
theorem beq_comm : (a b : Value) → a.beq b = b.beq a
  | .null, b => by cases b <;> rfl
  | .bool s, b => by
    cases b with
    | bool t => exact Bool.beq_comm
    | _ => rfl
  | .number m, b => by
    cases b with
    | number n => exact Number.beq_comm m n
    | _ => rfl
  | .string s, b => by
    cases b with
    | string t => exact Bool.beq_comm
    | _ => rfl
  | .array xs, b => by
    cases b with
    | array ys => exact beqItems_comm xs ys
    | _ => rfl
  | .object xs, b => by
    cases b with
    | object ys => exact beqFields_comm xs ys
    | _ => rfl

theorem beqItems_comm : (xs ys : List Value) → beqItems xs ys = beqItems ys xs
  | [], [] => rfl
  | [], _ :: _ => rfl
  | _ :: _, [] => rfl
  | x :: xs, y :: ys => by rw [beqItems, beqItems, beq_comm x y, beqItems_comm xs ys]

theorem beqFields_comm : (xs ys : Fields) → beqFields xs ys = beqFields ys xs
  | [], [] => rfl
  | [], _ :: _ => rfl
  | _ :: _, [] => rfl
  | (k, x) :: xs, (l, y) :: ys => by
    have hkeys : (k == l) = (l == k) := Bool.beq_comm
    rw [beqFields, beqFields, hkeys, beq_comm x y, beqFields_comm xs ys]

end

/-! ## (2) Loose equality -/

def BothNumbers (a b : Value) : Prop := ∃ x y, a = .number x ∧ b = .number y

inductive LooselyEqual : Value → Value → Prop
  | same {a b : Value} : (a == b) = true → LooselyEqual a b
  | numbers {x y : Number} : (x.toFloat == y.toFloat) = true → LooselyEqual (.number x) (.number y)
  | texts {a b : Value} : a.isContainer = false → b.isContainer = false → ¬ BothNumbers a b → a.text = b.text →
      LooselyEqual a b

variable {a b v : Value} {items others : List Value}

theorem LooselyEqual.symm (h : LooselyEqual a b) : LooselyEqual b a := by
  cases h with
  | same h =>
    have hsame : (b == a) = (a == b) := beq_comm b a
    exact .same (hsame.trans h)
  | numbers h => exact .numbers ((Doubles.beq_comm _ _).trans h)
  | texts ha hb hnumbers htext =>
    refine .texts hb ha ?_ htext.symm
    intro hboth
    obtain ⟨x, y, hx, hy⟩ := hboth
    exact hnumbers ⟨y, x, hy, hx⟩

theorem looseEq_iff : looseEq a b = true ↔ LooselyEqual a b := by
  constructor
  · intro h
    unfold looseEq at h
    rcases Bool.or_eq_true_iff.mp h with hsame | h
    · exact .same hsame
    · split at h
      · exact .numbers h
      · rename_i hnumbers
        simp only [Bool.and_eq_true, Bool.not_eq_true', beq_iff_eq] at h
        obtain ⟨⟨ha, hb⟩, htext⟩ := h
        refine .texts ha hb ?_ htext
        intro hboth
        obtain ⟨x, y, hx, hy⟩ := hboth
        exact hnumbers x y hx hy
  · intro h
    unfold looseEq
    rw [Bool.or_eq_true]
    cases h with
    | same h => exact .inl h
    | numbers h => exact .inr h
    | texts ha hb hnumbers htext =>
      right
      split
      · exact absurd ⟨_, _, rfl, rfl⟩ hnumbers
      · simp [ha, hb, htext]

theorem looseEq_comm (a b : Value) : looseEq a b = looseEq b a := by
  rw [Bool.eq_iff_iff, looseEq_iff, looseEq_iff]
  exact ⟨LooselyEqual.symm, LooselyEqual.symm⟩

/-! ## (3) Lists -/

theorem memberOf_iff : memberOf v (.array items) = true ↔ ∃ item ∈ items, LooselyEqual v item := by
  simp only [memberOf, List.any_eq_true, looseEq_iff]

theorem holds_eq_memberOf (v : Value) (items : List Value) : holds (.array items) v = memberOf v (.array items) := by
  have hsides : (looseEq · v) = looseEq v := funext fun item => looseEq_comm item v
  rw [holds, memberOf, hsides]

theorem memberOf_eq_of_perm (h : others.Perm items) (v : Value) :
    memberOf v (.array others) = memberOf v (.array items) := h.any_eq

end Value

/-! ## Operators -/

namespace Operator

open Value

/-- Two values are loosely equal from both sides or from none. So a list holds a value just when the value is in the
    list, and it is not in the list otherwise; in whatever order the items stand. -/
theorem membership_reads_both_ways :
    (∀ a b : Value, (eq.test a b = true ↔ LooselyEqual a b) ∧ eq.test a b = eq.test b a ∧ ne.test a b = !eq.test a b) ∧
    ∀ (items : List Value) (v : Value),
      (isIn.test v (.array items) = true ↔ ∃ item ∈ items, LooselyEqual v item) ∧
      contains.test (.array items) v = isIn.test v (.array items) ∧
      notIn.test v (.array items) = !isIn.test v (.array items) ∧
      ∀ others : List Value, others.Perm items →
        isIn.test v (.array others) = isIn.test v (.array items) ∧
        notIn.test v (.array others) = notIn.test v (.array items) ∧
        contains.test (.array others) v = contains.test (.array items) v := by
  refine ⟨fun a b => ⟨looseEq_iff, looseEq_comm a b, rfl⟩, ?_⟩
  intro items v
  refine ⟨memberOf_iff, holds_eq_memberOf v items, rfl, ?_⟩
  intro others horder
  have hin : memberOf v (.array others) = memberOf v (.array items) := memberOf_eq_of_perm horder v
  refine ⟨hin, congrArg not hin, ?_⟩
  calc holds (.array others) v
    _ = memberOf v (.array others) := holds_eq_memberOf v others
    _ = memberOf v (.array items) := hin
    _ = holds (.array items) v := (holds_eq_memberOf v items).symm

namespace Sample

def marks : List Value := [.bool true, .array [.count 3], .number (.double 3.0), .string "open", .null]

end Sample

open Sample in
/-- Among the marks, in any order, is a three, as the double that is equal to it, and the text of a truth value, but not
    the text of a list. -/
theorem sample_three_is_among_the_marks :
    marks.reverse.Perm marks ∧ isIn.test (.count 3) (.array marks.reverse) = true ∧
      contains.test (.array marks.reverse) (.count 3) = true ∧ notIn.test (.count 3) (.array marks.reverse) = false ∧
      contains.test (.array marks) (.string "true") = isIn.test (.string "true") (.array marks) ∧
      isIn.test (.string "true") (.array marks) = true ∧
      contains.test (.array marks) (.string "[3]") = isIn.test (.string "[3]") (.array marks) ∧
      isIn.test (.string "[3]") (.array marks) = false := by
  have horder : marks.reverse.Perm marks := List.reverse_perm marks
  have hthree : LooselyEqual (.count 3) (.number (.double 3.0)) := .numbers (by decide +kernel)
  obtain ⟨-, hlists⟩ := membership_reads_both_ways
  obtain ⟨hin, hcontains, hnot, hperm⟩ := hlists marks (.count 3)
  obtain ⟨hinReversed, hnotReversed, hcontainsReversed⟩ := hperm _ horder
  have hfound : isIn.test (.count 3) (.array marks) = true := hin.mpr ⟨_, by simp [marks], hthree⟩
  refine ⟨horder, hinReversed.trans hfound, ?_, ?_, (hlists marks (.string "true")).2.1, by decide +kernel,
    (hlists marks (.string "[3]")).2.1, by decide +kernel⟩
  · rw [hcontainsReversed, hcontains, hfound]
  · rw [hnotReversed, hnot, hfound]
    rfl

/-- Loose equality is no equivalence: a text and a number are both equal to a double, and not to each other. -/
example : looseEq (.string "3.0") (.number (.double 3.0)) = true ∧ looseEq (.number (.double 3.0)) (.count 3) = true ∧
    looseEq (.string "3.0") (.count 3) = false := by decide +kernel

end Operator

end Stepflow
