/-
  Stepflow.Proofs.Doubles — the order of doubles.

  (1) A double that is a number has a rank (`rank?`): first whether it is infinite, negative,
  zero or positive, then its exponent and its mantissa, both turned round when it is
  negative. One double is less than another where its rank is less (`lt_iff`), and equal to it
  where both have one rank (`beq_iff`). One that is no number is neither less nor greater than
  any, nor equal to it.

  (2) Packing makes no number into one that is none (`unpack_pack`), and so every number of
  data has a rank: a whole one, rounded to the nearest double, and a finite double
  (`exists_rank`).
-/

import Mathlib
import Stepflow.Value.Number

namespace Stepflow

namespace Doubles

open Float.Model
open Float.Model.UnpackedFloat (unpackExponent unpackMantissa packComponents)

/-! ## (1) Ranks -/

def rankOf : UnpackedFloat → Option (List Int)
  | .notANumber => none
  | .infinity .negative => some [-2]
  | .finite .negative mantissa exponent _ => some [-1, -exponent, -mantissa]
  | .zero _ => some [0]
  | .finite .positive mantissa exponent _ => some [1, exponent, mantissa]
  | .infinity .positive => some [2]

/-- The rank of a double; none when it is no number. -/
def rank? (x : Float) : Option (List Int) := rankOf x.toModel.unpack

theorem compare_neg (a b : Int) : compare (-a) (-b) = (compare a b).swap := by
  simp only [compare, compareOfLessAndEq]
  split <;> split <;> (try split) <;> (try split) <;> simp <;> omega

theorem compare_natCast (a b : Nat) : compare (a : Int) (b : Int) = compare a b := by
  simp only [compare, compareOfLessAndEq, Int.ofNat_lt, Int.ofNat_inj]

theorem compare_eq (u v : UnpackedFloat) :
    u.compare v = (rankOf u).bind fun p => (rankOf v).map fun q => compare p q := by
  rcases u with (_ | _) | _ | (_ | _) | ⟨_ | _, m, e, hm⟩ <;>
    rcases v with (_ | _) | _ | (_ | _) | ⟨_ | _, n, f, hn⟩
  case finite.negative.finite.negative =>
    simp [UnpackedFloat.compare, rankOf, compare_neg, compare_natCast, Ordering.swap_then]
  case finite.positive.finite.positive =>
    simp [UnpackedFloat.compare, rankOf, compare_natCast]
  all_goals rfl

theorem lt_iff (x y : Float) : x < y ↔ ∃ p q, rank? x = some p ∧ rank? y = some q ∧ compare p q = .lt := by
  have hlt : x < y ↔ x.toModel.unpack.compare y.toModel.unpack = some .lt := by
    change decide (x.toModel < y.toModel) = true ↔ _
    rw [decide_eq_true_iff]
    change (x.toModel.unpack.compare y.toModel.unpack == some .lt) = true ↔ _
    rw [beq_iff_eq]
  rw [hlt, compare_eq]
  simp [rank?, Option.bind_eq_some_iff]

theorem lt_asymm {x y : Float} (h : x < y) : ¬ y < x := by
  intro hyx
  obtain ⟨p, q, hp, hq, hpq⟩ := (lt_iff x y).mp h
  obtain ⟨q', p', hq', hp', hqp⟩ := (lt_iff y x).mp hyx
  obtain rfl : p = p' := Option.some.inj (hp.symm.trans hp')
  obtain rfl : q = q' := Option.some.inj (hq.symm.trans hq')
  exact Std.OrientedCmp.not_lt_of_lt hpq hqp

theorem beq_iff (x y : Float) : (x == y) = true ↔ ∃ p, rank? x = some p ∧ rank? y = some p := by
  have hbeq : (x == y) = (x.toModel.unpack.compare y.toModel.unpack == some .eq) := rfl
  rw [hbeq, beq_iff_eq, compare_eq]
  constructor
  · intro h
    obtain ⟨p, hp, h⟩ := Option.bind_eq_some_iff.mp h
    obtain ⟨q, hq, hpq⟩ := Option.map_eq_some_iff.mp h
    obtain rfl := Std.LawfulEqCmp.eq_of_compare hpq
    exact ⟨p, hp, hq⟩
  · intro h
    obtain ⟨p, hx, hy⟩ := h
    rw [rank?] at hx hy
    rw [hx, hy, Option.bind_some, Option.map_some]
    exact congrArg some Std.ReflCmp.compare_self

theorem beq_comm (x y : Float) : (x == y) = (y == x) := by
  refine Bool.eq_iff_iff.mpr ?_
  rw [beq_iff, beq_iff]
  constructor
  · intro h
    obtain ⟨p, hx, hy⟩ := h
    exact ⟨p, hy, hx⟩
  · intro h
    obtain ⟨p, hy, hx⟩ := h
    exact ⟨p, hx, hy⟩

/-! ## (2) Numbers of data -/

/-- A double that is put together and is no number has no mantissa where its exponent is the greatest. -/
theorem pack_eq {spec : Format} {u : UnpackedFloat} (h : u ≠ .notANumber) : ∃ sign exponent mantissa,
    UnpackedFloat.pack spec u = packComponents spec sign exponent mantissa ∧ (exponent = -1#_ → mantissa = 0#_) := by
  have hones : (-1#_ : BitVec spec.exponentBits).toNat = 2 ^ spec.exponentBits - 1 := by
    rw [BitVec.neg_one_eq_allOnes, BitVec.toNat_allOnes]
  have hbits : 2 ≤ 2 ^ spec.exponentBits := Nat.le_self_pow (Nat.pos_iff_ne_zero.mp spec.he) 2
  cases u with
  | notANumber => exact absurd rfl h
  | infinity sign => exact ⟨sign, _, _, rfl, fun _ => rfl⟩
  | zero sign => exact ⟨sign, _, _, rfl, fun _ => rfl⟩
  | finite sign mantissa exponent hm =>
    unfold UnpackedFloat.pack
    dsimp only
    split
    · exact ⟨sign, _, _, rfl, fun _ => rfl⟩
    · rename_i hfits
      split
      · refine ⟨sign, _, _, rfl, fun hexponent => absurd (congrArg BitVec.toNat hexponent) ?_⟩
        rw [hones, BitVec.toNat_ofNat, Nat.mod_eq_of_lt (by omega)]
        omega
      · refine ⟨sign, _, _, rfl, fun hexponent => absurd (congrArg BitVec.toNat hexponent) ?_⟩
        rw [hones, BitVec.toNat_ofNat, Nat.zero_mod]
        omega

theorem unpack_pack {u : UnpackedFloat} (h : u ≠ .notANumber) : (pack u).unpack ≠ .notANumber := by
  obtain ⟨sign, exponent, mantissa, hpack, hwhole⟩ : ∃ sign exponent mantissa,
      UnpackedFloat.pack .binary64 u = packComponents .binary64 sign exponent mantissa ∧
        (exponent = -1#_ → mantissa = 0#_) := pack_eq h
  change UnpackedFloat.unpack .binary64 (UnpackedFloat.pack .binary64 u) ≠ _
  rw [hpack]
  unfold UnpackedFloat.unpack
  simp only [UnpackedFloat.unpackExponent_packComponents, UnpackedFloat.unpackMantissa_packComponents]
  by_cases hexponent : exponent = -1#_
  · rw [if_pos hexponent, if_pos (hwhole hexponent)]
    nofun
  · rw [if_neg hexponent]
    split
    · split <;> nofun
    · nofun

theorem rankOf_ne_none {u : UnpackedFloat} (h : u ≠ .notANumber) : ∃ p, rankOf u = some p := by
  rcases u with (_ | _) | _ | _ | ⟨_ | _, m, e, hm⟩
  case notANumber => exact absurd rfl h
  all_goals exact ⟨_, rfl⟩

/-- A whole number, rounded, is a number. -/
theorem normalize_ne (spec : Format) (mantissa exponent : Int) (zero : UnpackedFloat.Sign) :
    UnpackedFloat.normalize spec mantissa exponent zero ≠ .notANumber := by
  have hround : ∀ sign m e, UnpackedFloat.round spec sign m e ≠ .notANumber := by
    intro sign m e
    unfold UnpackedFloat.round UnpackedFloat.roundWithAccuracy
    dsimp only
    split <;> nofun
  unfold UnpackedFloat.normalize
  split
  · exact hround _ _ _
  · nofun
  · exact hround _ _ _

theorem toFloat_ne (n : UInt64) : n.toFloat.toModel.unpack ≠ .notANumber := unpack_pack (normalize_ne _ _ _ _)

theorem neg_ne {x : Float} (h : x.toModel.unpack ≠ .notANumber) : (-x).toModel.unpack ≠ .notANumber := by
  refine unpack_pack ?_
  cases hx : x.toModel.unpack with
  | notANumber => exact absurd hx h
  | _ => nofun

end Doubles

namespace Number

/-- A number that data can hold: a double among them is finite. -/
def Finite : Number → Prop
  | double x => x.isFinite = true
  | _ => True

instance : (n : Number) → Decidable n.Finite
  | natural _ => inferInstanceAs (Decidable True)
  | negative _ => inferInstanceAs (Decidable True)
  | double x => inferInstanceAs (Decidable (x.isFinite = true))

theorem exists_rank {n : Number} (h : n.Finite) : ∃ p, Doubles.rank? n.toFloat = some p := by
  refine Doubles.rankOf_ne_none ?_
  cases n with
  | natural n =>
    rw [toFloat]
    exact Doubles.toFloat_ne n
  | negative n =>
    rw [toFloat]
    exact Doubles.neg_ne (Doubles.toFloat_ne _)
  | double x =>
    have hfinite : x.toModel.unpack.isFinite = true := h
    rw [toFloat]
    rintro hnan
    rw [hnan] at hfinite
    cases hfinite

end Number

end Stepflow
