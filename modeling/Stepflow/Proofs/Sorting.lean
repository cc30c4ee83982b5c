/-
  Stepflow.Proofs.Sorting — lists put in order by a comparison.

  (1) Sorting moves elements and does nothing else, whatever it compares them by
  (`sortBy_perm`): each insertion adds its own element to those already there.

  (2) Where the comparison is transitive on the elements, one insertion keeps the list in
  order and puts the new element behind its equals (`Arranged.insert`), and so a list is
  sorted (`arranged_sortBy`).

  (3) A list stands in a line (`inLine`) just if the comparison is transitive on it and no
  element is greater than one behind it (`inLine_iff`).

  (4) So a sort gives no list just where more than 20 elements are compared in a way that is
  not transitive (`sort?_eq_none_iff`), and a list that it gives has the same elements
  (`perm_of_sort?`).
-/

import Mathlib.Data.List.Induction
import Stepflow.Records.Query

namespace Stepflow

namespace Records

section

variable {α : Type} {S : α → Prop} {cmp : α → α → Ordering}

/-! ## (1) The elements -/

theorem insertBackwards_perm (less : α → α → Bool) (x : α) (ys : List α) :
    (insertBackwards less x ys).Perm (x :: ys) := by
  induction ys with
  | nil => exact .refl _
  | cons y ys ih =>
    unfold insertBackwards
    split
    · exact (ih.cons y).trans (.swap x y ys)
    · exact .refl _

theorem foldl_insertBackwards_perm (less : α → α → Bool) (xs sorted : List α) :
    (xs.foldl (fun sorted x => insertBackwards less x sorted) sorted).Perm (sorted ++ xs) := by
  induction xs generalizing sorted with
  | nil => rw [List.foldl_nil, List.append_nil]
  | cons x xs ih =>
    have hinsert : (insertBackwards less x sorted ++ xs).Perm (x :: sorted ++ xs) :=
      (insertBackwards_perm less x sorted).append_right xs
    rw [List.foldl_cons]
    exact (ih _).trans (hinsert.trans List.perm_middle.symm)

theorem sortBy_perm (less : α → α → Bool) (xs : List α) : (sortBy less xs).Perm xs :=
  (List.reverse_perm _).trans (foldl_insertBackwards_perm less xs [])

/-! ## (2) Their order -/

/-- `sorted` are the elements found, in order: no element is greater than one behind it, and
    those that are equal to one another stand as they were found. -/
structure Arranged (S : α → Prop) (cmp : α → α → Ordering) (found sorted : List α) : Prop where
  perm : sorted.Perm found
  inOrder : sorted.Pairwise fun a b => (cmp a b).isLE
  ties : ∀ r, S r → sorted.filter (cmp r · == .eq) = found.filter (cmp r · == .eq)

theorem insertBackwards_inOrder (h : Std.TransCmp fun a b : {a // S a} => cmp a b) {x : α} (hx : S x) {ys : List α}
    (hys : ∀ y ∈ ys, S y) (horder : ys.Pairwise fun a b => (cmp b a).isLE) :
    (insertBackwards (fun a b => cmp a b == .lt) x ys).Pairwise fun a b => (cmp b a).isLE := by
  induction ys with
  | nil => exact List.pairwise_singleton ..
  | cons y ys ih =>
    obtain ⟨hy, hys⟩ := List.forall_mem_cons.mp hys
    obtain ⟨hfirst, hrest⟩ := List.pairwise_cons.mp horder
    unfold insertBackwards
    split
    · rename_i hless
      refine List.pairwise_cons.mpr ⟨fun z hz => ?_, ih hys hrest⟩
      rcases List.mem_cons.mp ((insertBackwards_perm _ x ys).mem_iff.mp hz) with rfl | hz
      · rw [beq_iff_eq.mp hless]
        rfl
      · exact hfirst z hz
    · rename_i hnot
      have hyx : (cmp y x).isLE := by
        rw [h.eq_swap (a := ⟨y, hy⟩) (b := ⟨x, hx⟩)]
        cases hc : cmp x y <;> simp_all
      refine List.pairwise_cons.mpr ⟨fun z hz => ?_, horder⟩
      rcases List.mem_cons.mp hz with rfl | hz
      · exact hyx
      · exact h.isLE_trans (a := ⟨z, hys z hz⟩) (b := ⟨y, hy⟩) (c := ⟨x, hx⟩) (hfirst z hz) hyx

theorem insertBackwards_ties (h : Std.TransCmp fun a b : {a // S a} => cmp a b) {x : α} (hx : S x) {ys : List α}
    (hys : ∀ y ∈ ys, S y) {r : α} (hr : S r) :
    (insertBackwards (fun a b => cmp a b == .lt) x ys).filter (cmp r · == .eq) =
      (x :: ys).filter (cmp r · == .eq) := by
  induction ys with
  | nil => rfl
  | cons y ys ih =>
    obtain ⟨hy, hys⟩ := List.forall_mem_cons.mp hys
    unfold insertBackwards
    split
    · rename_i hless
      -- only a greater element is passed over, so not both are equal to `r`
      by_cases hxr : cmp r x = .eq
      · have hyr : cmp r y ≠ .eq := by
          intro hyr
          have hsame : cmp r y = cmp x y := h.congr_left (a := ⟨r, hr⟩) (b := ⟨x, hx⟩) (c := ⟨y, hy⟩) hxr
          rw [hyr, beq_iff_eq.mp hless] at hsame
          cases hsame
        simp [ih hys, hxr, hyr]
      · simp [List.filter_cons, ih hys, hxr]
    · rfl

/-- One more element is found, and put in. -/
theorem Arranged.insert (h : Std.TransCmp fun a b : {a // S a} => cmp a b) {found backwards : List α}
    (hsorted : Arranged S cmp found backwards.reverse) {x : α} (hx : S x) (hfound : ∀ y ∈ found, S y) :
    Arranged S cmp (found ++ [x]) (insertBackwards (fun a b => cmp a b == .lt) x backwards).reverse := by
  have hbackwards : ∀ y ∈ backwards, S y := fun y hy =>
    hfound y (hsorted.perm.mem_iff.mp (List.mem_reverse.mpr hy))
  refine ⟨?_, ?_, fun r hr => ?_⟩
  · have hback : backwards.Perm found := (List.reverse_perm backwards).symm.trans hsorted.perm
    have hput : (insertBackwards (fun a b => cmp a b == .lt) x backwards).Perm (x :: found) :=
      (insertBackwards_perm _ x backwards).trans (hback.cons x)
    exact ((List.reverse_perm _).trans hput).trans (List.perm_append_singleton x found).symm
  · exact List.pairwise_reverse.mpr
      (insertBackwards_inOrder h hx hbackwards (List.pairwise_reverse.mp hsorted.inOrder))
  · have hties := hsorted.ties r hr
    rw [List.filter_reverse] at hties ⊢
    rw [insertBackwards_ties h hx hbackwards hr, List.filter_append, ← hties]
    by_cases hxr : cmp r x = .eq <;> simp [hxr]

theorem arranged_sortBy (h : Std.TransCmp fun a b : {a // S a} => cmp a b) {found : List α}
    (hfound : ∀ x ∈ found, S x) :
    Arranged S cmp found (sortBy (fun a b => cmp a b == .lt) found) := by
  unfold sortBy
  induction found using List.reverseRecOn with
  | nil => exact ⟨.refl _, .nil, fun _ _ => rfl⟩
  | append_singleton found x ih =>
    have hbefore : ∀ y ∈ found, S y := fun y hy => hfound y (List.mem_append_left _ hy)
    have hx : S x := hfound x (List.mem_append_right _ (List.mem_singleton.mpr rfl))
    rw [List.foldl_append]
    exact (ih hbefore).insert h hx hbefore

/-! ## (3) Lists in a line -/

theorem pairwise_of_inLine {xs : List α} (h : inLine cmp xs = true) : xs.Pairwise fun a b => (cmp a b).isLE := by
  induction xs with
  | nil => exact .nil
  | cons a xs ih =>
    cases xs with
    | nil => exact List.pairwise_singleton ..
    | cons b rest =>
      rw [inLine, Bool.and_eq_true] at h
      obtain ⟨hfirst, hrest⟩ := h
      have hpairs := ih hrest
      refine List.pairwise_cons.mpr ⟨?_, hpairs⟩
      cases hab : cmp a b with
      | gt => simp [hab] at hfirst
      | lt =>
        simp only [hab, List.all_eq_true, beq_iff_eq] at hfirst
        intro c hc
        rcases List.mem_cons.mp hc with rfl | hc
        · rw [hab]
          rfl
        · rw [hfirst c hc]
          rfl
      | eq =>
        simp only [hab, List.all_eq_true, beq_iff_eq] at hfirst
        intro c hc
        rcases List.mem_cons.mp hc with rfl | hc
        · rw [hab]
          rfl
        · rw [hfirst c hc]
          exact (List.pairwise_cons.mp hpairs).1 c hc

variable [Std.OrientedCmp cmp]

/-- An element less than all behind it makes the comparison no less transitive. -/
theorem isLE_trans_cons_of_lt {a : α} {xs : List α} (hless : ∀ c ∈ xs, cmp a c = .lt)
    (htrans : ∀ x ∈ xs, ∀ y ∈ xs, ∀ z ∈ xs, (cmp x y).isLE → (cmp y z).isLE → (cmp x z).isLE) :
    ∀ x ∈ a :: xs, ∀ y ∈ a :: xs, ∀ z ∈ a :: xs, (cmp x y).isLE → (cmp y z).isLE → (cmp x z).isLE := by
  have hself : cmp a a = .eq := Std.ReflCmp.compare_self
  have hback : ∀ c ∈ xs, ¬ (cmp c a).isLE := by
    intro c hc hle
    rw [Std.OrientedCmp.gt_of_lt (hless c hc)] at hle
    cases hle
  intro x hx y hy z hz hxy hyz
  rcases List.mem_cons.mp hz with rfl | hzs
  · rcases List.mem_cons.mp hy with rfl | hys
    · exact hxy
    · exact absurd hyz (hback y hys)
  · rcases List.mem_cons.mp hx with rfl | hxs
    · rw [hless z hzs]
      rfl
    · rcases List.mem_cons.mp hy with rfl | hys
      · exact absurd hxy (hback x hxs)
      · exact htrans x hxs y hys z hzs hxy hyz

/-- Nor does one that compares as another element does. -/
theorem isLE_trans_cons_of_same {a b : α} {xs : List α} (hb : b ∈ xs) (hsame : ∀ c ∈ xs, cmp a c = cmp b c)
    (htrans : ∀ x ∈ xs, ∀ y ∈ xs, ∀ z ∈ xs, (cmp x y).isLE → (cmp y z).isLE → (cmp x z).isLE) :
    ∀ x ∈ a :: xs, ∀ y ∈ a :: xs, ∀ z ∈ a :: xs, (cmp x y).isLE → (cmp y z).isLE → (cmp x z).isLE := by
  have hself : cmp a a = .eq := Std.ReflCmp.compare_self
  have hback : ∀ c ∈ xs, cmp c a = cmp c b := by
    intro c hc
    have hswap : ∀ x y, cmp x y = (cmp y x).swap := fun _ _ => Std.OrientedCmp.eq_swap
    rw [hswap c a, hsame c hc, ← hswap c b]
  intro x hx y hy z hz hxy hyz
  rcases List.mem_cons.mp hx with rfl | hxs
  · rcases List.mem_cons.mp hz with rfl | hzs
    · rw [hself]
      rfl
    rcases List.mem_cons.mp hy with rfl | hys
    · exact hyz
    rw [hsame z hzs]
    rw [hsame y hys] at hxy
    exact htrans b hb y hys z hzs hxy hyz
  · rcases List.mem_cons.mp hy with rfl | hys
    · rcases List.mem_cons.mp hz with rfl | hzs
      · exact hxy
      rw [hback x hxs] at hxy
      rw [hsame z hzs] at hyz
      exact htrans x hxs b hb z hzs hxy hyz
    · rcases List.mem_cons.mp hz with rfl | hzs
      · rw [hback x hxs]
        rw [hback y hys] at hyz
        exact htrans x hxs y hys b hb hxy hyz
      · exact htrans x hxs y hys z hzs hxy hyz

theorem isLE_trans_of_inLine {xs : List α} (h : inLine cmp xs = true) :
    ∀ x ∈ xs, ∀ y ∈ xs, ∀ z ∈ xs, (cmp x y).isLE → (cmp y z).isLE → (cmp x z).isLE := by
  induction xs with
  | nil => exact fun x hx => nomatch hx
  | cons a xs ih =>
    cases xs with
    | nil =>
      intro x hx y hy z hz hxy _
      rw [List.mem_singleton] at hy hz
      rwa [hz, ← hy]
    | cons b rest =>
      rw [inLine, Bool.and_eq_true] at h
      obtain ⟨hfirst, hrest⟩ := h
      cases hab : cmp a b with
      | gt => simp [hab] at hfirst
      | lt =>
        simp only [hab, List.all_eq_true, beq_iff_eq] at hfirst
        exact isLE_trans_cons_of_lt (List.forall_mem_cons.mpr ⟨hab, hfirst⟩) (ih hrest)
      | eq =>
        simp only [hab, List.all_eq_true, beq_iff_eq] at hfirst
        have hself : cmp b b = .eq := Std.ReflCmp.compare_self
        exact isLE_trans_cons_of_same (List.mem_cons_self ..)
          (List.forall_mem_cons.mpr ⟨hab.trans hself.symm, hfirst⟩) (ih hrest)

omit [Std.OrientedCmp cmp] in
theorem inLine_of_pairwise (h : Std.TransCmp fun a b : {a // S a} => cmp a b) {xs : List α} (hxs : ∀ x ∈ xs, S x)
    (horder : xs.Pairwise fun a b => (cmp a b).isLE) : inLine cmp xs = true := by
  induction xs with
  | nil => rfl
  | cons a xs ih =>
    cases xs with
    | nil => rfl
    | cons b rest =>
      obtain ⟨ha, htail⟩ := List.forall_mem_cons.mp hxs
      obtain ⟨hb, hrest⟩ := List.forall_mem_cons.mp htail
      obtain ⟨hfirst, hpairs⟩ := List.pairwise_cons.mp horder
      have hbehind := (List.pairwise_cons.mp hpairs).1
      rw [inLine, Bool.and_eq_true]
      refine ⟨?_, ih htail hpairs⟩
      cases hab : cmp a b with
      | gt =>
        have hle := hfirst b (List.mem_cons_self ..)
        rw [hab] at hle
        cases hle
      | lt =>
        simp only [List.all_eq_true, beq_iff_eq]
        intro c hc
        exact h.lt_of_lt_of_isLE (a := ⟨a, ha⟩) (b := ⟨b, hb⟩) (c := ⟨c, hrest c hc⟩) hab (hbehind c hc)
      | eq =>
        simp only [List.all_eq_true, beq_iff_eq]
        intro c hc
        exact h.congr_left (a := ⟨a, ha⟩) (b := ⟨b, hb⟩) (c := ⟨c, hrest c hc⟩) hab

/-- The comparison is transitive on the elements of a list. -/
abbrev TransOn (cmp : α → α → Ordering) (xs : List α) : Prop := Std.TransCmp fun a b : {a // a ∈ xs} => cmp a b

omit [Std.OrientedCmp cmp] in
theorem transOn_of_forall (h : Std.TransCmp fun a b : {a // S a} => cmp a b) {xs : List α} (hxs : ∀ x ∈ xs, S x) :
    TransOn cmp xs where
  eq_swap {a b} := h.eq_swap (a := ⟨a, hxs a a.2⟩) (b := ⟨b, hxs b b.2⟩)
  isLE_trans {a b c} := h.isLE_trans (a := ⟨a, hxs a a.2⟩) (b := ⟨b, hxs b b.2⟩) (c := ⟨c, hxs c c.2⟩)

theorem inLine_iff (xs : List α) :
    inLine cmp xs = true ↔ TransOn cmp xs ∧ xs.Pairwise fun a b => (cmp a b).isLE := by
  constructor
  · intro h
    have htrans := isLE_trans_of_inLine h
    refine ⟨{ eq_swap {a b} := @Std.OrientedCmp.eq_swap α cmp _ a b, isLE_trans := ?_ }, pairwise_of_inLine h⟩
    intro a b c hab hbc
    exact htrans a a.2 b b.2 c c.2 hab hbc
  · rintro ⟨htrans, horder⟩
    exact inLine_of_pairwise htrans (fun x hx => hx) horder

/-! ## (4) Sorts that may fail -/

theorem inLine_sortBy_iff (xs : List α) :
    inLine cmp (sortBy (fun a b => cmp a b == .lt) xs) = true ↔ TransOn cmp xs := by
  have hperm := sortBy_perm (fun a b => cmp a b == .lt) xs
  rw [inLine_iff]
  constructor
  · rintro ⟨htrans, -⟩
    exact transOn_of_forall htrans fun x hx => hperm.mem_iff.mpr hx
  · intro htrans
    exact ⟨transOn_of_forall htrans fun x hx => hperm.mem_iff.mp hx, (arranged_sortBy htrans fun x hx => hx).inOrder⟩

theorem sort?_eq_none_iff (xs : List α) : sort? cmp xs = none ↔ 20 < xs.length ∧ ¬ TransOn cmp xs := by
  rw [← inLine_sortBy_iff]
  by_cases hshort : xs.length ≤ 20
  · have hnot : ¬ 20 < xs.length := by omega
    simp [sort?, shortLength, hshort, hnot]
  · have hlong : 20 < xs.length := by omega
    simp [sort?, shortLength, hshort, hlong]

omit [Std.OrientedCmp cmp] in
theorem eq_of_sort? {xs sorted : List α} (h : sort? cmp xs = some sorted) :
    sorted = sortBy (fun a b => cmp a b == .lt) xs := by
  simp only [sort?] at h
  split at h
  · exact (Option.some.inj h).symm
  · cases h

omit [Std.OrientedCmp cmp] in
theorem perm_of_sort? {xs sorted : List α} (h : sort? cmp xs = some sorted) : sorted.Perm xs := by
  rw [eq_of_sort? h]
  exact sortBy_perm _ xs

theorem sort?_of_transOn {xs : List α} (h : TransOn cmp xs) :
    sort? cmp xs = some (sortBy (fun a b => cmp a b == .lt) xs) := by
  have hline := (inLine_sortBy_iff xs).mpr h
  simp only [sort?, hline, Bool.or_true, if_true]

end

end Records

end Stepflow
