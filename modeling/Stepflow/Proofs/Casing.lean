/-
  Stepflow.Proofs.Casing — texts in upper case stay as they are.

  (1) The case tables change no character that is the image of another: the codes that they
  change and the codes that they give have no member in common (`image_not_changing`). The
  lists are compared as masks, one bit for each code.

  (2) So the upper case of a text is its own upper case (`upper_upper`). No image is blank,
  so a text without outer blanks has none in upper case (`Trimmed.upper`).

  (3) Hence a normal key is its own normal key (`normalKey_normalKey`), and a kind of step
  is the one that its key names (`ofString_key`).
-/

import Mathlib.Data.List.DropRight
import Mathlib.Data.Nat.Bitwise
import Stepflow.Workflow.Step

namespace Stepflow

namespace Text

namespace CaseTable

/-! ## (1) Codes changed and codes given -/

def mask (ns : List Nat) : Nat := ns.foldr (fun n m => 1 <<< n ||| m) 0

theorem testBit_mask {ns : List Nat} {n : Nat} : (mask ns).testBit n = true ↔ n ∈ ns := by
  induction ns with
  | nil => simp [mask]
  | cons k ns ih =>
    have hcons : mask (k :: ns) = 1 <<< k ||| mask ns := rfl
    rw [hcons, Nat.testBit_or, Bool.or_eq_true, ih, Nat.one_shiftLeft, Nat.testBit_two_pow, decide_eq_true_iff,
      List.mem_cons, eq_comm]

theorem not_mem_of_mask {as bs : List Nat} (h : mask as &&& mask bs = 0) {n : Nat} (ha : n ∈ as) : n ∉ bs := by
  intro hb
  have hbit : (mask as &&& mask bs).testBit n = true := by
    rw [Nat.testBit_and, testBit_mask.mpr ha, testBit_mask.mpr hb, Bool.and_true]
  rw [h, Nat.zero_testBit] at hbit
  cases hbit

namespace Run

def offsets (r : Run) : List Nat := (List.range ((r.last - r.first) / r.step + 1)).map (· * r.step)

theorem of_map? {r : Run} {n m : Nat} (h : r.map? n = some m) :
    ∃ k ∈ r.offsets, n = r.first + k ∧ m = r.target + k := by
  unfold map? at h
  split at h
  · rename_i hin
    obtain ⟨hfirst, hlast, hstep⟩ := hin
    have hk : (n - r.first) / r.step * r.step = n - r.first := Nat.div_mul_cancel (Nat.dvd_of_mod_eq_zero hstep)
    have hcount : (n - r.first) / r.step < (r.last - r.first) / r.step + 1 :=
      Nat.lt_succ_of_le (Nat.div_le_div_right (by omega))
    refine ⟨n - r.first, List.mem_map.mpr ⟨_, List.mem_range.mpr hcount, hk⟩, by omega, ?_⟩
    exact (Option.some.inj h).symm
  · cases h

end Run

def changing : List Nat := longUppers.map (·.1) ++ uppers.flatMap fun r => r.offsets.map (r.first + ·)

def images : List Nat := longUppers.flatMap (·.2) ++ uppers.flatMap fun r => r.offsets.map (r.target + ·)

theorem mem_of_map? {r : Run} (hr : r ∈ uppers) {n m : Nat} (h : r.map? n = some m) : n ∈ changing ∧ m ∈ images := by
  obtain ⟨k, hk, rfl, rfl⟩ := Run.of_map? h
  exact ⟨List.mem_append_right _ (List.mem_flatMap.mpr ⟨r, hr, List.mem_map_of_mem hk⟩),
    List.mem_append_right _ (List.mem_flatMap.mpr ⟨r, hr, List.mem_map_of_mem hk⟩)⟩

theorem image_not_changing {n : Nat} (h : n ∈ images) : n ∉ changing :=
  not_mem_of_mask (by decide +kernel : mask images &&& mask changing = 0) h

theorem image_not_blank : ∀ n ∈ images, isBlank (Char.ofNat n) = false := by decide +kernel

theorem long_ne_nil : ∀ e ∈ longUppers, e.2 ≠ [] := by decide +kernel

end CaseTable

open CaseTable

/-- The letters from a to z. -/
theorem toUpper_cases (c : Char) : c.toUpper = c ∨ ∃ n, Run.map? ⟨0x61, 0x7A, 1, 0x41⟩ c.toNat = some n ∧
    c.toUpper = Char.ofNat n := by
  by_cases hletter : 0x61 ≤ c.toNat ∧ c.toNat ≤ 0x7A
  · refine .inr ⟨0x41 + (c.toNat - 0x61), ?_, ?_⟩
    · simp [Run.map?, hletter, Nat.mod_one]
    · have hletters : ∀ k : Fin 26, (Char.ofNat (0x61 + k)).toUpper = Char.ofNat (0x41 + k) := by decide
      have hc := hletters ⟨c.toNat - 0x61, by omega⟩
      simp only at hc
      rwa [show 0x61 + (c.toNat - 0x61) = c.toNat by omega, Char.ofNat_toNat] at hc
  · refine .inl ?_
    unfold Char.toUpper
    split
    · rename_i hin
      exact absurd ⟨UInt32.le_iff_toNat_le.mp hin.1, UInt32.le_iff_toNat_le.mp hin.2⟩ hletter
    · rfl

/-! ## (2) Upper case -/

/-- A character stays, or becomes one or more images. -/
theorem upperChar_cases (c : Char) : upperChar c = [c] ∨
    c.toNat ∈ changing ∧ upperChar c ≠ [] ∧ ∀ d ∈ upperChar c, ∃ n ∈ images, d = Char.ofNat n := by
  unfold upperChar mapCase
  split
  · obtain hsame | ⟨n, hn, hupper⟩ := toUpper_cases c
    · exact .inl (by rw [hsame])
    · obtain ⟨hchanging, himage⟩ := mem_of_map? (List.mem_cons_self ..) hn
      exact .inr ⟨hchanging, nofun, fun d hd => ⟨n, himage, by rw [List.mem_singleton.mp hd, hupper]⟩⟩
  · split
    · rename_i image hlong
      obtain ⟨before, after, heq, -⟩ := List.lookup_eq_some_iff.mp hlong
      have hmem : (c.toNat, image) ∈ longUppers := heq ▸ List.mem_append_right before (List.mem_cons_self ..)
      refine .inr ⟨List.mem_append_left _ (List.mem_map_of_mem hmem), ?_, fun d hd => ?_⟩
      · simpa using long_ne_nil _ hmem
      · obtain ⟨n, hn, rfl⟩ := List.mem_map.mp hd
        exact ⟨n, List.mem_append_left _ (List.mem_flatMap.mpr ⟨_, hmem, hn⟩), rfl⟩
    · split
      · rename_i n hrun
        obtain ⟨r, hr, hn⟩ := List.exists_of_findSome?_eq_some hrun
        obtain ⟨hchanging, himage⟩ := mem_of_map? hr hn
        exact .inr ⟨hchanging, nofun, fun d hd => ⟨n, himage, List.mem_singleton.mp hd⟩⟩
      · exact .inl rfl

theorem upperChar_ne_nil (c : Char) : upperChar c ≠ [] := by
  obtain hsame | ⟨-, hne, -⟩ := upperChar_cases c
  · rw [hsame]
    nofun
  · exact hne

/-- No image changes: its code is that of an image, or 0 if there is no such character. -/
theorem upperChar_image {n : Nat} (h : n ∈ images) : upperChar (Char.ofNat n) = [Char.ofNat n] := by
  obtain hsame | ⟨hchanging, -, -⟩ := upperChar_cases (Char.ofNat n)
  · exact hsame
  · have hcode : (Char.ofNat n).toNat = n ∨ (Char.ofNat n).toNat = 0 := by
      by_cases hvalid : n.isValidChar
      · rw [Char.ofNat, dif_pos hvalid]
        exact .inl rfl
      · rw [Char.ofNat, dif_neg hvalid]
        exact .inr rfl
    obtain hcode | hcode := hcode
    · exact absurd (hcode ▸ hchanging) (image_not_changing h)
    · exact absurd (hcode ▸ hchanging) (by decide +kernel)

theorem upperChar_of_mem {c d : Char} (h : d ∈ upperChar c) : upperChar d = [d] := by
  obtain hsame | ⟨-, -, himages⟩ := upperChar_cases c
  · rw [hsame, List.mem_singleton] at h
    rw [h, hsame]
  · obtain ⟨n, hn, rfl⟩ := himages d h
    exact upperChar_image hn

theorem isBlank_of_mem_upperChar {c d : Char} (hc : isBlank c = false) (h : d ∈ upperChar c) : isBlank d = false := by
  obtain hsame | ⟨-, -, himages⟩ := upperChar_cases c
  · rw [hsame, List.mem_singleton] at h
    rwa [h]
  · obtain ⟨n, hn, rfl⟩ := himages d h
    exact image_not_blank n hn

theorem upper_upper (s : String) : upper (upper s) = upper s := by
  unfold upper
  rw [String.toList_ofList, List.flatMap_assoc]
  congr 1
  refine List.flatMap_congr fun c _ => ?_
  calc (upperChar c).flatMap upperChar
    _ = (upperChar c).flatMap fun d => [d] := List.flatMap_congr fun d hd => upperChar_of_mem hd
    _ = upperChar c := List.flatMap_singleton' _

/-! Outer blanks -/

def Trimmed (cs : List Char) : Prop :=
  (∀ c, cs.head? = some c → isBlank c = false) ∧ ∀ c, cs.getLast? = some c → isBlank c = false

theorem trimEnd_prefix (cs : List Char) : trimEnd cs <+: cs := List.rdropWhile_prefix isBlank cs

theorem head?_dropWhile_not {p : Char → Bool} {cs : List Char} {c : Char} (h : (cs.dropWhile p).head? = some c) :
    p c = false := by
  have hnot := List.head?_dropWhile_not p cs
  rw [h] at hnot
  simpa using hnot

theorem trimmed_trimChars (cs : List Char) : Trimmed (trimChars cs) := by
  refine ⟨fun c hc => ?_, fun c hc => ?_⟩
  · obtain ⟨rest, hrest⟩ := trimEnd_prefix (trimStart cs)
    have hhead : (cs.dropWhile isBlank).head? = some c := by
      change (trimStart cs).head? = some c
      rw [← hrest, List.head?_append, show (trimEnd (trimStart cs)).head? = some c from hc, Option.some_or]
    exact head?_dropWhile_not hhead
  · unfold trimChars trimEnd at hc
    rw [List.getLast?_reverse] at hc
    exact head?_dropWhile_not hc

theorem trimChars_of_trimmed {cs : List Char} (h : Trimmed cs) : trimChars cs = cs := by
  have hstart : trimStart cs = cs := by
    cases cs with
    | nil => rfl
    | cons c rest => exact List.dropWhile_cons_of_neg (by simp [h.1 c rfl])
  rw [trimChars, hstart, trimEnd]
  cases hcs : cs.reverse with
  | nil => rw [List.reverse_eq_nil_iff.mp hcs]; rfl
  | cons c rest =>
    have hlast : cs.getLast? = some c := by rw [← List.head?_reverse, hcs]; rfl
    rw [List.dropWhile_cons_of_neg (by simp [h.2 c hlast]), ← hcs, List.reverse_reverse]

theorem trim_of_trimmed {s : String} (h : Trimmed s.toList) : trim s = s := by
  rw [trim, trimChars_of_trimmed h, String.ofList_toList]

theorem trimChars_eq_nil_iff {cs : List Char} : trimChars cs = [] ↔ ∀ c ∈ cs, isBlank c = true := by
  refine List.rdropWhile_eq_nil_iff.trans ⟨fun h c hc => ?_, fun h c hc => h c (List.dropWhile_subset isBlank hc)⟩
  rw [← List.takeWhile_append_dropWhile (p := isBlank) (l := cs), List.mem_append] at hc
  exact hc.elim List.mem_takeWhile_imp (h c)

theorem trimmed?_eq (s : String) : trimmed? s = if isBlankText s then none else some (trim s) := by
  refine if_congr ?_ rfl rfl
  rw [String.isEmpty_iff, ← String.toList_eq_nil_iff, trim, String.toList_ofList, trimChars_eq_nil_iff, isBlankText,
    List.all_eq_true]

theorem trimmed?_eq_some_iff {s name : String} : trimmed? s = some name ↔ trim s = name ∧ name ≠ "" := by
  unfold trimmed?
  dsimp only
  split
  · rename_i hempty
    constructor
    · intro h
      cases h
    · rintro ⟨rfl, hname⟩
      exact absurd (String.isEmpty_iff.mp hempty) hname
  · rename_i hfull
    rw [Option.some_inj]
    constructor
    · rintro rfl
      exact ⟨rfl, fun hempty => hfull (String.isEmpty_iff.mpr hempty)⟩
    · intro h
      exact h.1

theorem trimmed_of_any {cs : List Char} (h : cs.any isBlank = false) : Trimmed cs := by
  have hall : ∀ c ∈ cs, isBlank c = false := fun c hc => Bool.eq_false_iff.mpr (List.any_eq_false.mp h c hc)
  exact ⟨fun c hc => hall c (List.mem_of_head? hc), fun c hc => hall c (List.mem_of_getLast? hc)⟩

theorem Trimmed.append {front back : List Char} (hfront : Trimmed front) (hback : Trimmed back) (hfne : front ≠ [])
    (hbne : back ≠ []) (inner : List Char) : Trimmed (front ++ inner ++ back) := by
  refine ⟨fun c hc => ?_, fun c hc => ?_⟩
  · rw [List.append_assoc, List.head?_append_of_ne_nil _ hfne] at hc
    exact hfront.1 c hc
  · rw [List.getLast?_append_of_ne_nil _ hbne] at hc
    exact hback.2 c hc

theorem Trimmed.upper {cs : List Char} (h : Trimmed cs) : Trimmed (cs.flatMap upperChar) := by
  refine ⟨fun d hd => ?_, fun d hd => ?_⟩
  · cases cs with
    | nil => cases hd
    | cons c rest =>
      rw [List.flatMap_cons, List.head?_append_of_ne_nil _ (upperChar_ne_nil c)] at hd
      exact isBlank_of_mem_upperChar (h.1 c rfl) (List.mem_of_head? hd)
  · cases cs using List.reverseRecOn with
    | nil => cases hd
    | append_singleton init c =>
      rw [List.flatMap_append, List.flatMap_singleton, List.getLast?_append_of_ne_nil _ (upperChar_ne_nil c)] at hd
      exact isBlank_of_mem_upperChar (h.2 c (by simp)) (List.mem_of_getLast? hd)

end Text

namespace StepKind

/-! ## (3) Keys and kinds -/

theorem normalKey_normalKey (s : String) : normalKey (normalKey s) = normalKey s := by
  have htrim : Text.trim (normalKey s) = normalKey s := by
    unfold Text.trim normalKey Text.upper
    rw [String.toList_ofList, Text.trimChars_of_trimmed]
    unfold Text.trim
    rw [String.toList_ofList]
    exact (Text.trimmed_trimChars s.toList).upper
  rw [normalKey, htrim]
  exact Text.upper_upper (Text.trim s)

/-- The key of a kind is the normal key of what it was read from. -/
theorem key_ofString (s : String) : (ofString s).key = normalKey s := by
  unfold ofString
  split
  all_goals rename_i hs
  case h_8 => rfl
  all_goals exact hs.symm

/-- A kind that was read is the one that its key names. -/
theorem ofString_key (s : String) : ofString (ofString s).key = ofString s := by
  rw [key_ofString]
  unfold ofString
  rw [normalKey_normalKey]

end StepKind

end Stepflow
