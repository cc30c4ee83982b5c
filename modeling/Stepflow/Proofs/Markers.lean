/-
  Stepflow.Proofs.Markers — a text cut after a marker stays as it is when it is cut again.

  (1) A piece is taken off a text where the text begins or ends with it, and it occurs where it
  stands in the text as a whole (`occursIn_iff`).

  (2) What of a text counts in a comparison is what counts of each of its characters
  (`filter_lowerFrom`): only a capital sigma has small letters that depend on its neighbours, and
  neither of them counts. Blanks stay blanks, so the outer blanks of a text make no difference to
  its normal form (`normalForm_append_left`, `normalForm_append_right`).

  (3) Lines have no line ends in them, and lines joined with line feeds are the lines of what they
  are joined to (`lines_joinLines`).

  (4) The outer blanks of joined lines are those of the first lines and of the last one. Without
  them, lines are left that have the normal forms of lines that were there before, if the last one
  is not blank (`exists_trimChars_joinLines`).

  (5) Lines are taken up to the first that holds the marker (`EndAtMarker`), and such lines are
  taken all when they are searched again (`upTo?_of_endAtMarker`).

  So the lines of the text that is left end at the marker (`endAtMarker_trimmed`), and
  `cutting_is_stable` says what they are.
-/

import Mathlib.Data.List.Infix
import Stepflow.Proofs.Templates
import Stepflow.Text.Marker

namespace Stepflow.Text

/-! ## (1) Occurrences -/

theorem dropStart?_eq_some_iff {start cs rest : List Char} : dropStart? start cs = some rest ↔ cs = start ++ rest := by
  induction start generalizing cs with
  | nil => simp [dropStart?]
  | cons p start ih =>
    cases cs with
    | nil => simp [dropStart?]
    | cons c cs =>
      by_cases hc : p = c
      · simp [dropStart?, hc, ih]
      · simp [dropStart?, hc, Ne.symm hc]

theorem dropEnd?_eq_some_iff {ending cs front : List Char} :
    dropEnd? ending cs = some front ↔ cs = front ++ ending := by
  simp [dropEnd?, Option.map_eq_some_iff, dropStart?_eq_some_iff, List.reverse_eq_iff]

theorem dropStart?_isSome_iff {start cs : List Char} : (dropStart? start cs).isSome = true ↔ start <+: cs := by
  rw [Option.isSome_iff_exists]
  exact exists_congr fun rest => dropStart?_eq_some_iff.trans eq_comm

theorem occursIn_iff {piece cs : List Char} : occursIn piece cs = true ↔ piece <:+: cs := by
  induction cs with
  | nil => simp [occursIn]
  | cons c cs ih => rw [occursIn, Bool.or_eq_true, dropStart?_isSome_iff, ih, List.infix_cons_iff]

namespace Marker

variable {c : Char} {cs blanks needle line : List Char} {front ls kept : List (List Char)}

/-! ## (2) Normal forms -/

def countedOf (c : Char) : List Char := (lowerChar c).filter isCounted

theorem filter_lowerFrom (before cs : List Char) : (lowerFrom before cs).filter isCounted = cs.flatMap countedOf := by
  induction cs generalizing before with
  | nil => rfl
  | cons c cs ih =>
    rw [lowerFrom, List.filter_append, ih, List.flatMap_cons]
    congr 1
    by_cases hc : c = 'Σ'
    · have hnone : countedOf 'Σ' = [] := by decide +kernel
      subst hc
      rw [if_pos rfl, hnone]
      split <;> decide
    · rw [if_neg hc, countedOf]

def blankCodes : List Nat :=
  List.range' 0x9 5 ++ [0x20, 0x85, 0xA0, 0x1680] ++ List.range' 0x2000 11 ++ [0x2028, 0x2029, 0x202F, 0x205F, 0x3000]

theorem mem_blankCodes (h : isBlank c = true) : c.toNat ∈ blankCodes := by
  simp only [isBlank, Bool.or_eq_true, Bool.and_eq_true, decide_eq_true_eq, beq_iff_eq] at h
  simp only [blankCodes, List.mem_append, List.mem_range'_1, List.mem_cons, List.not_mem_nil, or_false]
  omega

theorem lowerChar_of_blank (h : isBlank c = true) : lowerChar c = [c] := by
  have hcodes : ∀ n ∈ blankCodes, lowerChar (Char.ofNat n) = [Char.ofNat n] := by decide +kernel
  have hc := hcodes _ (mem_blankCodes h)
  rwa [Char.ofNat_toNat] at hc

theorem blank_flatMap_countedOf (h : ∀ c ∈ cs, isBlank c = true) : ∀ d ∈ cs.flatMap countedOf, isBlank d = true := by
  intro d hd
  obtain ⟨c, hc, hd⟩ := List.mem_flatMap.mp hd
  rw [countedOf, lowerChar_of_blank (h c hc)] at hd
  obtain rfl := List.mem_singleton.mp (List.mem_of_mem_filter hd)
  exact h d hc

theorem trimStart_squeeze (inRun : Bool) (cs : List Char) :
    trimStart (squeeze inRun cs) = squeeze false (trimStart cs) := by
  induction cs generalizing inRun with
  | nil => rfl
  | cons c cs ih =>
    by_cases hc : isBlank c = true
    · have hcs : trimStart (c :: cs) = trimStart cs := List.dropWhile_cons_of_pos hc
      have hspace : trimStart (' ' :: squeeze true cs) = trimStart (squeeze true cs) := List.dropWhile_cons_of_pos rfl
      rw [squeeze, if_pos hc, hcs]
      split
      · exact ih true
      · rw [hspace, ih true]
    · have hcs : trimStart (c :: cs) = c :: cs := List.dropWhile_cons_of_neg hc
      have hsqueezed : trimStart (c :: squeeze false cs) = c :: squeeze false cs := List.dropWhile_cons_of_neg hc
      rw [squeeze, if_neg hc, hcs, hsqueezed, squeeze, if_neg hc]

theorem blank_squeeze (inRun : Bool) (h : ∀ c ∈ cs, isBlank c = true) : ∀ d ∈ squeeze inRun cs, isBlank d = true := by
  induction cs generalizing inRun with
  | nil => nofun
  | cons c cs ih =>
    obtain ⟨hc, hcs⟩ := List.forall_mem_cons.mp h
    rw [squeeze, if_pos hc]
    split
    · exact ih true hcs
    · exact List.forall_mem_cons.mpr ⟨rfl, ih true hcs⟩

/-- Blanks at the end leave blanks at the end, or nothing. -/
theorem exists_squeeze_append (inRun : Bool) (cs : List Char) (h : ∀ c ∈ blanks, isBlank c = true) :
    ∃ rest, (∀ c ∈ rest, isBlank c = true) ∧ squeeze inRun (cs ++ blanks) = squeeze inRun cs ++ rest := by
  induction cs generalizing inRun with
  | nil => exact ⟨squeeze inRun blanks, blank_squeeze inRun h, rfl⟩
  | cons c cs ih =>
    by_cases hc : isBlank c = true
    · obtain ⟨rest, hrest, heq⟩ := ih true
      refine ⟨rest, hrest, ?_⟩
      simp only [List.cons_append, squeeze, hc, if_true, heq]
      split <;> rfl
    · obtain ⟨rest, hrest, heq⟩ := ih false
      refine ⟨rest, hrest, ?_⟩
      simp only [List.cons_append, squeeze, hc, Bool.false_eq_true, if_false, heq]

theorem normalForm_eq (cs : List Char) : normalForm cs = trimChars (squeeze false (cs.flatMap countedOf)) := by
  rw [normalForm, filter_lowerFrom]

theorem normalForm_append_left (h : ∀ c ∈ blanks, isBlank c = true) (cs : List Char) :
    normalForm (blanks ++ cs) = normalForm cs := by
  have hblank := blank_flatMap_countedOf h
  rw [normalForm_eq, normalForm_eq, List.flatMap_append, trimChars, trimChars, trimStart_squeeze, trimStart_squeeze,
    trimStart, List.dropWhile_append_of_pos hblank]
  rfl

theorem normalForm_append_right (h : ∀ c ∈ blanks, isBlank c = true) (cs : List Char) :
    normalForm (cs ++ blanks) = normalForm cs := by
  obtain ⟨rest, hrest, heq⟩ := exists_squeeze_append false (cs.flatMap countedOf) (blank_flatMap_countedOf h)
  rw [normalForm_eq, normalForm_eq, List.flatMap_append, heq, Template.trimChars_append_right hrest]

theorem normalForm_of_blank (h : ∀ c ∈ cs, isBlank c = true) : normalForm cs = [] := normalForm_append_right h []

/-! ## (3) Lines -/

def Unbroken (line : List Char) : Prop := '\r' ∉ line ∧ '\n' ∉ line

theorem Unbroken.of_subset {short : List Char} (h : Unbroken line) (hsub : short ⊆ line) : Unbroken short :=
  ⟨fun hmem => h.1 (hsub hmem), fun hmem => h.2 (hsub hmem)⟩

theorem unbroken_of_mem_lines (h : line ∈ lines cs) : Unbroken line := by
  fun_induction lines cs generalizing line with
  | case1 =>
    rw [List.mem_singleton.mp h]
    exact ⟨List.not_mem_nil, List.not_mem_nil⟩
  | case2 cs ih =>
    rcases List.mem_cons.mp h with rfl | h
    · exact ⟨List.not_mem_nil, List.not_mem_nil⟩
    · exact ih h
  | case3 c cs _ hend ih =>
    rcases List.mem_cons.mp h with rfl | h
    · exact ⟨List.not_mem_nil, List.not_mem_nil⟩
    · exact ih h
  | case4 c cs _ hend hnil ih =>
    obtain rfl := List.mem_singleton.mp h
    exact ⟨by simpa [eq_comm] using (not_or.mp hend).1, by simpa [eq_comm] using (not_or.mp hend).2⟩
  | case5 c cs _ hend first rest hlines ih =>
    rcases List.mem_cons.mp h with rfl | h
    · obtain ⟨hreturn, hfeed⟩ := ih (hlines ▸ List.mem_cons_self ..)
      simp only [Unbroken, List.mem_cons, not_or]
      exact ⟨⟨Ne.symm (not_or.mp hend).1, hreturn⟩, Ne.symm (not_or.mp hend).2, hfeed⟩
    · exact ih (hlines ▸ List.mem_cons_of_mem _ h)

/-- A character that ends no line belongs to the first line of what follows. -/
theorem lines_cons (hc : ¬ (c = '\r' ∨ c = '\n')) {rest : List (List Char)} (h : lines cs = line :: rest) :
    lines (c :: cs) = (c :: line) :: rest := by
  rw [lines, if_neg hc, h]
  rintro _ rfl
  exact fun _ => hc (.inl rfl)

theorem lines_of_unbroken (h : Unbroken line) : lines line = [line] := by
  induction line with
  | nil => rw [lines]
  | cons c line ih =>
    simp only [Unbroken, List.mem_cons, not_or] at h
    obtain ⟨⟨hreturn, hline⟩, hfeed, hline'⟩ := h
    exact lines_cons (not_or.mpr ⟨Ne.symm hreturn, Ne.symm hfeed⟩) (ih ⟨hline, hline'⟩)

theorem lines_append (h : Unbroken line) (cs : List Char) : lines (line ++ '\n' :: cs) = line :: lines cs := by
  induction line with
  | nil =>
    rw [List.nil_append, lines, if_pos (.inr rfl)]
    nofun
  | cons c line ih =>
    simp only [Unbroken, List.mem_cons, not_or] at h
    obtain ⟨⟨hreturn, hline⟩, hfeed, hline'⟩ := h
    exact lines_cons (not_or.mpr ⟨Ne.symm hreturn, Ne.symm hfeed⟩) (ih ⟨hline, hline'⟩)

theorem joinLines_cons (line : List Char) (h : ls ≠ []) : joinLines (line :: ls) = line ++ '\n' :: joinLines ls := by
  cases ls with
  | nil => exact absurd rfl h
  | cons next rest => rfl

theorem joinLines_append (front : List (List Char)) (line : List Char) :
    joinLines (front ++ [line]) = front.flatMap (· ++ ['\n']) ++ line := by
  induction front with
  | nil => simp [joinLines]
  | cons first front ih =>
    rw [List.cons_append, joinLines_cons _ (List.append_ne_nil_of_right_ne_nil _ (List.cons_ne_nil _ _)), ih,
      List.flatMap_cons]
    simp

theorem lines_joinLines (hfront : ∀ l ∈ front, Unbroken l) (hline : Unbroken line) :
    lines (joinLines (front ++ [line])) = front ++ [line] := by
  induction front with
  | nil => simpa [joinLines] using lines_of_unbroken hline
  | cons first front ih =>
    obtain ⟨hfirst, hfront⟩ := List.forall_mem_cons.mp hfront
    rw [List.cons_append, joinLines_cons _ (List.append_ne_nil_of_right_ne_nil _ (List.cons_ne_nil _ _)),
      lines_append hfirst, ih hfront]

/-! ## (4) Outer blanks of joined lines -/

structure Shortened (line short : List Char) : Prop where
  subset : short ⊆ line
  normal : normalForm short = normalForm line

theorem Shortened.refl (line : List Char) : Shortened line line := ⟨List.Subset.refl _, rfl⟩

theorem Shortened.trans {mid short : List Char} (h : Shortened line mid) (h' : Shortened mid short) :
    Shortened line short := ⟨List.Subset.trans h'.subset h.subset, h'.normal.trans h.normal⟩

theorem shortened_trimStart (line : List Char) : Shortened line (trimStart line) := by
  refine ⟨(List.dropWhile_suffix _).subset, ?_⟩
  conv => rhs; rw [← List.takeWhile_append_dropWhile (p := isBlank) (l := line)]
  exact (normalForm_append_left (fun c hc => List.mem_takeWhile_imp hc) _).symm

theorem shortened_trimEnd (line : List Char) : Shortened line (trimEnd line) := by
  have hfirsts : trimEnd line <+: line := trimEnd_prefix line
  refine ⟨hfirsts.subset, ?_⟩
  conv => rhs; rw [← List.rdropWhile_append_rtakeWhile (p := isBlank) (l := line)]
  exact (normalForm_append_right (fun c hc => List.mem_rtakeWhile_imp hc) _).symm

/-- Lines that are blank altogether go, and so do the first blanks of the first line that is not. -/
theorem exists_trimStart_joinLines (front : List (List Char)) (line : List Char) : ∃ front' line',
    trimStart (joinLines (front ++ [line])) = joinLines (front' ++ [line']) ∧
      (∀ short ∈ front', ∃ l ∈ front, Shortened l short) ∧ Shortened line line' := by
  induction front with
  | nil => exact ⟨[], trimStart line, by simp [joinLines], nofun, shortened_trimStart line⟩
  | cons first front ih =>
    have hne : front ++ [line] ≠ [] := List.append_ne_nil_of_right_ne_nil _ (List.cons_ne_nil _ _)
    rw [List.cons_append, joinLines_cons _ hne]
    by_cases hblank : ∀ c ∈ first, isBlank c = true
    · obtain ⟨front', line', heq, hfront, hline⟩ := ih
      refine ⟨front', line', ?_, fun short hshort => ?_, hline⟩
      · rw [trimStart, List.dropWhile_append_of_pos hblank, List.dropWhile_cons_of_pos rfl]
        exact heq
      · obtain ⟨l, hl, hsame⟩ := hfront short hshort
        exact ⟨l, List.mem_cons_of_mem _ hl, hsame⟩
    · refine ⟨trimStart first :: front, line, ?_, ?_, .refl line⟩
      · have hstart : (first.dropWhile isBlank).isEmpty = false :=
          List.isEmpty_eq_false_iff.mpr fun hnil => hblank (List.dropWhile_eq_nil_iff.mp hnil)
        rw [List.cons_append, joinLines_cons _ hne, trimStart, trimStart, List.dropWhile_append, hstart]
        rfl
      · rw [List.forall_mem_cons]
        exact ⟨⟨first, List.mem_cons_self .., shortened_trimStart first⟩,
          fun l hl => ⟨l, List.mem_cons_of_mem _ hl, .refl l⟩⟩

theorem trimEnd_append (front : List Char) (h : ¬ ∀ c ∈ cs, isBlank c = true) :
    trimEnd (front ++ cs) = front ++ trimEnd cs := by
  have hend : (cs.reverse.dropWhile isBlank).isEmpty = false := by
    refine List.isEmpty_eq_false_iff.mpr fun hnil => h fun c hc => ?_
    exact List.dropWhile_eq_nil_iff.mp hnil c (List.mem_reverse.mpr hc)
  rw [trimEnd, trimEnd, List.reverse_append, List.dropWhile_append, hend, if_neg Bool.false_ne_true,
    List.reverse_append, List.reverse_reverse]

theorem exists_trimChars_joinLines (front : List (List Char)) (h : normalForm line ≠ []) : ∃ front' line',
    trimChars (joinLines (front ++ [line])) = joinLines (front' ++ [line']) ∧
      (∀ short ∈ front', ∃ l ∈ front, Shortened l short) ∧ Shortened line line' := by
  obtain ⟨front', line', hstart, hfront, hline⟩ := exists_trimStart_joinLines front line
  have hnotBlank : ¬ ∀ c ∈ line', isBlank c = true := fun hblank =>
    h (hline.normal.symm.trans (normalForm_of_blank hblank))
  refine ⟨front', trimEnd line', ?_, hfront, hline.trans (shortened_trimEnd line')⟩
  rw [trimChars, hstart, joinLines_append, joinLines_append, trimEnd_append _ hnotBlank]

/-! ## (5) The line of the marker -/

def Holds (needle line : List Char) : Prop := needle <:+: normalForm line

theorem holds_iff : holds needle line = true ↔ Holds needle line := occursIn_iff

theorem Shortened.holds_iff {short : List Char} (h : Shortened line short) :
    Holds needle short ↔ Holds needle line := by
  rw [Holds, Holds, h.normal]

/-- The last line holds the marker, and no line before it does. -/
def EndAtMarker (needle : List Char) (ls : List (List Char)) : Prop :=
  ∃ front line, ls = front ++ [line] ∧ (∀ l ∈ front, ¬ Holds needle l) ∧ Holds needle line

theorem upTo?_of_endAtMarker (h : EndAtMarker needle ls) : upTo? needle ls = some ls := by
  obtain ⟨front, line, rfl, hfront, hline⟩ := h
  induction front with
  | nil => simp [upTo?, Marker.holds_iff, hline]
  | cons first front ih =>
    obtain ⟨hfirst, hfront⟩ := List.forall_mem_cons.mp hfront
    simp [upTo?, Marker.holds_iff, hfirst, ih hfront]

theorem of_upTo? (h : upTo? needle ls = some kept) : kept <+: ls ∧ EndAtMarker needle kept := by
  induction ls generalizing kept with
  | nil => cases h
  | cons first ls ih =>
    rw [upTo?] at h
    split at h
    · rename_i hfirst
      cases h
      exact ⟨⟨ls, rfl⟩, [], first, rfl, nofun, holds_iff.mp hfirst⟩
    · rename_i hfirst
      obtain ⟨more, hmore, rfl⟩ := Option.map_eq_some_iff.mp h
      obtain ⟨hfirsts, front, line, rfl, hfront, hline⟩ := ih hmore
      refine ⟨(List.prefix_cons_inj first).mpr hfirsts, first :: front, line, rfl, ?_, hline⟩
      exact List.forall_mem_cons.mpr ⟨fun hholds => hfirst (holds_iff.mpr hholds), hfront⟩

theorem upTo?_eq_none_iff : upTo? needle ls = none ↔ ∀ l ∈ ls, ¬ Holds needle l := by
  induction ls with
  | nil => simp [upTo?]
  | cons first ls ih =>
    by_cases hfirst : holds needle first = true
    · simp [upTo?, hfirst, Marker.holds_iff.mp hfirst]
    · have hnot : ¬ Holds needle first := fun hholds => hfirst (Marker.holds_iff.mpr hholds)
      simp [upTo?, hfirst, hnot, ih]

/-! ## Texts cut after a marker -/

/-- The lines that are left without their outer blanks still end at the marker. -/
theorem endAtMarker_trimmed (hneedle : needle ≠ []) (hunbroken : ∀ l ∈ kept, Unbroken l) (h : EndAtMarker needle kept) :
    EndAtMarker needle (lines (trimChars (joinLines kept))) ∧
      joinLines (lines (trimChars (joinLines kept))) = trimChars (joinLines kept) := by
  obtain ⟨front, line, rfl, hfront, hline⟩ := h
  have hnormal : normalForm line ≠ [] := by
    intro hnil
    rw [Holds, hnil] at hline
    exact hneedle (List.eq_nil_of_infix_nil hline)
  obtain ⟨front', line', heq, hfront', hline'⟩ := exists_trimChars_joinLines front hnormal
  have hlines : lines (joinLines (front' ++ [line'])) = front' ++ [line'] := by
    refine lines_joinLines (fun short hshort => ?_) ?_
    · obtain ⟨l, hl, hsame⟩ := hfront' short hshort
      exact (hunbroken l (List.mem_append_left _ hl)).of_subset hsame.subset
    · exact (hunbroken line (List.mem_append_right _ (List.mem_singleton_self line))).of_subset hline'.subset
  rw [heq, hlines]
  refine ⟨⟨front', line', rfl, fun short hshort => ?_, hline'.holds_iff.mpr hline⟩, rfl⟩
  obtain ⟨l, hl, hsame⟩ := hfront' short hshort
  exact fun hholds => hfront l hl (hsame.holds_iff.mp hholds)

variable {source marker : String}

theorem cutAfter_of_upTo? (hneedle : normalForm marker.toList ≠ [])
    (h : upTo? (normalForm marker.toList) (lines source.toList) = some kept) :
    cutAfter source marker = String.ofList (trimChars (joinLines kept)) := by
  simp only [cutAfter, List.isEmpty_iff, if_neg hneedle, h]

theorem cutAfter_of_unmarked (h : normalForm marker.toList = [] ∨
    ∀ line ∈ lines source.toList, ¬ Holds (normalForm marker.toList) line) : cutAfter source marker = source := by
  by_cases hneedle : normalForm marker.toList = []
  · simp only [cutAfter, hneedle, List.isEmpty_nil, if_true]
  · have hnone := upTo?_eq_none_iff.mpr (h.resolve_left hneedle)
    simp only [cutAfter, List.isEmpty_iff, if_neg hneedle, hnone]

/-- Where the marker is found, the text is cut after its line, and cut again it stays. -/
theorem cutAfter_marked (hneedle : normalForm marker.toList ≠ [])
    (h : ∃ line ∈ lines source.toList, Holds (normalForm marker.toList) line) :
    cutAfter (cutAfter source marker) marker = cutAfter source marker ∧
      Trimmed (cutAfter source marker).toList ∧
      EndAtMarker (normalForm marker.toList) (lines (cutAfter source marker).toList) ∧
      ∃ kept, kept <+: lines source.toList ∧ EndAtMarker (normalForm marker.toList) kept ∧
        cutAfter source marker = String.ofList (trimChars (joinLines kept)) := by
  obtain ⟨kept, hkept⟩ : ∃ kept, upTo? (normalForm marker.toList) (lines source.toList) = some kept := by
    refine Option.ne_none_iff_exists'.mp fun hnone => ?_
    obtain ⟨line, hline, hholds⟩ := h
    exact upTo?_eq_none_iff.mp hnone line hline hholds
  obtain ⟨hfirsts, hends⟩ := of_upTo? hkept
  have hunbroken : ∀ l ∈ kept, Unbroken l := fun l hl => unbroken_of_mem_lines (hfirsts.subset hl)
  obtain ⟨hleft, hjoined⟩ := endAtMarker_trimmed hneedle hunbroken hends
  have htrimmed := trimmed_trimChars (joinLines kept)
  have hcut := cutAfter_of_upTo? hneedle hkept
  rw [hcut]
  refine ⟨?_, ?_, ?_, kept, hfirsts, hends, rfl⟩
  · have hall : upTo? (normalForm marker.toList) (lines (String.ofList (trimChars (joinLines kept))).toList) =
        some (lines (trimChars (joinLines kept))) := by
      rw [String.toList_ofList]
      exact upTo?_of_endAtMarker hleft
    rw [cutAfter_of_upTo? hneedle hall, hjoined, trimChars_of_trimmed htrimmed]
  · rwa [String.toList_ofList]
  · rwa [String.toList_ofList]

/-- A text that has been cut after a marker is not cut further by it. If a line holds the marker, and the marker has a
    normal form that is not empty, the text that is left has no outer blanks, its last line holds the marker and no line
    before it does: it is made of the lines up to the first that holds the marker. Otherwise nothing is cut. Markers of
    one normal form cut alike. -/
theorem cutting_is_stable (source marker : String) :
    cutAfter (cutAfter source marker) marker = cutAfter source marker ∧
    (normalForm marker.toList ≠ [] → (∃ line ∈ lines source.toList, Holds (normalForm marker.toList) line) →
      Trimmed (cutAfter source marker).toList ∧
      EndAtMarker (normalForm marker.toList) (lines (cutAfter source marker).toList) ∧
      ∃ kept, kept <+: lines source.toList ∧ EndAtMarker (normalForm marker.toList) kept ∧
        cutAfter source marker = String.ofList (trimChars (joinLines kept))) ∧
    (normalForm marker.toList = [] ∨ (∀ line ∈ lines source.toList, ¬ Holds (normalForm marker.toList) line) →
      cutAfter source marker = source) ∧
    ∀ other : String, normalForm other.toList = normalForm marker.toList →
      cutAfter source other = cutAfter source marker := by
  refine ⟨?_, fun hneedle h => (cutAfter_marked hneedle h).2, cutAfter_of_unmarked, fun other h => ?_⟩
  · by_cases h : normalForm marker.toList ≠ [] ∧ ∃ line ∈ lines source.toList, Holds (normalForm marker.toList) line
    · exact (cutAfter_marked h.1 h.2).1
    · have hnothing : cutAfter source marker = source := by
        refine cutAfter_of_unmarked ?_
        by_cases hneedle : normalForm marker.toList = []
        · exact .inl hneedle
        · exact .inr fun line hline hholds => h ⟨hneedle, line, hline, hholds⟩
      rw [hnothing, hnothing]
  · simp only [cutAfter, h]

namespace Sample

/-- A letter with blanks around its lines, line ends of each kind, and a line below the greeting. -/
def letter : String := "\r\n  Hi Ann,\rsee you. \r\nBest   Regards, \nSent from my phone\n"

end Sample

open Sample in
/-- The letter is cut after its greeting, whose blanks and capitals do not count, and marks alone cut nothing. -/
theorem sample_letter_is_cut_after_its_greeting :
    normalForm "-- best regards!".toList ≠ [] ∧
      (∃ line ∈ lines letter.toList, Holds (normalForm "-- best regards!".toList) line) ∧
      cutAfter letter "-- best regards!" = "Hi Ann,\nsee you. \nBest   Regards," ∧
      cutAfter "Hi Ann,\nsee you. \nBest   Regards," "-- best regards!" = "Hi Ann,\nsee you. \nBest   Regards," ∧
      Trimmed "Hi Ann,\nsee you. \nBest   Regards,".toList ∧
      normalForm "BEST REGARDS".toList = normalForm "-- best regards!".toList ∧
      cutAfter letter "BEST REGARDS" = "Hi Ann,\nsee you. \nBest   Regards," ∧
      normalForm "-- !".toList = [] ∧ cutAfter letter "-- !" = letter := by
  obtain ⟨hagain, hmarked, -, halike⟩ := cutting_is_stable letter "-- best regards!"
  obtain ⟨-, -, hunmarked, -⟩ := cutting_is_stable letter "-- !"
  have hneedle : normalForm "-- best regards!".toList ≠ [] := by decide +kernel
  have hline : ∃ line ∈ lines letter.toList, Holds (normalForm "-- best regards!".toList) line := by
    refine ⟨"Best   Regards, ".toList, by decide +kernel, holds_iff.mp (by decide +kernel)⟩
  have hcut : cutAfter letter "-- best regards!" = "Hi Ann,\nsee you. \nBest   Regards," := by decide +kernel
  have hsame : normalForm "BEST REGARDS".toList = normalForm "-- best regards!".toList := by decide +kernel
  have hempty : normalForm "-- !".toList = [] := by decide +kernel
  have htrimmed := (hmarked hneedle hline).1
  rw [hcut] at hagain htrimmed
  exact ⟨hneedle, hline, hcut, hagain, htrimmed, hsame, (halike _ hsame).trans hcut, hempty, hunmarked (.inl hempty)⟩

end Marker

end Stepflow.Text
