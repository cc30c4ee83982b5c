/-
  Stepflow.Proofs.Timestamps — a timestamp is read back from its text.

  A timestamp is valid when it lies in the years that the calendar knows and has a leap
  second only at the end of a minute (`Valid`).

  (1) A number in digits is read with what follows it left, if the reader takes no more
  digits or none follow (`number_digits`, `number_padded`).

  (2) So each part of a text is read as what was written: the year with or without a sign
  (`looseYear_yearChars`), the fraction of a second (`fraction?_fractionChars`).

  (3) The parts make up the timestamp again (`ofParts_of_valid`), so that the text is read
  as the timestamp (`readLoosely_zulu`).

  (4) Whatever is read is valid (`valid_of_readLoosely`).
-/

import Stepflow.Proofs.Calendar
import Stepflow.Proofs.Decoding
import Stepflow.Time.Rfc3339

namespace Stepflow.Time.Timestamp

/-- A point in time that the program can hold: a second goes on above 10^9 nanoseconds only
    where it is the last one of its minute. -/
structure Valid (t : Timestamp) : Prop where
  inRange : t.inRange = true
  nanos : t.nanos < 2000000000
  leap : 1000000000 ≤ t.nanos → t.seconds % 60 = 59

/-! ## (1) Numbers -/

theorem isBlank_of_isDigit {c : Char} (h : c.isDigit = true) : Text.isBlank c = false := by
  simp only [Char.isDigit, Bool.and_eq_true, decide_eq_true_eq, ge_iff_le, UInt32.le_iff_toNat_le] at h
  have h₁ : 48 ≤ c.toNat := h.1
  have h₂ : c.toNat ≤ 57 := h.2
  simp only [Text.isBlank, Bool.or_eq_false_iff, Bool.and_eq_false_iff, decide_eq_false_iff_not, beq_eq_false_iff_ne]
  omega

theorem digitsValue_eq {cs : List Char} (h : ∀ c ∈ cs, c.isDigit = true) :
    Decimal.digitsValue cs = Nat.ofDigitChars 10 cs 0 := by
  rw [Nat.ofDigitChars_eq_foldl]
  refine List.foldl_ext _ _ _ fun n c hc => ?_
  simp [Decimal.digit?, h c hc]

/-- No blank is passed over before a character that is none. -/
theorem trimStart_cons {c : Char} (h : Text.isBlank c = false) (cs : List Char) : Text.trimStart (c :: cs) = c :: cs :=
  List.dropWhile_cons_of_neg (by simp [h])

def StopsDigits (cs : List Char) : Prop := ∀ c, cs.head? = some c → c.isDigit = false

theorem takeWhile_digits {ds rest : List Char} (hds : ∀ c ∈ ds, c.isDigit = true) (hrest : StopsDigits rest) :
    (ds ++ rest).takeWhile Char.isDigit = ds ∧ (ds ++ rest).dropWhile Char.isDigit = rest := by
  rw [List.takeWhile_append_of_pos hds, List.dropWhile_append_of_pos hds]
  cases rest with
  | nil => simp
  | cons c rest =>
    have hc := hrest c rfl
    rw [List.takeWhile_cons_of_neg (by simp [hc]), List.dropWhile_cons_of_neg (by simp [hc]), List.append_nil]
    exact ⟨rfl, rfl⟩

theorem number_digits {width least greatest : Nat} {ds rest : List Char} (hds : ∀ c ∈ ds, c.isDigit = true)
    (hne : ds ≠ []) (hwidth : ds.length ≤ width) (hstop : ds.length = width ∨ StopsDigits rest)
    (hleast : least ≤ Decimal.digitsValue ds) (hgreatest : Decimal.digitsValue ds ≤ greatest) :
    number width least greatest (ds ++ rest) = .ok (Decimal.digitsValue ds, rest) := by
  obtain ⟨d, more, rfl⟩ := List.exists_cons_of_ne_nil hne
  have htrim : Text.trimStart (d :: more ++ rest) = d :: more ++ rest :=
    trimStart_cons (isBlank_of_isDigit (hds d (List.mem_cons_self ..))) _
  have htaken : ((d :: more ++ rest).take width).takeWhile Char.isDigit = d :: more := by
    rcases hstop with rfl | hstop
    · rw [List.take_left]
      have hend : StopsDigits [] := nofun
      simpa using (takeWhile_digits hds hend).1
    · rw [List.take_append, List.take_of_length_le hwidth]
      refine (takeWhile_digits hds fun c hc => hstop c ?_).1
      rw [List.head?_take] at hc
      split at hc
      · cases hc
      · exact hc
  simp only [number, htrim, htaken]
  simp [hleast, hgreatest]

theorem padded_digits (width n : Nat) : ∀ c ∈ padded width n, c.isDigit = true := by
  intro c hc
  rcases List.mem_append.mp hc with hc | hc
  · rw [(List.mem_replicate.mp hc).2]
    rfl
  · exact Nat.isDigit_of_mem_toDigits (by decide) (by decide) hc

theorem padded_ne_nil (width n : Nat) : padded width n ≠ [] := List.append_ne_nil_of_right_ne_nil _ Nat.toDigits_ne_nil

theorem digitsValue_padded (width n : Nat) : Decimal.digitsValue (padded width n) = n := by
  rw [digitsValue_eq (padded_digits width n), padded, Nat.ofDigitChars_append, Nat.ofDigitChars_replicate_zero,
    Nat.mul_zero, Nat.ofDigitChars_ten_toDigits]

theorem length_padded {width n : Nat} (hwidth : 0 < width) (h : n < 10 ^ width) : (padded width n).length = width := by
  have := (Nat.length_toDigits_le_iff (by decide) hwidth).mpr h
  rw [padded, List.length_append, List.length_replicate]
  omega

theorem number_padded {width n least greatest : Nat} (hwidth : 0 < width) (h : n < 10 ^ width) (hleast : least ≤ n)
    (hgreatest : n ≤ greatest) (rest : List Char) :
    number width least greatest (padded width n ++ rest) = .ok (n, rest) := by
  have hlength := length_padded hwidth h
  have hvalue := digitsValue_padded width n
  have hread : number width least greatest (padded width n ++ rest) =
      .ok (Decimal.digitsValue (padded width n), rest) :=
    number_digits (padded_digits width n) (padded_ne_nil width n) (Nat.le_of_eq hlength) (.inl hlength)
      (hvalue.symm ▸ hleast) (hvalue.symm ▸ hgreatest)
  rwa [hvalue] at hread

/-! ## (2) Parts -/

theorem looseChar_cons {c : Char} (h : Text.isBlank c = false) (cs : List Char) : looseChar c (c :: cs) = .ok cs := by
  simp [looseChar, trimStart_cons h]

/-- After a sign no blank may stand, and the digits are read up to the last of them. -/
theorem number_after_sign {n greatest : Nat} (h : n ≤ greatest) {rest : List Char} (hrest : StopsDigits rest) :
    looseYear.unsigned (padded 4 n ++ rest) = .ok () ∧
    number (padded 4 n ++ rest).length 0 greatest (padded 4 n ++ rest) = .ok (n, rest) := by
  have hvalue := digitsValue_padded 4 n
  have hnumber : number (padded 4 n ++ rest).length 0 greatest (padded 4 n ++ rest) =
      .ok (Decimal.digitsValue (padded 4 n), rest) :=
    number_digits (padded_digits 4 n) (padded_ne_nil 4 n) (by simp) (.inr hrest) (Nat.zero_le _) (hvalue.symm ▸ h)
  rw [hvalue] at hnumber
  refine ⟨?_, hnumber⟩
  obtain ⟨d, more, hd⟩ := List.exists_cons_of_ne_nil (padded_ne_nil 4 n)
  have hblank := isBlank_of_isDigit (padded_digits 4 n d (hd ▸ List.mem_cons_self ..))
  simp [hd, looseYear.unsigned, hblank]

theorem looseYear_minus {n : Nat} (h : n ≤ Nat.pow 2 31 - 1 + 1) {rest : List Char} (hrest : StopsDigits rest) :
    looseYear ('-' :: (padded 4 n ++ rest)) = .ok (-(n : Int), rest) := by
  obtain ⟨hunsigned, hnumber⟩ := number_after_sign h hrest
  unfold looseYear
  rw [trimStart_cons (by decide)]
  change (looseYear.unsigned _ >>= _) = _
  rw [hunsigned]
  change (number _ _ _ _ >>= _) = _
  rw [hnumber]
  rfl

theorem looseYear_plus {n : Nat} (h : n ≤ Nat.pow 2 31 - 1) {rest : List Char} (hrest : StopsDigits rest) :
    looseYear ('+' :: (padded 4 n ++ rest)) = .ok ((n : Int), rest) := by
  obtain ⟨hunsigned, hnumber⟩ := number_after_sign h hrest
  unfold looseYear
  rw [trimStart_cons (by decide)]
  change (looseYear.unsigned _ >>= _) = _
  rw [hunsigned]
  change (number _ _ _ _ >>= _) = _
  rw [hnumber]
  rfl

theorem looseYear_digits {n : Nat} (h : n < 10 ^ 4) (rest : List Char) :
    looseYear (padded 4 n ++ rest) = .ok ((n : Int), rest) := by
  have hbound : Nat.pow 2 31 = 2147483648 := rfl
  have hnumber : number 4 0 (Nat.pow 2 31 - 1) (padded 4 n ++ rest) = .ok (n, rest) :=
    number_padded (by decide) h (Nat.zero_le _) (by omega) rest
  obtain ⟨d, more, hd⟩ := List.exists_cons_of_ne_nil (padded_ne_nil 4 n)
  have hdigit := padded_digits 4 n d (hd ▸ List.mem_cons_self ..)
  rw [hd, List.cons_append] at hnumber ⊢
  unfold looseYear
  dsimp only
  rw [trimStart_cons (isBlank_of_isDigit hdigit)]
  split
  · rename_i hminus
    cases hminus
    cases hdigit
  · rename_i hplus
    cases hplus
    cases hdigit
  · rw [hnumber]
    rfl

theorem looseYear_yearChars {year : Int} (h₁ : firstYear ≤ year) (h₂ : year ≤ lastYear) {rest : List Char}
    (hrest : StopsDigits rest) : looseYear (yearChars year ++ rest) = .ok (year, rest) := by
  unfold firstYear at h₁
  unfold lastYear at h₂
  have hbound : Nat.pow 2 31 = 2147483648 := rfl
  unfold yearChars
  split
  · rw [looseYear_digits (by omega), Int.toNat_of_nonneg (by omega)]
  · split
    · rw [List.cons_append, looseYear_minus (by omega) hrest, show -(year.natAbs : Int) = year by omega]
    · rw [List.cons_append, looseYear_plus (by omega) hrest, show (year.natAbs : Int) = year by omega]

/-- The digits after the point are read as the nanoseconds, however few of them there are. -/
theorem fraction?_fractionChars {nanos : Nat} (h : nanos < 1000000000) {rest : List Char}
    (hrest : StopsDigits rest) (hpoint : rest.head? ≠ some '.') :
    fraction? (fractionChars nanos ++ rest) = some (nanos, rest) := by
  -- so many digits stand for a number of greater units
  have hdigits : ∀ width n, 0 < width → width ≤ 9 → n < 10 ^ width →
      fraction? (('.' :: padded width n) ++ rest) = some (n * Nat.pow 10 (9 - width), rest) := by
    intro width n hwidth hnine hn
    obtain ⟨htake, hdrop⟩ := takeWhile_digits (padded_digits width n) hrest
    have hlength := length_padded hwidth hn
    have hne := padded_ne_nil width n
    have hused : (padded width n).take 9 = padded width n := List.take_of_length_le (by omega)
    simp only [List.cons_append, fraction?, htake, hdrop, nanosOf, hused, hlength, digitsValue_padded]
    simp [hne]
  unfold fractionChars
  split
  · rename_i hzero
    subst hzero
    cases rest with
    | nil => rfl
    | cons c rest =>
      simp only [List.head?_cons, ne_eq, Option.some.injEq] at hpoint
      simp [fraction?, hpoint]
  · split
    · rw [hdigits 3 _ (by decide) (by decide) (by omega)]
      have : Nat.pow 10 (9 - 3) = 1000000 := rfl
      rw [this, Nat.div_mul_cancel (Nat.dvd_of_mod_eq_zero ‹_›)]
    · split
      · rw [hdigits 6 _ (by decide) (by decide) (by omega)]
        have : Nat.pow 10 (9 - 6) = 1000 := rfl
        rw [this, Nat.div_mul_cancel (Nat.dvd_of_mod_eq_zero ‹_›)]
      · rw [hdigits 9 _ (by decide) (by decide) (by omega)]
        exact congrArg (fun n => some (n, rest)) (Nat.mul_one nanos)

/-! ## (3) The whole text -/

theorem year_of_inRange {t : Timestamp} (h : t.inRange = true) : firstYear ≤ t.date.year ∧ t.date.year ≤ lastYear := by
  rw [inRange, Bool.and_eq_true, decide_eq_true_eq, decide_eq_true_eq] at h
  unfold startOf secondsPerDay at h
  unfold date secondsPerDay
  have hfirst : firstYear ≤ (Date.ofDays (t.seconds / 86400)).year := Date.le_year_ofDays (by omega)
  have hlast : (Date.ofDays (t.seconds / 86400)).year < lastYear + 1 := Date.year_ofDays_lt (by omega)
  omega

/-- The parts that a valid timestamp is written in make up the timestamp. -/
theorem ofParts_of_valid {t : Timestamp} (h : t.Valid) :
    ofParts ⟨t.date, t.secondOfDay / 3600, t.secondOfDay / 60 % 60,
      t.secondOfDay % 60 + t.nanos / 1000000000, t.nanos % 1000000000, 0⟩ = .ok t := by
  obtain ⟨hrange, hnanos, hleap⟩ := h
  obtain ⟨hfirst, hlast⟩ := year_of_inRange hrange
  have hdays : t.date.toDays = t.seconds / 86400 := Date.toDays_ofDays _
  have hvalid : t.date.Valid := Date.valid_ofDays _
  have hsecond : (t.secondOfDay : Int) = t.seconds % 86400 := Int.toNat_of_nonneg (Int.emod_nonneg _ (by decide))
  have hdate : ¬ (¬ t.date.Valid ∨ t.date.year < firstYear ∨ lastYear < t.date.year) := by
    rintro (hnot | hnot | hnot)
    · exact hnot hvalid
    · omega
    · omega
  rw [ofParts, if_neg hdate, if_neg (show ¬ ((0 : Int) ≤ -secondsPerDay ∨ secondsPerDay ≤ 0) by decide)]
  -- a second 60 stands for the leap second after second 59
  have htime : ∀ second nanos : Nat, second + nanos / 1000000000 = t.secondOfDay % 60 + t.nanos / 1000000000 →
      nanos = t.nanos → (⟨startOf t.date + (t.secondOfDay / 3600 : Nat) * 3600 + (t.secondOfDay / 60 % 60 : Nat) * 60 +
        second - 0, nanos⟩ : Timestamp) = t := by
    rintro second nanos hsum rfl
    unfold startOf secondsPerDay
    rw [hdays]
    cases t
    simp only [mk.injEq, and_true] at *
    omega
  by_cases hsixty : t.secondOfDay % 60 + t.nanos / 1000000000 = 60
  · simp only [hsixty, if_true]
    rw [htime 59 _ (by omega) (by omega), if_pos hrange]
  · simp only [hsixty, if_false]
    rw [htime _ _ (by omega) (by omega), if_pos hrange]

/-- The text of a valid timestamp is read part by part. -/
theorem looseParts_localChars {t : Timestamp} (h : t.Valid) : looseParts (t.localChars ++ ['Z']) =
    .ok ⟨t.date, t.secondOfDay / 3600, t.secondOfDay / 60 % 60,
      t.secondOfDay % 60 + t.nanos / 1000000000, t.nanos % 1000000000, 0⟩ := by
  obtain ⟨hfirst, hlast⟩ := year_of_inRange h.inRange
  have hdate : t.date.Valid := Date.valid_ofDays _
  obtain ⟨hmonth₁, hmonth, hday⟩ := hdate.bounds
  have hsecond : t.secondOfDay < 86400 := by
    unfold secondOfDay secondsPerDay
    omega
  have hnanos := h.nanos
  have hleap := h.leap
  have hfraction : looseFraction (fractionChars (t.nanos % 1000000000) ++ ['Z']) =
      .ok (t.nanos % 1000000000, ['Z']) := by
    have hread : fraction? (fractionChars (t.nanos % 1000000000) ++ ['Z']) = some (t.nanos % 1000000000, ['Z']) :=
      fraction?_fractionChars (by omega) (by rintro c ⟨⟩; rfl) (by decide)
    unfold looseFraction
    split
    · rename_i hnil
      simp at hnil
    · rename_i hpoint
      have hlast := congrArg List.getLast? hpoint
      simp at hlast
    · rw [hread]
  unfold looseParts localChars dateChars timeChars
  simp only [List.append_assoc, List.cons_append]
  rw [looseYear_yearChars hfirst hlast (by rintro c ⟨⟩; rfl), Except.ok_bind, looseChar_cons (by decide),
    Except.ok_bind, number_padded (by decide) (by omega) hmonth₁ hmonth, Except.ok_bind, looseChar_cons (by decide),
    Except.ok_bind, number_padded (by decide) (by omega) hdate.1 hday, Except.ok_bind]
  change (number 2 0 23 _ >>= _) = _
  rw [number_padded (by decide) (by omega) (Nat.zero_le _) (by omega), Except.ok_bind, looseChar_cons (by decide),
    Except.ok_bind, number_padded (by decide) (by omega) (Nat.zero_le _) (by omega), Except.ok_bind,
    looseChar_cons (by decide), Except.ok_bind, number_padded (by decide) (by omega) (Nat.zero_le _) (by omega),
    Except.ok_bind, hfraction]
  rfl

theorem readLoosely_zulu {t : Timestamp} (h : t.Valid) : readLoosely t.zulu = .ok t := by
  unfold readLoosely zulu
  rw [String.toList_ofList, looseParts_localChars h]
  exact ofParts_of_valid h

/-! ## (4) What is read -/

theorem digitsValue_lt (cs : List Char) : Decimal.digitsValue cs < 10 ^ cs.length := by
  have hfold : ∀ init, cs.foldl (fun n c => 10 * n + (Decimal.digit? c).getD 0) init < (init + 1) * 10 ^ cs.length := by
    induction cs with
    | nil => simp
    | cons c cs ih =>
      intro init
      have hdigit : (Decimal.digit? c).getD 0 ≤ 9 := by
        unfold Decimal.digit?
        split
        · rename_i hc
          simp only [Char.isDigit, Bool.and_eq_true, decide_eq_true_eq, UInt32.le_iff_toNat_le] at hc
          have : c.toNat ≤ 57 := hc.2
          simp
          omega
        · simp
      calc (c :: cs).foldl (fun n c => 10 * n + (Decimal.digit? c).getD 0) init
        _ < (10 * init + (Decimal.digit? c).getD 0 + 1) * 10 ^ cs.length := ih _
        _ ≤ (10 * init + 9 + 1) * 10 ^ cs.length := Nat.mul_le_mul_right _ (by omega)
        _ = (init + 1) * 10 ^ (c :: cs).length := by
          rw [List.length_cons, Nat.pow_succ', ← Nat.mul_assoc, Nat.add_mul init 1 10, Nat.mul_comm init]
  have := hfold 0
  rwa [Nat.zero_add, Nat.one_mul] at this

theorem nanosOf_lt (digits : List Char) : nanosOf digits < 1000000000 := by
  have hlength : (digits.take 9).length ≤ 9 := List.length_take_le ..
  calc nanosOf digits
    _ < 10 ^ (digits.take 9).length * 10 ^ (9 - (digits.take 9).length) :=
      Nat.mul_lt_mul_of_pos_right (digitsValue_lt _) (Nat.pow_pos (by decide))
    _ = 1000000000 := by rw [← Nat.pow_add, Nat.add_sub_cancel' hlength]

theorem looseFraction_lt {cs rest : List Char} {nanos : Nat} (h : looseFraction cs = .ok (nanos, rest)) :
    nanos < 1000000000 := by
  have hread : ∀ cs read, fraction? cs = some read → read.1 < 1000000000 := by
    intro cs read h
    unfold fraction? at h
    split at h
    · dsimp only at h
      split at h
      · cases h
      · cases h
        exact nanosOf_lt _
    · cases h
      exact Nat.zero_lt_succ _
  unfold looseFraction at h
  split at h
  · cases h
    decide
  · cases h
  · split at h
    · rename_i read hsome
      cases h
      exact hread _ _ hsome
    · cases h

/-- Offsets are whole minutes. -/
theorem looseOffset_mod {cs rest : List Char} {offset : Int} (h : looseOffset cs = .ok (offset, rest)) :
    offset % 60 = 0 := by
  unfold looseOffset at h
  split at h
  · cases h
  · cases h
    rfl
  · cases h
    rfl
  · split at h
    · cases h
      rfl
    · split at h
      · cases h
      · obtain ⟨⟨hours, cs₁⟩, -, h⟩ := Except.bind_eq_ok.mp h
        obtain ⟨⟨minutes, cs₂⟩, -, h⟩ := Except.bind_eq_ok.mp h
        dsimp only at h
        split at h
        · cases h
        · cases h
          split <;> omega

theorem valid_of_ofParts {p : Parts} {t : Timestamp} (hnanos : p.nanos < 1000000000) (hoffset : p.offset % 60 = 0)
    (h : ofParts p = .ok t) : t.Valid := by
  unfold ofParts at h
  split at h
  · cases h
  · split at h
    · cases h
    · by_cases hsixty : p.second = 60
      · simp only [hsixty, if_true] at h
        split at h
        · rename_i hrange
          cases h
          refine ⟨hrange, ?_, ?_⟩
          · dsimp only
            omega
          · unfold startOf secondsPerDay
            dsimp only
            omega
        · cases h
      · simp only [hsixty, if_false] at h
        split at h
        · rename_i hrange
          cases h
          refine ⟨hrange, ?_, ?_⟩
          · dsimp only
            omega
          · dsimp only
            omega
        · cases h

theorem valid_of_readLoosely {s : String} {t : Timestamp} (h : readLoosely s = .ok t) : t.Valid := by
  obtain ⟨p, hp, ht⟩ := Except.bind_eq_ok.mp h
  obtain ⟨year, -, hp⟩ := Except.bind_eq_ok.mp hp
  obtain ⟨_, -, hp⟩ := Except.bind_eq_ok.mp hp
  obtain ⟨month, -, hp⟩ := Except.bind_eq_ok.mp hp
  obtain ⟨_, -, hp⟩ := Except.bind_eq_ok.mp hp
  obtain ⟨day, -, hp⟩ := Except.bind_eq_ok.mp hp
  obtain ⟨_, -, hp⟩ := Except.bind_eq_ok.mp hp
  obtain ⟨hour, -, hp⟩ := Except.bind_eq_ok.mp hp
  obtain ⟨_, -, hp⟩ := Except.bind_eq_ok.mp hp
  obtain ⟨minute, -, hp⟩ := Except.bind_eq_ok.mp hp
  obtain ⟨_, -, hp⟩ := Except.bind_eq_ok.mp hp
  obtain ⟨second, -, hp⟩ := Except.bind_eq_ok.mp hp
  obtain ⟨nanos, hnanos, hp⟩ := Except.bind_eq_ok.mp hp
  obtain ⟨offset, hoffset, hp⟩ := Except.bind_eq_ok.mp hp
  obtain ⟨-, -, hp⟩ := Except.bind_eq_ok.mp hp
  cases hp
  exact valid_of_ofParts (looseFraction_lt hnanos) (looseOffset_mod hoffset) ht

end Stepflow.Time.Timestamp
