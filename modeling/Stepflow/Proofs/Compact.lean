/-
  Stepflow.Proofs.Compact — compact text is read as the value it was written from.

  (1) A character is read from what it is written as between quotation marks, be it escaped or
  not (`readText_escapeChar`); so is a text, by induction on its characters (`readText_quoted`).

  (2) The digits of a number below 2^64 are gathered without loss (`fill_eq`) and none of them is
  a zero in front (`head?_toDigits`), so a whole number is read from its digits, if a value may
  end there (`Ends`, `readValue_number`).

  (3) A value is read as its tree, if it may end where its text ends, by induction on the value
  (`readValue_compact`). The fuel that a value takes is bounded by the length of its text.

  So a value with its fields in order and whole numbers only is read as itself, unless it is
  nested too deep (`parse_compact`). Doubles are left out.
-/

import Stepflow.Json.Decode
import Stepflow.Proofs.Decoding
import Stepflow.Proofs.Timestamps

namespace Stepflow

namespace Json.Reader

theorem skipSpace_cons (c : Char) (h : isSpace c = false) (cs : List Char) : skipSpace (c :: cs) = c :: cs :=
  List.dropWhile_cons_of_neg (by simp [h])

/-! ## (1) Texts -/

theorem readText_cons {c : Char} (hquote : c ≠ '"') (hslash : c ≠ '\\') (hcontrol : ¬ c.toNat < 0x20) (g : Gathered)
    (rest : List Char) : readText g none (c :: rest) = readText (g.push c) none rest := by
  rw [readText]
  · simp [hquote, hcontrol]
  all_goals simp [hslash]

theorem hexFour?_hexDigit :
    ∀ n < 0x20, hexFour? '0' '0' (Value.hexDigit (n / 16)) (Value.hexDigit (n % 16)) = some n := by
  decide

/-- A character is read from what it is written as. -/
theorem readText_escapeChar (c : Char) (g : Gathered) (rest : List Char) :
    readText g none (Value.escapeChar c ++ rest) = readText (g.push c) none rest := by
  unfold Value.escapeChar
  split
  case h_8 hquote hslash _ _ _ _ _ =>
    split
    · rename_i hcontrol
      have hhigh : ¬ (0xDC00 ≤ c.toNat ∧ c.toNat ≤ 0xDFFF) := by omega
      have hlow : ¬ (0xD800 ≤ c.toNat ∧ c.toNat ≤ 0xDBFF) := by omega
      simp only [List.cons_append, List.nil_append]
      rw [readText, hexFour?_hexDigit c.toNat hcontrol]
      simp only [if_neg hhigh, if_neg hlow, Char.ofNat_toNat]
    · rename_i hcontrol
      exact readText_cons hquote hslash hcontrol g rest
  all_goals simp [readText, letterEscape?]

theorem readText_escaped (cs : List Char) (g : Gathered) (rest : List Char) :
    readText g none (cs.flatMap Value.escapeChar ++ '"' :: rest) =
      .ok ({ g with chars := cs.reverse ++ g.chars }.finish, rest) := by
  induction cs generalizing g with
  | nil => simp [readText]
  | cons c cs ih =>
    rw [List.flatMap_cons, List.append_assoc, readText_escapeChar, ih]
    simp [Gathered.push]

/-- A text in quotation marks, from after the first of them on. -/
theorem readText_quoted (s : String) (rest : List Char) :
    readText {} none (s.toList.flatMap Value.escapeChar ++ '"' :: rest) = .ok (.ok s, rest) := by
  rw [readText_escaped]
  simp [Gathered.finish]

/-! ## (2) Whole numbers -/

theorem le_ofDigitChars (cs : List Char) (n : Nat) : n ≤ Nat.ofDigitChars 10 cs n := by
  induction cs generalizing n with
  | nil => simp
  | cons c cs ih =>
    have := ih (10 * n + (c.toNat - '0'.toNat))
    rw [Nat.ofDigitChars_cons]
    omega

/-- Digits are gathered without loss as long as their number is below 2^64. -/
theorem fill_eq {cs : List Char} (h : ∀ c ∈ cs, c.isDigit = true) {n : Nat}
    (hsize : Nat.ofDigitChars 10 cs n < UInt64.size) (taken : Nat) :
    fill n taken cs = (Nat.ofDigitChars 10 cs n, taken + cs.length, []) := by
  induction cs generalizing n taken with
  | nil => simp [fill]
  | cons c cs ih =>
    obtain ⟨hc, hcs⟩ := List.forall_mem_cons.mp h
    have hvalue : (Decimal.digit? c).getD 0 = c.toNat - '0'.toNat := by simp [Decimal.digit?, hc]
    rw [Nat.ofDigitChars_cons] at hsize ⊢
    have hnext : 10 * n + (c.toNat - '0'.toNat) < UInt64.size := lt_of_le_of_lt (le_ofDigitChars cs _) hsize
    simp only [fill, hvalue, if_pos hnext]
    rw [ih hcs hsize, List.length_cons, Nat.add_assoc, Nat.add_comm 1]

theorem head?_toDigits (n : Nat) (h : 0 < n) : (Nat.toDigits 10 n).head? ≠ some '0' := by
  induction n using Nat.strongRecOn with
  | ind n ih =>
    rw [Nat.toDigits_eq_if (by decide)]
    split
    · simpa using Nat.ne_of_gt h
    · rw [List.head?_append_of_ne_nil _ Nat.toDigits_ne_nil]
      exact ih (n / 10) (by omega) (by omega)

def Ends (rest : List Char) : Prop := ∀ c, rest.head? = some c → c = ',' ∨ c = ']' ∨ c = '\x7d'

/-- No zero stands in front of other digits. -/
theorem toDigits_ne_zero_cons (n : Nat) (c : Char) (cs : List Char) : Nat.toDigits 10 n ≠ '0' :: c :: cs := by
  intro h
  rcases Nat.eq_zero_or_pos n with rfl | hn
  · cases h
  · exact head?_toDigits n hn (by rw [h]; rfl)

theorem readFraction_end {rest : List Char} (hrest : Ends rest) (negative : Bool) (n : Nat) :
    readFraction negative n 0 true rest = ⟨readExponent.finish negative n 0 true, some rest⟩ := by
  cases rest with
  | nil => rfl
  | cons c rest => rcases hrest c rfl with rfl | rfl | rfl <;> rfl

theorem readNumber_toDigits {n : Nat} (hsize : n < UInt64.size) {rest : List Char} (hrest : Ends rest)
    (negative : Bool) :
    readNumber negative (Nat.toDigits 10 n ++ rest) = ⟨readExponent.finish negative n 0 true, some rest⟩ := by
  have hdigits : ∀ c ∈ Nat.toDigits 10 n, c.isDigit = true :=
    fun c => Nat.isDigit_of_mem_toDigits (by decide) (by decide)
  have hstops : Time.Timestamp.StopsDigits rest := by
    intro c hc
    rcases hrest c hc with rfl | rfl | rfl <;> rfl
  have hvalue : Nat.ofDigitChars 10 (Nat.toDigits 10 n) 0 = n := Nat.ofDigitChars_ten_toDigits
  obtain ⟨htake, hdrop⟩ := Time.Timestamp.takeWhile_digits hdigits hstops
  simp only [readNumber, htake, hdrop]
  split
  · rename_i hnil
    exact absurd hnil Nat.toDigits_ne_nil
  · rename_i hzero
    exact absurd hzero (toDigits_ne_zero_cons n _ _)
  · rw [fill_eq hdigits (hvalue.symm ▸ hsize), hvalue]
    exact readFraction_end hrest negative n

theorem isSpace_of_isDigit {c : Char} (h : c.isDigit = true) : isSpace c = false := by
  cases hc : isSpace c with
  | false => rfl
  | true =>
    simp only [isSpace, Bool.or_eq_true, beq_iff_eq] at hc
    rcases hc with ((rfl | rfl) | rfl) | rfl <;> cases h

/-- A digit begins a number. -/
theorem readValue_digit {c : Char} (h : c.isDigit = true) (fuel : Nat) (cs : List Char) :
    readValue (fuel + 1) (c :: cs) = readNumber false (c :: cs) := by
  rw [readValue, skipSpace_cons c (isSpace_of_isDigit h)]
  split
  case h_9 heq =>
    obtain ⟨rfl, rfl⟩ := List.cons.inj heq
    rw [if_pos h]
  case h_1 heq => cases heq
  all_goals
    rename_i heq
    obtain ⟨rfl, -⟩ := List.cons.inj heq
    cases h

end Json.Reader

namespace Number

/-- A whole number; what is held as negative is below zero. -/
def Whole : Number → Prop
  | natural _ => True
  | negative n => n.toInt < 0
  | double _ => False

theorem text_natural (n : UInt64) : ∃ d ds, (natural n).text.toList = d :: ds ∧ d.isDigit = true ∧
    Nat.toDigits 10 n.toNat = d :: ds := by
  obtain ⟨d, ds, hds⟩ := List.exists_cons_of_ne_nil (Nat.toDigits_ne_nil (b := 10) (n := n.toNat))
  have hd : d.isDigit = true := Nat.isDigit_of_mem_toDigits (by decide) (by decide) (hds ▸ List.mem_cons_self ..)
  exact ⟨d, ds, Nat.toList_repr.trans hds, hd, hds⟩

theorem text_negative {n : Int64} (h : n.toInt < 0) :
    (negative n).text.toList = '-' :: Nat.toDigits 10 n.toInt.natAbs := by
  obtain ⟨m, hm⟩ := Int.eq_negSucc_of_lt_zero h
  simp [text, hm, Int.repr]

end Number

namespace Json.Reader

theorem readValue_natural (n : UInt64) {rest : List Char} (hrest : Ends rest) (fuel : Nat) :
    readValue (fuel + 1) ((Number.natural n).text.toList ++ rest) = ⟨.number (.natural n), some rest⟩ := by
  obtain ⟨d, ds, htext, hd, hds⟩ := Number.text_natural n
  have hfinish : readExponent.finish false n.toNat 0 true = .number (.natural n) := by
    simp [readExponent.finish]
  rw [htext, List.cons_append, readValue_digit hd, ← List.cons_append, ← hds,
    readNumber_toDigits n.toNat_lt_size hrest, hfinish]

theorem readValue_negative {n : Int64} (h : n.toInt < 0) {rest : List Char} (hrest : Ends rest) (fuel : Nat) :
    readValue (fuel + 1) ((Number.negative n).text.toList ++ rest) = ⟨.number (.negative n), some rest⟩ := by
  have hleast : -(2 : Int) ^ 63 ≤ n.toInt := n.le_toInt
  have hsize : n.toInt.natAbs < UInt64.size := by
    simp only [UInt64.size]
    omega
  have hfinish : readExponent.finish true n.toInt.natAbs 0 true = .number (.negative n) := by
    have hvalue : -(n.toInt.natAbs : Int) = n.toInt := by omega
    have hzero : n.toInt.natAbs ≠ 0 := by omega
    have hrange : ¬ (n.toInt.natAbs : Int) > -Int64.minValue.toInt := by
      have hmin : Int64.minValue.toInt = -(2 : Int) ^ 63 := by decide
      omega
    rw [readExponent.finish]
    simp only [if_true, hzero, hrange, hvalue, Int64.ofInt_toInt, decide_false, Bool.or_self, Bool.false_eq_true,
      if_false]
  rw [Number.text_negative h, List.cons_append, readValue, skipSpace_cons '-' rfl]
  simp only [readNumber_toDigits hsize hrest, hfinish]

theorem readValue_number {n : Number} (h : n.Whole) {rest : List Char} (hrest : Ends rest) (fuel : Nat) :
    readValue (fuel + 1) (n.text.toList ++ rest) = ⟨.number n, some rest⟩ := by
  cases n with
  | natural n => exact readValue_natural n hrest fuel
  | negative n => exact readValue_negative h hrest fuel
  | double x => exact h.elim

end Json.Reader

/-! ## (3) Values -/

namespace Value

mutual
def Whole : Value → Prop
  | number n => n.Whole
  | array items => WholeItems items
  | object fields => WholeFields fields
  | _ => True

def WholeItems : List Value → Prop
  | [] => True
  | v :: vs => Whole v ∧ WholeItems vs

def WholeFields : List (String × Value) → Prop
  | [] => True
  | (_, v) :: rest => Whole v ∧ WholeFields rest
end

/-- The text of a value begins with no white space, and not as a list ends. -/
theorem exists_cons_compactChars {v : Value} (h : v.Whole) :
    ∃ c cs, v.compactChars = c :: cs ∧ Json.isSpace c = false ∧ c ≠ ']' := by
  cases v with
  | null => exact ⟨_, _, rfl, rfl, by decide⟩
  | bool b => cases b <;> exact ⟨_, _, rfl, rfl, by decide⟩
  | string s => exact ⟨_, _, rfl, rfl, by decide⟩
  | array items => exact ⟨_, _, by rw [compactChars, List.cons_append], rfl, by decide⟩
  | object fields => exact ⟨_, _, by rw [compactChars, List.cons_append], rfl, by decide⟩
  | number n =>
    cases n with
    | natural n =>
      obtain ⟨d, ds, htext, hd, -⟩ := Number.text_natural n
      refine ⟨d, ds, htext, Json.Reader.isSpace_of_isDigit hd, ?_⟩
      rintro rfl
      cases hd
    | negative n => exact ⟨_, _, Number.text_negative h, rfl, by decide⟩
    | double x => exact h.elim

theorem itemChars_cons (v w : Value) (ws : List Value) :
    itemChars (v :: w :: ws) = v.compactChars ++ ',' :: itemChars (w :: ws) := by
  rw [itemChars]
  simp

theorem exists_cons_itemChars {v : Value} (h : v.Whole) (vs : List Value) :
    ∃ c cs, itemChars (v :: vs) = c :: cs ∧ Json.isSpace c = false ∧ c ≠ ']' := by
  obtain ⟨c, cs, hcs, hspace, hend⟩ := exists_cons_compactChars h
  cases vs with
  | nil => exact ⟨c, cs, by rw [itemChars, hcs], hspace, hend⟩
  | cons w ws => exact ⟨c, _, by rw [itemChars_cons, hcs, List.cons_append], hspace, hend⟩

theorem quoted_append (s : String) (rest : List Char) :
    quoted s ++ rest = '"' :: (s.toList.flatMap escapeChar ++ '"' :: rest) := by
  simp [quoted]

theorem fieldChars_append (k : String) (v : Value) (rest : List Char) :
    fieldChars [(k, v)] ++ rest =
      '"' :: (k.toList.flatMap escapeChar ++ '"' :: ':' :: (v.compactChars ++ rest)) := by
  rw [fieldChars, List.append_assoc, quoted_append, List.cons_append]

theorem fieldChars_cons_append (k : String) (v : Value) (f : String × Value) (fields : Fields) (rest : List Char) :
    fieldChars ((k, v) :: f :: fields) ++ rest =
      '"' :: (k.toList.flatMap escapeChar ++
        '"' :: ':' :: (v.compactChars ++ ',' :: (fieldChars (f :: fields) ++ rest))) := by
  rw [fieldChars]
  · simp [quoted]
  · simp

theorem exists_cons_fieldChars (f : String × Value) (fields : Fields) :
    ∃ cs, fieldChars (f :: fields) = '"' :: cs := by
  obtain ⟨k, v⟩ := f
  cases fields with
  | nil => exact ⟨_, by rw [← List.append_nil (fieldChars _), fieldChars_append]⟩
  | cons f fields => exact ⟨_, by rw [← List.append_nil (fieldChars _), fieldChars_cons_append]⟩

end Value

namespace Json.Reader

variable {fuel : Nat} {cs mid more next rest : List Char} {item t : Tree} {key : Except Fault String}

theorem readValue_quoted (s : String) : readValue (fuel + 1) (Value.quoted s ++ rest) = ⟨.string s, some rest⟩ := by
  rw [Value.quoted_append, readValue, skipSpace_cons '"' rfl]
  simp only [readText_quoted]

theorem readValue_array {c : Char} (hspace : isSpace c = false) (hend : c ≠ ']') :
    readValue (fuel + 1) ('[' :: c :: cs) =
      ⟨.array (readItems fuel (c :: cs)).part.1 (readItems fuel (c :: cs)).part.2,
        (readItems fuel (c :: cs)).rest⟩ := by
  rw [readValue, skipSpace_cons '[' rfl]
  simp only [skipSpace_cons c hspace]
  split
  · contradiction
  · rename_i heq
    exact absurd (List.cons.inj heq).1 hend
  · rfl

theorem readValue_object :
    readValue (fuel + 1) ('\x7b' :: '"' :: cs) =
      ⟨.object (readMembers fuel cs).part.1 (readMembers fuel cs).part.2, (readMembers fuel cs).rest⟩ := by
  rw [readValue, skipSpace_cons '\x7b' rfl]
  simp only [skipSpace_cons '"' rfl]

theorem readItems_end (h : readValue fuel cs = ⟨item, some (']' :: rest)⟩) :
    readItems (fuel + 1) cs = ⟨([item], none), some rest⟩ := by
  simp only [readItems, h, skipSpace_cons ']' rfl]

theorem readItems_comma {c : Char} (h : readValue fuel cs = ⟨item, some (',' :: c :: more)⟩)
    (hspace : isSpace c = false) (hend : c ≠ ']') :
    readItems (fuel + 1) cs =
      ⟨(item :: (readItems fuel (c :: more)).part.1, (readItems fuel (c :: more)).part.2),
        (readItems fuel (c :: more)).rest⟩ := by
  simp only [readItems, h, skipSpace_cons ',' rfl, skipSpace_cons c hspace]
  split
  · contradiction
  · rename_i heq
    exact absurd (List.cons.inj heq).1 hend
  · rfl

/-- The last member of an object. -/
theorem readMembers_end (hkey : readText {} none cs = .ok (key, ':' :: mid))
    (h : readValue fuel mid = ⟨t, some ('\x7d' :: rest)⟩) :
    readMembers (fuel + 1) cs = ⟨([(key, t)], none), some rest⟩ := by
  simp only [readMembers, hkey, skipSpace_cons ':' rfl, h, skipSpace_cons '\x7d' rfl]

/-- One member is read, and the others as they are read alone. -/
theorem readMembers_comma (hkey : readText {} none cs = .ok (key, ':' :: mid))
    (h : readValue fuel mid = ⟨t, some (',' :: more)⟩) (hmore : skipSpace more = '"' :: next) :
    readMembers (fuel + 1) cs =
      ⟨((key, t) :: (readMembers fuel next).part.1, (readMembers fuel next).part.2), (readMembers fuel next).rest⟩ := by
  simp only [readMembers, hkey, skipSpace_cons ':' rfl, h, skipSpace_cons ',' rfl, hmore]

theorem ends_cons {c : Char} (h : c = ',' ∨ c = ']' ∨ c = '\x7d') (cs : List Char) : Ends (c :: cs) := by
  intro d hd
  obtain rfl := Option.some.inj hd
  exact h

mutual

/-- A value is read as its tree. -/
theorem readValue_compact : (v : Value) → v.Whole → (fuel : Nat) → 2 * v.compactChars.length ≤ fuel →
    (rest : List Char) → Ends rest → readValue fuel (v.compactChars ++ rest) = ⟨.ofValue v, some rest⟩
  | .null, _, fuel + 1, _, rest, _ => rfl
  | .bool true, _, fuel + 1, _, rest, _ => rfl
  | .bool false, _, fuel + 1, _, rest, _ => rfl
  | .number n, h, fuel + 1, _, rest, hrest => readValue_number h hrest fuel
  | .string s, _, fuel + 1, _, rest, _ => readValue_quoted s
  | .array [], _, fuel + 1, _, rest, _ => rfl
  | .array (v :: vs), h, fuel + 1, hfuel, rest, _ => by
    obtain ⟨c, cs, hcs, hspace, hend⟩ := Value.exists_cons_itemChars h.1 vs
    simp only [Value.compactChars, List.length_cons, List.length_append, List.length_nil] at hfuel
    have hitems := readItems_compact v vs h fuel (by omega) rest
    have hchars : (Value.array (v :: vs)).compactChars ++ rest = '[' :: (Value.itemChars (v :: vs) ++ ']' :: rest) := by
      simp [Value.compactChars]
    rw [hcs, List.cons_append] at hitems hchars
    rw [hchars, readValue_array hspace hend, hitems]
    rfl
  | .object [], _, fuel + 1, _, rest, _ => rfl
  | .object ((k, v) :: fields), h, fuel + 1, hfuel, rest, _ => by
    simp only [Value.compactChars, List.length_cons, List.length_append, List.length_nil] at hfuel
    obtain ⟨cs, hcs⟩ := Value.exists_cons_fieldChars (k, v) fields
    have hmembers := readMembers_compact k v fields h fuel (by omega) rest
    have hchars : (Value.object ((k, v) :: fields)).compactChars ++ rest =
        '\x7b' :: (Value.fieldChars ((k, v) :: fields) ++ '\x7d' :: rest) := by
      simp [Value.compactChars]
    rw [hcs, List.cons_append] at hchars
    rw [hcs, List.cons_append, List.tail_cons] at hmembers
    rw [hchars, readValue_object, hmembers]
    rfl
  | _, h, 0, hfuel, _, _ => by
    obtain ⟨c, cs, hcs, -⟩ := Value.exists_cons_compactChars h
    rw [hcs, List.length_cons] at hfuel
    omega

theorem readItems_compact : (v : Value) → (vs : List Value) → Value.WholeItems (v :: vs) → (fuel : Nat) →
    2 * (Value.itemChars (v :: vs)).length + 1 ≤ fuel → (rest : List Char) →
    readItems fuel (Value.itemChars (v :: vs) ++ ']' :: rest) = ⟨(Tree.ofItems (v :: vs), none), some rest⟩
  | v, [], h, fuel + 1, hfuel, rest => by
    simp only [Value.itemChars] at hfuel ⊢
    exact readItems_end (readValue_compact v h.1 fuel (by omega) (']' :: rest) (ends_cons (by simp) rest))
  | v, w :: ws, h, fuel + 1, hfuel, rest => by
    -- the next item begins with a character that does not end the list
    obtain ⟨c, cs, hcs, hspace, hend⟩ := Value.exists_cons_itemChars h.2.1 ws
    simp only [Value.itemChars_cons, List.length_cons, List.length_append] at hfuel
    have hvalue := readValue_compact v h.1 fuel (by omega) (',' :: (Value.itemChars (w :: ws) ++ ']' :: rest))
      (ends_cons (by simp) _)
    have hitems := readItems_compact w ws h.2 fuel (by omega) rest
    rw [hcs, List.cons_append] at hvalue hitems
    rw [Value.itemChars_cons, List.append_assoc, List.cons_append, hcs, List.cons_append,
      readItems_comma hvalue hspace hend, hitems]
    rfl

theorem readMembers_compact : (k : String) → (v : Value) → (fields : Fields) → Value.WholeFields ((k, v) :: fields) →
    (fuel : Nat) → 2 * (Value.fieldChars ((k, v) :: fields)).length ≤ fuel → (rest : List Char) →
    readMembers fuel (Value.fieldChars ((k, v) :: fields) ++ '\x7d' :: rest).tail =
      ⟨(Tree.ofFields ((k, v) :: fields), none), some rest⟩
  | k, v, [], h, fuel + 1, hfuel, rest => by
    have hlength := congrArg List.length (Value.fieldChars_append k v [])
    simp only [List.length_append, List.length_cons, List.length_nil] at hlength
    rw [Value.fieldChars_append, List.tail_cons]
    exact readMembers_end (readText_quoted k _)
      (readValue_compact v h.1 fuel (by omega) ('\x7d' :: rest) (ends_cons (by simp) rest))
  | k, v, (l, w) :: fields, h, fuel + 1, hfuel, rest => by
    obtain ⟨cs, hcs⟩ := Value.exists_cons_fieldChars (l, w) fields
    have hlength := congrArg List.length (Value.fieldChars_cons_append k v (l, w) fields [])
    simp only [List.length_append, List.length_cons, List.length_nil] at hlength
    have hvalue := readValue_compact v h.1 fuel (by omega)
      (',' :: (Value.fieldChars ((l, w) :: fields) ++ '\x7d' :: rest)) (ends_cons (by simp) _)
    have hmembers := readMembers_compact l w fields h.2 fuel (by omega) rest
    rw [hcs, List.cons_append] at hvalue
    rw [hcs, List.cons_append, List.tail_cons] at hmembers
    rw [Value.fieldChars_cons_append, List.tail_cons, hcs, List.cons_append,
      readMembers_comma (readText_quoted k _) hvalue (skipSpace_cons '"' rfl _), hmembers]
    rfl
  | k, v, fields, h, 0, hfuel, rest => by
    obtain ⟨cs, hcs⟩ := Value.exists_cons_fieldChars (k, v) fields
    rw [hcs, List.length_cons] at hfuel
    omega

end

end Json.Reader

namespace Json

open Reader

theorem readTree_compact {v : Value} (h : v.Whole) : readTree v.compact = ⟨.ofValue v, some []⟩ := by
  have hread := readValue_compact v h (2 * v.compactChars.length + 2) (by omega) [] nofun
  simp only [readTree, Value.compact, String.toList_ofList]
  rwa [List.append_nil] at hread

/-- A value is read from its compact text, if the fields of its objects are in order, its numbers are whole and it is
    not nested too deep. -/
theorem parse_compact {v : Value} (hnormal : v.Normal) (hwhole : v.Whole) (hdepth : v.depth ≤ textBudget) :
    parse v.compact = .ok v := by
  simp only [parse, decodeText, readTree_compact hwhole]
  rw [Decode.value_ofValue v hnormal textBudget hdepth]
  rfl

end Json

end Stepflow
