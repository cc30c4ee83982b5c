/-
  Stepflow.Proofs.Windows — filters that ask how long ago something was.

  A window is a number of hours or days; it begins at a moment before now, which a filter
  keeps as a text and reads again for every record.

  (1) The strict reader reads the text of a timestamp whose year is written in four digits,
  and no other (`read?_text`).

  (2) A longer window begins no later, also where it is longer than the years that the
  calendar knows (`cutoff_antitone`), and it begins at a valid timestamp (`valid_cutoff`).

  (3) So a filter compares the timestamp of a record with the beginning of the window, if
  this is written in four digits, and passes no record otherwise (`accepts_within`,
  `accepts_older`).

  `time_windows_divide_records` says what follows: of two filters with one window one passes
  the record and the other one does not; a longer window holds what a shorter one holds; days
  are 24 hours. A window that begins before year 0 holds nothing, and neither is anything
  older: `window_of_a_billion_hours_is_empty`.
-/

import Stepflow.Proofs.Timestamps
import Stepflow.Records.Filter

namespace Stepflow

namespace Time.Timestamp

variable {t : Timestamp}

/-! ## (1) Strict reading -/

def FourDigits (t : Timestamp) : Prop := 0 ≤ t.date.year ∧ t.date.year ≤ 9999

instance (t : Timestamp) : Decidable t.FourDigits := inferInstanceAs (Decidable (_ ∧ _))

theorem exactly?_padded {width n least greatest : Nat} (hwidth : 0 < width) (h : n < 10 ^ width) (hleast : least ≤ n)
    (hgreatest : n ≤ greatest) (rest : List Char) :
    exactly? width least greatest (padded width n ++ rest) = some (n, rest) := by
  have hlength := length_padded hwidth h
  have htake : (padded width n ++ rest).take width = padded width n := by
    rw [List.take_append_of_le_length (by omega), List.take_of_length_le (by omega)]
  have hdrop : (padded width n ++ rest).drop width = rest := by
    rw [List.drop_append_of_le_length (by omega), List.drop_of_length_le (by omega), List.nil_append]
  have hdigits : (padded width n).all Char.isDigit = true := List.all_eq_true.mpr (padded_digits width n)
  simp [exactly?, htake, hdrop, hlength, hdigits, digitsValue_padded, hleast, hgreatest]

theorem char?_cons (c : Char) (cs : List Char) : char? c (c :: cs) = some cs := by simp [char?]

/-- A text that begins with a sign is not read. -/
theorem exactly?_of_not_digit {c : Char} (h : c.isDigit = false) {width least greatest : Nat} (hwidth : 0 < width)
    (cs : List Char) : exactly? width least greatest (c :: cs) = none := by
  obtain ⟨width, rfl⟩ : ∃ n, width = n + 1 := ⟨width - 1, by omega⟩
  simp [exactly?, h]

theorem readChars?_localChars (h : t.Valid) (hyear : t.FourDigits) :
    readChars? (t.localChars ++ "+00:00".toList) = some t := by
  obtain ⟨hyear₁, hyear₂⟩ := hyear
  have hdate : t.date.Valid := Date.valid_ofDays _
  obtain ⟨hmonth₁, hmonth, hday⟩ := hdate.bounds
  have hday₁ := hdate.1
  have hsecond : t.secondOfDay < 86400 := by
    unfold secondOfDay secondsPerDay
    omega
  have hnanos := h.nanos
  have hleap := h.leap
  have hyearChars : yearChars t.date.year = padded 4 t.date.year.toNat := if_pos ⟨hyear₁, hyear₂⟩
  have hsixty : t.secondOfDay % 60 + t.nanos / 1000000000 ≤ 60 := by omega
  have hfraction : fraction? (fractionChars (t.nanos % 1000000000) ++ "+00:00".toList) =
      some (t.nanos % 1000000000, "+00:00".toList) :=
    fraction?_fractionChars (by omega) (by rintro c ⟨⟩; rfl) (by decide)
  have hoffset : offset? "+00:00".toList = some (0, []) := by decide
  have hletter : (guard (isDateEnd 'T' = true) : Option Unit) = some () := rfl
  have hend : (guard (([] : List Char).isEmpty = true) : Option Unit) = some () := rfl
  have hparts := ofParts_of_valid h
  unfold localChars dateChars timeChars
  rw [hyearChars]
  simp only [List.append_assoc, List.cons_append]
  unfold readChars?
  dsimp only [bind]
  rw [exactly?_padded (by decide) (by omega) (Nat.zero_le _) (by omega), Option.bind_some, char?_cons, Option.bind_some,
    exactly?_padded (by decide) (by omega) hmonth₁ hmonth, Option.bind_some, char?_cons, Option.bind_some,
    exactly?_padded (by decide) (by omega) hday₁ hday, Option.bind_some]
  dsimp only
  rw [List.head?_cons, Option.map_some, Option.bind_some]
  dsimp only
  rw [hletter, Option.bind_some, List.tail_cons, exactly?_padded (by decide) (by omega) (Nat.zero_le _) (by omega),
    Option.bind_some, char?_cons, Option.bind_some, exactly?_padded (by decide) (by omega) (Nat.zero_le _) (by omega),
    Option.bind_some, char?_cons, Option.bind_some, exactly?_padded (by decide) (by omega) (Nat.zero_le _) hsixty,
    Option.bind_some, hfraction, Option.bind_some, hoffset, Option.bind_some]
  dsimp only
  rw [hend, Option.bind_some, Int.toNat_of_nonneg hyear₁, hparts]
  rfl

theorem read?_text (h : t.Valid) : read? t.text = if t.FourDigits then some t else none := by
  unfold read? text
  rw [String.toList_ofList]
  by_cases hyear : t.FourDigits
  · rw [if_pos hyear, readChars?_localChars h hyear]
  · rw [if_neg hyear]
    have hsign : ∃ c cs, c.isDigit = false ∧ yearChars t.date.year = c :: cs := by
      unfold yearChars
      rw [if_neg (show ¬ (0 ≤ t.date.year ∧ t.date.year ≤ 9999) from hyear)]
      by_cases hnegative : t.date.year < 0
      · exact ⟨'-', _, by decide, by rw [if_pos hnegative]⟩
      · exact ⟨'+', _, by decide, by rw [if_neg hnegative]⟩
    obtain ⟨c, cs, hc, hchars⟩ := hsign
    unfold readChars? localChars dateChars
    rw [hchars]
    simp only [List.append_assoc, List.cons_append]
    rw [exactly?_of_not_digit hc (by decide)]
    rfl

/-! ## (2) The beginning of a window -/

theorem before_iff {a b : Timestamp} :
    a.before b = true ↔ a.seconds < b.seconds ∨ a.seconds = b.seconds ∧ a.nanos < b.nanos := by
  simp [before]

theorem not_before_iff {a b : Timestamp} :
    a.before b = false ↔ b.seconds < a.seconds ∨ a.seconds = b.seconds ∧ b.nanos ≤ a.nanos := by
  rw [← Bool.not_eq_true, before_iff]
  omega

/-- What is earlier than a moment is earlier than every later one. -/
theorem before_mono {a b c : Timestamp} (hab : a.before b = true) (hbc : c.before b = false) : a.before c = true := by
  rw [before_iff] at hab ⊢
  rw [not_before_iff] at hbc
  omega

theorem valid_first : first.Valid := ⟨by decide, by decide, by decide⟩

theorem first_le (h : t.inRange = true) : t.before first = false := by
  rw [inRange, Bool.and_eq_true, decide_eq_true_eq] at h
  rw [not_before_iff]
  unfold first
  dsimp only
  omega

/-- Out of a leap second less than a second is left. -/
theorem nanos_settled (h : t.nanos < 2000000000) (later : Bool) : (t.settled later).nanos < 1000000000 := by
  unfold settled
  split
  · assumption
  · show t.nanos - 1000000000 < 1000000000
    omega

theorem valid_cutoff {now : Timestamp} (hnow : now.Valid) (hours : Int) : (now.cutoff hours).Valid := by
  unfold cutoff
  dsimp only
  by_cases hrange : (now.hoursEarlier hours).inRange = true
  · rw [if_pos hrange]
    by_cases hzero : hours = 0
    · rw [hoursEarlier, if_pos hzero]
      exact hnow
    · have hnanos : (now.hoursEarlier hours).nanos < 1000000000 := by
        rw [hoursEarlier, if_neg hzero]
        exact nanos_settled hnow.nanos _
      exact ⟨hrange, by omega, by omega⟩
  · rw [if_neg hrange]
    exact valid_first

/-- More hours earlier is no later. -/
theorem hoursEarlier_antitone {now : Timestamp} {h h' : Int} (hnow : now.Valid) (h₀ : 0 ≤ h) (hle : h ≤ h') :
    (now.hoursEarlier h).before (now.hoursEarlier h') = false := by
  have hnanos := hnow.nanos
  rw [not_before_iff]
  unfold hoursEarlier settled
  by_cases hzero : h = 0
  · rw [if_pos hzero]
    split
    · simp
    · dsimp only
      split <;> simp <;> omega
  · rw [if_neg hzero, if_neg (show h' ≠ 0 by omega)]
    dsimp only
    split <;> simp <;> omega

/-- A longer window begins no later. -/
theorem cutoff_antitone {now : Timestamp} {h h' : Int} (hnow : now.Valid) (h₀ : 0 ≤ h) (hle : h ≤ h') :
    (now.cutoff h).before (now.cutoff h') = false := by
  have horder : (now.hoursEarlier h).before (now.hoursEarlier h') = false := hoursEarlier_antitone hnow h₀ hle
  have hnotLater : ∀ hours, 0 ≤ hours → (now.hoursEarlier hours).seconds ≤ now.seconds := by
    intro hours hhours
    unfold hoursEarlier settled
    split
    · exact Int.le_refl _
    · dsimp only
      split
      · show now.seconds - hours * 3600 ≤ now.seconds
        omega
      · rw [if_pos (by simp; omega)]
        show now.seconds + 1 - hours * 3600 ≤ now.seconds
        omega
  have hrange := hnow.inRange
  unfold cutoff
  dsimp only
  by_cases hshort : (now.hoursEarlier h).inRange = true
  · rw [if_pos hshort]
    by_cases hlong : (now.hoursEarlier h').inRange = true
    · rw [if_pos hlong]
      exact horder
    · rw [if_neg hlong]
      exact first_le hshort
  · -- what lies before the first timestamp lies there with more hours, too
    have hlong : ¬ (now.hoursEarlier h').inRange = true := by
      have hnow₁ := hnotLater h h₀
      have hnow₂ := hnotLater h' (by omega)
      rw [not_before_iff] at horder
      unfold inRange at hrange hshort ⊢
      simp only [Bool.and_eq_true, decide_eq_true_eq] at hrange hshort ⊢
      omega
    rw [if_neg hshort, if_neg hlong]
    exact first_le (by decide)

end Time.Timestamp

namespace Records.Filter

open Time

/-! ## (3) Filters with a window -/

theorem whole_ofInt {n : Int} (h₀ : 0 ≤ n) (h : n ≤ Int64.maxValue.toInt) : whole (.number (.ofInt n)) = n := by
  have hmax : Int64.maxValue.toInt = 9223372036854775807 := by decide
  rw [hmax] at h
  have hsize : n < UInt64.size := by
    show n < 18446744073709551616
    omega
  have hword : ((UInt64.ofNat n.toNat).toNat : Int) = n := by
    rw [UInt64.toNat_ofNat']
    omega
  show (Number.toInt? (.ofInt n)).getD 0 = n
  rw [Number.ofInt, if_pos h₀, if_pos hsize]
  show (if ((UInt64.ofNat n.toNat).toNat : Int) ≤ Int64.maxValue.toInt then _ else none).getD 0 = n
  rw [hword, hmax, if_pos h]
  rfl

def windows : List (String × Test × Int) :=
  [("older_than_hours", .before, 1), ("within_hours", .atOrAfter, 1), ("older_than_days", .before, 24),
    ("within_days", .atOrAfter, 24)]

theorem parse_window {operator : String} {test : Test} {unit : Int} (h : (operator, test, unit) ∈ windows)
    (now : Timestamp) (field : String) (v : Value) :
    parse now field operator v = ⟨field, test, hoursBefore now (whole v * unit)⟩ := by
  have hnames : windows.all (fun w => Text.lower (Text.trim w.1) == w.1) = true := by decide +kernel
  have hname : Text.lower (Text.trim operator) = operator := by simpa using List.all_eq_true.mp hnames _ h
  rw [parse, hname]
  simp only [windows, List.mem_cons, Prod.mk.injEq, List.not_mem_nil, or_false] at h
  rcases h with ⟨rfl, rfl, rfl⟩ | ⟨rfl, rfl, rfl⟩ | ⟨rfl, rfl, rfl⟩ | ⟨rfl, rfl, rfl⟩
  · rw [Int.mul_one]
    rfl
  · rw [Int.mul_one]
    rfl
  · rfl
  · rfl

variable {now t : Timestamp} {field s : String} {record : Fields}

theorem timestamp?_hoursBefore (hnow : now.Valid) (hours : Int) :
    timestamp? (hoursBefore now hours) = if (now.cutoff hours).FourDigits then some (now.cutoff hours) else none := by
  rw [timestamp?, hoursBefore, Value.string?, Option.bind_some]
  exact Timestamp.read?_text (Timestamp.valid_cutoff hnow hours)

theorem timestamp?_subject {f : Filter} (hfield : record.resolve f.field = some (.string s))
    (hread : Timestamp.read? s = some t) : timestamp? (f.subject record) = some t := by
  rw [subject, hfield]
  exact hread

theorem accepts_older (hnow : now.Valid) (hfield : record.resolve field = some (.string s))
    (hread : Timestamp.read? s = some t) (hours : Int) : accepts ⟨field, .before, hoursBefore now hours⟩ record =
      (decide (now.cutoff hours).FourDigits && t.before (now.cutoff hours)) := by
  have hsubject := timestamp?_subject (f := ⟨field, .before, hoursBefore now hours⟩) hfield hread
  unfold accepts
  dsimp only
  rw [hsubject, timestamp?_hoursBefore hnow]
  by_cases hdigits : (now.cutoff hours).FourDigits
  · simp [hdigits]
  · simp [hdigits]

theorem accepts_within (hnow : now.Valid) (hfield : record.resolve field = some (.string s))
    (hread : Timestamp.read? s = some t) (hours : Int) : accepts ⟨field, .atOrAfter, hoursBefore now hours⟩ record =
      (decide (now.cutoff hours).FourDigits && !t.before (now.cutoff hours)) := by
  have hsubject := timestamp?_subject (f := ⟨field, .atOrAfter, hoursBefore now hours⟩) hfield hread
  unfold accepts
  dsimp only
  rw [hsubject, timestamp?_hoursBefore hnow]
  by_cases hdigits : (now.cutoff hours).FourDigits
  · simp [hdigits]
  · simp [hdigits]

/-! ## Windows -/

def passes (now : Timestamp) (field : String) (record : Fields) (operator : String) (n : Int) : Bool :=
  (parse now field operator (.number (.ofInt n))).accepts record

theorem passes_window {operator : String} {test : Test} {unit n : Int} (h : (operator, test, unit) ∈ windows)
    (h₀ : 0 ≤ n) (hmax : n ≤ Int64.maxValue.toInt) :
    passes now field record operator n = accepts ⟨field, test, hoursBefore now (n * unit)⟩ record := by
  rw [passes, parse_window h, whole_ofInt h₀ hmax]

/-- Of a record with a timestamp, a window that begins in a year of four digits tells whether it lies within: one
    of the two filters passes it. A longer window passes what a shorter one does, and leaves out less. Other windows
    pass no record. Days are 24 hours. -/
theorem time_windows_divide_records (hnow : now.Valid) (hfield : record.resolve field = some (.string s))
    (hread : Timestamp.read? s = some t) {h h' : Int} (h₀ : 0 ≤ h) (hle : h ≤ h') (hmax : h' ≤ Int64.maxValue.toInt) :
    ((now.cutoff h).FourDigits →
      passes now field record "older_than_hours" h = !passes now field record "within_hours" h) ∧
    (¬ (now.cutoff h).FourDigits → passes now field record "older_than_hours" h = false ∧
      passes now field record "within_hours" h = false) ∧
    ((now.cutoff h').FourDigits → passes now field record "within_hours" h = true →
      passes now field record "within_hours" h' = true) ∧
    ((now.cutoff h).FourDigits → passes now field record "older_than_hours" h' = true →
      passes now field record "older_than_hours" h = true) ∧
    ∀ d, 0 ≤ d → 24 * d ≤ Int64.maxValue.toInt →
      passes now field record "within_days" d = passes now field record "within_hours" (24 * d) ∧
      passes now field record "older_than_days" d = passes now field record "older_than_hours" (24 * d) := by
  have holder : ∀ n, 0 ≤ n → n ≤ Int64.maxValue.toInt → passes now field record "older_than_hours" n =
      (decide (now.cutoff n).FourDigits && t.before (now.cutoff n)) := by
    intro n hn hn'
    rw [passes_window (by simp [windows] : ("older_than_hours", .before, 1) ∈ windows) hn hn', Int.mul_one]
    exact accepts_older hnow hfield hread n
  have hwithin : ∀ n, 0 ≤ n → n ≤ Int64.maxValue.toInt → passes now field record "within_hours" n =
      (decide (now.cutoff n).FourDigits && !t.before (now.cutoff n)) := by
    intro n hn hn'
    rw [passes_window (by simp [windows] : ("within_hours", .atOrAfter, 1) ∈ windows) hn hn', Int.mul_one]
    exact accepts_within hnow hfield hread n
  have horder : (now.cutoff h).before (now.cutoff h') = false := Timestamp.cutoff_antitone hnow h₀ hle
  rw [holder h h₀ (by omega), holder h' (by omega) hmax, hwithin h h₀ (by omega), hwithin h' (by omega) hmax]
  refine ⟨?_, ?_, ?_, ?_, ?_⟩
  · intro hdigits
    simp [hdigits]
  · intro hdigits
    simp [hdigits]
  · intro hdigits hpasses
    simp only [Bool.and_eq_true, Bool.not_eq_true', decide_eq_true_eq] at hpasses ⊢
    refine ⟨hdigits, ?_⟩
    by_contra hbefore
    have := Timestamp.before_mono (Bool.not_eq_false _ ▸ hbefore) horder
    rw [hpasses.2] at this
    cases this
  · intro hdigits hpasses
    simp only [Bool.and_eq_true, decide_eq_true_eq] at hpasses ⊢
    exact ⟨hdigits, Timestamp.before_mono hpasses.2 horder⟩
  · intro d hd hdmax
    have hhours : d * 24 = 24 * d * 1 := by omega
    constructor
    · rw [passes_window (by simp [windows] : ("within_days", .atOrAfter, 24) ∈ windows) hd (by omega),
        passes_window (by simp [windows] : ("within_hours", .atOrAfter, 1) ∈ windows) (by omega) hdmax, hhours]
    · rw [passes_window (by simp [windows] : ("older_than_days", .before, 24) ∈ windows) hd (by omega),
        passes_window (by simp [windows] : ("older_than_hours", .before, 1) ∈ windows) (by omega) hdmax, hhours]

namespace Sample

/-- Noon of the 10th of March 2026. -/
def noon : Timestamp := ⟨Timestamp.startOf ⟨2026, 3, 10⟩ + 43200, 0⟩

def ticket : Fields := [("created_at", .string "2026-03-10T09:00:00Z"), ("id", .string "7")]

end Sample

open Sample in
theorem sample_ticket_lies_within_four_hours :
    passes noon "created_at" ticket "older_than_hours" 4 = !passes noon "created_at" ticket "within_hours" 4 ∧
      passes noon "created_at" ticket "within_hours" 4 = true ∧
      passes noon "created_at" ticket "within_hours" 6 = true ∧
      passes noon "created_at" ticket "within_days" 1 = passes noon "created_at" ticket "within_hours" 24 := by
  have hnoon : noon.Valid := ⟨by decide, by decide, by decide⟩
  have hfield : ticket.resolve "created_at" = some (.string "2026-03-10T09:00:00Z") := by
    have hkeys : Path.keys "created_at" = ["created_at"] := by decide +kernel
    rw [Fields.resolve, hkeys]
    rfl
  have hread : Timestamp.read? "2026-03-10T09:00:00Z" = some ⟨noon.seconds - 10800, 0⟩ := by decide +kernel
  have hwithin : passes noon "created_at" ticket "within_hours" 4 = true := by decide +kernel
  have hfour : (0 : Int) ≤ 4 := by decide
  have hsix : (4 : Int) ≤ 6 := by decide
  obtain ⟨hdivides, -, hlonger, -, hdays⟩ := time_windows_divide_records hnoon hfield hread hfour hsix (by decide)
  obtain ⟨hday, -⟩ := hdays 1 (by decide) (by decide)
  exact ⟨hdivides (by decide +kernel), hwithin, hlonger (by decide +kernel) hwithin, hday⟩

open Sample in
/-- A window of so many hours begins before year 0, which its text writes with a sign: it holds nothing, not even
    what six hours hold, and nothing is older. -/
theorem window_of_a_billion_hours_is_empty :
    passes noon "created_at" ticket "within_hours" 6 = true ∧
      passes noon "created_at" ticket "within_hours" 1000000000 = false ∧
      passes noon "created_at" ticket "older_than_hours" 1000000000 = false := by
  decide +kernel

end Records.Filter

end Stepflow
