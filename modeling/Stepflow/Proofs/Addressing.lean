/-
  Stepflow.Proofs.Addressing — which recorded outputs a path finds.

  (1) A path is cut at its separators. Up to the first of them it is its first key
  (`exists_keys`), and keys without a separator, written one after the other, are the keys
  of the path (`keys_below`).

  (2) A path to an output begins with `step_`, so blanks count at its end only
  (`trimChars_front`), and its first key is `step_` with what of the id stands in front of the
  first separator and of the blanks at the end (`exists_firstKey`).

  (3) The output of a step is found under its whole id, so every id without a separator leads
  to it and below it (`resolve_below`), if it does not end in a blank also by itself
  (`resolve_output`). Any other id leads nowhere when nothing else is recorded
  (`of_resolve_isSome`).

  So `plain_ids_address_their_outputs` says which ids address their outputs, and
  `output_of_a_dotted_id_is_not_found` is a step of another id.
-/

import Stepflow.Context
import Stepflow.Proofs.Casing
import Stepflow.Value.Path

namespace Stepflow

namespace Text

variable {p : Char → Bool} {cs : List Char} {c : Char}

/-! ## (1) Cutting at separators -/

theorem splitChars_of_none (h : ∀ c ∈ cs, p c = false) : splitChars p cs = [cs] := by
  induction cs with
  | nil => rfl
  | cons c cs ih =>
    obtain ⟨hc, hcs⟩ := List.forall_mem_cons.mp h
    simp only [splitChars, hc, ih hcs, Bool.false_eq_true, if_false]

theorem exists_splitChars (p : Char → Bool) (cs : List Char) :
    ∃ pieces, splitChars p cs = cs.takeWhile (!p ·) :: pieces := by
  induction cs with
  | nil => exact ⟨[], rfl⟩
  | cons c cs ih =>
    obtain ⟨pieces, hpieces⟩ := ih
    by_cases hc : p c = true
    · exact ⟨splitChars p cs, by simp [splitChars, hc]⟩
    · exact ⟨pieces, by simp [splitChars, hc, hpieces]⟩

/-- A text is cut where it was put together. -/
theorem splitChars_join (h : p c = true) (front back : List Char) :
    splitChars p (front ++ c :: back) = splitChars p front ++ splitChars p back := by
  induction front with
  | nil => simp only [List.nil_append, splitChars, h, if_true, List.cons_append]
  | cons d front ih =>
    by_cases hd : p d = true
    · simp only [List.cons_append, splitChars, hd, if_true, ih]
    · obtain ⟨pieces, hpieces⟩ := exists_splitChars p front
      simp only [List.cons_append, splitChars, hd, Bool.false_eq_true, if_false, ih, hpieces]

end Text

namespace Path

/-- What follows a first key in a path: a full stop and a key, time after time. -/
def below (keys : List String) : String := String.join (keys.map ("." ++ ·))

/-- A key as it may stand anywhere in a path: some characters, no separator and no blank among them. -/
def PlainKey (key : String) : Prop := key ≠ "" ∧ ∀ c ∈ key.toList, isSeparator c = false ∧ Text.isBlank c = false

instance : DecidablePred PlainKey := fun key => @instDecidableAnd (key ≠ "") _ _ (List.decidableBAll _ key.toList)

def Whole (s : String) : Prop := ∀ c ∈ s.toList, isSeparator c = false

instance : DecidablePred Whole := fun s => List.decidableBAll _ s.toList

variable {first path : String} {inner : List String}

theorem below_cons (key : String) (inner : List String) : below (key :: inner) = "." ++ (key ++ below inner) := by
  rw [below, List.map_cons, String.join_cons, String.append_assoc]
  rfl

theorem split_below (hfirst : Whole first) (hkeys : ∀ key ∈ inner, Whole key) :
    Text.split isSeparator (first ++ below inner) = first :: inner := by
  induction inner generalizing first with
  | nil =>
    have hnil : first ++ below [] = first := String.append_empty
    rw [hnil, Text.split, Text.splitChars_of_none hfirst, List.map_singleton, String.ofList_toList]
  | cons key inner ih =>
    obtain ⟨hkey, hkeys⟩ := List.forall_mem_cons.mp hkeys
    have hchars : (first ++ below (key :: inner)).toList = first.toList ++ '.' :: (key ++ below inner).toList := by
      rw [below_cons]
      simp
    rw [Text.split, hchars, Text.splitChars_join rfl, Text.splitChars_of_none hfirst, List.singleton_append,
      List.map_cons, String.ofList_toList]
    exact congrArg (first :: ·) (ih hkey hkeys)

theorem keys_of_ne (h : Text.trimChars path.toList ≠ []) :
    keys path = Text.split isSeparator (Text.trim path) := by
  have hne : (Text.trim path).isEmpty = false := by
    rw [String.isEmpty_eq_false_iff]
    intro hempty
    have hchars : (Text.trim path).toList = [] := String.toList_eq_nil_iff.mpr hempty
    rw [Text.trim, String.toList_ofList] at hchars
    exact h hchars
  simp only [keys, Text.trimmed?, hne, Bool.false_eq_true, if_false]

theorem exists_keys (h : Text.trimChars path.toList ≠ []) : ∃ rest,
    keys path = String.ofList ((Text.trimChars path.toList).takeWhile (!isSeparator ·)) :: rest := by
  obtain ⟨pieces, hpieces⟩ := Text.exists_splitChars isSeparator (Text.trimChars path.toList)
  refine ⟨pieces.map String.ofList, ?_⟩
  rw [keys_of_ne h, Text.split, Text.trim, String.toList_ofList, hpieces, List.map_cons]

/-- A path without outer blanks is cut as it stands. -/
theorem keys_of_trimmed (hne : path ≠ "") (htrimmed : Text.Trimmed path.toList) :
    keys path = Text.split isSeparator path := by
  have htrim := Text.trimChars_of_trimmed htrimmed
  have hchars : path.toList ≠ [] := fun hnil => hne (String.toList_eq_nil_iff.mp hnil)
  rw [keys_of_ne (by rwa [htrim]), Text.trim, htrim, String.ofList_toList]

theorem keys_below (hne : first ++ below inner ≠ "") (htrimmed : Text.Trimmed (first ++ below inner).toList)
    (hfirst : Whole first) (hkeys : ∀ key ∈ inner, Whole key) : keys (first ++ below inner) = first :: inner := by
  rw [keys_of_trimmed hne htrimmed, split_below hfirst hkeys]

end Path

/-! ## (2) Paths to outputs -/

theorem Text.trimChars_front {front : List Char} (h : Trimmed front) (hne : front ≠ []) (cs : List Char) :
    trimChars (front ++ cs) = front ++ trimEnd cs := by
  have hstart : trimStart (front ++ cs) = front ++ cs := by
    cases front with
    | nil => exact absurd rfl hne
    | cons c front => exact List.dropWhile_cons_of_neg (by simp [h.1 c rfl])
  have hend : front.reverse.dropWhile isBlank = front.reverse := by
    cases hfront : front.reverse with
    | nil => rfl
    | cons c rest =>
      have hlast : front.getLast? = some c := by rw [← List.head?_reverse, hfront]; rfl
      exact List.dropWhile_cons_of_neg (by simp [h.2 c hlast])
  rw [trimChars, hstart, trimEnd, trimEnd, List.reverse_append, List.dropWhile_append, hend]
  cases hcs : cs.reverse.dropWhile isBlank with
  | nil => simp
  | cons c rest => simp

namespace Context

variable {id tail : String} {ctx : Context} {v : Value} {keys : List String}

theorem outputKey_chars (id : String) : (outputKey id).toList = "step_".toList ++ id.toList := String.toList_append

theorem outputKey_append_chars (id tail : String) :
    (outputKey id ++ tail).toList = "step_".toList ++ (id ++ tail).toList := by
  rw [String.toList_append, outputKey_chars, String.toList_append, List.append_assoc]

theorem trimmed_front : Text.Trimmed "step_".toList := Text.trimmed_of_any rfl

/-- The first key of a path that begins like the path of an output. -/
theorem exists_firstKey (id tail : String) : ∃ rest, Path.keys (outputKey id ++ tail) =
    outputKey (.ofList ((Text.trimEnd (id ++ tail).toList).takeWhile (!Path.isSeparator ·))) :: rest := by
  have htrim := Text.trimChars_front trimmed_front (by decide) (id ++ tail).toList
  rw [← outputKey_append_chars] at htrim
  have hne : Text.trimChars (outputKey id ++ tail).toList ≠ [] := by
    rw [htrim]
    exact List.cons_ne_nil _ _
  obtain ⟨rest, hrest⟩ := Path.exists_keys hne
  refine ⟨rest, ?_⟩
  rw [hrest, htrim, List.takeWhile_append_of_pos (List.all_eq_true.mp rfl), String.ofList_append, String.ofList_toList]
  rfl

/-! ## (3) Recorded outputs -/

theorem get?_recordOutput (ctx : Context) (id : String) (v : Value) :
    (recordOutput ctx id v).get? (outputKey id) = some v := by
  rw [recordOutput, get?_appendEntries _ _ (outputKey_ne_stepsKey id), Table.get?_insert, if_pos rfl]

/-- A path whose first key is that of the output goes on in the output. -/
theorem resolve_recordOutput {path : String} (h : Path.keys path = outputKey id :: keys) :
    Fields.resolve (recordOutput ctx id v) path = v.walk keys := by
  rw [Fields.resolve, h, Fields.at?, get?_recordOutput, Option.bind_some]

theorem whole_outputKey (h : Path.Whole id) : Path.Whole (outputKey id) := by
  intro c hc
  rw [outputKey_chars] at hc
  rcases List.mem_append.mp hc with hc | hc
  · exact (by decide : Path.Whole "step_") c hc
  · exact h c hc

theorem outputKey_append_ne (id tail : String) : outputKey id ++ tail ≠ "" := by
  intro hempty
  have hnil : "step_".toList ++ (id ++ tail).toList = [] := by
    rw [← outputKey_append_chars, hempty]
    rfl
  cases (List.append_eq_nil_iff.mp hnil).1

/-- The path of an output has no outer blanks unless there is one at its end. -/
theorem trimmed_outputKey (h : ∀ c, (id ++ tail).toList.getLast? = some c → Text.isBlank c = false) :
    Text.Trimmed (outputKey id ++ tail).toList := by
  rw [outputKey_append_chars]
  refine ⟨trimmed_front.1, fun c hc => ?_⟩
  cases hlast : (id ++ tail).toList.getLast? with
  | none =>
    rw [List.getLast?_eq_none_iff.mp hlast, List.append_nil] at hc
    exact trimmed_front.2 c hc
  | some d =>
    rw [List.getLast?_append, hlast, Option.some_or] at hc
    cases hc
    exact h c hlast

theorem resolve_output (hid : Path.Whole id) (hlast : ∀ c, id.toList.getLast? = some c → Text.isBlank c = false) :
    Fields.resolve (recordOutput ctx id v) (outputKey id) = some v := by
  have hempty : id ++ Path.below [] = id := String.append_empty
  have hkeys : Path.keys (outputKey id ++ Path.below []) = [outputKey id] :=
    Path.keys_below (outputKey_append_ne _ _) (trimmed_outputKey (by rwa [hempty])) (whole_outputKey hid) nofun
  have hpath : outputKey id ++ Path.below [] = outputKey id := String.append_empty
  rw [hpath] at hkeys
  rw [resolve_recordOutput hkeys, Value.walk]

/-- The last character of a path of plain keys belongs to one of them. -/
theorem getLast?_below (hne : keys ≠ []) (hkeys : ∀ key ∈ keys, Path.PlainKey key) (id : String) {c : Char}
    (h : (id ++ Path.below keys).toList.getLast? = some c) : Text.isBlank c = false := by
  induction keys generalizing id with
  | nil => exact absurd rfl hne
  | cons key rest ih =>
    obtain ⟨hkey, hrest⟩ := List.forall_mem_cons.mp hkeys
    have hnext : id ++ Path.below (key :: rest) = id ++ ("." ++ key) ++ Path.below rest := by
      rw [Path.below_cons, String.append_assoc, String.append_assoc]
    rw [hnext] at h
    by_cases hend : rest = []
    · have hchars : (id ++ ("." ++ key) ++ Path.below rest).toList = (id ++ ".").toList ++ key.toList := by
        rw [hend]
        simp [Path.below]
      have hchar : key.toList ≠ [] := fun hnil => hkey.1 (String.toList_eq_nil_iff.mp hnil)
      rw [hchars, List.getLast?_append_of_ne_nil _ hchar] at h
      exact (hkey.2 c (List.mem_of_getLast? h)).2
    · exact ih hend hrest _ h

theorem resolve_below (hid : Path.Whole id) (hne : keys ≠ []) (hkeys : ∀ key ∈ keys, Path.PlainKey key) :
    Fields.resolve (recordOutput ctx id v) (outputKey id ++ Path.below keys) = v.walk keys := by
  have hwhole : ∀ key ∈ keys, Path.Whole key := fun key hkey c hc => ((hkeys key hkey).2 c hc).1
  have htrimmed := trimmed_outputKey fun _ => getLast?_below hne hkeys id
  exact resolve_recordOutput (Path.keys_below (outputKey_append_ne _ _) htrimmed (whole_outputKey hid) hwhole)

theorem outputKey_injective {a b : String} (h : outputKey a = outputKey b) : a = b := by
  apply String.toList_inj.mp
  have hchars : (outputKey a).toList = (outputKey b).toList := by rw [h]
  rwa [outputKey_chars, outputKey_chars, List.append_cancel_left_eq] at hchars

/-- Where nothing else is recorded, a path that leads somewhere has the whole id in its first key. -/
theorem of_resolve_isSome (h : (Fields.resolve (recordOutput [] id v) (outputKey id ++ tail)).isSome = true) :
    (Text.trimEnd (id ++ tail).toList).takeWhile (!Path.isSeparator ·) = id.toList := by
  obtain ⟨rest, hkeys⟩ := exists_firstKey id tail
  generalize hfirst :
    String.ofList ((Text.trimEnd (id ++ tail).toList).takeWhile (!Path.isSeparator ·)) = first at hkeys
  rw [← String.toList_ofList (l := List.takeWhile _ _), hfirst]
  by_cases hid : outputKey id = outputKey first
  · rw [outputKey_injective hid]
  · have hnone : (recordOutput [] id v).get? (outputKey first) = none := by
      rw [recordOutput, get?_appendEntries _ _ (outputKey_ne_stepsKey first), Table.get?_insert, if_neg hid]
      rfl
    rw [Fields.resolve, hkeys, Fields.at?, hnone] at h
    cases h

theorem whole_of_takeWhile {cs : List Char} (h : cs.takeWhile (!Path.isSeparator ·) = id.toList) : Path.Whole id := by
  intro c hc
  rw [← h] at hc
  simpa using List.mem_takeWhile_imp hc

/-- A step is addressed by `step_` and its id in every context, whatever it put out, if and only if the id has no
    separator of paths and does not end in a blank. What its output holds is addressed by keys after it if and only if
    the id has no separator. -/
theorem plain_ids_address_their_outputs (id : String) :
    ((∀ (ctx : Context) v, Fields.resolve (recordOutput ctx id v) (outputKey id) = some v) ↔
      Path.Whole id ∧ ∀ c, id.toList.getLast? = some c → Text.isBlank c = false) ∧
    ((∀ (ctx : Context) v keys, keys ≠ [] → (∀ key ∈ keys, Path.PlainKey key) →
        Fields.resolve (recordOutput ctx id v) (outputKey id ++ Path.below keys) = v.walk keys) ↔
      Path.Whole id) := by
  refine ⟨⟨fun h => ?_, fun ⟨hid, hlast⟩ ctx v => resolve_output hid hlast⟩,
    fun h => ?_, fun hid ctx v keys hne hkeys => resolve_below hid hne hkeys⟩
  · have hsome : (Fields.resolve (recordOutput [] id .null) (outputKey id ++ "")).isSome = true := by
      rw [String.append_empty, h]
      rfl
    have hfirst := of_resolve_isSome hsome
    rw [String.append_empty] at hfirst
    refine ⟨whole_of_takeWhile hfirst, fun c hc => ?_⟩
    have hend : Text.trimEnd id.toList = id.toList := by
      refine (Text.trimEnd_prefix id.toList).eq_of_length_le ?_
      conv => lhs; rw [← hfirst]
      exact (List.takeWhile_prefix _).length_le
    rw [← hend, Text.trimEnd, List.getLast?_reverse] at hc
    exact Text.head?_dropWhile_not hc
  · have hsome : (Fields.resolve (recordOutput [] id (.object [("k", .null)]))
        (outputKey id ++ Path.below ["k"])).isSome = true := by
      rw [h _ _ ["k"] (List.cons_ne_nil _ _) (by decide)]
      rfl
    exact whole_of_takeWhile (of_resolve_isSome hsome)

namespace Sample

/-- What a step of the id 7 put out. -/
def report : Value := .object [("meta", .object [("lang", .string "en")]), ("text", .string "hello")]

end Sample

open Sample in
/-- The report is found by the id of its step, and its language below it; its text holds nothing below it. -/
theorem sample_report_is_addressed :
    Fields.resolve (recordOutput [] "7" report) "step_7" = some report ∧
      Fields.resolve (recordOutput [] "7" report) "step_7.meta.lang" = some (.string "en") ∧
      Fields.resolve (recordOutput [] "7" report) "step_7.text.lang" = none := by
  obtain ⟨houtput, hbelow⟩ := plain_ids_address_their_outputs "7"
  have hlast : ∀ c, "7".toList.getLast? = some c → Text.isBlank c = false := by
    rintro c ⟨⟩
    rfl
  have hlang := hbelow.mpr (by decide) [] report ["meta", "lang"] (List.cons_ne_nil _ _) (by decide)
  have htext := hbelow.mpr (by decide) [] report ["text", "lang"] (List.cons_ne_nil _ _) (by decide)
  exact ⟨houtput.mpr ⟨by decide, hlast⟩ [] report, hlang, htext⟩

/-- The output is recorded under the whole id, and the path to it goes on after the full stop, or without the blank. -/
theorem output_of_a_dotted_id_is_not_found :
    (recordOutput [] "fetch.lead" (.bool true)).get? (outputKey "fetch.lead") = some (.bool true) ∧
      Fields.resolve (recordOutput [] "fetch.lead" (.bool true)) (outputKey "fetch.lead") = none ∧
      (recordOutput [] "lead " (.bool true)).get? (outputKey "lead ") = some (.bool true) ∧
      Fields.resolve (recordOutput [] "lead " (.bool true)) (outputKey "lead ") = none :=
  ⟨rfl, rfl, rfl, rfl⟩

end Context

end Stepflow
