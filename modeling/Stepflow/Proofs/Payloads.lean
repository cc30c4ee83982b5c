/-
  Stepflow.Proofs.Payloads — calls whose payload is written as text.

  (1) A character that is no quotation mark, no backslash and no control stands for itself
  inside quotation marks, so a text of such characters is read as it is written
  (`readText_bare`), and an object of such texts as the object of them (`parse_written`); the
  induction is on the members.

  (2) An object of placeholders, each of them between quotation marks, is filled in
  placeholder by placeholder (`render_form`): the text of what a path leads to is put there as
  it is, whatever its characters are.

  (3) So the payload is what that text is read as (`payloadOf_form`). If all values stand for
  themselves it holds them and nothing else (`payloadOf_form_bare`); another value may end its
  text and go on with fields of its own, or leave no JSON at all
  (`quotation_mark_changes_the_payload`). A payload that is written as an object, not as text,
  holds every value as it is (`payloadOf_object`).

  `text_payloads_hold_bare_values` puts them together.
-/

import Stepflow.Handler.FetchApi
import Stepflow.Proofs.Compact
import Stepflow.Proofs.Filling

namespace Stepflow

namespace Json

def standsBare (c : Char) : Bool := c != '"' && c != '\\' && decide (0x20 ≤ c.toNat)

def Bare (s : String) : Prop := ∀ c ∈ s.toList, standsBare c = true

instance : DecidablePred Bare := fun s => List.decidableBAll _ s.toList

def member (e : String × String) : String := "\"" ++ e.1 ++ "\": \"" ++ e.2 ++ "\""

def written (entries : List (String × String)) : String := "\x7b" ++ Text.join ", " (entries.map member) ++ "\x7d"

def texts (entries : List (String × String)) : Fields := entries.map fun e => (e.1, .string e.2)

/-! ## (1) Texts that stand for themselves -/

namespace Reader

variable {cs : List Char} {e : String × String} {es : List (String × String)}

theorem skipSpace_blank (cs : List Char) : skipSpace (' ' :: cs) = skipSpace cs := rfl

theorem readText_bare {g : Gathered} (h : ∀ c ∈ cs, standsBare c = true) (rest : List Char) :
    readText g none (cs ++ '"' :: rest) = .ok ({ g with chars := cs.reverse ++ g.chars }.finish, rest) := by
  induction cs generalizing g with
  | nil => simp [readText]
  | cons c cs ih =>
    obtain ⟨hc, hcs⟩ := List.forall_mem_cons.mp h
    simp only [standsBare, Bool.and_eq_true, bne_iff_ne, decide_eq_true_eq] at hc
    obtain ⟨⟨hquote, hslash⟩, hcontrol⟩ := hc
    rw [List.cons_append, readText_cons hquote hslash (Nat.not_lt.mpr hcontrol), ih hcs]
    simp [Gathered.push]

theorem readText_key {key : String} (h : Bare key) (rest : List Char) :
    readText {} none (key.toList ++ '"' :: rest) = .ok (.ok key, rest) := by
  rw [readText_bare h]
  simp [Gathered.finish]

/-- A text after the white space between a key and its value. -/
theorem readValue_bare {fuel : Nat} (h : ∀ c ∈ cs, standsBare c = true) (rest : List Char) :
    readValue (fuel + 1) (' ' :: '"' :: (cs ++ '"' :: rest)) = ⟨.string (String.ofList cs), some rest⟩ := by
  simp only [readValue, skipSpace_blank, skipSpace_cons '"' rfl, readText_bare h]
  simp [Gathered.finish]

/-- Entries as they are written, from after the quotation mark of the first key on. -/
def memberChars (e : String × String) : List (String × String) → List Char
  | [] => e.1.toList ++ '"' :: ':' :: ' ' :: '"' :: (e.2.toList ++ ['"'])
  | f :: fs => e.1.toList ++ '"' :: ':' :: ' ' :: '"' :: (e.2.toList ++ '"' :: ',' :: ' ' :: '"' :: memberChars f fs)

theorem join_member (e : String × String) (es : List (String × String)) :
    (Text.join ", " ((e :: es).map member)).toList = '"' :: memberChars e es := by
  induction es generalizing e with
  | nil => simp [Text.join, member, memberChars]
  | cons f fs ih =>
    rw [List.map_cons, List.map_cons, Text.join, ← List.map_cons, String.toList_append, ih f]
    · simp [member, memberChars]
    · simp

def trees (entries : List (String × String)) : List (Except Fault String × Tree) :=
  entries.map fun e => (.ok e.1, .string e.2)

theorem readMembers_bare (h : ∀ f ∈ e :: es, Bare f.1 ∧ Bare f.2) {fuel : Nat} (hfuel : es.length + 2 ≤ fuel)
    (rest : List Char) :
    readMembers fuel (memberChars e es ++ '\x7d' :: rest) = ⟨(trees (e :: es), none), some rest⟩ := by
  induction es generalizing e fuel with
  | nil =>
    obtain ⟨hkey, htext⟩ := h e (List.mem_cons_self ..)
    obtain ⟨fuel, rfl⟩ := Nat.exists_eq_add_of_le' hfuel
    simp only [memberChars, List.append_assoc, List.cons_append, List.nil_append]
    refine (readMembers_end (readText_key hkey _) (readValue_bare htext _)).trans ?_
    rw [String.ofList_toList]
    rfl
  | cons f fs ih =>
    obtain ⟨⟨hkey, htext⟩, hothers⟩ := List.forall_mem_cons.mp h
    rw [List.length_cons] at hfuel
    obtain ⟨fuel, rfl⟩ : ∃ n, fuel = n + 2 := ⟨fuel - 2, by omega⟩
    have hmore : readMembers (fuel + 1) (memberChars f fs ++ '\x7d' :: rest) = ⟨(trees (f :: fs), none), some rest⟩ :=
      ih hothers (by omega)
    simp only [memberChars, List.append_assoc, List.cons_append]
    rw [readMembers_comma (readText_key hkey _) (readValue_bare htext _) rfl, hmore, String.ofList_toList]
    rfl

theorem length_le_memberChars (e : String × String) (es : List (String × String)) :
    es.length ≤ (memberChars e es).length := by
  induction es generalizing e with
  | nil => exact Nat.zero_le _
  | cons f fs ih =>
    have := ih f
    simp only [memberChars, List.length_append, List.length_cons]
    omega

end Reader

open Reader

theorem entries_trees (budget : Nat) (entries : List (String × String)) :
    Decode.entries (Decode.value budget) (trees entries) = .ok (texts entries) := by
  induction entries with
  | nil => rfl
  | cons e es ih =>
    rw [trees, List.map_cons, ← trees, Decode.entries, Decode.value, ih]
    rfl

/-- An object of texts that stand for themselves is read as the object of them. -/
theorem parse_written {entries : List (String × String)} (h : ∀ e ∈ entries, Bare e.1 ∧ Bare e.2) :
    parse (written entries) = .ok (.object (Table.ofList (texts entries))) := by
  have htree : readTree (written entries) = ⟨.object (trees entries) none, some []⟩ := by
    cases entries with
    | nil => rfl
    | cons e es =>
      have hchars : (written (e :: es)).toList = '\x7b' :: '"' :: (memberChars e es ++ ['\x7d']) := by
        rw [written, String.toList_append, String.toList_append, join_member]
        rfl
      have hlength := length_le_memberChars e es
      simp only [readTree, hchars, List.length_cons, List.length_append]
      rw [readValue, skipSpace_cons '\x7b' rfl]
      simp only [skipSpace_cons '"' rfl]
      rw [readMembers_bare h (by omega)]
  have hvalue : Decode.value textBudget (.object (trees entries) none) =
      .ok (.object (Table.ofList (texts entries))) := by
    simp only [textBudget, Decode.value, entries_trees]
    rfl
  simp only [parse, decodeText, htree]
  rw [hvalue]
  rfl

theorem Decode.object_of_value {budget : Nat} {members : List (Except Fault String × Tree)} {stop : Option Break}
    {v : Value} (h : Decode.value budget (.object members stop) = .ok v) : ∃ fields, v = .object fields := by
  cases budget with
  | zero => cases h
  | succ budget =>
    obtain ⟨entries, -, h⟩ := Except.bind_eq_ok.mp h
    obtain ⟨-, -, h⟩ := Except.bind_eq_ok.mp h
    exact ⟨_, (Except.ok.inj h).symm⟩

/-- What begins with a brace is read as an object, or not at all. -/
theorem object_of_parse {text : String} {v : Value} (h : parse ("\x7b" ++ text) = .ok v) :
    ∃ fields, v = .object fields := by
  have htree : ∀ fuel cs, ∃ members stop rest, readValue (fuel + 1) ('\x7b' :: cs) = ⟨.object members stop, rest⟩ := by
    intro fuel cs
    simp only [readValue, skipSpace_cons '\x7b' rfl]
    split <;> exact ⟨_, _, _, rfl⟩
  obtain ⟨members, stop, rest, htree⟩ := htree (2 * ("\x7b" ++ text).toList.length + 1) text.toList
  have htext : readTree ("\x7b" ++ text) = ⟨.object members stop, rest⟩ := by
    rw [readTree, ← htree, String.toList_append]
    rfl
  simp only [parse, decodeText, htext] at h
  obtain ⟨w, hw, h⟩ := Except.bind_eq_ok.mp h
  obtain ⟨fields, rfl⟩ := Decode.object_of_value hw
  split at h
  · cases h
  · exact ⟨fields, (Except.ok.inj h).symm⟩

end Json

/-! ## (2) Objects of placeholders -/

namespace Template

open Json

variable {root : Fields} {slots : List (String × String)}

/-- An object of placeholders as it may be written: the keys, and under each of them a path. -/
def form (slots : List (String × String)) : String :=
  written (slots.map fun e => (e.1, "\x7b\x7b " ++ e.2 ++ " \x7d\x7d"))

def supplied (root : Fields) (slots : List (String × String)) : List (String × String) :=
  slots.map fun e => (e.1, ((root.resolve e.2).map Value.text).getD "")

def pieces : List (String × String) → List Segment
  | [] => [.literal "\x7d"]
  | [e] => [.literal ("\"" ++ e.1 ++ "\": \""), .placeholder " " e.2 " ", .literal "\"\x7d"]
  | e :: rest => .literal ("\"" ++ e.1 ++ "\": \"") :: .placeholder " " e.2 " " :: .literal "\", " :: pieces rest

/-- The pieces say what the object of their texts says, whatever is shown of a placeholder. -/
theorem join_pieces (shown : Segment → String) (h : ∀ text, shown (.literal text) = text)
    (slots : List (String × String)) :
    "\x7b" ++ String.join ((pieces slots).map shown) =
      written (slots.map fun e => (e.1, shown (.placeholder " " e.2 " "))) := by
  have hmembers : String.join ((pieces slots).map shown) =
      Text.join ", " (slots.map fun e => member (e.1, shown (.placeholder " " e.2 " "))) ++ "\x7d" := by
    induction slots with
    | nil => simp [pieces, Text.join, h]
    | cons e es ih =>
      cases es with
      | nil => simp [pieces, Text.join, h, member, String.join_cons, String.append_assoc]
      | cons f fs =>
        rw [pieces]
        · simp only [List.map_cons, String.join_cons] at ih ⊢
          rw [ih]
          simp [Text.join, h, member, String.append_assoc]
        · simp
  rw [hmembers, written, List.map_map, ← String.append_assoc]
  rfl

/-- A brace begins no placeholder unless a brace follows. -/
theorem render_brace {text : String} (h : text.toList.head? ≠ some '\x7b') :
    render root ("\x7b" ++ text) = "\x7b" ++ render root text := by
  have hnone : placeholder? ('\x7b' :: text.toList) = none := by
    unfold placeholder?
    split
    · rename_i heq
      rw [(List.cons.inj heq).2] at h
      exact absurd rfl h
    · rfl
  have hparts : parts ("\x7b" ++ text).toList = .literal '\x7b' :: parts text.toList := by
    rw [String.toList_append]
    exact parts_of_no_placeholder hnone
  rw [render, render, hparts, List.flatMap_cons, String.ofList_append]
  rfl

theorem head?_pieces (slots : List (String × String)) :
    (String.join ((pieces slots).map Segment.text)).toList.head? ≠ some '\x7b' := by
  match slots with
  | [] => decide
  | [e] => simp [pieces, String.join_cons, Segment.text]
  | e :: f :: fs => simp [pieces, String.join_cons, Segment.text]

theorem readable_pieces (hkeys : ∀ e ∈ slots, '\x7b' ∉ e.1.toList)
    (hpaths : ∀ e ∈ slots, e.2 ≠ "" ∧ '\x7d' ∉ e.2.toList) : ∀ s ∈ pieces slots, s.Readable := by
  induction slots with
  | nil => decide
  | cons e es ih =>
    have hkey : '\x7b' ∉ ("\"" ++ e.1 ++ "\": \"").toList := by simp [hkeys e (List.mem_cons_self ..)]
    have hpath : (Segment.placeholder " " e.2 " ").Readable := ⟨rfl, rfl, hpaths e (List.mem_cons_self ..)⟩
    have hrest := ih (fun f hf => hkeys f (List.mem_cons_of_mem e hf)) fun f hf => hpaths f (List.mem_cons_of_mem e hf)
    cases es with
    | nil => exact List.forall_mem_cons.mpr ⟨hkey, List.forall_mem_cons.mpr ⟨hpath, by decide⟩⟩
    | cons f fs =>
      refine List.forall_mem_cons.mpr ⟨hkey, List.forall_mem_cons.mpr ⟨hpath, List.forall_mem_cons.mpr ⟨?_, hrest⟩⟩⟩
      show '\x7b' ∉ "\", ".toList
      decide

/-- Each placeholder gives way to the text of what its path leads to, and nothing else changes. -/
theorem render_form (hkeys : ∀ e ∈ slots, '\x7b' ∉ e.1.toList) (hpaths : ∀ e ∈ slots, e.2 ≠ "" ∧ '\x7d' ∉ e.2.toList) :
    render root (form slots) = written (supplied root slots) := by
  have htext : form slots = "\x7b" ++ String.join ((pieces slots).map Segment.text) := by
    rw [join_pieces Segment.text (fun _ => rfl)]
    simp [form, Segment.text, String.append_assoc]
  rw [htext, render_brace (head?_pieces slots), render_segments (readable_pieces hkeys hpaths),
    join_pieces (Segment.filled root) (fun _ => rfl)]
  rfl

end Template

/-! ## (3) Payloads -/

namespace Handler

open Json Template

variable {step : Step} {slots : List (String × String)} {ctx : Context}

/-- The payload of the step is written as an object of placeholders: keys that stand for themselves, hold no opening
    brace and are all different, and paths without a closing brace. -/
structure FormPayload (step : Step) (slots : List (String × String)) : Prop where
  written : step.config.get? "api_payload" = some (.string (form slots))
  distinct : (slots.map (·.1)).Nodup
  keys : ∀ e ∈ slots, Bare e.1 ∧ '\x7b' ∉ e.1.toList
  paths : ∀ e ∈ slots, '\x7d' ∉ e.2.toList

def SuppliesBare (ctx : Context) (slots : List (String × String)) : Prop :=
  ∀ e ∈ slots, ∃ s, ctx.resolve e.2 = some (.string s) ∧ Bare s

theorem isSome_of_suppliesBare (h : SuppliesBare ctx slots) : ∀ e ∈ slots, (ctx.resolve e.2).isSome = true := by
  intro e he
  obtain ⟨s, hs, -⟩ := h e he
  rw [hs]
  rfl

/-- A path that is empty leads nowhere. -/
theorem ne_empty_of_isSome {path : String} (h : (ctx.resolve path).isSome = true) : path ≠ "" := by
  rintro rfl
  cases h

/-- The call has the payload that its text is, with the texts of the values in it as they are. -/
theorem payloadOf_form (h : FormPayload step slots) (hctx : ∀ e ∈ slots, (ctx.resolve e.2).isSome = true) :
    payloadOf step ctx = (parse (written (supplied ctx slots))).toOption := by
  have hset : step.configSet? "api_payload" = some (.string (form slots)) := by
    rw [Step.configSet?, h.written]
    rfl
  have hblank : Text.isBlankText (form slots) = false := by
    rw [Text.isBlankText, form, written, String.append_assoc, String.toList_append]
    rfl
  have hrender : render ctx (form slots) = written (supplied ctx slots) :=
    render_form (fun e he => (h.keys e he).2) fun e he => ⟨ne_empty_of_isSome (hctx e he), h.paths e he⟩
  simp only [payloadOf, hset, hblank, hrender]
  cases hparse : parse (written (supplied ctx slots)) with
  | error e => rfl
  | ok v =>
    rw [written, String.append_assoc] at hparse
    obtain ⟨fields, rfl⟩ := object_of_parse hparse
    rfl

theorem mem_texts_supplied (hctx : SuppliesBare ctx slots) {key : String} {v : Value} :
    (key, v) ∈ texts (supplied ctx slots) ↔ ∃ e ∈ slots, e.1 = key ∧ ctx.resolve e.2 = some v := by
  have hvalue : ∀ e ∈ slots, ctx.resolve e.2 = some (.string (((ctx.resolve e.2).map Value.text).getD "")) := by
    intro e he
    obtain ⟨s, hs, -⟩ := hctx e he
    rw [hs]
    rfl
  simp only [texts, supplied, List.map_map, List.mem_map, Function.comp, Prod.mk.injEq]
  refine exists_congr fun e => and_congr_right fun he => and_congr_right fun _ => ?_
  conv => rhs; rw [hvalue e he]
  rw [Option.some_inj]

/-- The entries that a payload has when the values stand for themselves. -/
theorem payloadOf_form_bare (h : FormPayload step slots) (hctx : SuppliesBare ctx slots) :
    ∃ fields : Fields, payloadOf step ctx = some (.object fields) ∧ fields.Ordered ∧
      ∀ key v, fields.get? key = some v ↔ ∃ e ∈ slots, e.1 = key ∧ ctx.resolve e.2 = some v := by
  have hbare : ∀ e ∈ supplied ctx slots, Bare e.1 ∧ Bare e.2 := by
    intro e he
    obtain ⟨slot, hslot, rfl⟩ := List.mem_map.mp he
    obtain ⟨s, hs, hbare⟩ := hctx slot hslot
    refine ⟨(h.keys slot hslot).1, ?_⟩
    rw [hs]
    exact hbare
  have hnodup : (texts (supplied ctx slots)).keys.Nodup := by
    have hkeys : (texts (supplied ctx slots)).keys = slots.map (·.1) := by
      simp [texts, supplied, Table.keys]
    rw [hkeys]
    exact h.distinct
  refine ⟨.ofList (texts (supplied ctx slots)), ?_, Table.ordered_ofList _, fun key v => ?_⟩
  · rw [payloadOf_form h (isSome_of_suppliesBare hctx), parse_written hbare]
    rfl
  · rw [Table.get?_ofList hnodup, mem_texts_supplied hctx]

theorem has_iff {fields : Fields} (hctx : SuppliesBare ctx slots)
    (h : ∀ key v, fields.get? key = some v ↔ ∃ e ∈ slots, e.1 = key ∧ ctx.resolve e.2 = some v) {key : String} :
    fields.has key = true ↔ ∃ e ∈ slots, e.1 = key := by
  rw [Table.has, Option.isSome_iff_exists]
  constructor
  · rintro ⟨v, hv⟩
    obtain ⟨e, he, hkey, -⟩ := (h key v).mp hv
    exact ⟨e, he, hkey⟩
  · rintro ⟨e, he, hkey⟩
    obtain ⟨s, hs, -⟩ := hctx e he
    exact ⟨.string s, (h key _).mpr ⟨e, he, hkey, hs⟩⟩

/-- As a value, a placeholder stands for what its path leads to. -/
theorem templated_placeholder {path : String} (h : '\x7d' ∉ path.toList) :
    (Value.string ("\x7b\x7b " ++ path ++ " \x7d\x7d")).templated ctx = (ctx.resolve path).getD .null := by
  have hlone : Lone ("\x7b\x7b " ++ path ++ " \x7d\x7d") "" (" " ++ path ++ " ") "" := by
    refine ⟨?_, rfl, rfl, by simp, by simp [h]⟩
    apply String.toList_inj.mp
    simp
  have hpath : ctx.resolve (" " ++ path ++ " ") = ctx.resolve path := by
    refine resolve_congr ?_
    rw [Text.trim, Text.trim, String.toList_append, String.toList_append, List.append_assoc,
      trimChars_append_left (List.all_eq_true.mp rfl), trimChars_append_right (List.all_eq_true.mp rfl)]
  rw [Value.templated, fill_lone hlone, hpath]

theorem payload_of_apiRequest {request : Api.Request} (h : apiRequest step ctx = .ok request) :
    request.payload = payloadOf step ctx := by
  unfold apiRequest at h
  dsimp only at h
  split at h
  · cases h
  · split at h
    · obtain ⟨auth, -, h⟩ := Except.bind_eq_ok.mp h
      rw [← Except.ok.inj h]
    · cases h

/-- A payload written as a value keeps its keys, and under each of them is what the path leads to, whatever it is. -/
theorem payloadOf_object (h : step.config.get? "api_payload" =
      some (.object (slots.map fun e => (e.1, .string ("\x7b\x7b " ++ e.2 ++ " \x7d\x7d")))))
    (hpaths : ∀ e ∈ slots, '\x7d' ∉ e.2.toList) :
    payloadOf step ctx = some (.object (slots.map fun e => (e.1, (ctx.resolve e.2).getD .null))) := by
  have hset : step.configSet? "api_payload" =
      some (.object (slots.map fun e => (e.1, .string ("\x7b\x7b " ++ e.2 ++ " \x7d\x7d")))) := by
    rw [Step.configSet?, h]
    rfl
  rw [payloadOf, hset]
  refine congrArg some ?_
  rw [Value.templated_object, List.map_map]
  refine congrArg Value.object (List.map_congr_left fun e he => ?_)
  exact congrArg (Prod.mk e.1) (templated_placeholder (hpaths e he))

/-- A payload that is written as an object of placeholders is read from its text with the texts of the values in it.
    Values that stand for themselves are its entries, exactly, and no others; so it is never dropped for one of them,
    and the payloads of two contexts have the same keys and differ only where the values do. The call is made with
    it. Where another step writes the same placeholders as an object, its payload holds whatever the values are. -/
theorem text_payloads_hold_bare_values (h : FormPayload step slots) :
    (∀ ctx : Context, (∀ e ∈ slots, (ctx.resolve e.2).isSome = true) →
      payloadOf step ctx = (parse (written (supplied ctx slots))).toOption) ∧
    (∀ ctx : Context, SuppliesBare ctx slots → ∃ fields : Fields, payloadOf step ctx = some (.object fields) ∧
      fields.Ordered ∧ ∀ key v, fields.get? key = some v ↔ ∃ e ∈ slots, e.1 = key ∧ ctx.resolve e.2 = some v) ∧
    (∀ ctx other : Context, SuppliesBare ctx slots → SuppliesBare other slots → ∃ fields others : Fields,
      payloadOf step ctx = some (.object fields) ∧ payloadOf step other = some (.object others) ∧
      ∀ key, fields.has key = others.has key ∧
        (fields.get? key ≠ others.get? key → ∃ e ∈ slots, e.1 = key ∧ ctx.resolve e.2 ≠ other.resolve e.2)) ∧
    (∀ (ctx : Context) request, apiRequest step ctx = .ok request → request.payload = payloadOf step ctx) ∧
    ∀ (ctx : Context) (other : Step), other.config.get? "api_payload" =
        some (.object (slots.map fun e => (e.1, .string ("\x7b\x7b " ++ e.2 ++ " \x7d\x7d")))) →
      payloadOf other ctx = some (.object (slots.map fun e => (e.1, (ctx.resolve e.2).getD .null))) := by
  refine ⟨fun ctx hctx => payloadOf_form h hctx, fun ctx hctx => payloadOf_form_bare h hctx,
    fun ctx other hctx hother => ?_, fun ctx request hrequest => payload_of_apiRequest hrequest,
    fun ctx other hother => payloadOf_object hother h.paths⟩
  obtain ⟨fields, hpayload, -, hfields⟩ := payloadOf_form_bare h hctx
  obtain ⟨others, hpayload', -, hothers⟩ := payloadOf_form_bare h hother
  refine ⟨fields, others, hpayload, hpayload', fun key => ⟨?_, fun hne => ?_⟩⟩
  · rw [Bool.eq_iff_iff, has_iff hctx hfields, has_iff hother hothers]
  · by_contra hsame
    push Not at hsame
    refine hne (Option.ext fun v => ?_)
    rw [hfields, hothers]
    constructor
    · rintro ⟨e, he, hkey, hv⟩
      exact ⟨e, he, hkey, (hsame e he hkey).symm.trans hv⟩
    · rintro ⟨e, he, hkey, hv⟩
      exact ⟨e, he, hkey, (hsame e he hkey).trans hv⟩

namespace Sample

def signUp : Step :=
  { id := "sign_up", kind := .custom "FETCH_API_DATA"
    config := [("api_payload", .string "\x7b\"name\": \"\x7b\x7b lead.name \x7d\x7d\"\x7d"),
      ("api_url", .string "\x7b\x7b url \x7d\x7d")] }

def nameSlot : List (String × String) := [("name", "lead.name")]

def named (name : String) : Context := [("lead", .object [("name", .string name)]), ("url", .string "u")]

theorem signUp_formPayload : FormPayload signUp nameSlot where
  written := congrArg (fun text => some (Value.string text)) (by decide +kernel)
  distinct := by decide
  keys := by decide
  paths := by decide

theorem suppliesBare_named {name : String} (h : Bare name) : SuppliesBare (named name) nameSlot := by
  intro e he
  obtain rfl := List.mem_singleton.mp he
  exact ⟨name, rfl, h⟩

end Sample

open Sample in
/-- A name with braces and a colon is sent as it is. -/
theorem sample_name_is_sent :
    FormPayload signUp nameSlot ∧ Bare "\x7b\x7bAda\x7d\x7d: me" ∧
      payloadOf signUp (named "\x7b\x7bAda\x7d\x7d: me") =
        (parse "\x7b\"name\": \"\x7b\x7bAda\x7d\x7d: me\"\x7d").toOption ∧
      ∃ request, apiRequest signUp (named "\x7b\x7bAda\x7d\x7d: me") = .ok request ∧
        ∃ fields others : Fields, request.payload = some (.object fields) ∧
          payloadOf signUp (named "Ada") = some (.object others) ∧
          fields.get? "name" = some (.string "\x7b\x7bAda\x7d\x7d: me") ∧ fields.has "admin" = others.has "admin" := by
  obtain ⟨htext, hentries, hpairs, hcall, -⟩ := text_payloads_hold_bare_values signUp_formPayload
  have hbare : Bare "\x7b\x7bAda\x7d\x7d: me" := by decide
  have hname := suppliesBare_named hbare
  have hada : SuppliesBare (named "Ada") nameSlot := suppliesBare_named (by decide)
  have hok : (apiRequest signUp (named "\x7b\x7bAda\x7d\x7d: me")).isOk = true := by decide +kernel
  obtain ⟨request, hrequest⟩ : ∃ request, apiRequest signUp (named "\x7b\x7bAda\x7d\x7d: me") = .ok request := by
    cases hmade : apiRequest signUp (named "\x7b\x7bAda\x7d\x7d: me") with
    | ok request => exact ⟨request, rfl⟩
    | error e =>
      rw [hmade] at hok
      cases hok
  obtain ⟨fields, others, hfields, hothers, hkeys⟩ := hpairs _ _ hname hada
  obtain ⟨same, hsame, -, hget⟩ := hentries _ hname
  obtain rfl : fields = same := Value.object.inj (Option.some.inj (hfields.symm.trans hsame))
  refine ⟨signUp_formPayload, hbare, ?_, request, hrequest, fields, others, (hcall _ _ hrequest).trans hfields, hothers,
    (hget "name" _).mpr ⟨_, List.mem_singleton_self _, rfl, rfl⟩, (hkeys "admin").1⟩
  rw [htext _ (isSome_of_suppliesBare hname)]
  exact congrArg (fun text => (parse text).toOption) (by decide +kernel)

open Sample in
/-- A name in quotation marks that are not escaped adds a field, and a single one leaves the call without a payload. -/
theorem quotation_mark_changes_the_payload :
    FormPayload signUp nameSlot ∧
      (named "x\", \"admin\": \"true").resolve "lead.name" = some (.string "x\", \"admin\": \"true") ∧
      payloadOf signUp (named "x\", \"admin\": \"true") =
        some (.object [("admin", .string "true"), ("name", .string "x")]) ∧
      (named "\"").resolve "lead.name" = some (.string "\"") ∧ payloadOf signUp (named "\"") = none := by
  refine ⟨signUp_formPayload, rfl, ?_, rfl, ?_⟩
  · have htext : written (supplied (named "x\", \"admin\": \"true") nameSlot) =
        written [("name", "x"), ("admin", "true")] := by decide +kernel
    rw [payloadOf_form signUp_formPayload (by decide), htext, parse_written (by decide)]
    rfl
  · rw [payloadOf_form signUp_formPayload (by decide)]
    exact Option.isNone_iff_eq_none.mp (by decide +kernel)

end Handler

end Stepflow
