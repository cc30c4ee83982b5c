/-
  Stepflow.Proofs.Answers — what generated text is read as.

  (1) The payload of a text is what is left of it without its outer blanks and without the fence
  around it, if there is one (`Payload`). The word json belongs to the fence, and a fence that is
  not closed is none. Every text has one payload, and that is what is read (`payload_iff`).

  (2) Data may be written by itself or inside a fence, with any blanks around it and around the
  fence (`Frame`). Its payload is the data (`payload_write`), if that has no outer blanks and
  begins with no back-tick and no j; what stands inside of it makes no difference.

  (3) A text is the array or object that its payload is read as. If it is read as neither, the
  text is kept as it was generated, blanks included.

  `generated_text_is_read_in_any_frame` puts them together.
-/

import Stepflow.Generation.Chat
import Stepflow.Proofs.Compact
import Stepflow.Proofs.Markers
import Stepflow.Value.Loose

namespace Stepflow.Generation

open Json

variable {text inner payload data : String} {v : Value}

/-! ## (1) Payloads -/

/-- What is between the marks of a fence. The word json after the first of them is a part of it. -/
inductive Inside : String → String → Prop
  | labelled (inner : String) : Inside ("```json" ++ inner ++ "```") inner
  | plain {inner : String} (h : Text.startsWith inner "json" = false) : Inside ("```" ++ inner ++ "```") inner

/-- What is left of a text without its outer blanks and the fence around it. -/
inductive Payload (text : String) : String → Prop
  | fenced {inner : String} (h : Inside (Text.trim text) inner) : Payload text (Text.trim inner)
  | bare (h : ∀ body, Text.trim text ≠ "```" ++ body ++ "```") : Payload text (Text.trim text)

theorem inside_of_fenced (body : String) : ∃ inner, Inside ("```" ++ body ++ "```") inner := by
  cases hlabel : Text.startsWith body "json" with
  | false => exact ⟨body, .plain hlabel⟩
  | true =>
    obtain ⟨rest, hrest⟩ := Option.isSome_iff_exists.mp hlabel
    have hbody : body = "json" ++ String.ofList rest := by
      rw [← String.toList_inj, String.toList_append, Text.dropStart?_eq_some_iff.mp hrest]
      simp
    refine ⟨String.ofList rest, ?_⟩
    rw [hbody, ← String.append_assoc]
    exact .labelled _

theorem exists_payload (text : String) : ∃ payload, Payload text payload := by
  by_cases hfenced : ∃ body, Text.trim text = "```" ++ body ++ "```"
  · obtain ⟨body, hbody⟩ := hfenced
    obtain ⟨inner, hinner⟩ := inside_of_fenced body
    exact ⟨_, .fenced (hbody ▸ hinner)⟩
  · exact ⟨_, .bare fun body hbody => hfenced ⟨body, hbody⟩⟩

/-- The closing fence does not make up the word json. -/
theorem dropStart?_label {cs : List Char} (h : Text.dropStart? "json".toList cs = none) :
    Text.dropStart? "json".toList (cs ++ "```".toList) = none := by
  match cs, h with
  | [], _ => rfl
  | [a], _ => simp [Text.dropStart?]
  | [a, b], _ => simp [Text.dropStart?]
  | [a, b, c], _ => simp [Text.dropStart?]
  | a :: b :: c :: d :: cs, h => simpa [Text.dropStart?] using h

theorem unfenced?_eq (cs : List Char) : unfenced? cs =
    (((Text.dropStart? "```json".toList cs).or (Text.dropStart? "```".toList cs)).bind
      (Text.dropEnd? "```".toList)).map Text.trimChars := by
  unfold unfenced?
  generalize "```json".toList = labelled, "```".toList = fence
  dsimp only
  cases Text.dropStart? labelled cs with
  | some rest => exact (Option.map_eq_bind ..).symm
  | none =>
    cases Text.dropStart? fence cs with
    | some rest => exact (Option.map_eq_bind ..).symm
    | none => rfl

theorem unfenced?_of_inside {marked : String} (h : Inside marked inner) :
    unfenced? marked.toList = some (Text.trim inner).toList := by
  have hend : Text.dropEnd? "```".toList (inner.toList ++ "```".toList) = some inner.toList :=
    Text.dropEnd?_eq_some_iff.mpr rfl
  have hstart : (Text.dropStart? "```json".toList marked.toList).or (Text.dropStart? "```".toList marked.toList) =
      some (inner.toList ++ "```".toList) := by
    cases h with
    | labelled =>
      have hlabelled : Text.dropStart? "```json".toList ("```json" ++ inner ++ "```").toList =
          some (inner.toList ++ "```".toList) := by
        rw [Text.dropStart?_eq_some_iff, String.toList_append, String.toList_append, List.append_assoc]
      rw [hlabelled, Option.some_or]
    | plain hlabel =>
      have hnone : Text.dropStart? "```json".toList ("```" ++ inner ++ "```").toList = none := by
        rw [String.toList_append, String.toList_append, List.append_assoc]
        exact dropStart?_label (Option.not_isSome_iff_eq_none.mp (Bool.eq_false_iff.mp hlabel))
      rw [hnone, Option.none_or, Text.dropStart?_eq_some_iff, String.toList_append, String.toList_append,
        List.append_assoc]
  rw [unfenced?_eq, hstart, Option.bind_some, hend, Option.map_some, Text.trim, String.toList_ofList]

theorem unfenced?_eq_none {marked : String} (h : ∀ body, marked ≠ "```" ++ body ++ "```") :
    unfenced? marked.toList = none := by
  rw [unfenced?_eq, Option.map_eq_none_iff, Option.bind_eq_none_iff]
  intro rest hrest
  by_contra hend
  obtain ⟨inner, hinner⟩ := Option.ne_none_iff_exists'.mp hend
  obtain rfl := Text.dropEnd?_eq_some_iff.mp hinner
  rcases Option.or_eq_some_iff.mp hrest with hlabelled | ⟨-, hplain⟩
  · refine h ("json" ++ String.ofList inner) ?_
    rw [← String.toList_inj, Text.dropStart?_eq_some_iff.mp hlabelled]
    simp
  · refine h (String.ofList inner) ?_
    rw [← String.toList_inj, Text.dropStart?_eq_some_iff.mp hplain]
    simp

theorem payload_iff :
    Payload text payload ↔ (unfenced? (Text.trim text).toList).getD (Text.trim text).toList = payload.toList := by
  have hread : ∀ {payload}, Payload text payload →
      (unfenced? (Text.trim text).toList).getD (Text.trim text).toList = payload.toList := by
    rintro _ (hinside | hbare)
    · rw [unfenced?_of_inside hinside, Option.getD_some]
    · rw [unfenced?_eq_none hbare, Option.getD_none]
  refine ⟨hread, fun h => ?_⟩
  obtain ⟨other, hother⟩ := exists_payload text
  rwa [← String.toList_inj.mp ((hread hother).symm.trans h)]

/-! ## (2) Frames -/

inductive Fence where
  | none
  | plain
  | labelled

namespace Fence

def opening : Fence → String
  | none => ""
  | plain => "```"
  | labelled => "```json"

def closing : Fence → String
  | none => ""
  | _ => "```"

end Fence

/-- How data is written: its fence, and the blanks outside and inside of the marks. -/
structure Frame where
  fence : Fence
  before : String
  front : String
  back : String
  after : String
  blank : ∀ s ∈ [before, front, back, after], Text.isBlankText s = true

def Frame.write (f : Frame) (data : String) : String :=
  f.before ++ (f.fence.opening ++ (f.front ++ data ++ f.back) ++ f.fence.closing) ++ f.after

structure Clear (data : String) : Prop where
  trimmed : Text.Trimmed data.toList
  mark : data.toList.head? ≠ some '\x60'
  label : data.toList.head? ≠ some 'j'

theorem trim_of_blanks {before after : String} (hbefore : Text.isBlankText before = true)
    (hafter : Text.isBlankText after = true) (s : String) : Text.trim (before ++ s ++ after) = Text.trim s := by
  rw [Text.trim, String.toList_append, String.toList_append,
    Template.trimChars_append_right (List.all_eq_true.mp hafter),
    Template.trimChars_append_left (List.all_eq_true.mp hbefore)]
  rfl

theorem trimmed_marks {opening closing : String} (hopening : opening.toList.any Text.isBlank = false)
    (hclosing : closing.toList.any Text.isBlank = false) (hone : opening.toList ≠ []) (hcne : closing.toList ≠ [])
    (inner : String) : Text.Trimmed (opening ++ inner ++ closing).toList := by
  rw [String.toList_append, String.toList_append]
  exact (Text.trimmed_of_any hopening).append (Text.trimmed_of_any hclosing) hone hcne _

namespace Frame

theorem trim_write (f : Frame) (data : String) : Text.trim (f.write data) =
    Text.trim (f.fence.opening ++ (f.front ++ data ++ f.back) ++ f.fence.closing) :=
  trim_of_blanks (f.blank _ (by simp)) (f.blank _ (by simp)) _

theorem trim_inner (f : Frame) (h : Clear data) : Text.trim (f.front ++ data ++ f.back) = data :=
  (trim_of_blanks (f.blank _ (by simp)) (f.blank _ (by simp)) data).trans (Text.trim_of_trimmed h.trimmed)

theorem not_label (f : Frame) (h : Clear data) : Text.startsWith (f.front ++ data ++ f.back) "json" = false := by
  have hblank : ∀ s ∈ [f.before, f.front, f.back, f.after], s.toList.head? ≠ some 'j' := by
    intro s hs hhead
    have := List.all_eq_true.mp (f.blank s hs) 'j' (List.mem_of_head? hhead)
    cases this
  have hhead : (f.front ++ data ++ f.back).toList.head? ≠ some 'j' := by
    rw [String.toList_append, String.toList_append, List.head?_append, List.head?_append]
    intro hj
    rcases Option.or_eq_some_iff.mp hj with hj | ⟨-, hj⟩
    · rcases Option.or_eq_some_iff.mp hj with hj | ⟨-, hj⟩
      · exact hblank _ (by simp) hj
      · exact h.label hj
    · exact hblank _ (by simp) hj
  rw [Text.startsWith, ← Bool.not_eq_true, Text.dropStart?_isSome_iff]
  rintro ⟨rest, hrest⟩
  rw [← hrest] at hhead
  exact hhead rfl

/-- The payload of data in a frame is the data. -/
theorem payload_write (f : Frame) (h : Clear data) : Payload (f.write data) data := by
  cases hfence : f.fence with
  | none =>
    have htrim : Text.trim (f.write data) = data := by
      rw [trim_write, hfence, Fence.opening, Fence.closing, String.empty_append, String.append_empty, f.trim_inner h]
    have hpayload : Payload (f.write data) (Text.trim (f.write data)) := by
      refine .bare fun body hbody => h.mark ?_
      rw [← htrim, hbody]
      simp
    rwa [htrim] at hpayload
  | plain =>
    have htrim : Text.trim (f.write data) = "```" ++ (f.front ++ data ++ f.back) ++ "```" := by
      rw [trim_write, hfence]
      exact Text.trim_of_trimmed (trimmed_marks rfl rfl (by decide) (by decide) _)
    have hpayload : Payload (f.write data) (Text.trim (f.front ++ data ++ f.back)) :=
      .fenced (htrim ▸ .plain (f.not_label h))
    rwa [f.trim_inner h] at hpayload
  | labelled =>
    have htrim : Text.trim (f.write data) = "```json" ++ (f.front ++ data ++ f.back) ++ "```" := by
      rw [trim_write, hfence]
      exact Text.trim_of_trimmed (trimmed_marks rfl rfl (by decide) (by decide) _)
    have hpayload : Payload (f.write data) (Text.trim (f.front ++ data ++ f.back)) :=
      .fenced (htrim ▸ .labelled _)
    rwa [f.trim_inner h] at hpayload

end Frame

/-- The text of an array or object begins and ends with its brackets. -/
theorem clear_compact (h : v.isContainer = true) : Clear v.compact := by
  have hbrackets : ∃ opening inner closing, v.compact = opening ++ inner ++ closing ∧
      (opening = "[" ∧ closing = "]" ∨ opening = "\x7b" ∧ closing = "\x7d") := by
    cases v with
    | array items =>
      refine ⟨"[", String.ofList (Value.itemChars items), "]", ?_, .inl ⟨rfl, rfl⟩⟩
      simp [← String.toList_inj, Value.compact, Value.compactChars]
    | object fields =>
      refine ⟨"\x7b", String.ofList (Value.fieldChars fields), "\x7d", ?_, .inr ⟨rfl, rfl⟩⟩
      simp [← String.toList_inj, Value.compact, Value.compactChars]
    | _ => cases h
  obtain ⟨opening, inner, closing, hv, ⟨rfl, rfl⟩ | ⟨rfl, rfl⟩⟩ := hbrackets
  all_goals
    rw [hv]
    exact ⟨trimmed_marks rfl rfl (by decide) (by decide) inner, by simp, by simp⟩

/-! ## (3) What a text is read as -/

theorem ofList_payload (h : Payload text payload) :
    String.ofList ((unfenced? (Text.trimChars text.toList)).getD (Text.trimChars text.toList)) = payload := by
  have hpayload := congrArg String.ofList (payload_iff.mp h)
  simpa only [Text.trim, String.toList_ofList, String.ofList_toList] using hpayload

theorem meaning_of_container (h : Payload text payload) (hparse : Json.parse payload = .ok v)
    (hcontainer : v.isContainer = true) : meaning text = v := by
  unfold meaning
  cases v with
  | array items => simp only [ofList_payload h, hparse]
  | object fields => simp only [ofList_payload h, hparse]
  | _ => cases hcontainer

theorem meaning_of_other (h : Payload text payload)
    (hother : ∀ v, v.isContainer = true → Json.parse payload ≠ .ok v) :
    meaning text = .record [("text", .string text)] := by
  unfold meaning
  simp only [ofList_payload h]
  split
  · rename_i fields hparse
    exact absurd hparse (hother _ rfl)
  · rename_i items hparse
    exact absurd hparse (hother _ rfl)
  · rfl

/-- What begins with a back-tick is no data text. -/
theorem parse_mark (rest : String) (v : Value) : Json.parse ("```" ++ rest) ≠ .ok v := by
  intro h
  have htree : Json.readTree ("```" ++ rest) = ⟨.broken ⟨.expectedValue, .expectedValue⟩, none⟩ := by
    rw [Json.readTree, String.toList_append]
    rfl
  simp only [Json.parse, Json.decodeText, htree] at h
  cases h

/-- A scalar is kept as the text it was written as. -/
theorem meaning_of_scalar (hparse : Json.parse (Text.trim text) = .ok v) (hscalar : v.isContainer = false) :
    meaning text = .record [("text", .string text)] := by
  have hpayload : Payload text (Text.trim text) := by
    refine .bare fun body hbody => ?_
    rw [hbody, String.append_assoc] at hparse
    exact parse_mark _ v hparse
  refine meaning_of_other hpayload fun w hcontainer hw => ?_
  obtain rfl := Except.ok.inj (hparse.symm.trans hw)
  rw [hscalar] at hcontainer
  cases hcontainer

/-- A fence that is not closed is no fence, and no data text begins with its mark. -/
theorem meaning_of_unclosed {rest : String} (h : Text.trim text = "```" ++ rest)
    (hopen : ∀ body, rest ≠ body ++ "```") :
    meaning text = .record [("text", .string text)] := by
  have hpayload : Payload text (Text.trim text) := by
    refine .bare fun body hbody => hopen body ?_
    rw [h, String.append_assoc] at hbody
    exact (String.append_right_inj "```").mp hbody
  refine meaning_of_other hpayload fun v _ hv => ?_
  rw [h] at hv
  exact parse_mark rest v hv

theorem parsed_of_ofAnswer {c : Chat} {answer : Value} {g : Generated} (h : c.ofAnswer answer = .ok g) :
    g.parsed = meaning g.text := by
  unfold Chat.ofAnswer at h
  split at h
  · cases h
  · cases h
  · rw [← Except.ok.inj h]

/-! ## Generated text -/

/-- An array or object that its compact text stands for is read from that text in any frame, whatever texts are inside
    of it; that is so for values of whole numbers, and not nested too deep. A text has one payload; if that is read as
    an array or object, it is what the text means, and if not, the text is kept with its blanks. So it is with scalars,
    and with fences that are not closed. The text of a chat completion is read so. -/
theorem generated_text_is_read_in_any_frame :
    (∀ v : Value, v.isContainer = true → Json.parse v.compact = .ok v →
      ∀ f : Frame, meaning (f.write v.compact) = v) ∧
    (∀ v : Value, v.Normal → v.Whole → v.depth ≤ Json.textBudget → Json.parse v.compact = .ok v) ∧
    (∀ text, ∃! payload, Payload text payload) ∧
    (∀ text payload, Payload text payload →
      (∀ v : Value, v.isContainer = true → Json.parse payload = .ok v → meaning text = v) ∧
      ((∀ v : Value, v.isContainer = true → Json.parse payload ≠ .ok v) →
        meaning text = .record [("text", .string text)])) ∧
    (∀ text (v : Value), v.isContainer = false → Json.parse (Text.trim text) = .ok v →
      meaning text = .record [("text", .string text)]) ∧
    (∀ text rest, Text.trim text = "```" ++ rest → (∀ body, rest ≠ body ++ "```") →
      meaning text = .record [("text", .string text)]) ∧
    ∀ (c : Chat) answer g, c.ofAnswer answer = .ok g → g.parsed = meaning g.text := by
  refine ⟨fun v hcontainer hparse f => ?_, fun v => Json.parse_compact, fun text => ?_,
    fun text payload h => ⟨fun v hcontainer hparse => ?_, ?_⟩,
    fun text v hscalar hparse => meaning_of_scalar hparse hscalar, fun text rest => meaning_of_unclosed,
    fun c answer g => parsed_of_ofAnswer⟩
  · exact meaning_of_container (f.payload_write (clear_compact hcontainer)) hparse hcontainer
  · obtain ⟨payload, h⟩ := exists_payload text
    refine ⟨payload, h, fun other hother => String.toList_inj.mp ?_⟩
    rw [← payload_iff.mp h, payload_iff.mp hother]
  · exact meaning_of_container h hparse hcontainer
  · exact meaning_of_other h

namespace Sample

def snippet : Value :=
  .object [("code", .string "```json\n\x7b\x7d\n```"), ("marks", .array [.string "`", .count 3, .null])]

def block : Frame where
  fence := .labelled
  before := "\n "
  front := "\n"
  back := "\n"
  after := " "
  blank := by decide

def completion (text : String) : Value :=
  .object [("choices", .array [.object [("message", .object [("content", .string text)])]]),
    ("model", .string "gpt-4o-mini")]

end Sample

open Sample in
/-- The data is read back from its block; a greeting, a number and an open fence are kept as they are. -/
theorem sample_snippet_is_read_from_its_block :
    Json.parse snippet.compact = .ok snippet ∧ meaning (block.write snippet.compact) = snippet ∧
      (∃! payload, Payload " Hello " payload) ∧ meaning "```\n[ ]\n```" = .array [] ∧
      meaning " Hello " = .record [("text", .string " Hello ")] ∧ meaning "42\n" = .record [("text", .string "42\n")] ∧
      meaning "```json\n\x7b\x7d" = .record [("text", .string "```json\n\x7b\x7d")] ∧
      ∃ g, ({ apiKey := "key" } : Chat).ofAnswer (completion "42\n") = .ok g ∧ g.parsed = meaning g.text := by
  obtain ⟨hframe, hcompact, hone, hpayload, hscalar, hopen, hchat⟩ := generated_text_is_read_in_any_frame
  have hordered : Table.Ordered [("code", Value.string "```json\n\x7b\x7d\n```"),
      ("marks", .array [.string "`", .count 3, .null])] := by
    unfold Table.Ordered
    decide
  have hsnippet : Json.parse snippet.compact = .ok snippet :=
    hcompact snippet ⟨hordered, trivial, ⟨trivial, trivial, trivial, trivial⟩, trivial⟩
      ⟨trivial, ⟨trivial, trivial, trivial, trivial⟩, trivial⟩ (by decide)
  have htrim : Text.trim "```\n[ ]\n```" = "```" ++ "\n[ ]\n" ++ "```" := by decide +kernel
  have hempty : Payload "```\n[ ]\n```" (Text.trim "\n[ ]\n") := .fenced (htrim ▸ .plain rfl)
  have hhello : Payload " Hello " "Hello" := .bare fun body hbody => by
    have hhead := congrArg (fun s => s.toList.head?) hbody
    rw [show Text.trim " Hello " = "Hello" from rfl] at hhead
    simp at hhead
  have hread : Json.parse (Text.trim "\n[ ]\n") = .ok (.array []) := by
    rw [show Text.trim "\n[ ]\n" = "[ ]" by decide +kernel]
    rfl
  have hgreeting : Json.parse "Hello" = .error (.fault .expectedValue) := rfl
  have hnumber : Json.parse (Text.trim "42\n") = .ok (.count 42) := by
    rw [show Text.trim "42\n" = (Value.count 42).compact by decide +kernel]
    exact hcompact _ trivial trivial (by decide)
  refine ⟨hsnippet, hframe snippet rfl hsnippet block, hone _, (hpayload _ _ hempty).1 _ rfl hread, ?_,
    hscalar _ _ rfl hnumber, ?_, ?_⟩
  · refine (hpayload _ _ hhello).2 fun v _ hv => ?_
    rw [hgreeting] at hv
    cases hv
  · refine hopen _ "json\n\x7b\x7d" (by decide +kernel) fun body hbody => ?_
    have hlast := congrArg (fun s => s.toList.getLast?) hbody
    simp at hlast
  · have hok : (({ apiKey := "key" } : Chat).ofAnswer (completion "42\n")).isOk = true := by decide +kernel
    cases hanswer : ({ apiKey := "key" } : Chat).ofAnswer (completion "42\n") with
    | ok g => exact ⟨g, rfl, hchat _ _ _ hanswer⟩
    | error e =>
      rw [hanswer] at hok
      cases hok

end Stepflow.Generation
