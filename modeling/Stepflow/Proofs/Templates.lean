/-
  Stepflow.Proofs.Templates — a template is filled in piece by piece, in one pass.

  (1) A text without an opening brace is taken as it is, whatever follows it
  (`parts_literal`). A placeholder is found where it is written, up to its two closing
  braces, whatever follows them (`parts_placeholder`).

  (2) The blanks around a path in a placeholder do not count (`resolve_pathOf`).

  (3) So the text of any list of segments is cut into the parts of each of them
  (`parts_segments`), and every segment contributes to the result what it contributes
  alone (`render_segments`): what one placeholder is filled with is not looked at again,
  and an unknown path spoils no other (`segments_are_filled_in_one_by_one`).
-/

import Stepflow.Proofs.Casing
import Stepflow.Template

namespace Stepflow

namespace Template

variable {root : Fields} {cs rest body : List Char} {c : Char}

/-! ## (1) Parts -/

theorem parts_of_placeholder? (h : placeholder? (c :: cs) = some (body, rest)) :
    parts (c :: cs) = .placeholder body :: parts rest := by
  rw [parts]
  split
  · rename_i hsome
    rw [h] at hsome
    cases hsome
    rfl
  · rename_i hnone
    rw [h] at hnone
    cases hnone

theorem parts_of_no_placeholder (h : placeholder? (c :: cs) = none) : parts (c :: cs) = .literal c :: parts cs := by
  rw [parts]
  split
  · rename_i hsome
    rw [h] at hsome
    cases hsome
  · rfl

/-- Only an opening brace begins a placeholder. -/
theorem placeholder?_of_ne (h : c ≠ '\x7b') (cs : List Char) : placeholder? (c :: cs) = none := by
  unfold placeholder?
  split
  · rename_i heq
    cases heq
    exact absurd rfl h
  · rfl

theorem parts_literal (h : '\x7b' ∉ cs) (rest : List Char) : parts (cs ++ rest) = cs.map .literal ++ parts rest := by
  induction cs with
  | nil => rfl
  | cons c cs ih =>
    have hc : c ≠ '\x7b' := fun heq => h (heq ▸ List.mem_cons_self ..)
    have hcs : '\x7b' ∉ cs := fun hmem => h (List.mem_cons_of_mem c hmem)
    rw [List.cons_append, parts_of_no_placeholder (placeholder?_of_ne hc _), ih hcs]
    rfl

/-- A placeholder ends at the first closing brace, which is none of its body. -/
theorem placeholder?_written (hbody : '\x7d' ∉ body) (hne : body ≠ []) (rest : List Char) :
    placeholder? ('\x7b' :: '\x7b' :: (body ++ '\x7d' :: '\x7d' :: rest)) = some (body, rest) := by
  have hopen : ∀ c ∈ body, (c != '\x7d') = true := by
    intro c hc
    rw [bne_iff_ne]
    rintro rfl
    exact hbody hc
  have hdrop : (body ++ '\x7d' :: '\x7d' :: rest).dropWhile (· != '\x7d') = '\x7d' :: '\x7d' :: rest := by
    rw [List.dropWhile_append_of_pos hopen]
    rfl
  have htake : (body ++ '\x7d' :: '\x7d' :: rest).takeWhile (· != '\x7d') = body := by
    rw [List.takeWhile_append_of_pos hopen]
    exact List.append_nil body
  have hempty : body.isEmpty = false := List.isEmpty_eq_false_iff.mpr hne
  simp [placeholder?, hdrop, htake, hempty]

theorem parts_placeholder (hbody : '\x7d' ∉ body) (hne : body ≠ []) (rest : List Char) :
    parts ('\x7b' :: '\x7b' :: (body ++ '\x7d' :: '\x7d' :: rest)) = .placeholder body :: parts rest :=
  parts_of_placeholder? (placeholder?_written hbody hne rest)

/-! ## (2) Paths -/

theorem trimChars_append_left {before : List Char} (h : ∀ c ∈ before, Text.isBlank c = true) (cs : List Char) :
    Text.trimChars (before ++ cs) = Text.trimChars cs := by
  rw [Text.trimChars, Text.trimStart, List.dropWhile_append_of_pos h]
  rfl

theorem trimChars_append_right {after : List Char} (h : ∀ c ∈ after, Text.isBlank c = true) (cs : List Char) :
    Text.trimChars (cs ++ after) = Text.trimChars cs := by
  have hreverse : ∀ c ∈ after.reverse, Text.isBlank c = true := fun c hc => h c (List.mem_reverse.mp hc)
  by_cases hblank : ∀ c ∈ cs, Text.isBlank c = true
  · have hall : ∀ c ∈ cs ++ after, Text.isBlank c = true := by
      intro c hc
      rcases List.mem_append.mp hc with hc | hc
      · exact hblank c hc
      · exact h c hc
    rw [Text.trimChars_eq_nil_iff.mpr hblank, Text.trimChars_eq_nil_iff.mpr hall]
  · have hne : (Text.trimStart cs).isEmpty = false := by
      rw [List.isEmpty_eq_false_iff]
      exact fun hnil => hblank (List.dropWhile_eq_nil_iff.mp hnil)
    have hstart : Text.trimStart (cs ++ after) = Text.trimStart cs ++ after := by
      unfold Text.trimStart at hne ⊢
      rw [List.dropWhile_append, hne]
      rfl
    rw [Text.trimChars, hstart, Text.trimEnd, List.reverse_append, List.dropWhile_append_of_pos hreverse]
    rfl

/-- A path is looked up without its outer blanks. -/
theorem resolve_congr {a b : String} (h : Text.trim a = Text.trim b) : root.resolve a = root.resolve b := by
  simp only [Fields.resolve, Path.keys, Text.trimmed?, h]

/-- The body of a placeholder leads where the path in it leads. -/
theorem resolve_pathOf {before path after : List Char} (hbefore : ∀ c ∈ before, Text.isBlank c = true)
    (hafter : ∀ c ∈ after, Text.isBlank c = true) :
    root.resolve (pathOf (before ++ (path ++ after))) = root.resolve (String.ofList path) := by
  refine resolve_congr ?_
  have hpath : Text.trimChars (before ++ (path ++ after)) = Text.trimChars path := by
    rw [trimChars_append_left hbefore, trimChars_append_right hafter]
  unfold pathOf Text.trim
  rw [String.toList_ofList]
  split
  · rename_i hblank
    rw [List.all_eq_true] at hblank
    have hlast : ∀ c ∈ (before ++ (path ++ after)).drop ((before ++ (path ++ after)).length - 1),
        Text.isBlank c = true := fun c hc => hblank c (List.mem_of_mem_drop hc)
    have hinside : ∀ c ∈ path, Text.isBlank c = true := fun c hc => hblank c (by simp [hc])
    rw [String.toList_ofList, Text.trimChars_eq_nil_iff.mpr hlast, Text.trimChars_eq_nil_iff.mpr hinside]
  · rw [String.toList_ofList, hpath, Text.trimChars_of_trimmed (Text.trimmed_trimChars path)]

/-! ## (3) Segments -/

/-- A piece of a template: a text, or a path between blanks in a placeholder. -/
inductive Segment where
  | literal (text : String)
  | placeholder (before path after : String)

namespace Segment

/-- Is the piece read as it is meant? A text has no opening brace, a path has a character and no closing brace. -/
def Readable : Segment → Prop
  | literal text => '\x7b' ∉ text.toList
  | placeholder before path after =>
    Text.isBlankText before = true ∧ Text.isBlankText after = true ∧ path ≠ "" ∧ '\x7d' ∉ path.toList

instance : DecidablePred Readable
  | literal _ => inferInstanceAs (Decidable (_ ∉ _))
  | placeholder .. => inferInstanceAs (Decidable (_ ∧ _))

def text : Segment → String
  | literal text => text
  | placeholder before path after => "\x7b\x7b" ++ before ++ path ++ after ++ "\x7d\x7d"

def filled (root : Fields) : Segment → String
  | literal text => text
  | placeholder _ path _ => ((root.resolve path).map Value.text).getD ""

def parts : Segment → List Part
  | literal text => text.toList.map .literal
  | placeholder before path after => [.placeholder (before.toList ++ (path.toList ++ after.toList))]

variable {s : Segment}

theorem parts_text (h : s.Readable) (rest : List Char) :
    Template.parts (s.text.toList ++ rest) = s.parts ++ Template.parts rest := by
  cases s with
  | literal text => exact parts_literal h rest
  | placeholder before path after =>
    obtain ⟨hbefore, hafter, hne, hpath⟩ := h
    have hblank : ∀ s : String, Text.isBlankText s = true → '\x7d' ∉ s.toList := by
      intro s hs hmem
      have : Text.isBlank '\x7d' = true := List.all_eq_true.mp hs _ hmem
      cases this
    have hbody : '\x7d' ∉ before.toList ++ (path.toList ++ after.toList) := by
      simp only [List.mem_append, not_or]
      exact ⟨hblank before hbefore, hpath, hblank after hafter⟩
    have hbodyNe : before.toList ++ (path.toList ++ after.toList) ≠ [] := by
      intro hnil
      have hnil : path.toList = [] := (List.append_eq_nil_iff.mp (List.append_eq_nil_iff.mp hnil).2).1
      exact hne (String.toList_eq_nil_iff.mp hnil)
    have htext : (text (placeholder before path after)).toList ++ rest =
        '\x7b' :: '\x7b' :: ((before.toList ++ (path.toList ++ after.toList)) ++ '\x7d' :: '\x7d' :: rest) := by
      simp [text]
    rw [htext, parts_placeholder hbody hbodyNe]
    rfl

theorem fill_parts (h : s.Readable) (root : Fields) : s.parts.flatMap (·.fill root) = (s.filled root).toList := by
  cases s with
  | literal text => simp [parts, filled, List.flatMap_map, Part.fill]
  | placeholder before path after =>
    obtain ⟨hbefore, hafter, -, -⟩ := h
    have hresolve : root.resolve (pathOf (before.toList ++ (path.toList ++ after.toList))) = root.resolve path := by
      rw [resolve_pathOf (List.all_eq_true.mp hbefore) (List.all_eq_true.mp hafter), String.ofList_toList]
    simp only [parts, List.flatMap_singleton, Part.fill, filled, hresolve]
    cases root.resolve path <;> rfl

end Segment

theorem parts_segments {segments : List Segment} (h : ∀ s ∈ segments, s.Readable) :
    parts (String.join (segments.map Segment.text)).toList = segments.flatMap Segment.parts := by
  induction segments with
  | nil => rw [List.map_nil, String.join_nil]; simp [parts]
  | cons s segments ih =>
    have hrest : ∀ s ∈ segments, s.Readable := fun s hs => h s (List.mem_cons_of_mem _ hs)
    rw [List.map_cons, String.join_cons, String.toList_append, Segment.parts_text (h s (List.mem_cons_self ..)),
      ih hrest, List.flatMap_cons]

/-- A text of which no part is a placeholder is cut into its characters. -/
theorem parts_of_literals (h : ∀ body, .placeholder body ∉ parts cs) : parts cs = cs.map .literal := by
  induction cs with
  | nil => simp [parts]
  | cons c cs ih =>
    cases hfound : placeholder? (c :: cs) with
    | some found =>
      obtain ⟨body, rest⟩ := found
      rw [parts_of_placeholder? hfound] at h
      exact absurd (List.mem_cons_self ..) (h body)
    | none =>
      rw [parts_of_no_placeholder hfound] at h ⊢
      rw [ih fun body hbody => h body (List.mem_cons_of_mem _ hbody), List.map_cons]

/-- A text without an opening brace has no placeholder. -/
theorem not_hasPlaceholders {text : String} (h : '\x7b' ∉ text.toList) : hasPlaceholders text = false := by
  have hparts : parts text.toList = text.toList.map .literal := by
    have hnil := parts_literal h []
    rwa [List.append_nil, parts, List.append_nil] at hnil
  rw [hasPlaceholders, hparts]
  simp

theorem render_of_not_hasPlaceholders {text : String} (h : hasPlaceholders text = false) : render root text = text := by
  have hliterals : ∀ body, .placeholder body ∉ parts text.toList := by
    intro body hbody
    have := List.any_eq_false.mp h _ hbody
    simp at this
  rw [render, parts_of_literals hliterals]
  simp [List.flatMap_map, Part.fill]

/-- The text of a list of segments is filled in segment by segment. -/
theorem render_segments {segments : List Segment} (h : ∀ s ∈ segments, s.Readable) :
    render root (String.join (segments.map Segment.text)) = String.join (segments.map (Segment.filled root)) := by
  apply String.toList_inj.mp
  calc (render root (String.join (segments.map Segment.text))).toList
    _ = (segments.flatMap Segment.parts).flatMap (·.fill root) := by
      rw [render, String.toList_ofList, parts_segments h]
    _ = segments.flatMap fun s => s.parts.flatMap (·.fill root) := List.flatMap_assoc
    _ = segments.flatMap fun s => (s.filled root).toList :=
      List.flatMap_congr fun s hs => Segment.fill_parts (h s hs) root
    _ = (String.join (segments.map (Segment.filled root))).toList := by
      rw [String.toList_join, List.flatMap_map]

/-- Every text stays and every placeholder gives way to the text of what its path leads to, each by itself: nothing if
    that is nothing, and nothing in it is filled in again. A text without a placeholder stays as it is. -/
theorem segments_are_filled_in_one_by_one (root : Fields) :
    (∀ segments : List Segment, (∀ s ∈ segments, s.Readable) →
      render root (String.join (segments.map Segment.text)) = String.join (segments.map (Segment.filled root))) ∧
    ∀ text, hasPlaceholders text = false → render root text = text :=
  ⟨fun _ h => render_segments h, fun _ h => render_of_not_hasPlaceholders h⟩

namespace Sample

def lead : Fields := [("name", .string "\x7b\x7b city \x7d\x7d"), ("city", .string "Lyon")]

/-- A greeting with the name, directly followed by the city, and with a title that the lead lacks. -/
def greeting : List Segment :=
  [.literal "Dear ", .placeholder " " "title" " ", .placeholder "" "name" "", .placeholder "" "city" " ",
    .literal " \x7d!"]

end Sample

open Sample in
/-- The name stays as it is, although the lead has a city. -/
theorem sample_greeting_is_filled_in_once :
    (∀ s ∈ greeting, s.Readable) ∧
      render lead (String.join (greeting.map Segment.text)) = "Dear \x7b\x7b city \x7d\x7dLyon \x7d!" ∧
      hasPlaceholders "\x7bcity\x7d" = false ∧ render lead "\x7bcity\x7d" = "\x7bcity\x7d" := by
  have hreadable : ∀ s ∈ greeting, s.Readable := by decide +kernel
  have hnone : hasPlaceholders "\x7bcity\x7d" = false := by
    show (parts ('\x7b' :: ("city\x7d".toList ++ []))).any _ = false
    rw [parts_of_no_placeholder rfl, parts_literal (by decide), parts]
    rfl
  obtain ⟨hsegments, htexts⟩ := segments_are_filled_in_one_by_one lead
  have hfilled : String.join (greeting.map (Segment.filled lead)) = "Dear \x7b\x7b city \x7d\x7dLyon \x7d!" := by
    decide +kernel
  exact ⟨hreadable, (hsegments greeting hreadable).trans hfilled, hnone, htexts _ hnone⟩

end Template

end Stepflow
