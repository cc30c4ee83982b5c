/-
  Stepflow.Proofs.Filling — a text as a value, and the texts inside a value.

  (1) A text that is one placeholder between blanks (`Lone`) is read in two ways. As a value it
  stands for what its path leads to, and no other text stands for a value that is not a text
  (`fill_lone`, `lone_of_single?`). As a text it is filled in like any other. Both lead to
  one value: the blanks stay, and between them is the text of the value (`render_lone`).

  (2) In a value only texts are filled in. What a value holds at a path, the value filled in
  holds there filled in (`Holds.templated`); the induction is on the path. An array keeps its
  length, an object its keys, and a scalar that is no text stays (`sameShape_templated`).

  (3) A value of which no text has a placeholder stays as it is (`templated_of_no_placeholder`);
  the induction is on the value.

  `both_ways_of_filling_agree` puts them together.
-/

import Stepflow.Proofs.Templates

namespace Stepflow

namespace Template

variable {root : Fields} {text before body after : String}

/-! ## (1) One placeholder between blanks -/

/-- The text is `before`, a placeholder of `body`, and `after`: blanks, characters of which none is a closing brace,
    and blanks again. -/
structure Lone (text before body after : String) : Prop where
  written : text = before ++ "\x7b\x7b" ++ body ++ "\x7d\x7d" ++ after
  blankBefore : Text.isBlankText before = true
  blankAfter : Text.isBlankText after = true
  body_ne : body ≠ ""
  body_open : '\x7d' ∉ body.toList

/-- A placeholder that was found stands at the beginning. -/
theorem eq_of_placeholder? {cs body rest : List Char} (h : placeholder? cs = some (body, rest)) :
    cs = '\x7b' :: '\x7b' :: (body ++ '\x7d' :: '\x7d' :: rest) ∧ body ≠ [] ∧ '\x7d' ∉ body := by
  unfold placeholder? at h
  split at h
  · rename_i tail
    split at h
    · rename_i following hfollowing
      dsimp only at h
      split at h
      · cases h
      · rename_i hne
        cases h
        refine ⟨?_, fun hnil => hne (by rw [hnil]; rfl), fun hmem => ?_⟩
        · rw [← hfollowing, List.takeWhile_append_dropWhile]
        · have := List.mem_takeWhile_imp hmem
          simp at this
    · cases h
  · cases h

theorem not_brace_of_blank {s : String} (h : Text.isBlankText s = true) : '\x7b' ∉ s.toList := by
  intro hmem
  have : Text.isBlank '\x7b' = true := List.all_eq_true.mp h _ hmem
  cases this

namespace Lone

variable (h : Lone text before body after)

include h

theorem readable : ∀ s ∈ [.literal before, .placeholder "" body "", .literal after], Segment.Readable s := by
  simp only [List.forall_mem_cons, List.not_mem_nil, false_implies, implies_true, and_true]
  exact ⟨not_brace_of_blank h.blankBefore, ⟨rfl, rfl, h.body_ne, h.body_open⟩, not_brace_of_blank h.blankAfter⟩

theorem text_eq : text = String.join ([.literal before, .placeholder "" body "", .literal after].map Segment.text) := by
  rw [h.written]
  simp [Segment.text, String.join_cons, String.append_assoc]

theorem single?_eq : single? text = some (pathOf body.toList) := by
  have hstart : Text.trimStart text.toList = '\x7b' :: '\x7b' :: (body.toList ++ '\x7d' :: '\x7d' :: after.toList) := by
    have hchars : text.toList =
        before.toList ++ '\x7b' :: '\x7b' :: (body.toList ++ '\x7d' :: '\x7d' :: after.toList) := by
      rw [h.written]
      simp
    rw [hchars, Text.trimStart, List.dropWhile_append_of_pos (List.all_eq_true.mp h.blankBefore)]
    rfl
  have hne : body.toList ≠ [] := fun hnil => h.body_ne (String.toList_eq_nil_iff.mp hnil)
  have hblank : after.toList.all Text.isBlank = true := h.blankAfter
  simp only [single?, hstart, placeholder?_written h.body_open hne, hblank, if_true]

end Lone

/-- Only such a text stands for what a path leads to. -/
theorem lone_of_single? {path : String} (h : single? text = some path) :
    ∃ before body after, Lone text before body after := by
  unfold single? at h
  split at h
  · rename_i body after hfound
    split at h
    · rename_i hblank
      obtain ⟨hstart, hne, hopen⟩ := eq_of_placeholder? hfound
      refine ⟨.ofList (text.toList.takeWhile Text.isBlank), .ofList body, .ofList after, ?_, ?_, ?_, ?_, ?_⟩
      · apply String.toList_inj.mp
        calc text.toList
          _ = text.toList.takeWhile Text.isBlank ++ Text.trimStart text.toList :=
            List.takeWhile_append_dropWhile.symm
          _ = _ := by
            rw [hstart]
            simp
      · rw [Text.isBlankText, String.toList_ofList]
        exact List.all_takeWhile
      · rwa [Text.isBlankText, String.toList_ofList]
      · exact fun hnil => hne (by rw [← String.toList_ofList (l := body), hnil]; rfl)
      · rwa [String.toList_ofList]
    · cases h
  · cases h

theorem hasPlaceholders_of_lone (h : Lone text before body after) : hasPlaceholders text = true := by
  rw [hasPlaceholders, h.text_eq, parts_segments h.readable]
  simp [Segment.parts]

theorem single?_of_not_hasPlaceholders (h : hasPlaceholders text = false) : single? text = none := by
  cases hsingle : single? text with
  | none => rfl
  | some path =>
    obtain ⟨before, body, after, hlone⟩ := lone_of_single? hsingle
    rw [hasPlaceholders_of_lone hlone] at h
    cases h

theorem fill_of_single?_none (h : single? text = none) : fill root text = .string (render root text) := by
  simp only [fill, h]

/-- It stands for what its path leads to. -/
theorem fill_lone (h : Lone text before body after) : fill root text = (root.resolve body).getD .null := by
  have hbody : root.resolve (pathOf body.toList) = root.resolve body := by
    have hpath : root.resolve (pathOf ([] ++ (body.toList ++ []))) = root.resolve (String.ofList body.toList) :=
      resolve_pathOf nofun nofun
    rwa [List.nil_append, List.append_nil, String.ofList_toList] at hpath
  simp only [fill, h.single?_eq, hbody]

/-- What the placeholder stands for, between the blanks. -/
theorem render_lone (h : Lone text before body after) :
    render root text = before ++ (fill root text).text ++ after := by
  have hfill : (fill root text).text = ((root.resolve body).map Value.text).getD "" := by
    rw [fill_lone h]
    cases root.resolve body <;> rfl
  rw [hfill]
  conv => lhs; rw [h.text_eq]
  rw [render_segments h.readable]
  simp [Segment.filled, String.join_cons, String.append_assoc]

end Template

/-! ## (2) Texts inside a value -/

inductive Hop where
  | item (index : Nat)
  | field (key : String)

namespace Value

inductive Holds : Value → List Hop → Value → Prop
  | here (v : Value) : Holds v [] v
  | item {items : List Value} {index : Nat} {v w : Value} {path : List Hop} :
      items[index]? = some v → Holds v path w → Holds (.array items) (.item index :: path) w
  | field {fields : Fields} {key : String} {v w : Value} {path : List Hop} :
      (key, v) ∈ fields → Holds v path w → Holds (.object fields) (.field key :: path) w

/-- Where the one value holds an array, the other holds one of the same length, where an object, one of the same keys,
    and where a scalar that is no text, the same scalar. -/
structure SameShape (v w : Value) : Prop where
  arrays : ∀ path items, v.Holds path (.array items) →
    ∃ others, w.Holds path (.array others) ∧ others.length = items.length
  objects : ∀ path (fields : Fields), v.Holds path (.object fields) →
    ∃ others : Fields, w.Holds path (.object others) ∧ others.keys = fields.keys
  scalars : ∀ path x, v.Holds path x → x.items? = none → x.fields? = none → x.string? = none → w.Holds path x

variable {root : Fields} {v w : Value} {path : List Hop}

theorem templatedItems_eq (root : Fields) (items : List Value) :
    templatedItems root items = items.map (templated root) := by
  induction items with
  | nil => simp only [templatedItems, List.map_nil]
  | cons v vs ih => simp only [templatedItems, ih, List.map_cons]

theorem templatedFields_eq (root : Fields) (fields : Fields) :
    templatedFields root fields = fields.map fun f => (f.1, f.2.templated root) := by
  induction fields with
  | nil => simp only [templatedFields, List.map_nil]
  | cons f rest ih => simp only [templatedFields, ih, List.map_cons]

theorem templated_array (root : Fields) (items : List Value) :
    (array items).templated root = .array (items.map (templated root)) := by
  rw [templated, templatedItems_eq]

theorem templated_object (root : Fields) (fields : Fields) :
    (object fields).templated root = .object (fields.map fun f => (f.1, f.2.templated root)) := by
  rw [templated, templatedFields_eq]

theorem Holds.templated (root : Fields) (h : v.Holds path w) : (v.templated root).Holds path (w.templated root) := by
  induction h with
  | here v => exact .here _
  | item hitem _ ih =>
    rw [templated_array]
    refine .item ?_ ih
    rw [List.getElem?_map, hitem, Option.map_some]
  | field hfield _ ih =>
    rw [templated_object]
    exact .field (List.mem_map.mpr ⟨_, hfield, rfl⟩) ih

theorem sameShape_templated (root : Fields) (v : Value) : SameShape v (v.templated root) := by
  refine ⟨fun path items h => ?_, fun path fields h => ?_, fun path x h harray hobject htext => ?_⟩
  · have := h.templated root
    rw [templated_array] at this
    exact ⟨_, this, List.length_map _⟩
  · have := h.templated root
    rw [templated_object] at this
    exact ⟨_, this, by simp [Table.keys]⟩
  · have hsame : x.templated root = x := by
      cases x with
      | array items => cases harray
      | object fields => cases hobject
      | string s => cases htext
      | _ => simp only [Value.templated]
    rw [← hsame]
    exact h.templated root

/-! ## (3) No placeholder -/

def WithoutPlaceholders (v : Value) : Prop :=
  ∀ path text, v.Holds path (.string text) → Template.hasPlaceholders text = false

mutual

theorem templated_of_no_placeholder (root : Fields) : (v : Value) → v.WithoutPlaceholders → v.templated root = v
  | .string s, h => by
    have hnone := h [] s (.here _)
    rw [templated, Template.fill_of_single?_none (Template.single?_of_not_hasPlaceholders hnone),
      Template.render_of_not_hasPlaceholders hnone]
  | .array items, h => by
    have hitems : ∀ v ∈ items, v.WithoutPlaceholders := by
      intro v hv path text hholds
      obtain ⟨index, hindex⟩ := List.getElem?_of_mem hv
      exact h _ text (.item hindex hholds)
    rw [templated, templatedItems_of_no_placeholder root items hitems]
  | .object fields, h => by
    have hfields : ∀ f ∈ fields, f.2.WithoutPlaceholders := fun f hf path text hholds => h _ text (.field hf hholds)
    rw [templated, templatedFields_of_no_placeholder root fields hfields]
  | .null, _ => by simp only [templated]
  | .bool _, _ => by simp only [templated]
  | .number _, _ => by simp only [templated]

theorem templatedItems_of_no_placeholder (root : Fields) :
    (items : List Value) → (∀ v ∈ items, v.WithoutPlaceholders) → templatedItems root items = items
  | [], _ => by rw [templatedItems]
  | v :: vs, h => by
    rw [templatedItems, templated_of_no_placeholder root v (h v (List.mem_cons_self ..)),
      templatedItems_of_no_placeholder root vs fun w hw => h w (List.mem_cons_of_mem v hw)]

theorem templatedFields_of_no_placeholder (root : Fields) :
    (fields : List (String × Value)) → (∀ f ∈ fields, f.2.WithoutPlaceholders) → templatedFields root fields = fields
  | [], _ => by rw [templatedFields]
  | (k, v) :: rest, h => by
    rw [templatedFields, templated_of_no_placeholder root v (h (k, v) (List.mem_cons_self ..)),
      templatedFields_of_no_placeholder root rest fun f hf => h f (List.mem_cons_of_mem _ hf)]

end

end Value

namespace Template

/-- A text that is one placeholder between blanks is filled in with the text of what it stands for, and any other text
    stands for itself, filled in. A value keeps its shape, each text in it is filled in by itself, and where no text has
    a placeholder the value stays. -/
theorem both_ways_of_filling_agree (root : Fields) :
    (∀ text before body after, Lone text before body after →
      render root text = before ++ ((Value.string text).templated root).text ++ after) ∧
    (∀ text, (∀ before body after, ¬ Lone text before body after) →
      (Value.string text).templated root = .string (render root text)) ∧
    (∀ v : Value, v.SameShape (v.templated root)) ∧
    (∀ (v : Value) path text, v.Holds path (.string text) →
      (v.templated root).Holds path ((Value.string text).templated root)) ∧
    ∀ v : Value, v.WithoutPlaceholders → v.templated root = v := by
  refine ⟨fun text before body after h => ?_, fun text h => ?_, Value.sameShape_templated root,
    fun v path text h => h.templated root, Value.templated_of_no_placeholder root⟩
  · rw [Value.templated]
    exact render_lone h
  · rw [Value.templated]
    refine fill_of_single?_none ?_
    cases hsingle : single? text with
    | none => rfl
    | some path =>
      obtain ⟨before, body, after, hlone⟩ := lone_of_single? hsingle
      exact absurd hlone (h before body after)

namespace Sample

def tags : Value := .array [.string "a", .count 2]

def person : Fields := [("name", .string "Ada"), ("tags", tags)]

def letter : Value :=
  .object [("ids", .array [.string " \x7b\x7btags\x7d\x7d\n", .bool true]),
    ("subject", .string "Hi \x7b\x7b name \x7d\x7d")]

def plain : Value := .array [.string "\x7bname\x7d"]

end Sample

open Sample in
/-- The tags stand in the letter as an array, and in a text as their JSON between the blanks. -/
theorem sample_letter_is_filled_in :
    Lone " \x7b\x7btags\x7d\x7d\n" " " "tags" "\n" ∧
      render person " \x7b\x7btags\x7d\x7d\n" = " [\"a\",2]\n" ∧
      (∀ before body after, ¬ Lone "Hi \x7b\x7b name \x7d\x7d" before body after) ∧
      (Value.string "Hi \x7b\x7b name \x7d\x7d").templated person =
        .string (render person "Hi \x7b\x7b name \x7d\x7d") ∧
      letter.SameShape (letter.templated person) ∧
      letter.Holds [.field "ids", .item 0] (.string " \x7b\x7btags\x7d\x7d\n") ∧
      (letter.templated person).Holds [.field "ids", .item 0] tags ∧
      plain.WithoutPlaceholders ∧ plain.templated person = plain := by
  obtain ⟨hlone, hother, hshape, htexts, hplain⟩ := both_ways_of_filling_agree person
  have htags : Lone " \x7b\x7btags\x7d\x7d\n" " " "tags" "\n" := by
    refine ⟨by decide +kernel, rfl, rfl, by decide, by decide⟩
  have hgreeting : ∀ before body after, ¬ Lone "Hi \x7b\x7b name \x7d\x7d" before body after := by
    intro before body after h
    have hnone : single? "Hi \x7b\x7b name \x7d\x7d" = none := by decide +kernel
    rw [h.single?_eq] at hnone
    cases hnone
  have hids : letter.Holds [.field "ids", .item 0] (.string " \x7b\x7btags\x7d\x7d\n") :=
    .field (List.mem_cons_self ..) (.item rfl (.here _))
  have hfilled : (Value.string " \x7b\x7btags\x7d\x7d\n").templated person = tags := by
    rw [Value.templated]
    rfl
  have hnone : hasPlaceholders "\x7bname\x7d" = false := by
    show (parts ('\x7b' :: ("name\x7d".toList ++ []))).any _ = false
    rw [parts_of_no_placeholder rfl, parts_literal (by decide), parts]
    rfl
  have hbraces : plain.WithoutPlaceholders := by
    intro path text h
    cases h with
    | item hitem hrest =>
      obtain rfl := List.mem_singleton.mp (List.mem_of_getElem? hitem)
      cases hrest
      exact hnone
  refine ⟨htags, (hlone _ _ _ _ htags).trans ?_, hgreeting, hother _ hgreeting, hshape letter, hids, ?_, hbraces,
    hplain plain hbraces⟩
  · rw [hfilled]
    decide +kernel
  · have := htexts letter _ _ hids
    rwa [hfilled] at this

end Template

end Stepflow
