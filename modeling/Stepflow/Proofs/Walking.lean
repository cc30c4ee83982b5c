/-
  Stepflow.Proofs.Walking — a written path is a walk through objects.

  (1) A walk along keys leads to a value (`Value.Leads`) or ends on its way, where the next key
  is missing or where there is no object to look it up in (`Value.Ends`). It does one of the two
  (`Value.walk_eq_some_iff`, `Value.walk_eq_none_iff`); the induction is on the keys. A walk along
  keys and then along others is a walk from where the first one led (`Value.walk_append`).

  (2) A path is cut where it was put together (`splitChars_join`). So keys without a separator,
  written with any separator between neighbours and with blanks around the whole
  (`Path.Spelling`), are the keys of the path (`Clear.keys_text`), unless an outer blank of the
  keys themselves would be taken for one of those around them (`Path.Spelling.Clear`).

  (3) Two paths with a separator between them are the keys of the one and then those of the other
  (`keys_joined`).

  `paths_walk_through_objects` puts the walk and the writing together.
-/

import Stepflow.Proofs.Addressing
import Stepflow.Proofs.Templates

namespace Stepflow

/-! ## (1) Walks -/

namespace Value

/-- Looked up one after the other, the keys lead from a value to another one. -/
inductive Leads : Value → List String → Value → Prop
  | here (v : Value) : Leads v [] v
  | inside {fields : Fields} {key : String} {keys : List String} {next v : Value} :
      fields.get? key = some next → Leads next keys v → Leads (.object fields) (key :: keys) v

/-- Looked up one after the other, the keys lead nowhere: one of them is missing, or it is to be looked up in an array
    or a scalar. -/
inductive Ends : Value → List String → Prop
  | missing {fields : Fields} {key : String} {keys : List String} :
      fields.get? key = none → Ends (.object fields) (key :: keys)
  | noObject {v : Value} {key : String} {keys : List String} : v.fields? = none → Ends v (key :: keys)
  | inside {fields : Fields} {key : String} {keys : List String} {next : Value} :
      fields.get? key = some next → Ends next keys → Ends (.object fields) (key :: keys)

variable {v w : Value} {keys : List String}

theorem Leads.walk_eq (h : v.Leads keys w) : v.walk keys = some w := by
  induction h with
  | here v => rfl
  | inside hkey _ ih => simpa only [walk, field?, fields?, Option.bind_some, hkey] using ih

theorem Ends.walk_eq (h : v.Ends keys) : v.walk keys = none := by
  induction h with
  | missing hkey => simp only [walk, field?, fields?, Option.bind_some, hkey]
  | noObject hv => simp only [walk, field?, hv, Option.bind_none]
  | inside hkey _ ih => simpa only [walk, field?, fields?, Option.bind_some, hkey] using ih

/-- A walk leads somewhere or ends on its way. -/
theorem leads_or_ends (v : Value) (keys : List String) : (∃ w, v.Leads keys w) ∨ v.Ends keys := by
  induction keys generalizing v with
  | nil => exact .inl ⟨v, .here v⟩
  | cons key keys ih =>
    cases hfields : v.fields? with
    | none => exact .inr (.noObject hfields)
    | some fields =>
      obtain rfl : v = .object fields := by
        cases v with
        | object own => exact congrArg object (Option.some.inj hfields)
        | _ => cases hfields
      cases hkey : fields.get? key with
      | none => exact .inr (.missing hkey)
      | some next =>
        rcases ih next with ⟨w, hw⟩ | hends
        · exact .inl ⟨w, .inside hkey hw⟩
        · exact .inr (.inside hkey hends)

theorem walk_eq_some_iff : v.walk keys = some w ↔ v.Leads keys w := by
  refine ⟨fun h => ?_, Leads.walk_eq⟩
  rcases leads_or_ends v keys with ⟨x, hx⟩ | hends
  · obtain rfl : x = w := Option.some.inj (hx.walk_eq.symm.trans h)
    exact hx
  · rw [hends.walk_eq] at h
    cases h

theorem walk_eq_none_iff : v.walk keys = none ↔ v.Ends keys := by
  refine ⟨fun h => ?_, Ends.walk_eq⟩
  rcases leads_or_ends v keys with ⟨w, hw⟩ | hends
  · rw [hw.walk_eq] at h
    cases h
  · exact hends

theorem walk_append (v : Value) (keys more : List String) :
    v.walk (keys ++ more) = (v.walk keys).bind (·.walk more) := by
  induction keys generalizing v with
  | nil => rfl
  | cons key keys ih =>
    simp only [List.cons_append, walk]
    cases v.field? key with
    | none => rfl
    | some next => exact ih next

theorem walk_of_ne_nil (v : Value) (h : keys ≠ []) : v.walk keys = v.fields?.bind (Fields.at? · keys) := by
  cases keys with
  | nil => exact absurd rfl h
  | cons key keys =>
    rw [walk, field?]
    cases v.fields? with
    | none => rfl
    | some fields =>
      simp only [Option.bind_some, Fields.at?]
      cases fields.get? key <;> rfl

end Value

theorem Fields.at?_eq_walk (root : Fields) {keys : List String} (h : keys ≠ []) :
    Fields.at? root keys = (Value.object root).walk keys := by
  rw [Value.walk_of_ne_nil _ h]
  rfl

/-! ## (2) Paths as they are written -/

namespace Path

theorem not_blank_of_separator {c : Char} (h : isSeparator c = true) : Text.isBlank c = false := by
  simp only [isSeparator, Bool.or_eq_true, beq_iff_eq] at h
  rcases h with rfl | rfl <;> rfl

/-- A first key and others, with the separator before each of them. -/
def joined (first : String) (rest : List (Char × String)) : List Char :=
  first.toList ++ rest.flatMap fun e => e.1 :: e.2.toList

variable {first : String} {e : Char × String} {rest : List (Char × String)}

theorem joined_cons (first : String) (e : Char × String) (rest : List (Char × String)) :
    joined first (e :: rest) = first.toList ++ e.1 :: joined e.2 rest := by
  simp only [joined, List.flatMap_cons, List.cons_append]

theorem split_joined (hseparators : ∀ e ∈ rest, isSeparator e.1 = true) (hfirst : Whole first)
    (hrest : ∀ e ∈ rest, Whole e.2) :
    Text.splitChars isSeparator (joined first rest) = first.toList :: rest.map (·.2.toList) := by
  induction rest generalizing first with
  | nil => rw [joined, List.flatMap_nil, List.append_nil, Text.splitChars_of_none hfirst, List.map_nil]
  | cons e rest ih =>
    obtain ⟨hsep, hseparators⟩ := List.forall_mem_cons.mp hseparators
    obtain ⟨hkey, hrest⟩ := List.forall_mem_cons.mp hrest
    rw [joined_cons, Text.splitChars_join hsep, Text.splitChars_of_none hfirst, ih hseparators hkey hrest]
    rfl

/-- The last character is a separator, or it is the last one of the last key. -/
theorem getLast?_joined (hseparators : ∀ e ∈ rest, isSeparator e.1 = true)
    (hclosing : ∀ key, (first :: rest.map (·.2)).getLast? = some key → ∀ c, key.toList.getLast? = some c →
      Text.isBlank c = false) {c : Char} (h : (joined first rest).getLast? = some c) : Text.isBlank c = false := by
  induction rest generalizing first with
  | nil =>
    rw [joined, List.flatMap_nil, List.append_nil] at h
    exact hclosing first rfl c h
  | cons e rest ih =>
    obtain ⟨hsep, hseparators⟩ := List.forall_mem_cons.mp hseparators
    rw [joined_cons, List.append_cons, List.getLast?_append] at h
    cases hlast : (joined e.2 rest).getLast? with
    | none =>
      rw [hlast, Option.none_or, List.getLast?_append, List.getLast?_singleton, Option.some_or] at h
      cases h
      exact not_blank_of_separator hsep
    | some d =>
      rw [hlast, Option.some_or] at h
      cases h
      refine ih hseparators (fun key hkey => hclosing key ?_) hlast
      rwa [List.map_cons, List.getLast?_cons_cons]

theorem trimmed_joined (hseparators : ∀ e ∈ rest, isSeparator e.1 = true)
    (hopening : ∀ c, first.toList.head? = some c → Text.isBlank c = false)
    (hclosing : ∀ key, (first :: rest.map (·.2)).getLast? = some key → ∀ c, key.toList.getLast? = some c →
      Text.isBlank c = false) : Text.Trimmed (joined first rest) := by
  refine ⟨fun c hc => ?_, fun c hc => getLast?_joined hseparators hclosing hc⟩
  rw [joined, List.head?_append] at hc
  cases hfirst : first.toList.head? with
  | some d =>
    rw [hfirst, Option.some_or] at hc
    cases hc
    exact hopening c hfirst
  | none =>
    rw [hfirst, Option.none_or] at hc
    cases rest with
    | nil => cases hc
    | cons e rest =>
      cases hc
      exact not_blank_of_separator (hseparators e (List.mem_cons_self ..))

/-- A path as it is written: keys with separators, and what stands around them. -/
structure Spelling where
  before : String := ""
  first : String
  rest : List (Char × String) := []
  after : String := ""

namespace Spelling

def keys (s : Spelling) : List String := s.first :: s.rest.map (·.2)

def text (s : Spelling) : String := s.before ++ String.ofList (joined s.first s.rest) ++ s.after

/-- Separators stand between the keys and not in them, and blanks around the whole. The keys themselves do not begin or
    end in a blank, and are not blank altogether. -/
structure Clear (s : Spelling) : Prop where
  blankBefore : Text.isBlankText s.before = true
  blankAfter : Text.isBlankText s.after = true
  separators : ∀ e ∈ s.rest, isSeparator e.1 = true
  whole : ∀ key ∈ s.keys, Whole key
  opening : ∀ c, s.first.toList.head? = some c → Text.isBlank c = false
  closing : ∀ key, s.keys.getLast? = some key → ∀ c, key.toList.getLast? = some c → Text.isBlank c = false
  notBlank : Text.isBlankText (String.ofList (joined s.first s.rest)) = false

variable {s : Spelling}

theorem Clear.trimChars_text (h : s.Clear) : Text.trimChars s.text.toList = joined s.first s.rest := by
  have hchars : s.text.toList = s.before.toList ++ (joined s.first s.rest ++ s.after.toList) := by
    simp [text, List.append_assoc]
  rw [hchars, Template.trimChars_append_left (List.all_eq_true.mp h.blankBefore),
    Template.trimChars_append_right (List.all_eq_true.mp h.blankAfter)]
  exact Text.trimChars_of_trimmed (trimmed_joined h.separators h.opening h.closing)

theorem Clear.keys_text (h : s.Clear) : Path.keys s.text = s.keys := by
  have hne : Text.trimChars s.text.toList ≠ [] := by
    intro hnil
    have hblank := h.notBlank
    rw [← h.trimChars_text, hnil] at hblank
    cases hblank
  obtain ⟨hfirst, hrest⟩ := List.forall_mem_cons.mp h.whole
  have hpieces := split_joined h.separators hfirst fun e he => hrest _ (List.mem_map_of_mem he)
  rw [keys_of_ne hne, Text.split, Text.trim, String.toList_ofList, h.trimChars_text, hpieces]
  simp [keys, Function.comp_def]

end Spelling

/-! ## (3) One path after another -/

theorem keys_ne_nil_of_trimmed {p : String} (hne : p ≠ "") (htrimmed : Text.Trimmed p.toList) : keys p ≠ [] := by
  obtain ⟨pieces, hpieces⟩ := Text.exists_splitChars isSeparator p.toList
  rw [keys_of_trimmed hne htrimmed, Text.split, hpieces]
  exact List.cons_ne_nil _ _

theorem keys_joined {p q : String} {sep : Char} (hsep : isSeparator sep = true) (hp : p ≠ "") (hq : q ≠ "")
    (hptrimmed : Text.Trimmed p.toList) (hqtrimmed : Text.Trimmed q.toList) :
    keys (p ++ sep.toString ++ q) = keys p ++ keys q := by
  have hpne : p.toList ≠ [] := fun hnil => hp (String.toList_eq_nil_iff.mp hnil)
  have hqne : q.toList ≠ [] := fun hnil => hq (String.toList_eq_nil_iff.mp hnil)
  have hchars : (p ++ sep.toString ++ q).toList = p.toList ++ sep :: q.toList := by simp
  have htrimmed : Text.Trimmed (p ++ sep.toString ++ q).toList := by
    rw [hchars, List.append_cons]
    exact hptrimmed.append hqtrimmed hpne hqne [sep]
  have hne : p ++ sep.toString ++ q ≠ "" := by
    intro hempty
    rw [hempty] at hchars
    exact hpne (List.append_eq_nil_iff.mp hchars.symm).1
  rw [keys_of_trimmed hne htrimmed, keys_of_trimmed hp hptrimmed, keys_of_trimmed hq hqtrimmed, Text.split, hchars,
    Text.splitChars_join hsep, List.map_append]
  rfl

end Path

/-! ## Paths and walks -/

namespace Fields

/-- Keys written with any separators between them, and with blanks around the whole, lead where they lead when they are
    looked up in objects one after the other, and nowhere if they lead nowhere. So a path behind another one leads where
    it leads in the object that the other one leads to. -/
theorem paths_walk_through_objects (root : Fields) :
    (∀ s : Path.Spelling, s.Clear →
      (∀ v, root.resolve s.text = some v ↔ (Value.object root).Leads s.keys v) ∧
      (root.resolve s.text = none ↔ (Value.object root).Ends s.keys)) ∧
    ∀ (p q : String) (sep : Char), p ≠ "" → q ≠ "" → Text.Trimmed p.toList → Text.Trimmed q.toList →
      Path.isSeparator sep = true →
      root.resolve (p ++ sep.toString ++ q) = (root.resolve p).bind fun v => v.fields?.bind (·.resolve q) := by
  refine ⟨fun s hs => ?_, fun p q sep hp hq hptrimmed hqtrimmed hsep => ?_⟩
  · have hwalk : root.resolve s.text = (Value.object root).walk s.keys := by
      rw [resolve, hs.keys_text]
      exact at?_eq_walk root (List.cons_ne_nil _ _)
    rw [hwalk]
    exact ⟨fun v => Value.walk_eq_some_iff, Value.walk_eq_none_iff⟩
  · have hpkeys := Path.keys_ne_nil_of_trimmed hp hptrimmed
    have hqkeys := Path.keys_ne_nil_of_trimmed hq hqtrimmed
    calc root.resolve (p ++ sep.toString ++ q)
      _ = at? root (Path.keys p ++ Path.keys q) := by rw [resolve, Path.keys_joined hsep hp hq hptrimmed hqtrimmed]
      _ = (Value.object root).walk (Path.keys p ++ Path.keys q) :=
        at?_eq_walk root (List.append_ne_nil_of_left_ne_nil hpkeys _)
      _ = ((Value.object root).walk (Path.keys p)).bind (·.walk (Path.keys q)) := Value.walk_append ..
      _ = (root.resolve p).bind fun v => v.walk (Path.keys q) := by rw [resolve, at?_eq_walk root hpkeys]
      _ = _ := by
        refine congrArg (Option.bind _) (funext fun v => ?_)
        rw [Value.walk_of_ne_nil v hqkeys]
        rfl

namespace Sample

def owned : Fields :=
  [("lead", .object [("my owner", .object [("", .string "Ada")]), ("tags", .array [.string "new"])])]

def ownerName : Path.Spelling :=
  { before := " ", first := "lead", rest := [(':', "my owner"), ('.', "")], after := "\n" }

def firstTag : Path.Spelling := { first := "lead", rest := [('.', "tags"), ('.', "0")] }

theorem ownerName_clear : ownerName.Clear where
  blankBefore := rfl
  blankAfter := rfl
  separators := by decide
  whole := by decide
  opening := by rintro c ⟨⟩; rfl
  closing := by rintro key ⟨⟩ c ⟨⟩
  notBlank := by decide

theorem firstTag_clear : firstTag.Clear where
  blankBefore := rfl
  blankAfter := rfl
  separators := by decide
  whole := by decide
  opening := by rintro c ⟨⟩; rfl
  closing := by rintro key ⟨⟩ c ⟨⟩; rfl
  notBlank := by decide

end Sample

open Sample in
/-- The name of the owner is found, in one walk and in two; a tag is not, for tags stand in an array. -/
theorem sample_owner_is_found :
    ownerName.Clear ∧ owned.resolve " lead:my owner.\n" = some (.string "Ada") ∧
      firstTag.Clear ∧ owned.resolve "lead.tags.0" = none ∧
      (Text.Trimmed "lead".toList ∧ Text.Trimmed "my owner.".toList) ∧
      owned.resolve "lead.my owner." =
        (owned.resolve "lead").bind fun v => v.fields?.bind (·.resolve "my owner.") := by
  obtain ⟨hwalks, hjoined⟩ := paths_walk_through_objects owned
  have hname : (Value.object owned).Leads ownerName.keys (.string "Ada") :=
    .inside rfl (.inside rfl (.inside rfl (.here _)))
  have htag : (Value.object owned).Ends firstTag.keys := .inside rfl (.inside rfl (.noObject rfl))
  have hlead : Text.Trimmed "lead".toList := ⟨by rintro c ⟨⟩; rfl, by rintro c ⟨⟩; rfl⟩
  have howner : Text.Trimmed "my owner.".toList := ⟨by rintro c ⟨⟩; rfl, by rintro c ⟨⟩; rfl⟩
  exact ⟨ownerName_clear, ((hwalks ownerName ownerName_clear).1 _).mpr hname, firstTag_clear,
    (hwalks firstTag firstTag_clear).2.mpr htag, ⟨hlead, howner⟩,
    hjoined "lead" "my owner." '.' (by decide) (by decide) hlead howner rfl⟩

end Fields

end Stepflow
