/-
  Stepflow.Proofs.Inputs — under which names a prompt gets its inputs, and with which values.

  (1) The last piece of a text that is cut at some characters is what follows the last of them
  (`getLast?_splitChars`). So the last key of a path is what follows its last separator
  (`getLast?_keys`). What follows its last full stop is the same, unless there is a colon in it
  (`getLast?_keys_eq_afterStop_iff`).

  (2) An input that is written as a source and a path is read as these (`ofString_text`). It
  supplies what its path leads to in its root, or null (`value_eq_iff`).

  (3) An input is named by what follows the last full stop of its path, and of those with one
  name the last one counts (`get?_gatherInputs`).

  So inputs are named by the last keys of their paths where no colon follows the last full
  stop (`inputs_are_named_behind_the_last_stop`), and only there:
  `path_with_a_colon_names_no_key` has one that is not.
-/

import Mathlib.Data.List.DropRight
import Stepflow.Handler.Prompt
import Stepflow.Proofs.Merging
import Stepflow.Proofs.Walking

namespace Stepflow

/-! ## (1) The last piece of a text -/

namespace Text

variable {p : Char → Bool} {front back : List Char}

/-- The characters at the end that satisfy `p` are those behind the last one that does not. -/
theorem rtakeWhile_append (hfront : ∀ c, front.getLast? = some c → p c = false) (hback : ∀ c ∈ back, p c = true) :
    (front ++ back).rtakeWhile p = back := by
  have hstop : front.reverse.takeWhile p = [] := by
    cases hrev : front.reverse with
    | nil => rfl
    | cons c rest =>
      have hlast : front.getLast? = some c := by rw [← List.head?_reverse, hrev, List.head?_cons]
      exact List.takeWhile_cons_of_neg (by simp [hfront c hlast])
  rw [List.rtakeWhile, List.reverse_append, List.takeWhile_append_of_pos fun c hc => hback c (List.mem_reverse.mp hc),
    hstop, List.append_nil, List.reverse_reverse]

theorem getLast?_rdropWhile {cs : List Char} {c : Char} (h : (cs.rdropWhile p).getLast? = some c) : p c = false := by
  rw [List.rdropWhile, List.getLast?_reverse] at h
  exact head?_dropWhile_not h

theorem getLast?_splitChars (p : Char → Bool) (cs : List Char) :
    (splitChars p cs).getLast? = some (cs.rtakeWhile (!p ·)) := by
  have hback : ∀ c ∈ cs.rtakeWhile (!p ·), p c = false := fun c hc => by simpa using List.mem_rtakeWhile_imp hc
  have hcut := List.rdropWhile_append_rtakeWhile (p := (!p ·)) (l := cs)
  cases hfront : cs.rdropWhile (!p ·) using List.reverseRecOn with
  | nil =>
    rw [hfront, List.nil_append] at hcut
    rw [← congrArg (splitChars p) hcut, splitChars_of_none hback, List.getLast?_singleton]
  | append_singleton init c =>
    have hc : p c = true := by
      have hlast : (cs.rdropWhile (!p ·)).getLast? = some c := by rw [hfront, List.getLast?_concat]
      simpa using getLast?_rdropWhile hlast
    rw [hfront, ← List.append_cons] at hcut
    rw [← congrArg (splitChars p) hcut, splitChars_join hc, splitChars_of_none hback, List.getLast?_concat]

end Text

namespace Path

/-- What follows the last full stop of a path, its outer blanks not counted. -/
def afterStop (path : String) : String := String.ofList ((Text.trimChars path.toList).rtakeWhile (· != '.'))

variable {path key : String}

theorem getLast?_keys (h : keys path ≠ []) :
    (keys path).getLast? = some (String.ofList ((Text.trimChars path.toList).rtakeWhile (!isSeparator ·))) := by
  have hne : Text.trimChars path.toList ≠ [] := by
    intro hnil
    have hblank : Text.isBlankText path = true := List.all_eq_true.mpr (Text.trimChars_eq_nil_iff.mp hnil)
    refine h ?_
    rw [keys, Text.trimmed?_eq, if_pos hblank]
  rw [keys_of_ne hne, Text.split, Text.trim, String.toList_ofList, List.getLast?_map, Text.getLast?_splitChars,
    Option.map_some]

/-- The last key of a path is what follows its last full stop, unless a colon follows that. -/
theorem getLast?_keys_eq_afterStop_iff (h : keys path ≠ []) :
    (keys path).getLast? = some (afterStop path) ↔ ':' ∉ (afterStop path).toList := by
  rw [getLast?_keys h, Option.some_inj, afterStop, String.ofList_inj, String.toList_ofList]
  constructor
  · intro heq hcolon
    rw [← heq] at hcolon
    simpa [isSeparator] using List.mem_rtakeWhile_imp hcolon
  · intro hcolon
    conv => lhs; rw [← List.rdropWhile_append_rtakeWhile (p := (· != '.')) (l := Text.trimChars path.toList)]
    refine Text.rtakeWhile_append (fun c hc => ?_) fun c hc => ?_
    · have hstop := Text.getLast?_rdropWhile hc
      simp only [bne_eq_false_iff_eq] at hstop
      rw [hstop]
      rfl
    · have hstop := List.mem_rtakeWhile_imp (p := (· != '.')) hc
      have hne : c ≠ ':' := fun heq => hcolon (heq ▸ hc)
      simp_all [isSeparator]

/-- A path whose last key is not empty has something behind its last full stop. -/
theorem afterStop_ne_empty (h : (keys path).getLast? = some key) (hkey : key ≠ "") : afterStop path ≠ "" := by
  intro hempty
  have hne : keys path ≠ [] := by
    rintro hnil
    rw [hnil] at h
    cases h
  have hcolon : ':' ∉ (afterStop path).toList := by
    rw [hempty]
    exact List.not_mem_nil
  rw [(getLast?_keys_eq_afterStop_iff hne).mpr hcolon, hempty] at h
  exact hkey (Option.some.inj h).symm

end Path

/-! ## (2) Inputs as they are written -/

theorem Text.splitOnce_append {c : Char} {front : String} (h : c ∉ front.toList) (back : String) :
    splitOnce c (front ++ c.toString ++ back) = some (front, back) := by
  have hchars : (front ++ c.toString ++ back).toList = front.toList ++ c :: back.toList := by simp
  have hfront : ∀ d ∈ front.toList, (d != c) = true := by
    intro d hd
    rw [bne_iff_ne]
    rintro rfl
    exact h hd
  have hdrop : (front ++ c.toString ++ back).toList.dropWhile (· != c) = c :: back.toList := by
    rw [hchars, List.dropWhile_append_of_pos hfront, List.dropWhile_cons_of_neg (by simp)]
  have htake : (front ++ c.toString ++ back).toList.takeWhile (· != c) = front.toList := by
    rw [hchars, List.takeWhile_append_of_pos hfront, List.takeWhile_cons_of_neg (by simp), List.append_nil]
  simp only [splitOnce, hdrop, htake, String.ofList_toList]

namespace Handler

namespace InputRef

def source (fromLoop : Bool) : String := if fromLoop then "loop" else "trigger"

def text (r : InputRef) : String := source r.fromLoop ++ ":" ++ r.path

/-- The object in which an input of the loop or of the trigger is looked up: the item of the loop, and where that is no
    object, or for the trigger, the data of the trigger. -/
inductive Root (ctx : Context) : Bool → Fields → Prop
  | item {root : Fields} : Fields.at? ctx ["loop", "item"] = some (.object root) → Root ctx true root
  | data {fromLoop : Bool} {root : Fields} :
      (fromLoop = true → ∀ item, Fields.at? ctx ["loop", "item"] ≠ some (.object item)) →
      ctx.get? "trigger" = some (.object root) → Root ctx fromLoop root

/-- The value that an input supplies: what its path leads to in its root, and null if it leads nowhere. -/
inductive Supplies (ctx : Context) (r : InputRef) : Value → Prop
  | found {root : Fields} {v : Value} : Root ctx r.fromLoop root → root.resolve r.path = some v → Supplies ctx r v
  | missing : (∀ root, Root ctx r.fromLoop root → root.resolve r.path = none) → Supplies ctx r .null

variable {ctx : Context} {r : InputRef} {refs : List InputRef} {step : Step}

theorem ofString_text (r : InputRef) : ofString r.text = ⟨r.fromLoop, Text.trim r.path⟩ := by
  have hcolon : ':' ∉ (source r.fromLoop).toList := by
    cases r.fromLoop <;> decide
  have hsource : (Text.trim (source r.fromLoop) == "loop") = r.fromLoop := by
    cases r.fromLoop <;> decide
  have hsplit : Text.splitOnce ':' r.text = some (source r.fromLoop, r.path) := Text.splitOnce_append hcolon r.path
  simp only [ofString, hsplit, hsource]

theorem loopItem?_eq_some_iff {root : Fields} :
    loopItem? ctx = some root ↔ Fields.at? ctx ["loop", "item"] = some (.object root) := by
  have hitem : Fields.at? ctx ["loop", "item"] = (ctx.get? Context.loopKey).bind (·.field? "item") := by
    rw [Fields.at?]
    refine congrArg _ (funext fun v => ?_)
    rw [Value.walk]
    cases v.field? "item" <;> rfl
  rw [loopItem?, hitem, Option.bind_eq_some_iff]
  simp only [Value.fields?_eq_some, exists_eq_right]

theorem triggerData?_eq_some_iff {root : Fields} :
    triggerData? ctx = some root ↔ ctx.get? "trigger" = some (.object root) := by
  rw [triggerData?, Option.bind_eq_some_iff]
  simp only [Value.fields?_eq_some, exists_eq_right]
  rfl

/-- The object in which the input is looked up, if there is one. -/
def root? (r : InputRef) (ctx : Context) : Option Fields :=
  if r.fromLoop then loopItem? ctx <|> triggerData? ctx else triggerData? ctx

theorem root?_eq_some_iff {root : Fields} : r.root? ctx = some root ↔ Root ctx r.fromLoop root := by
  obtain ⟨fromLoop, path⟩ := r
  cases fromLoop with
  | false =>
    refine triggerData?_eq_some_iff.trans ⟨fun h => .data nofun h, fun h => ?_⟩
    cases h with
    | data _ h => exact h
  | true =>
    change (loopItem? ctx <|> triggerData? ctx) = some root ↔ Root ctx true root
    cases hitem : loopItem? ctx with
    | some item =>
      have hfound := loopItem?_eq_some_iff.mp hitem
      constructor
      · rintro ⟨⟩
        exact .item hfound
      · intro h
        cases h with
        | item h => exact congrArg some (Value.object.inj (Option.some.inj (hfound.symm.trans h)))
        | data hnone _ => exact absurd hfound (hnone rfl item)
    | none =>
      have hnone : ∀ item, Fields.at? ctx ["loop", "item"] ≠ some (.object item) := by
        intro item h
        rw [loopItem?_eq_some_iff.mpr h] at hitem
        cases hitem
      refine triggerData?_eq_some_iff.trans ⟨fun h => .data (fun _ => hnone) h, fun h => ?_⟩
      cases h with
      | item h => exact absurd h (hnone root)
      | data _ h => exact h

theorem value_eq_iff {v : Value} : r.value ctx = v ↔ Supplies ctx r v := by
  have hvalue : r.value ctx = ((r.root? ctx).bind (Fields.resolve · r.path)).getD .null := rfl
  rw [hvalue]
  cases hfound : (r.root? ctx).bind (Fields.resolve · r.path) with
  | some w =>
    obtain ⟨root, hroot, hw⟩ := Option.bind_eq_some_iff.mp hfound
    constructor
    · rintro rfl
      exact .found (root?_eq_some_iff.mp hroot) hw
    · intro h
      cases h with
      | found h hv =>
        obtain rfl := Option.some.inj (hroot.symm.trans (root?_eq_some_iff.mpr h))
        exact Option.some.inj (hw.symm.trans hv)
      | missing h =>
        rw [h root (root?_eq_some_iff.mp hroot)] at hw
        cases hw
  | none =>
    have hnone : ∀ root, Root ctx r.fromLoop root → root.resolve r.path = none := fun root h =>
      Option.bind_eq_none_iff.mp hfound root (root?_eq_some_iff.mpr h)
    constructor
    · rintro rfl
      exact .missing hnone
    · intro h
      cases h with
      | found h hv =>
        rw [hnone _ h] at hv
        cases hv
      | missing _ => rfl

/-! ## (3) Names of inputs -/

theorem name?_ofString_text (h : Path.afterStop r.path ≠ "") :
    (ofString r.text).name? = some (Path.afterStop r.path) := by
  have hlast : (Text.split (· == '.') (Text.trim r.path)).getLast? = some (Path.afterStop r.path) := by
    rw [Text.split, List.getLast?_map, Text.getLast?_splitChars, Text.trim, String.toList_ofList]
    rfl
  have hname : (!(Path.afterStop r.path).isEmpty) = true := by simpa using h
  simp only [ofString_text, name?, hlast, Option.filter_some, hname, if_true]

/-- The blanks around a path do not count. -/
theorem value_ofString_text (r : InputRef) (ctx : Context) : (ofString r.text).value ctx = r.value ctx := by
  have htrim : Text.trim (Text.trim r.path) = Text.trim r.path := by
    rw [Text.trim, Text.trim, String.toList_ofList, Text.trimChars_of_trimmed (Text.trimmed_trimChars _)]
  rw [ofString_text, value, value]
  refine congrArg (Option.getD · Value.null) (congrArg (Option.bind _) (funext fun root => ?_))
  exact Template.resolve_congr htrim

theorem gatherInputs_eq (hinputs : step.config.get? "aiInputs" = some (.array (refs.map fun r => .string r.text)))
    (hnames : ∀ r ∈ refs, Path.afterStop r.path ≠ "") (ctx : Context) :
    gatherInputs step ctx = Table.ofList (refs.map fun r => (Path.afterStop r.path, r.value ctx)) := by
  have htexts : (refs.map fun r => Value.string r.text).filterMap (·.string?) = refs.map text := by
    rw [List.filterMap_map, ← List.filterMap_eq_map]
    rfl
  simp only [gatherInputs, hinputs, Option.bind_some, Value.items?, Option.getD_some, htexts]
  rw [List.filterMap_map, ← List.filterMap_eq_map]
  refine congrArg Table.ofList (List.filterMap_congr fun r hr => ?_)
  simp only [Function.comp, name?_ofString_text (hnames r hr), value_ofString_text, Option.map_some]

def LastNamed (named : InputRef → String → Prop) (refs : List InputRef) (ctx : Context) (key : String) (v : Value) :
    Prop :=
  ∃ before r after, refs = before ++ r :: after ∧ named r key ∧ Supplies ctx r v ∧ ∀ s ∈ after, ¬ named s key

theorem LastNamed.congr {named other : InputRef → String → Prop} (h : ∀ r ∈ refs, ∀ key, named r key ↔ other r key)
    (ctx : Context) (key : String) (v : Value) : LastNamed named refs ctx key v ↔ LastNamed other refs ctx key v := by
  have hone : ∀ {named other : InputRef → String → Prop}, (∀ r ∈ refs, ∀ key, named r key ↔ other r key) →
      LastNamed named refs ctx key v → LastNamed other refs ctx key v := by
    rintro named other h ⟨before, r, after, hsplit, hkey, hv, hafter⟩
    have hmem : ∀ s ∈ r :: after, s ∈ refs := fun s hs => hsplit ▸ List.mem_append_right before hs
    exact ⟨before, r, after, hsplit, (h r (hmem r (List.mem_cons_self ..)) key).mp hkey, hv, fun s hs hskey =>
      hafter s hs ((h s (hmem s (List.mem_cons_of_mem r hs)) key).mpr hskey)⟩
  exact ⟨hone h, hone fun r hr key => (h r hr key).symm⟩

theorem get?_gatherInputs (hinputs : step.config.get? "aiInputs" = some (.array (refs.map fun r => .string r.text)))
    (hnames : ∀ r ∈ refs, Path.afterStop r.path ≠ "") (ctx : Context) (key : String) (v : Value) :
    Table.get? (gatherInputs step ctx) key = some v ↔
      LastNamed (fun r key => Path.afterStop r.path = key) refs ctx key v := by
  rw [gatherInputs_eq hinputs hnames, Table.get?_ofList_eq_some_iff, Table.lastOf_map_iff]
  simp only [Prod.mk.injEq, value_eq_iff, and_assoc]
  rfl

end InputRef

open InputRef in
/-- An input is named by what follows the last full stop of its path, and has the value that its path leads to in its
    root. That name is the last key of the path if no colon is in it, and otherwise it is not; so where no name has a
    colon, the inputs are those of the last keys of their paths. -/
theorem inputs_are_named_behind_the_last_stop {step : Step} {refs : List InputRef}
    (hinputs : step.config.get? "aiInputs" = some (.array (refs.map fun r => .string r.text)))
    (hkeys : ∀ r ∈ refs, ∃ key, (Path.keys r.path).getLast? = some key ∧ key ≠ "") (ctx : Context) :
    (gatherInputs step ctx).Ordered ∧
    (∀ key v, (gatherInputs step ctx).get? key = some v ↔
      LastNamed (fun r key => Path.afterStop r.path = key) refs ctx key v) ∧
    (∀ r ∈ refs, (Path.keys r.path).getLast? = some (Path.afterStop r.path) ↔ ':' ∉ (Path.afterStop r.path).toList) ∧
    ((∀ r ∈ refs, ':' ∉ (Path.afterStop r.path).toList) → ∀ key v, (gatherInputs step ctx).get? key = some v ↔
      LastNamed (fun r key => (Path.keys r.path).getLast? = some key) refs ctx key v) := by
  have hnames : ∀ r ∈ refs, Path.afterStop r.path ≠ "" := fun r hr =>
    let ⟨_, hlast, hne⟩ := hkeys r hr
    Path.afterStop_ne_empty hlast hne
  have hlast : ∀ r ∈ refs, (Path.keys r.path).getLast? = some (Path.afterStop r.path) ↔
      ':' ∉ (Path.afterStop r.path).toList := by
    intro r hr
    obtain ⟨key, hkey, -⟩ := hkeys r hr
    refine Path.getLast?_keys_eq_afterStop_iff fun hnil => ?_
    rw [hnil] at hkey
    cases hkey
  refine ⟨?_, get?_gatherInputs hinputs hnames ctx, hlast, fun hcolons key v => ?_⟩
  · rw [gatherInputs_eq hinputs hnames]
    exact Table.ordered_ofList _
  · rw [get?_gatherInputs hinputs hnames]
    refine LastNamed.congr (fun r hr key => ?_) ctx key v
    rw [(hlast r hr).mpr (hcolons r hr), Option.some_inj]

namespace Sample

def calling : Context :=
  [("loop", .object [("index", .count 0), ("item", .object [("title", .string "Intro call")])]),
    ("trigger", .object [("lead", .object [("name", .string "Ada")]), ("owner", .object [("name", .string "Grace")])])]

def callInputs : List InputRef :=
  [⟨false, "lead.name"⟩, ⟨true, " title "⟩, ⟨false, "owner:lead.phone"⟩, ⟨false, "owner.name"⟩]

def promptOfCall : Step :=
  { id := "9", kind := .aiPrompt, config := [("aiInputs", .array (callInputs.map fun r => .string r.text))] }

def promptOfLead : Step :=
  { id := "9", kind := .aiPrompt, config := [("aiInputs", .array [.string "trigger:lead:name"])] }

end Sample

open Sample InputRef in
/-- Of the two names the later one counts, the item of the loop has the title, and the telephone number is null. -/
theorem sample_call_gets_its_inputs :
    callInputs.map text = ["trigger:lead.name", "loop: title ", "trigger:owner:lead.phone", "trigger:owner.name"] ∧
      (∀ r ∈ callInputs, ∃ key, (Path.keys r.path).getLast? = some key ∧ key ≠ "") ∧
      (∀ r ∈ callInputs, ':' ∉ (Path.afterStop r.path).toList) ∧
      (gatherInputs promptOfCall calling).get? "name" = some (.string "Grace") ∧
      (gatherInputs promptOfCall calling).get? "title" = some (.string "Intro call") ∧
      (gatherInputs promptOfCall calling).get? "phone" = some .null := by
  have hkeys : ∀ r ∈ callInputs, ∃ key, (Path.keys r.path).getLast? = some key ∧ key ≠ "" := by
    have hsome : ∀ r ∈ callInputs, ((Path.keys r.path).getLast?.filter fun key => !key.isEmpty).isSome = true := by
      decide +kernel
    intro r hr
    obtain ⟨key, hkey⟩ := Option.isSome_iff_exists.mp (hsome r hr)
    obtain ⟨hlast, hne⟩ := Option.filter_eq_some_iff.mp hkey
    exact ⟨key, hlast, by simpa using hne⟩
  have hcolons : ∀ r ∈ callInputs, ':' ∉ (Path.afterStop r.path).toList := by decide +kernel
  have hinputs : promptOfCall.config.get? "aiInputs" = some (.array (callInputs.map fun r => .string r.text)) := rfl
  obtain ⟨-, -, -, hlaw⟩ := inputs_are_named_behind_the_last_stop hinputs hkeys calling
  refine ⟨by decide +kernel, hkeys, hcolons, (hlaw hcolons _ _).mpr ?_, (hlaw hcolons _ _).mpr ?_,
    (hlaw hcolons _ _).mpr ?_⟩
  · exact ⟨callInputs.take 3, _, [], rfl, by decide +kernel, .found (.data nofun rfl) rfl, nofun⟩
  · exact ⟨callInputs.take 1, _, callInputs.drop 2, rfl, by decide +kernel, .found (.item rfl) rfl, by decide +kernel⟩
  · refine ⟨callInputs.take 2, _, callInputs.drop 3, rfl, by decide +kernel, .missing fun root hroot => ?_,
      by decide +kernel⟩
    cases hroot with
    | data _ hdata =>
      cases hdata
      rfl

open Sample InputRef in
/-- The last key of the path is the name, but nothing is there under it: the value stands under the whole path. -/
theorem path_with_a_colon_names_no_key :
    promptOfLead.config.get? "aiInputs" = some (.array [.string (text ⟨false, "lead:name"⟩)]) ∧
      (Path.keys "lead:name").getLast? = some "name" ∧ Supplies calling ⟨false, "lead:name"⟩ (.string "Ada") ∧
      (gatherInputs promptOfLead calling).get? "name" = none ∧
      (gatherInputs promptOfLead calling).get? "lead:name" = some (.string "Ada") := by
  have hinputs : promptOfLead.config.get? "aiInputs" =
      some (.array (([⟨false, "lead:name"⟩] : List InputRef).map fun r => .string r.text)) := rfl
  have hgathered : gatherInputs promptOfLead calling = [("lead:name", .string "Ada")] := by
    rw [gatherInputs_eq hinputs (by decide +kernel)]
    rfl
  refine ⟨hinputs, by decide +kernel, .found (.data nofun rfl) rfl, ?_, ?_⟩
  · rw [hgathered]
    rfl
  · rw [hgathered]
    rfl

end Handler

end Stepflow
