/-
  Stepflow.Proofs.Reach — the steps that a run can come to.

  (1) A step is among others if it is one of them or below one of them (`Step.Among`); the
  trees of the others list those (`Step.mem_trees`). Steps have as many levels as the
  longest way down from one of them is long (`Step.levels`).

  (2) A built-in handler asks for steps of one level further down only, those right below
  its own (`Ask.Below`): a condition for a branch, a loop for all of them, and nobody else
  asks for any (`Registered.asks_below`).

  (3) So over a registry of built-in handlers (`Registry.OfBuiltIns`), whichever of them
  are registered and under which keys, a run invokes only steps that are among those of
  its list (`among_of_mem`).
-/

import Stepflow.Proofs.Siblings

namespace Stepflow

open Services

/-! ## (1) Steps among others -/

theorem mem_ordered {steps : List Step} {s : Step} : s ∈ ordered steps ↔ s ∈ steps :=
  (ordered_ranked steps).perm.mem_iff

theorem Engine.stepsFrom?_subset {all steps : List Step} {id : String} (h : stepsFrom? all id = some steps) :
    steps ⊆ all := by
  unfold stepsFrom? at h
  split at h
  · cases h
  · cases h
    exact (List.dropWhile_sublist _).subset

namespace Step

inductive Among (steps : List Step) : Step → Prop
  | top {s : Step} : s ∈ steps → Among steps s
  | child {p s : Step} : Among steps p → s ∈ p.children → Among steps s

theorem Among.mono {steps more : List Step} {s : Step} (h : Among steps s) (hsub : steps ⊆ more) : Among more s := by
  induction h with
  | top hs => exact .top (hsub hs)
  | child _ hs ih => exact .child ih hs

/-- What is among the steps below one of others is among the others. -/
theorem Among.trans {steps : List Step} {p s : Step} (hp : Among steps p) (h : Among p.children s) : Among steps s := by
  induction h with
  | top hs => exact .child hp hs
  | child _ hs ih => exact .child ih hs

theorem tree_eq (s : Step) : tree s = s :: trees s.children := by
  cases s
  rfl

theorem trees_cons (s : Step) (rest : List Step) : trees (s :: rest) = s :: (trees s.children ++ trees rest) := by
  rw [trees, tree_eq, List.cons_append]

/-- What holds of no step, and of one and others after it when it holds of the steps below
    the one and of the others, holds of every list of steps. -/
theorem forest_induction {P : List Step → Prop} (nil : P [])
    (cons : ∀ s rest, P s.children → P rest → P (s :: rest)) (steps : List Step) : P steps := by
  induction hn : (trees steps).length using Nat.strongRecOn generalizing steps with
  | ind n ih =>
    cases steps with
    | nil => exact nil
    | cons s rest =>
      rw [trees_cons, List.length_cons, List.length_append] at hn
      exact cons s rest (ih _ (by omega) s.children rfl) (ih _ (by omega) rest rfl)

theorem among_of_mem_trees (steps : List Step) : ∀ s ∈ trees steps, Among steps s := by
  induction steps using forest_induction with
  | nil => exact fun s hs => nomatch hs
  | cons t rest ihbelow ihrest =>
    intro s hs
    have ht : Among (t :: rest) t := .top (List.mem_cons_self ..)
    rw [trees_cons, List.mem_cons, List.mem_append] at hs
    rcases hs with rfl | hs | hs
    · exact ht
    · exact ht.trans (ihbelow s hs)
    · exact (ihrest s hs).mono fun _ => List.mem_cons_of_mem t

theorem mem_trees_of_mem {steps : List Step} {s : Step} (hs : s ∈ steps) : s ∈ trees steps := by
  induction steps with
  | nil => cases hs
  | cons t rest ih =>
    rw [trees_cons, List.mem_cons, List.mem_append]
    rcases List.mem_cons.mp hs with rfl | hs
    · exact .inl rfl
    · exact .inr (.inr (ih hs))

theorem mem_trees_below (steps : List Step) : ∀ p ∈ trees steps, ∀ s ∈ p.children, s ∈ trees steps := by
  induction steps using forest_induction with
  | nil => exact fun p hp => nomatch hp
  | cons t rest ihbelow ihrest =>
    intro p hp s hs
    rw [trees_cons, List.mem_cons, List.mem_append] at hp ⊢
    rcases hp with rfl | hp | hp
    · exact .inr (.inl (mem_trees_of_mem hs))
    · exact .inr (.inl (ihbelow p hp s hs))
    · exact .inr (.inr (ihrest p hp s hs))

/-- The trees of steps list what is among them. -/
theorem mem_trees {steps : List Step} {s : Step} : s ∈ trees steps ↔ Among steps s := by
  refine ⟨among_of_mem_trees steps s, fun h => ?_⟩
  induction h with
  | top hs => exact mem_trees_of_mem hs
  | child _ hs ih => exact mem_trees_below steps _ ih _ hs

mutual

def height : Step → Nat
  | ⟨_, _, _, children, _, _⟩ => levels children + 1

/-- The levels of steps; no steps have none. -/
def levels : List Step → Nat
  | [] => 0
  | s :: rest => max (height s) (levels rest)

end

theorem height_eq (s : Step) : height s = levels s.children + 1 := by
  cases s
  rfl

theorem levels_le {steps : List Step} {n : Nat} : levels steps ≤ n ↔ ∀ s ∈ steps, height s ≤ n := by
  induction steps with
  | nil => simp [levels]
  | cons s rest ih => rw [levels, Nat.max_le, ih, List.forall_mem_cons]

theorem levels_mono {steps more : List Step} (h : steps ⊆ more) : levels steps ≤ levels more :=
  levels_le.mpr fun s hs => levels_le.mp (Nat.le_refl _) s (h hs)

/-- Steps below one of others have fewer levels than the others. -/
theorem levels_lt_of_below {steps list : List Step} {s : Step} (hs : s ∈ steps) (hlist : list ⊆ s.children) :
    levels list < levels steps :=
  calc levels list ≤ levels s.children := levels_mono hlist
    _ < height s := by rw [height_eq]; exact Nat.lt_succ_self _
    _ ≤ levels steps := levels_le.mp (Nat.le_refl _) s hs

end Step

/-! ## (2) Steps that are asked for -/

def Ask.Below (step : Step) : Ask → Prop
  | .runSteps steps _ => steps ⊆ step.children
  | _ => True

namespace Handler

theorem mem_branch {step child : Step} {holds : Bool} :
    child ∈ branch step holds ↔ child ∈ step.children ∧ branchOf child = holds := by
  rw [branch, List.mem_filter, Step.orderedChildren, mem_ordered, beq_iff_eq]

theorem Registered.asks_below {key : String} {h : Handler} (hh : Registered key h) (step : Step) (ctx : Context) :
    (h step ctx).AsksOnly (Ask.Below step) := by
  rcases hh.kind with hl | ⟨-, rfl⟩ | ⟨-, rfl⟩
  · refine (hl.asks step ctx).mono fun q hq => ?_
    cases q with
    | runSteps steps given => cases hq
    | _ => trivial
  · exact condition_asks step ctx fun _ => fun s hs => (mem_branch.mp hs).1
  · exact forEach_asks step ctx fun _ => fun s hs => mem_ordered.mp hs

end Handler

/-! ## (3) Steps that are invoked -/

def Registry.OfBuiltIns (r : Registry Handler) : Prop :=
  ∀ step h, r.resolve step = .ok h → ∃ key, Handler.Registered key h

theorem Handler.registry_ofBuiltIns : Handler.registry.OfBuiltIns := fun step _ hr =>
  ⟨step.handlerKey, registered_of_resolve hr⟩

namespace Engine

variable {σ : Type} {e : Engine σ}

theorem handling_asks_below (he : e.registry.OfBuiltIns) (step : Step) (ctx : Context) :
    (e.handling step ctx).AsksOnly (Ask.Below step) := by
  unfold handling
  split
  · exact .done _
  · rename_i h hr
    obtain ⟨key, hh⟩ := he step h hr
    exact hh.asks_below step ctx

theorem steps_below_of_mem_calls (he : e.registry.OfBuiltIns) {nested : Scope → Nested σ} {below : Scope → Recorder σ}
    {scope : Scope} {step : Step} {ctx : Context} {w : World σ} {c : Call σ}
    (hc : c ∈ (e.recordStep nested below scope step ctx w).calls) : c.steps ⊆ step.children := by
  obtain ⟨x, hx, hcall⟩ := List.mem_filterMap.mp hc
  have hbelow := (handling_asks_below he step ctx).of_mem hx
  obtain ⟨v, q, a⟩ := x
  cases q with
  | runSteps steps given =>
    simp only [Exchange.call?, Option.some.injEq] at hcall
    subst hcall
    exact hbelow
  | _ => simp [Exchange.call?] at hcall

/-- Every invocation, at any depth, is of a step among those of the list. -/
theorem among_of_mem (he : e.registry.OfBuiltIns) (depth : Nat) (scope : Scope) (steps : List Step) (ctx : Context)
    (w : World σ) : ∀ i ∈ Invocation.preorder (e.recordNested depth scope steps ctx w), Step.Among steps i.step := by
  have hbelow : ∀ p ∈ Invocation.preorder (e.recordNested depth scope steps ctx w),
      ∀ k ∈ p.children, k.step ∈ p.step.children := by
    refine e.record_forall (Q := fun _ p => ∀ k ∈ p.children, k.step ∈ p.step.children) ?_ (fun _ _ _ h => h)
      depth scope steps ctx w
    intro depth scope step ctx w k hk
    obtain ⟨c, hc, hkc⟩ := List.mem_flatMap.mp hk
    obtain ⟨v, -, -, hran⟩ := e.of_mem_calls _ _ scope hc
    exact steps_below_of_mem_calls he hc (e.step_of_mem (hran ▸ hkc))
  refine Invocation.forall_of_descent _ (fun i hi => .top (e.step_of_mem hi)) fun p hp hamong k hk => ?_
  exact hamong.child (hbelow p hp k hk)

end Engine

end Stepflow
