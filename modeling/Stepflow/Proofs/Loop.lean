/-
  Stepflow.Proofs.Loop — a loop keeps its iterations apart.

  Of whoever runs the steps below a loop two things are taken for granted (`Adds`): each
  list that the loop asks for is run, and the context that it leaves has the outputs that
  it was handed, then its own. Whatever else is written there, the key `loop` included:

  (1) An iteration (`Lap`) is handed the data of its item, the outputs that came before
  and, for the rest, the context of the loop; nothing else that an earlier iteration
  wrote is there.

  (2) `iterate_laps` goes from one iteration to the next: what the first one put out is
  the only difference between the context of the loop and the one that the second
  iteration copies (`Lap.after`).

  `loop_keeps_its_iterations_apart` says it of the loop: one list per item, in order, and
  a context in which only the outputs have grown.
-/

import Stepflow.Proofs.Trail
import Mathlib.Algebra.GroupWithZero.Nat

namespace Stepflow

open Services

/-! ## Lists asked for -/

namespace Exchange

variable {S : Type}

/-- The outputs of a list that was run: those of the context it left beyond those of the
    context it was handed. -/
def produced : Exchange S → List Value
  | ⟨_, .runSteps _ given, (.ok _, left)⟩ => (Context.stepEntries left).drop (Context.stepEntries given).length
  | _ => []

def failedCount : Exchange S → Nat
  | ⟨_, .runSteps _ _, (.ok run, _)⟩ => run.failedCount
  | _ => 0

/-- If steps were asked for, they were run, and what they left has the outputs that they
    were handed and more. -/
def Adds : Exchange S → Prop
  | ⟨_, .runSteps _ given, (.ok _, left)⟩ => Context.stepEntries given <+: Context.stepEntries left
  | ⟨_, .runSteps _ _, (.error _, _)⟩ => False
  | _ => True

end Exchange

/-- A list of steps run for an iteration with such data, on a context that has `before`
    after its outputs and is `ctx` at all other keys. -/
inductive Lap {S : Type} (children : List Step) (ctx : Context) (data : Value) (before : List Value) :
    Exchange S → Prop
  | mk {s : S} {given left : Context} {run : StepsRun} :
      given.get? Context.loopKey = some data → Context.stepEntries given = Context.stepEntries ctx ++ before →
      (∀ key, key ≠ Context.stepsKey → key ≠ Context.loopKey → given.get? key = ctx.get? key) →
      Context.stepEntries given <+: Context.stepEntries left →
      Lap children ctx data before ⟨s, .runSteps children given, (.ok run, left)⟩

namespace Lap

variable {S : Type} {children : List Step} {ctx : Context} {data : Value} {before more : List Value} {x : Exchange S}

/-- An iteration on a context that earlier ones have added to is one on the context
    before them. -/
theorem after (h : Lap children (Context.appendEntries ctx before) data more x) :
    Lap children ctx data (before ++ more) x := by
  cases h with
  | mk hdata hentries hrest hleft =>
    refine .mk hdata ?_ (fun key hs hl => ?_) hleft
    · rw [hentries, Context.stepEntries_appendEntries, List.append_assoc]
    · rw [hrest key hs hl, Context.get?_appendEntries ctx before hs]

end Lap

/-! ## From one iteration to the next -/

section Iterations

variable {S : Type} {answer : (q : Ask) → S → q.Answer × S} (children : List Step) (count : Nat)

/-- The first iteration, and the loop from the second on. -/
theorem iterate_next (index : Nat) (item : Value) (items : List Value) (ctx : Context) (failed : Nat) (s : S)
    (hadds : ∀ x ∈ (Handler.iterate children count index (item :: items) ctx failed).exchanges answer s, x.Adds) :
    ∃ x s', Lap children ctx (Handler.loopData item index count) [] x ∧
      (Handler.iterate children count index (item :: items) ctx failed).exchanges answer s =
        x :: (Handler.iterate children count (index + 1) items (Context.appendEntries ctx x.produced)
          (failed + x.failedCount)).exchanges answer s' ∧
      (Handler.iterate children count index (item :: items) ctx failed).run answer s =
        (Handler.iterate children count (index + 1) items (Context.appendEntries ctx x.produced)
          (failed + x.failedCount)).run answer s' := by
  have hfirst := hadds _ (by
    simp only [Handler.iterate, Task.exchanges_ask]
    exact List.mem_cons_self ..)
  generalize ha : answer (.runSteps children (ctx.insert Context.loopKey (Handler.loopData item index count))) s = a
    at hfirst
  obtain ⟨⟨result, left⟩, s'⟩ := a
  cases result with
  | error err => exact hfirst.elim
  | ok run =>
    refine ⟨⟨s, .runSteps children (ctx.insert Context.loopKey (Handler.loopData item index count)), (.ok run, left)⟩,
      s', .mk ?_ ?_ (fun key _ hl => ?_) hfirst, ?_, ?_⟩
    · rw [Table.get?_insert, if_pos rfl]
    · rw [Context.stepEntries_insert ctx _ (by decide), List.append_nil]
    · rw [Table.get?_insert, if_neg (Ne.symm hl)]
    · simp only [Handler.iterate, Task.exchanges_ask, ha]
      rfl
    · simp only [Handler.iterate, Task.run_ask, ha]
      rfl

/-- The iterations from `index` on, one for each item. -/
theorem iterate_laps (index : Nat) (items : List Value) (ctx : Context) (failed : Nat) (s : S)
    (hadds : ∀ x ∈ (Handler.iterate children count index items ctx failed).exchanges answer s, x.Adds) :
    let asked := (Handler.iterate children count index items ctx failed).exchanges answer s
    let out := ((Handler.iterate children count index items ctx failed).run answer s).1
    asked.length = items.length ∧
      (∀ i item, items[i]? = some item → ∃ x, asked[i]? = some x ∧
        Lap children ctx (Handler.loopData item (index + i) count) ((asked.take i).flatMap (·.produced)) x) ∧
      Context.stepEntries out.2 = Context.stepEntries ctx ++ asked.flatMap (·.produced) ∧
      (∀ key, key ≠ Context.stepsKey → out.2.get? key = ctx.get? key) ∧
      out.1 = .ok (failed + (asked.map (·.failedCount)).sum) := by
  induction items generalizing index ctx failed s with
  | nil => simp [Handler.iterate]
  | cons item items ih =>
    obtain ⟨x, s', hlap, hasked, hrun⟩ := iterate_next children count index item items ctx failed s hadds
    obtain ⟨hlen, hlaps, hentries, hrest, hresult⟩ :=
      ih (index + 1) (Context.appendEntries ctx x.produced) (failed + x.failedCount) s' fun y hy =>
        hadds y (hasked ▸ List.mem_cons_of_mem x hy)
    simp only [hasked, hrun]
    refine ⟨?_, fun i item' hi => ?_, ?_, fun key hkey => ?_, ?_⟩
    · rw [List.length_cons, List.length_cons, hlen]
    · cases i with
      | zero =>
        rw [List.getElem?_cons_zero, Option.some.injEq] at hi
        subst hi
        exact ⟨x, rfl, hlap⟩
      | succ i =>
        rw [List.getElem?_cons_succ] at hi
        obtain ⟨y, hy, hlap'⟩ := hlaps i item' hi
        refine ⟨y, hy, ?_⟩
        rw [List.take_succ_cons, List.flatMap_cons, show index + (i + 1) = index + 1 + i by omega]
        exact hlap'.after
    · rw [hentries, Context.stepEntries_appendEntries, List.append_assoc, List.flatMap_cons]
    · rw [hrest key hkey, Context.get?_appendEntries ctx _ hkey]
    · rw [hresult, List.map_cons, List.sum_cons, Nat.add_assoc]

end Iterations

/-! ## The loop -/

theorem loopItems_of_resolve {path : String} {ctx : Context} {v : Value} {items : List Value}
    (hv : Fields.resolve ctx path = some v)
    (hitems : v = .array items ∨ ∃ text, v = .string text ∧ Json.parse text = .ok (.array items)) :
    Handler.loopItems path ctx = .ok items := by
  rcases hitems with rfl | ⟨text, rfl, hparse⟩
  · simp only [Handler.loopItems, hv]
  · simp only [Handler.loopItems, hv, hparse]

/-- A loop over `n` items asks for `n` lists, one after the other. The `i`-th is that of
    its children in their order, on a context with the data of the `i`-th item, the
    outputs of the loop's context, then those of the lists before, and the loop's context
    at all other keys. In the context that the loop leaves, only the outputs have grown, by
    those of the lists in their order; the data of a loop around it is as it was. The loop
    succeeds and counts the steps that failed, however many did and whatever was aborted. -/
theorem loop_keeps_its_iterations_apart {S : Type} {answer : (q : Ask) → S → q.Answer × S} {step : Step} {ctx : Context}
    {path : String} {v : Value} {items : List Value} {s : S} (hpath : Handler.loopPath? step = some path)
    (hv : Fields.resolve ctx path = some v)
    (hitems : v = .array items ∨ ∃ text, v = .string text ∧ Json.parse text = .ok (.array items))
    (hadds : ∀ x ∈ (Handler.forEach step ctx).exchanges answer s, x.Adds) :
    let asked := (Handler.forEach step ctx).exchanges answer s
    let out := ((Handler.forEach step ctx).run answer s).1
    asked.length = items.length ∧
      (∀ i item, items[i]? = some item → ∃ x, asked[i]? = some x ∧
        Lap step.orderedChildren ctx (.record [("item", item), ("index", .count i), ("is_first", .bool (i == 0)),
          ("is_last", .bool (i + 1 == items.length))]) ((asked.take i).flatMap (·.produced)) x) ∧
      Context.stepEntries out.2 = Context.stepEntries ctx ++ asked.flatMap (·.produced) ∧
      (∀ key, key ≠ Context.stepsKey → out.2.get? key = ctx.get? key) ∧
      out.1 = .ok (.completed (.record [("iterations", .count items.length),
        ("failed_steps", .count (asked.map (·.failedCount)).sum)])) := by
  have hloop : Handler.forEach step ctx = (Handler.iterate step.orderedChildren items.length 0 items ctx 0).bind
      fun a => .done (a.1.map (Handler.loopResult items.length), a.2) := by
    simp only [Handler.forEach, hpath, loopItems_of_resolve hv hitems]
    rfl
  simp only [hloop, Task.exchanges_bind, Task.run_bind, Task.exchanges_done, Task.run_done, List.append_nil] at hadds ⊢
  obtain ⟨hlen, hlaps, hentries, hrest, hresult⟩ :=
    iterate_laps step.orderedChildren items.length 0 items ctx 0 s hadds
  refine ⟨hlen, fun i item hi => ?_, hentries, hrest, ?_⟩
  · obtain ⟨x, hx, hlap⟩ := hlaps i item hi
    rw [Nat.zero_add] at hlap
    exact ⟨x, hx, hlap⟩
  · rw [hresult, Nat.zero_add]
    rfl

namespace Sample

/-- Runs every list as one that is cut short by its first step, and spoils the context. -/
def spoil (steps : List Step) (ctx : Context) (w : World Unit) :
    (Except WorkflowError StepsRun × Context) × World Unit :=
  ((.ok { outcomes := (steps.take 1).map fun s =>
            { stepId := s.id, error := some "failed", durationMs := 0, logId := "log" }
          aborted := true },
    Context.recordOutput ((ctx.insert Context.loopKey .null).insert "items" .null) "inner" (.bool true)), w)

theorem spoil_adds (steps : List Step) (given : Context) (w : World Unit) :
    Context.stepEntries given <+: Context.stepEntries (spoil steps given w).1.2 := by
  simp only [spoil, Context.stepEntries_recordOutput]
  rw [Context.stepEntries_insert _ _ (by decide), Context.stepEntries_insert _ _ (by decide)]
  exact List.prefix_append _ _

def inner : Context := context.insert Context.loopKey (.string "outer")

end Sample

/-- The sample loop inside another one, its lists all cut short and its context spoiled by
    each: it has two iterations, and the data of the other loop stays. -/
theorem sample_loop_keeps_its_iterations_apart :
    let answer := Sample.services.answer Sample.spoil
    let asked := (Handler.forEach Sample.loop Sample.inner).exchanges answer Sample.world
    let out := ((Handler.forEach Sample.loop Sample.inner).run answer Sample.world).1
    Handler.loopPath? Sample.loop = some "items" ∧
      Fields.resolve Sample.inner "items" = some (.array [.bool true, .bool false]) ∧ (∀ x ∈ asked, x.Adds) ∧
      asked.length = 2 ∧ out.2.get? Context.loopKey = some (.string "outer") ∧
      out.1 = .ok (.completed (.record [("iterations", .count 2), ("failed_steps", .count 2)])) := by
  intro answer asked out
  have hpath : Handler.loopPath? Sample.loop = some "items" := by decide +kernel
  have hv : Fields.resolve Sample.inner "items" = some (.array [.bool true, .bool false]) := by rfl
  have hadds : ∀ x ∈ asked, x.Adds := by
    intro x hx
    obtain ⟨w, q, a⟩ := x
    have ha : a = (answer q w).1 := Task.answer_of_mem_exchanges answer hx
    subst ha
    cases q with
    | runSteps steps given => exact Sample.spoil_adds steps given w
    | _ => trivial
  obtain ⟨hlen, -, -, hrest, hresult⟩ := loop_keeps_its_iterations_apart hpath hv (.inl rfl) hadds
  refine ⟨hpath, hv, hadds, hlen, ?_, ?_⟩
  · rw [hrest _ (by decide)]
    rfl
  · rw [hresult]
    rfl

end Stepflow
