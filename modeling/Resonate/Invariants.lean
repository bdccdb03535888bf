import Resonate.Runs

set_option autoImplicit false

/-! The rules by which invariants of the stored records are proved: each move preserves them,
so every step and every run does. -/

namespace Resonate

open Kernel
open LeaseQueue (Queue)

/-- The records as functions of their ids. -/
@[ext] structure Views where
  promise : String → Option StoredPromise
  task : String → Option StoredTask
  schedule : String → Option ScheduleRecord

def Views.empty : Views := ⟨fun _ => none, fun _ => none, fun _ => none⟩

def Txn.views (txn : Txn) : Views := ⟨txn.getPromise, txn.getTask, txn.getSchedule⟩

def System.views (system : System) : Views := ⟨system.promise, system.task, system.schedule⟩

/-- Changes of one cell, each of which is permitted. -/
inductive CellTrail (env : Env) (permits : Label → Prop) (now : Int) (id : String) :
    Cell → Cell → Prop
  | refl (cell : Cell) : CellTrail env permits now id cell cell
  | step {first second third : Cell} (label : Label) (permitted : permits label)
      (change : Change env now id label first second)
      (rest : CellTrail env permits now id second third) :
      CellTrail env permits now id first third

section

variable {env : Env} {before after system : System} {event : Event}

theorem views_txn : (system.txn env).views = system.views := by
  unfold Txn.views System.views
  rw [System.getPromise_txn, System.getTask_txn, System.getSchedule_txn]

theorem Stores.views {txn : Txn} (stores : Stores txn system) : system.views = txn.views := by
  unfold Txn.views System.views
  rw [stores.promise, stores.task, stores.schedule]

theorem Stores.keyed {txn : Txn} (stores : Stores txn system) (keyed : txn.Keyed) :
    (system.txn env).Keyed := by
  refine keyed.of_views ?_ ?_ ?_
  · rw [System.getPromise_txn, stores.promise]
  · rw [System.getTask_txn, stores.task]
  · rw [System.getSchedule_txn, stores.schedule]

theorem views_of_kv (same : after.kv = before.kv) : after.views = before.views := by
  unfold System.views
  ext id
  · unfold System.promise
    rw [same]
  · unfold System.task
    rw [same]
  · unfold System.schedule
    rw [same]

theorem keyed_of_kv (same : after.kv = before.kv) (keyed : (before.txn env).Keyed) :
    (after.txn env).Keyed := by
  have views : (after.txn env).views = (before.txn env).views := by
    rw [views_txn, views_txn, views_of_kv same]
  exact keyed.of_views (congrArg Views.promise views) (congrArg Views.task views)
    (congrArg Views.schedule views)

theorem empty_views : System.empty.views = Views.empty := by
  unfold System.views
  ext id <;> rfl

theorem empty_keyed : (System.empty.txn env).Keyed := by
  refine ⟨?_, ?_, ?_⟩
  all_goals
    intro id stored found
    cases found

theorem Step.keyed (keyed : (before.txn env).Keyed) (step : Step env before event after) :
    (after.txn env).Keyed := by
  rcases step.records keyed with same | ⟨txn, committed⟩
  · exact keyed_of_kv same keyed
  · exact committed.stores.keyed (committed.trail.keyed keyed)

/-- In every reachable state each record lies under its own id. -/
theorem Reachable.keyed (reached : Reachable env system) : (system.txn env).Keyed :=
  Machine.Reachable.invariant (fun system => (system.txn env).Keyed) reached empty_keyed
    fun _ _ _ _ keyed taken => (step_cases taken).keyed keyed

/-! ## Cells -/

/-- What every permitted change preserves, a trail of changes preserves. -/
theorem CellTrail.preserves {permits : Label → Prop} {now : Int} {id : String}
    (invariant : Cell → Prop) {first second : Cell}
    (trail : CellTrail env permits now id first second) (holds : invariant first)
    (each : ∀ label before after, permits label → Change env now id label before after →
      invariant before → invariant after) : invariant second := by
  induction trail with
  | refl cell => exact holds
  | step label permitted change rest ih => exact ih (each _ _ _ permitted change holds)

/-- A relation that every permitted change respects relates the ends of a trail. -/
theorem CellTrail.respects {permits : Label → Prop} {now : Int} {id : String}
    (relation : Cell → Cell → Prop) {first second : Cell}
    (trail : CellTrail env permits now id first second) (refl : ∀ cell, relation cell cell)
    (trans : ∀ first second third, relation first second → relation second third →
      relation first third)
    (each : ∀ label before after, permits label → Change env now id label before after →
      relation before after) : relation first second := by
  induction trail with
  | refl cell => exact refl cell
  | step label permitted change rest ih =>
      exact trans _ _ _ (each _ _ _ permitted change) ih

theorem Trail.cells {permits : Label → Prop} {txn next : Txn}
    (trail : Trail env permits txn next) (keyed : txn.Keyed) (id : String) :
    CellTrail env permits txn.now id (txn.cell id) (next.cell id) := by
  induction trail with
  | refl txn => exact .refl _
  | step label permitted move rest ih =>
      have later := ih (move.keyed keyed)
      rw [move.fixed.now] at later
      exact .step label permitted (move.change keyed id) later

/-- A step takes every cell along a trail of changes the event permits. -/
theorem Step.cells (keyed : (before.txn env).Keyed) (step : Step env before event after)
    (id : String) :
    CellTrail env event.permits before.now id (before.cell id) (after.cell id) := by
  rcases step.records keyed with same | ⟨txn, committed⟩
  · have cell : after.cell id = before.cell id := by
      have views := views_of_kv same
      unfold System.cell
      rw [show after.promise = before.promise from congrArg Views.promise views,
        show after.task = before.task from congrArg Views.task views]
    rw [cell]
    exact .refl _
  · rw [committed.stores.cell, ← System.cell_txn env before]
    exact committed.trail.cells keyed id

theorem step_cells (reached : Reachable env before) (taken : step env before event = some after)
    (id : String) :
    CellTrail env event.permits before.now id (before.cell id) (after.cell id) :=
  (step_cases taken).cells reached.keyed id

/-- The invariant rule for what one id holds. -/
theorem Reachable.cell_invariant (invariant : String → Cell → Prop)
    (reached : Reachable env system) (base : ∀ id, invariant id ⟨none, none⟩)
    (each : ∀ now id label before after, Change env now id label before after →
      invariant id before → invariant id after) (id : String) :
    invariant id (system.cell id) := by
  refine Machine.Reachable.invariant (fun system => invariant id (system.cell id)) reached
    (base id) ?_
  intro before label after reached holds taken
  exact (step_cells reached taken id).preserves (invariant id) holds
    fun label before after _ change held => each _ _ _ _ _ change held

/-! ## All records -/

/-- The invariant rule for all records at a time, over runs whose steps meet a condition. The
condition on a change of the clock says which later times the invariant must survive. -/
theorem History.views_invariant {condition : System → Event → Prop}
    (invariant : Int → Views → Prop) {past : List (Machine.Entry System Event)}
    (history : History env past system) (met : Machine.Meets condition past)
    (base : invariant System.empty.now .empty)
    (later : ∀ before time, condition before (.clock time) → invariant before.now before.views →
      invariant (min (time : Int) Text.i64Max) before.views)
    (each : ∀ (event : Event) txn label next, Txn.Keyed txn → event.permits label →
      Move env txn label next → invariant txn.now txn.views → invariant txn.now next.views) :
    invariant system.now system.views := by
  refine Machine.History.invariant (fun system => invariant system.now system.views) history met
    ?_ ?_
  · rw [empty_views]
    exact base
  · intro before event after reached holds allowed taken
    have step := step_cases taken
    rcases step.records (Reachable.keyed reached) with same | ⟨txn, committed⟩
    · rw [views_of_kv same]
      rcases step.now (Reachable.keyed reached) with now | ⟨time, rfl, now⟩
      · rw [now]
        exact holds
      · rw [now]
        exact later before time allowed holds
    · have moved : invariant txn.now txn.views := by
        refine committed.trail.preserves (fun txn => invariant txn.now txn.views)
          (Reachable.keyed reached) ?_ ?_
        · rw [views_txn]
          exact holds
        · intro first label second keyed permitted move kept
          rw [move.fixed.now]
          exact each event first label second keyed permitted move kept
      have now : txn.now = before.now := committed.trail.fixed.now
      rw [committed.stores.views, committed.now, ← now]
      exact moved

end

end Resonate
