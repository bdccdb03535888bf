import Resonate.Commuting
import Resonate.Lapses

set_option autoImplicit false

/-! Deadlines as updates of what the store stands at: the deadline of each promise is one update,
and these updates commute. -/

namespace Resonate

open Kernel

/-- The task apart from the id of its job. -/
def StoredTask.unnumbered (task : StoredTask) : StoredTask := { task with job := none }

/-- The task once the settlement of `awaited` reached it, apart from the id of its job. -/
def StoredTask.roused (awaited : String) (task : StoredTask) : StoredTask :=
  (task.resumed awaited .fanout 0).unnumbered

namespace StoredTask

theorem resumed_unnumbered (awaited : String) (job : Nat) (task : StoredTask) :
    (task.resumed awaited .fanout job).unnumbered = task.unnumbered.roused awaited := by
  cases state : task.state <;> simp [roused, resumed, unnumbered, transition, state]

theorem fulfilled_unnumbered (task : StoredTask) :
    task.fulfilled.unnumbered = task.unnumbered.fulfilled := by
  by_cases state : task.state = .fulfilled
  · simp [fulfilled, unnumbered, state]
  · simp [fulfilled, unnumbered, transition, state]

/-- The order in which two settlements reach a task does not matter. -/
theorem roused_comm (first second : String) (task : StoredTask) :
    (task.roused first).roused second = (task.roused second).roused first := by
  cases state : task.state <;>
    simp [roused, resumed, unnumbered, transition, state, Finset.pair_comm, Finset.insert_comm]

theorem roused_suspended (awaited : String) (task : StoredTask) :
    (task.roused awaited).state ≠ .suspended :=
  resumed_ne_suspended awaited 0 task

end StoredTask

/-- What the store stands at, apart from job ids: its promises and tasks, the claims it keeps, how
often it dispatched each task, and the messages it enqueued. -/
@[ext]
structure Standing where
  promise : String → Option StoredPromise
  task : String → Option StoredTask
  held : String → Option Claim
  dispatches : String → Nat
  messages : Multiset (String × Payload)

namespace Standing

variable (env : Env) (now : Int) (standing : Standing)

/-- Whether a promise is pending and not past its deadline. -/
def isOpen (id : String) : Bool :=
  (standing.promise id).any fun promise =>
    promise.record.isPending && decide (now < promise.record.timeoutAt)

def suspended (id : String) : Bool := (standing.task id).any (·.state = .suspended)

def unfulfilled (id : String) : Bool := (standing.task id).any (·.state ≠ .fulfilled)

/-- The awaiters a settlement reaches. -/
def reaches (promise : StoredPromise) (id : String) : Bool :=
  decide (id ∈ promise.callbacks) && standing.isOpen now id

/-- The deadline of an overdue promise. -/
def lapse (id : String) (promise : StoredPromise) : Standing where
  promise other := if other = id then some (expiredPromise promise).cleared
    else standing.promise other
  task other :=
    if other = id then (standing.task other).map StoredTask.fulfilled
    else if standing.reaches now promise other then
      (standing.task other).map (StoredTask.roused id)
    else standing.task other
  held other := if other = id ∧ standing.unfulfilled id then none else standing.held other
  dispatches other := standing.dispatches other +
    if other ≠ id ∧ standing.reaches now promise other ∧ standing.suspended other then 1 else 0
  messages := standing.messages + Multiset.ofList (promise.listeners.map fun address =>
    (Keys.addressQueue env address, .unblock (.unblock (expiredPromise promise).record)))

/-- The promise under `id`, if its deadline has passed. -/
def overdue (id : String) : Option StoredPromise :=
  (standing.promise id).filter fun promise => promise.record.Overdue now

/-- Apply the deadline of one promise. -/
def strike (id : String) : Standing :=
  match standing.overdue now id with
  | some promise => standing.lapse env now id promise
  | none => standing

variable {env now standing} {id other : String} {promise second : StoredPromise}

theorem overdue_iff : standing.overdue now id = some promise ↔
    standing.promise id = some promise ∧ promise.record.Overdue now := by
  simp [overdue, Option.filter_eq_some_iff]

theorem closed_of_overdue (due : standing.overdue now id = some promise) :
    standing.isOpen now id = false := by
  obtain ⟨stored, pending, late⟩ := overdue_iff.mp due
  simp [isOpen, stored, late]

theorem unreached_of_overdue (due : standing.overdue now id = some promise) :
    standing.reaches now second id = false := by
  simp [reaches, closed_of_overdue due]

/-- A deadline opens and closes no promise. -/
theorem isOpen_lapse (due : standing.overdue now id = some promise) :
    (standing.lapse env now id promise).isOpen now = standing.isOpen now := by
  funext other
  by_cases own : other = id
  · subst own
    rw [closed_of_overdue due]
    simp [isOpen, lapse, StoredPromise.cleared]
  · simp [isOpen, lapse, own]

theorem reaches_lapse (due : standing.overdue now id = some promise) (second : StoredPromise) :
    (standing.lapse env now id promise).reaches now second = standing.reaches now second := by
  funext other
  rw [reaches, reaches, isOpen_lapse due]

theorem overdue_lapse (apart : other ≠ id) :
    (standing.lapse env now id promise).overdue now other = standing.overdue now other := by
  simp [overdue, lapse, apart]

theorem overdue_own : (standing.lapse env now id promise).overdue now id = none := by
  simp [overdue, lapse, StoredPromise.cleared, PromiseRecord.Overdue]

/-- A deadline that has been applied is not applied again. -/
theorem strike_strike (env : Env) (now : Int) (standing : Standing) (id : String) :
    (standing.strike env now id).strike env now id = standing.strike env now id := by
  cases due : standing.overdue now id with
  | none => simp only [strike, due]
  | some promise => simp only [strike, due, overdue_own]

/-- A task an update reaches is not suspended after it. -/
theorem suspended_lapse (apart : other ≠ id) :
    (standing.lapse env now id promise).suspended other =
      (standing.suspended other && !standing.reaches now promise other) := by
  simp only [suspended, lapse, if_neg apart]
  cases found : standing.task other with
  | none => simp
  | some task =>
      by_cases reached : standing.reaches now promise other = true
      · simp [reached, StoredTask.roused_suspended]
      · simp [reached]

theorem unfulfilled_lapse (due : standing.overdue now other = some second) (apart : other ≠ id) :
    (standing.lapse env now id promise).unfulfilled other = standing.unfulfilled other := by
  simp [unfulfilled, lapse, apart, unreached_of_overdue due]

theorem task_lapse (each : String) : (standing.lapse env now id promise).task each =
    if each = id then (standing.task each).map StoredTask.fulfilled
    else if standing.reaches now promise each then (standing.task each).map (StoredTask.roused id)
    else standing.task each := rfl

/-- Two deadlines can be applied in either order. -/
theorem lapse_comm {first : StoredPromise} (apart : other ≠ id)
    (due : standing.overdue now id = some first) (later : standing.overdue now other = some second) :
    (standing.lapse env now id first).lapse env now other second =
      (standing.lapse env now other second).lapse env now id first := by
  have sealed (promise : StoredPromise) : standing.reaches now promise id = false :=
    unreached_of_overdue due
  have closed (promise : StoredPromise) : standing.reaches now promise other = false :=
    unreached_of_overdue later
  have reached : (standing.lapse env now id first).reaches now second = _ := reaches_lapse due second
  have reachedToo : (standing.lapse env now other second).reaches now first = _ :=
    reaches_lapse later first
  ext1
  · funext each
    by_cases own : each = id
    · simp [lapse, own, apart.symm]
    · simp [lapse, own]
  · funext each
    rw [task_lapse, task_lapse, task_lapse, task_lapse, reached, reachedToo]
    by_cases own : each = id
    · simp [own, apart.symm, sealed]
    · by_cases same : each = other
      · simp [same, apart, closed]
      · by_cases left : standing.reaches now first each = true
        · by_cases right : standing.reaches now second each = true
          · simp only [own, same, left, right, if_true, if_false, Option.map_map]
            congr 1
            funext task
            exact StoredTask.roused_comm id other task
          · simp [own, same, left, right]
        · simp [own, same, left]
  · funext each
    change (if each = other ∧ (standing.lapse env now id first).unfulfilled other then none
        else if each = id ∧ standing.unfulfilled id then none else standing.held each) =
      if each = id ∧ (standing.lapse env now other second).unfulfilled id then none
        else if each = other ∧ standing.unfulfilled other then none else standing.held each
    rw [unfulfilled_lapse later apart, unfulfilled_lapse due apart.symm]
    by_cases own : each = id ∧ standing.unfulfilled id = true
    · simp [own]
    · simp [own]
  · funext each
    change standing.dispatches each +
          (if each ≠ id ∧ standing.reaches now first each ∧ standing.suspended each then 1 else 0) +
        (if each ≠ other ∧ (standing.lapse env now id first).reaches now second each ∧
          (standing.lapse env now id first).suspended each then 1 else 0) =
      standing.dispatches each +
          (if each ≠ other ∧ standing.reaches now second each ∧ standing.suspended each then 1 else 0) +
        (if each ≠ id ∧ (standing.lapse env now other second).reaches now first each ∧
          (standing.lapse env now other second).suspended each then 1 else 0)
    rw [reached, reachedToo]
    by_cases own : each = id
    · simp [own, sealed]
    · by_cases same : each = other
      · simp [same, closed]
      · rw [suspended_lapse own, suspended_lapse same]
        cases standing.suspended each <;> cases standing.reaches now first each <;>
          cases standing.reaches now second each <;> simp [own, same]
  · exact add_right_comm _ _ _

theorem strike_due (due : standing.overdue now id = some promise) :
    standing.strike env now id = standing.lapse env now id promise := by
  simp only [strike, due]

theorem strike_early (early : standing.overdue now id = none) :
    standing.strike env now id = standing := by
  simp only [strike, early]

theorem overdue_strike (apart : other ≠ id) :
    (standing.strike env now id).overdue now other = standing.overdue now other := by
  cases due : standing.overdue now id with
  | none => rw [strike_early due]
  | some promise => rw [strike_due due, overdue_lapse apart]

/-- Deadlines commute. -/
theorem strike_comm (env : Env) (now : Int) (standing : Standing) (id other : String) :
    (standing.strike env now id).strike env now other =
      (standing.strike env now other).strike env now id := by
  by_cases apart : other = id
  · rw [apart]
  · have kept : (standing.strike env now id).overdue now other = standing.overdue now other :=
      overdue_strike apart
    have keptToo : (standing.strike env now other).overdue now id = standing.overdue now id :=
      overdue_strike (Ne.symm apart)
    cases due : standing.overdue now id with
    | none => rw [strike_early due, strike_early (keptToo.trans due)]
    | some first =>
        cases later : standing.overdue now other with
        | none => rw [strike_early later, strike_early (kept.trans later)]
        | some second =>
            rw [strike_due (keptToo.trans due), strike_due (kept.trans later), strike_due due,
              strike_due later]
            exact lapse_comm apart due later

end Standing

end Resonate
