import Resonate.LeaseQueueFacts
import Resonate.Moves

set_option autoImplicit false

/-! Moves keep every record under its own id, and trails compose. -/

namespace Resonate

open Kernel
open LeaseQueue (Queue)

namespace Txn

/-- `later` differs from `earlier` by the claims held and the leases of the queue only. -/
structure Touches (earlier later : Txn) : Prop where
  kv : later.kv = earlier.kv
  writes : later.writes = earlier.writes
  enqueues : later.enqueues = earlier.enqueues
  after : later.after = earlier.after
  now : later.now = earlier.now
  preloadLimit : later.preloadLimit = earlier.preloadLimit
  keeps : Queue.Keeps earlier.queue later.queue
  clock : later.queue.clock = earlier.queue.clock

namespace Touches

variable {earlier later : Txn}

theorem refl (txn : Txn) : Touches txn txn := ⟨rfl, rfl, rfl, rfl, rfl, rfl, .refl _, rfl⟩

theorem trans {third : Txn} (first : Touches earlier later) (second : Touches later third) :
    Touches earlier third :=
  ⟨second.kv.trans first.kv, second.writes.trans first.writes,
    second.enqueues.trans first.enqueues, second.after.trans first.after,
    second.now.trans first.now, second.preloadLimit.trans first.preloadLimit,
    first.keeps.trans second.keeps, second.clock.trans first.clock⟩

theorem getPromise (touches : Touches earlier later) : later.getPromise = earlier.getPromise := by
  funext id
  unfold Txn.getPromise
  rw [touches.kv, touches.writes]

theorem getTask (touches : Touches earlier later) : later.getTask = earlier.getTask := by
  funext id
  unfold Txn.getTask
  rw [touches.kv, touches.writes]

theorem getSchedule (touches : Touches earlier later) :
    later.getSchedule = earlier.getSchedule := by
  funext id
  unfold Txn.getSchedule
  rw [touches.kv, touches.writes]

end Touches

theorem holds_touches (txn : Txn) (task : String) : Touches txn (txn.holds task).1 := by
  unfold holds
  split
  · split
    · exact .refl txn
    · exact ⟨rfl, rfl, rfl, rfl, rfl, rfl, .refl _, rfl⟩
  · exact .refl txn

theorem holds_queue (txn : Txn) (task : String) : (txn.holds task).1.queue = txn.queue := by
  unfold holds
  split
  · split <;> rfl
  · rfl

/-- Checking a claim can only drop it. -/
theorem holds_held (txn : Txn) (task id : String) (claim : Claim)
    (found : (txn.holds task).1.held[id]? = some claim) : txn.held[id]? = some claim := by
  unfold holds at found
  split at found
  · split at found
    · exact found
    · change (txn.held.erase task)[id]? = some claim at found
      rw [Table.find_erase] at found
      split at found
      · cases found
      · exact found
  · exact found

/-- A claim that is held and live is left alone. -/
theorem holds_true {txn next : Txn} {task : String} (held : txn.holds task = (next, true)) :
    next = txn ∧ ∃ claim, txn.held[task]? = some claim := by
  unfold holds at held
  split at held
  · rename_i claim found
    split at held
    · cases held
      exact ⟨rfl, claim, found⟩
    · cases held
  · cases held

theorem renew_touches (txn : Txn) (task : String) (lease : Nat) :
    Touches txn (txn.renew task lease).1 := by
  unfold renew
  have held := holds_touches txn task
  cases checked : txn.holds task with
  | mk next result =>
      rw [checked] at held
      cases result with
      | false => exact held
      | true =>
          dsimp only
          split
          · exact held
          · split
            · rename_i queue renewed
              exact held.trans ⟨rfl, rfl, rfl, rfl, rfl, rfl, Queue.renewLease_keeps renewed,
                Queue.renewLease_clock renewed⟩
            · exact held.trans ⟨rfl, rfl, rfl, rfl, rfl, rfl, .refl _, rfl⟩

theorem claimJob_touches (txn : Txn) (task : String) (job lease : Nat) :
    Touches txn (txn.claimJob task job lease).1 := by
  unfold claimJob
  split
  · rename_i claim queue claimed
    have granted := Queue.claimById_granted claimed
    exact ⟨rfl, rfl, rfl, rfl, rfl, rfl, granted.keeps, granted.clock⟩
  · exact .refl txn

theorem Keyed.of_views {earlier later : Txn} (keyed : earlier.Keyed)
    (promises : later.getPromise = earlier.getPromise) (tasks : later.getTask = earlier.getTask)
    (schedules : later.getSchedule = earlier.getSchedule) : later.Keyed := by
  refine ⟨?_, ?_, ?_⟩
  · rw [promises]
    exact keyed.promise
  · rw [tasks]
    exact keyed.task
  · rw [schedules]
    exact keyed.schedule

theorem Touches.keyed {earlier later : Txn} (touches : Touches earlier later)
    (keyed : earlier.Keyed) : later.Keyed :=
  keyed.of_views touches.getPromise touches.getTask touches.getSchedule

theorem putTask_keyed {txn : Txn} (keyed : txn.Keyed) (task : StoredTask) :
    (txn.putTask task).Keyed := by
  refine ⟨keyed.promise, ?_, keyed.schedule⟩
  intro id stored found
  rw [getTask_putTask] at found
  split at found
  · rename_i own
    cases found
    exact own
  · exact keyed.task id stored found

theorem putSchedule_keyed {txn : Txn} (keyed : txn.Keyed) (schedule : ScheduleRecord) :
    (txn.putSchedule schedule).Keyed := by
  refine ⟨keyed.promise, keyed.task, ?_⟩
  intro id stored found
  rw [getSchedule_putSchedule] at found
  split at found
  · rename_i own
    cases found
    exact own
  · exact keyed.schedule id stored found

theorem deleteSchedule_keyed {txn : Txn} (keyed : txn.Keyed) (id : String) :
    (txn.deleteSchedule id).Keyed := by
  refine ⟨keyed.promise, keyed.task, ?_⟩
  intro other stored found
  rw [getSchedule_deleteSchedule] at found
  split at found
  · cases found
  · exact keyed.schedule other stored found

theorem dispatch_keyed {env : Env} {txn : Txn} (keyed : txn.Keyed) (task : StoredTask)
    (runAt : Option Int) : (txn.dispatch env task runAt).1.Keyed := by
  refine ⟨keyed.promise, ?_, keyed.schedule⟩
  intro id stored found
  rw [getTask_dispatch] at found
  split at found
  · rename_i own
    cases found
    exact own
  · exact keyed.task id stored found

end Txn

namespace Kernel

variable {env : Env} {txn : Txn}

theorem resumeAwaiter_keyed (keyed : txn.Keyed) (awaiter awaited : String) (wake : Wake) :
    (resumeAwaiter env txn awaiter awaited wake).Keyed := by
  refine ⟨?_, ?_, ?_⟩
  · rw [getPromise_resumeAwaiter]
    exact keyed.promise
  · intro id task found
    rw [getTask_resumeAwaiter keyed] at found
    split at found
    · obtain ⟨old, stored, rfl⟩ := Option.map_eq_some_iff.mp found
      rw [StoredTask.resumed_id]
      exact keyed.task id old stored
    · exact keyed.task id task found
  · rw [getSchedule_resumeAwaiter]
    exact keyed.schedule

theorem proceed_keyed (keyed : txn.Keyed) (task : StoredTask) :
    (proceed env txn task).Keyed := by
  unfold proceed
  dsimp only
  split
  · exact Txn.putTask_keyed keyed _
  · exact Txn.dispatch_keyed (Txn.putTask_keyed keyed _) _ _

theorem advanceSchedule_keyed (keyed : txn.Keyed) (schedule : ScheduleRecord) :
    (advanceSchedule env txn schedule).Keyed := by
  unfold advanceSchedule
  split
  · refine Txn.putSchedule_keyed ?_ _
    exact keyed.of_views rfl rfl rfl
  · exact Txn.putSchedule_keyed keyed _

/-- The promise a deadline leaves. -/
def expiredPromise (promise : StoredPromise) : StoredPromise :=
  { promise with record := { promise.record with
      state := promise.record.timeoutState
      settledAt := some promise.record.timeoutAt } }

/-- The promise a client's settlement leaves. -/
def settledPromise (promise : StoredPromise) (state : SettleState) (value : PromiseValue)
    (now : Int) : StoredPromise :=
  { promise with record := { promise.record with
      state := state.toPromiseState
      value := value
      settledAt := some now } }

theorem expirePromise_eq (promise : StoredPromise) :
    expirePromise env txn promise = settleChain env txn (expiredPromise promise) := rfl

theorem settle_eq (promise : StoredPromise) (state : SettleState) (value : PromiseValue) :
    settle env txn promise state value =
      settleChain env txn (settledPromise promise state value txn.now) := rfl

@[simp] theorem timeoutState_ne_pending (promise : PromiseRecord) :
    promise.timeoutState ≠ .pending := by
  unfold PromiseRecord.timeoutState
  split <;> exact PromiseState.noConfusion

@[simp] theorem expiredPromise_settled (promise : StoredPromise) :
    (expiredPromise promise).record.isPending = false := by
  unfold PromiseRecord.isPending expiredPromise
  exact beq_eq_false_iff_ne.mpr (timeoutState_ne_pending promise.record)

@[simp] theorem settledPromise_settled (promise : StoredPromise) (state : SettleState)
    (value : PromiseValue) (now : Int) :
    (settledPromise promise state value now).record.isPending = false := by
  cases state <;> rfl

end Kernel

namespace Move

variable {env : Env} {txn next : Txn} {label : Label}

theorem keyed (move : Move env txn label next) (keyed : txn.Keyed) : next.Keyed := by
  cases move with
  | expire promise stored pending due =>
      exact settleChain_keyed keyed _ (expiredPromise_settled promise)
  | strike promise stored pending =>
      exact settleChain_keyed keyed _ (expiredPromise_settled promise)
  | settle promise state value stored pending early =>
      exact settleChain_keyed keyed _ (settledPromise_settled promise state value txn.now)
  | create data createdAt mode absent admitted => exact createPromise_keyed _ _ _ _ _ keyed
  | register awaited awaiter awaitable valid known unlisted => exact putPromise_keyed keyed _
  | listen awaited address awaitable valid unlisted => exact putPromise_keyed keyed _
  | resume awaited awaiter stored settled external valid opened =>
      exact resumeAwaiter_keyed keyed _ _ _
  | acquire task pid ttl stored pending renewed =>
      exact Txn.putTask_keyed ((Txn.renew_touches _ _ _).keyed keyed) _
  | release task stored acquired =>
      exact (Txn.putTask_keyed keyed _).of_views rfl rfl rfl
  | lose task stored acquired => exact Txn.putTask_keyed keyed _
  | suspend task awaited stored acquired some_awaited listed => exact Txn.putTask_keyed keyed _
  | clear task stored acquired => exact Txn.putTask_keyed keyed _
  | halt task stored unfulfilled unhalted =>
      exact (Txn.putTask_keyed keyed _).of_views rfl rfl rfl
  | proceed task stored halted => exact proceed_keyed keyed task
  | addSchedule schedule absent next created unfired named plain targeted timeout =>
      exact (Txn.putSchedule_keyed keyed _).of_views rfl rfl rfl
  | advance schedule stored => exact advanceSchedule_keyed keyed schedule
  | dropSchedule id => exact Txn.deleteSchedule_keyed keyed id
  | check task => exact (Txn.holds_touches txn task).keyed keyed
  | renew task lease => exact (Txn.renew_touches txn task lease).keyed keyed
  | claim task job lease stored pending dispatched =>
      exact (Txn.claimJob_touches txn task.id job lease).keyed keyed
  | ack claim dead => exact keyed.of_views rfl rfl rfl
  | hold task claim executes stored pending => exact keyed.of_views rfl rfl rfl

end Move

namespace Trail

variable {env : Env} {permits : Label → Prop} {first second third : Txn}

theorem one (label : Label) (permitted : permits label) (move : Move env first label second) :
    Trail env permits first second := .step label permitted move (.refl second)

theorem trans (left : Trail env permits first second) (right : Trail env permits second third) :
    Trail env permits first third := by
  induction left with
  | refl txn => exact right
  | step label permitted move rest ih => exact .step label permitted move (ih right)

theorem mono {wider : Label → Prop} (trail : Trail env permits first second)
    (widened : ∀ label, permits label → wider label) : Trail env wider first second := by
  induction trail with
  | refl txn => exact .refl txn
  | step label permitted move rest ih => exact .step label (widened _ permitted) move ih

theorem keyed (trail : Trail env permits first second) (keyed : first.Keyed) : second.Keyed := by
  induction trail with
  | refl txn => exact keyed
  | step label permitted move rest ih => exact ih (move.keyed keyed)

/-- What every permitted move preserves, a trail preserves. -/
theorem preserves (invariant : Txn → Prop) (trail : Trail env permits first second)
    (keyed : first.Keyed) (holds : invariant first)
    (each : ∀ before label after, before.Keyed → permits label → Move env before label after →
      invariant before → invariant after) : invariant second := by
  induction trail with
  | refl txn => exact holds
  | step label permitted move rest ih =>
      exact ih (move.keyed keyed) (each _ _ _ keyed permitted move holds)

end Trail

end Resonate
