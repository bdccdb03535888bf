import Resonate.Acquisitions
import Resonate.Lapses

set_option autoImplicit false

/-! Requests that are refused: what they leave of the store is what it held before, or what the
deadlines of the promises they name leave of it. -/

namespace Resonate

open Kernel
open LeaseQueue (Queue)

/-! ## Checks of a claim -/

namespace Txn

variable {txn next : Txn} {id : String}

/-- A held claim whose lease has ended or that is no longer its job's. -/
def Ended (txn : Txn) (claim : Claim) : Prop :=
  txn.live claim = false ∨ txn.queue.current claim = false

/-- A transaction that lost no more than an ended claim held for `id`. -/
structure Checked (txn next : Txn) (id : String) : Prop where
  same : ∃ held, next = { txn with held }
  others : ∀ other : String, other ≠ id → next.held[other]? = txn.held[other]?
  own : next.held[id]? = txn.held[id]? ∨ next.held[id]? = none ∧
    ∀ claim : Claim, txn.held[id]? = some claim → txn.Ended claim

theorem Checked.refl (txn : Txn) (id : String) : Checked txn txn id :=
  ⟨⟨txn.held, rfl⟩, fun _ _ => rfl, .inl rfl⟩

theorem erased_checked (ended : ∀ claim : Claim, txn.held[id]? = some claim → txn.Ended claim) :
    Checked txn { txn with held := txn.held.erase id } id := by
  refine ⟨⟨_, rfl⟩, ?_, .inr ⟨?_, ended⟩⟩
  · intro other apart
    change (txn.held.erase id)[other]? = _
    rw [Table.find_erase, if_neg (Ne.symm apart)]
  · change (txn.held.erase id)[id]? = none
    rw [Table.find_erase, if_pos rfl]

/-- A check that fails drops a claim whose lease has ended. -/
theorem holds_checked (lost : txn.holds id = (next, false)) : Checked txn next id := by
  unfold holds at lost
  split at lost
  · rename_i claim found
    split at lost
    · cases lost
    · rename_i dead
      cases lost
      refine erased_checked fun other held => ?_
      cases found.symm.trans held
      exact .inl (Bool.eq_false_iff.mpr dead)
  · cases lost
    exact .refl txn id

/-- A renewal that fails drops a claim that has ended. -/
theorem renew_checked {lease : Nat} (lost : txn.renew id lease = (next, false)) :
    Checked txn next id := by
  unfold renew at lost
  split at lost
  · rename_i checked held
    cases lost
    exact holds_checked held
  · rename_i checked held
    obtain ⟨rfl, claim, found⟩ := holds_true held
    simp only [found] at lost
    split at lost
    · cases lost
    · rename_i refused
      cases lost
      refine erased_checked fun other held => ?_
      cases found.symm.trans held
      exact .inr (Queue.renewLease_lost.mp refused)

end Txn

/-! ## The responses of handlers -/

/-- What a handler's response comes to, when it is refused: the transaction is dropped with its
claims as they were, or the deadlines of the named promises are committed, with at most the ended
claim of a task that they did not fulfil dropped. A response that waits for an acknowledgement has
its claims as they were. -/
inductive Refusal (env : Env) (txn : Txn) (request : Request) : Response → Prop
  | answered (response : Response) (exit : ∀ id, response.exit ≠ .commitAck id)
      (replied : ∀ status message, response.reply = .err status message → 500 ≤ status) :
      Refusal env txn request response
  | dropped (next : Txn) (reply : Reply) (buffers : Txn.Buffers txn next) :
      Refusal env txn request ⟨next, .drop, reply⟩
  | applied (reply : Reply) :
      Refusal env txn request ⟨tryTimeout env txn request.named, .commit, reply⟩
  | checked (next : Txn) (reply : Reply) (task : StoredTask)
      (stored : (tryTimeout env txn request.named).getTask task.id = some task)
      (unfulfilled : task.state ≠ .fulfilled)
      (checked : (tryTimeout env txn request.named).Checked next task.id) :
      Refusal env txn request ⟨next, .commit, reply⟩
  | acknowledges (next : Txn) (id : String) (data : ReplyData) (status : Nat)
      (buffers : Txn.Buffers txn next) : Refusal env txn request ⟨next, .commitAck id, .ok status data⟩

namespace Kernel

variable {env : Env} {txn : Txn} {request : Request}

theorem refused_refusal (reply : Reply) : Refusal env txn request (refuse txn reply) :=
  .dropped txn reply (.refl txn)

theorem done_refusal (next : Txn) (status : Nat) (data : ReplyData) :
    Refusal env txn request (done next (.ok status data)) := by
  refine .answered _ (by simp [done]) ?_
  intro other message same
  cases same

theorem failed_refusal (next : Txn) (message : String) :
    Refusal env txn request (expectFailed next message) := by
  refine .answered _ (by simp [expectFailed]) ?_
  intro other text same
  cases same
  exact Nat.le_refl _

theorem promiseCreate_refusal (data : PromiseCreateData) :
    Refusal env txn (.promiseCreate data) (promiseCreate env txn data) := by
  unfold promiseCreate
  split
  · exact refused_refusal _
  · dsimp only
    split
    · exact done_refusal _ 200 _
    · exact done_refusal _ 200 _

theorem promiseGet_refusal (id : String) :
    Refusal env txn (.promiseGet id) (promiseGet env txn id) := by
  unfold promiseGet
  dsimp only
  split
  · exact done_refusal _ 200 _
  · exact .applied _

theorem promiseSettle_refusal (data : PromiseSettleData) :
    Refusal env txn (.promiseSettle data) (promiseSettle env txn data) := by
  unfold promiseSettle
  dsimp only
  split
  · exact .applied _
  · split
    · exact done_refusal _ 200 _
    · exact done_refusal _ 200 _

theorem promiseRegisterCallback_refusal (data : CallbackData) :
    Refusal env txn (.promiseRegisterCallback data) (promiseRegisterCallback env txn data) := by
  unfold promiseRegisterCallback
  split
  · exact refused_refusal _
  · dsimp only
    split
    · exact .applied _
    · split
      · exact .applied _
      · split
        · exact .applied _
        · split
          · exact .applied _
          · exact done_refusal _ 200 _

theorem promiseRegisterListener_refusal (data : ListenerData) :
    Refusal env txn (.promiseRegisterListener data) (promiseRegisterListener env txn data) := by
  unfold promiseRegisterListener
  split
  · exact refused_refusal _
  · dsimp only
    split
    · exact .applied _
    · split
      · exact .applied _
      · exact done_refusal _ 200 _

theorem doneView_refusal (next : Txn) (task : StoredTask) :
    Refusal env txn request (doneView next task) := by
  unfold doneView
  split
  · exact done_refusal _ 200 _
  · exact failed_refusal _ _

/-- An acquisition that fails has dropped a claim that ended. -/
theorem acquire_refusal {task : StoredTask} (pid : String) (ttl : Int) (message : String)
    (stored : (tryTimeout env txn request.named).getTask task.id = some task)
    (pending : task.state = .pending) :
    Refusal env txn request (match acquire (tryTimeout env txn request.named) task pid ttl with
      | (txn, none) => done txn (.err 409 message)
      | (txn, some task) => doneView txn task) := by
  unfold acquire
  split
  · rename_i next refused
    split at refused
    · rename_i lost
      cases refused
      exact .checked next _ task stored (by simp [pending]) (Txn.renew_checked lost)
    · cases refused
  · exact doneView_refusal _ _

theorem renew_live {id : String} {claim : Claim} {leaseEnd : Nat}
    (leased : txn.Leased id claim leaseEnd) (live : txn.live claim = true) (lease : Nat) :
    ∃ next, txn.renew id lease = (next, true) := by
  unfold Txn.renew
  rw [leased.holds live]
  dsimp only
  rw [leased.held]
  dsimp only
  unfold Queue.renewLease
  rw [if_pos leased.current]
  exact ⟨_, rfl⟩

/-- A job claimed for a positive time, before the clock runs out, is held under a live lease. -/
theorem claimJob_renews {next : Txn} {id : String} {job lease : Nat}
    (claimed : txn.claimJob id job lease = (next, true)) (positive : 0 < lease)
    (clock : txn.now = min (txn.queue.clock : Int) Text.i64Max) (running : txn.now < Text.i64Max)
    (again : Nat) : ∃ renewed, next.renew id again = (renewed, true) := by
  unfold Txn.claimJob at claimed
  split at claimed
  · rename_i claim queue granted
    cases claimed
    unfold Queue.claimById at granted
    split at granted
    · rename_i stored found
      split at granted
      · cases granted
      · cases granted
        have leased : Txn.Leased { txn with
            queue := (txn.queue.grant job stored lease).2
            held := txn.held.insert id (txn.queue.grant job stored lease).1 }
            id (txn.queue.grant job stored lease).1 (txn.queue.clock + lease) := by
          refine ⟨?_, { stored with
            state := .claimed txn.queue.nextToken (txn.queue.clock + lease) }, ?_, rfl⟩
          · change (txn.held.insert id _)[id]? = _
            rw [Table.find_insert, if_pos rfl]
          · change (txn.queue.jobs.insert job _)[job]? = _
            rw [Table.find_insert, if_pos rfl]
        refine renew_live leased (leased.live_iff.mpr ?_) again
        change txn.now < _
        omega
    · cases granted
  · cases claimed

/-- A claim that is not obtained has at most dropped an ended one. -/
theorem claimed_lost {next : Txn} {task : StoredTask} {lease : Nat}
    (lost : claimed txn task lease = (next, false)) : txn.Checked next task.id := by
  unfold claimed at lost
  split at lost
  · cases lost
  · rename_i checked held
    have dropped := Txn.holds_checked held
    split at lost
    · unfold Txn.claimJob at lost
      split at lost
      · cases lost
      · cases lost
        exact dropped
    · cases lost
      exact dropped

/-- A claim that is obtained was held, or its lease can be renewed. -/
theorem claimed_taken {next : Txn} {task : StoredTask} {lease : Nat}
    (taken : claimed txn task lease = (next, true)) (positive : 0 < lease)
    (clock : txn.now = min (txn.queue.clock : Int) Text.i64Max) (running : txn.now < Text.i64Max) :
    next = txn ∨ ∀ again, ∃ renewed, next.renew task.id again = (renewed, true) := by
  unfold claimed at taken
  split at taken
  · rename_i checked held
    cases taken
    exact .inl (Txn.holds_true held).1
  · rename_i checked held
    obtain ⟨⟨kept, rfl⟩, _, _⟩ := Txn.holds_checked held
    split at taken
    · exact .inr (claimJob_renews taken positive clock running)
    · cases taken

/-- The rest of `task.create` for a task that exists. -/
theorem taskCreateExisting_refusal (data : TaskCreateData) {task : StoredTask}
    (positive : 1 ≤ data.ttl)
    (stored : (tryTimeout env txn [data.action.data.id]).getTask task.id = some task)
    (clock : txn.now = min (txn.queue.clock : Int) Text.i64Max)
    (running : task.state = .pending → txn.now < Text.i64Max) :
    Refusal env txn (.taskCreate data)
      (taskCreateExisting (tryTimeout env txn [data.action.data.id]) data task) := by
  have buffers := tryTimeout_buffers env [data.action.data.id] txn
  cases state : task.state with
  | pending =>
      rw [taskCreateExisting_pending data task state]
      cases claim : claimed (tryTimeout env txn [data.action.data.id]) task (leaseOf data.ttl) with
      | mk next taken =>
          cases taken with
          | false => exact .checked next _ task stored (by simp [state]) (claimed_lost claim)
          | true =>
              dsimp only
              rw [if_neg (by simp)]
              have live := claimed_taken claim (by unfold leaseOf; omega)
                (by rw [buffers.now, buffers.clock]; exact clock)
                (by rw [buffers.now]; exact running state)
              rcases live with rfl | renews
              · exact acquire_refusal _ _ _ stored state
              · obtain ⟨renewed, held⟩ := renews (leaseOf data.ttl)
                unfold acquire
                rw [held]
                exact doneView_refusal _ _
  | fulfilled =>
      unfold taskCreateExisting
      rw [state]
      exact doneView_refusal _ _
  | acquired | suspended | halted =>
      unfold taskCreateExisting
      rw [state]
      exact .applied _

/-- The time of a transaction is its queue's, and no deadline lies past the last of an `i64`. -/
structure Ranged (txn : Txn) : Prop where
  clock : txn.now = min (txn.queue.clock : Int) Text.i64Max
  deadline : ∀ id promise, txn.getPromise id = some promise →
    promise.record.timeoutAt ≤ Text.i64Max

theorem Ranged.running (ranged : Ranged txn) {id : String} (opened : txn.isOpen id = true) :
    txn.now < Text.i64Max := by
  obtain ⟨promise, stored, _, early⟩ := (txn.isOpen_iff id).mp opened
  have bounded := ranged.deadline id promise stored
  omega

theorem taskCreate_refusal (keyed : txn.Keyed) (coupled : ∀ id, Coupled (txn.cell id))
    (ranged : Ranged txn) (data : TaskCreateData) :
    Refusal env txn (.taskCreate data) (taskCreate env txn data) := by
  have timed := tryTimeout_keyed env [data.action.data.id] keyed
  unfold taskCreate
  dsimp only
  split
  · exact refused_refusal _
  · split
    · exact refused_refusal _
    · split
      · exact refused_refusal _
      · rename_i positive
        split
        · exact refused_refusal _
        · split
          · exact refused_refusal _
          · split
            · exact refused_refusal _
            · split
              · rename_i task stored
                have own : task.id = data.action.data.id := timed.task _ _ stored
                refine taskCreateExisting_refusal data (by omega) (own ▸ stored) ranged.clock ?_
                intro pending
                exact ranged.running (tryTimeout_open keyed coupled stored (by simp [pending])).2
              · split
                · exact .applied _
                · split
                  · exact doneView_refusal _ _
                  · exact failed_refusal _ _

theorem taskAcquire_refusal (keyed : txn.Keyed) (data : TaskAcquireData) :
    Refusal env txn (.taskAcquire data) (taskAcquire env txn data) := by
  have timed := tryTimeout_keyed env [data.id] keyed
  unfold taskAcquire
  dsimp only
  split
  · exact .applied _
  · rename_i task stored
    have own : task.id = data.id := timed.task _ _ stored
    split
    · exact .applied _
    · rename_i pending
      split
      · exact .applied _
      · exact acquire_refusal _ _ _ (own ▸ stored) (by simpa using pending)

theorem taskRelease_refusal (data : TaskVersionData) :
    Refusal env txn (.taskRelease data) (taskRelease env txn data) := by
  unfold taskRelease
  dsimp only
  split
  · exact .applied _
  · split
    · exact .applied _
    · exact done_refusal _ 200 _

theorem taskFulfill_refusal (keyed : txn.Keyed) (data : TaskFulfillData) :
    Refusal env txn (.taskFulfill data) (taskFulfill env txn data) := by
  have timed := tryTimeout_keyed env [data.id] keyed
  have buffers := tryTimeout_buffers env [data.id] txn
  unfold taskFulfill
  dsimp only
  split
  · exact refused_refusal _
  · split
    · exact refused_refusal _
    · split
      · exact .applied _
      · rename_i task stored
        have own : task.id = data.id := timed.task _ _ stored
        split
        · exact .applied _
        · rename_i acquired
          split
          · exact .applied _
          · split
            · rename_i next lost
              refine .checked next _ task (own ▸ stored) ?_ (Txn.holds_checked lost)
              have state := (acquired_of_isAcquiredAt (by simpa using acquired)).1
              simp [state]
            · rename_i next held
              obtain ⟨rfl, _⟩ := Txn.holds_true held
              split
              · exact .acknowledges _ _ _ 200 (buffers.trans (settleChain_buffers _ _ _))
              · exact .acknowledges _ _ _ 200 buffers

theorem taskSuspend_refusal (keyed : txn.Keyed) (data : TaskSuspendData) :
    Refusal env txn (.taskSuspend data) (taskSuspend env txn data) := by
  unfold taskSuspend
  split
  · exact refused_refusal _
  · split
    · exact refused_refusal _
    · rename_i awaitedIds accepted
      obtain ⟨listed, _, _⟩ := suspendIds_ok data.id data.actions [] awaitedIds accepted
      rw [List.nil_append] at listed
      subst listed
      have timed := tryTimeout_keyed env (Request.taskSuspend data).named keyed
      have buffers := tryTimeout_buffers env (Request.taskSuspend data).named txn
      change (tryTimeout env txn (data.id :: data.actions.map (·.data.awaited))).Keyed at timed
      change Txn.Buffers txn (tryTimeout env txn (data.id :: data.actions.map (·.data.awaited)))
        at buffers
      dsimp only
      split
      · exact .applied _
      · rename_i task stored
        have own : task.id = data.id := timed.task _ _ stored
        by_cases acquired : task.isAcquiredAt data.version = true
        · rw [if_pos acquired]
          have unfulfilled : task.state ≠ .fulfilled := by
            simp [(acquired_of_isAcquiredAt acquired).1]
          cases held : (tryTimeout env txn
              (data.id :: data.actions.map (·.data.awaited))).holds task.id with
          | mk next result =>
              cases result with
              | false =>
                  dsimp only
                  rw [if_pos (by simp)]
                  exact .checked next _ task (own ▸ stored) unfulfilled (Txn.holds_checked held)
              | true =>
                  obtain ⟨rfl, _⟩ := Txn.holds_true held
                  dsimp only
                  rw [if_neg (by simp)]
                  split
                  · exact .applied _
                  · split
                    · split
                      · exact failed_refusal _ _
                      · exact done_refusal _ 300 _
                    · refine .acknowledges _ _ _ 200 ((buffers.trans ?_).trans
                        (Txn.putTask_buffers _ _))
                      exact Txn.foldl_buffers _
                        (fun txn promise => registerCallback_buffers data.id txn promise) _ _
        · rw [if_neg acquired]
          exact .applied _

theorem taskFence_refusal (data : TaskFenceData) (corrId : String) :
    Refusal env txn (.taskFence data corrId) (taskFence env txn data corrId) := by
  unfold taskFence
  split
  · exact refused_refusal _
  · rename_i actionId decoded
    have named : (Request.taskFence data corrId).named = [data.id, actionId] := by
      simp [Request.named, decoded]
    split
    · exact refused_refusal _
    · split
      · exact refused_refusal _
      · dsimp only
        rw [← named]
        split
        · exact .applied _
        · split
          · exact .applied _
          · split
            · exact .dropped _ _ (tryTimeout_buffers env _ txn)
            · split
              · exact failed_refusal _ _
              · exact done_refusal _ 200 _

theorem taskGet_refusal (id : String) : Refusal env txn (.taskGet id) (taskGet env txn id) := by
  unfold taskGet
  dsimp only
  split
  · exact done_refusal _ 200 _
  · exact .applied _

theorem taskHalt_refusal (id : String) : Refusal env txn (.taskHalt id) (taskHalt env txn id) := by
  unfold taskHalt
  dsimp only
  split
  · exact .applied _
  · split
    · exact .applied _
    all_goals exact done_refusal _ 200 _

theorem taskContinue_refusal (id : String) :
    Refusal env txn (.taskContinue id) (taskContinue env txn id) := by
  unfold taskContinue
  dsimp only
  split
  · exact .applied _
  · split
    · exact .applied _
    · exact done_refusal _ 200 _

theorem scheduleCreate_refusal (data : ScheduleCreateData) :
    Refusal env txn (.scheduleCreate data) (scheduleCreate env txn data) := by
  unfold scheduleCreate
  repeat'
    split
  all_goals
    first
    | exact refused_refusal _
    | exact done_refusal _ 200 _

theorem promiseSearch_refusal (data : PromiseSearchData) :
    Refusal env txn request (promiseSearch txn data) := by
  unfold promiseSearch
  split
  · exact refused_refusal _
  · exact refused_refusal _

theorem taskSearch_refusal (data : TaskSearchData) :
    Refusal env txn request (taskSearch txn data) := by
  unfold taskSearch
  split
  · exact refused_refusal _
  · exact refused_refusal _

theorem scheduleGet_refusal (id : String) : Refusal env txn request (scheduleGet txn id) := by
  unfold scheduleGet
  split
  · exact refused_refusal _
  · exact refused_refusal _

theorem scheduleDelete_refusal (id : String) :
    Refusal env txn request (scheduleDelete txn id) := by
  unfold scheduleDelete
  split
  · exact refused_refusal _
  · exact done_refusal _ 200 _

theorem scheduleSearch_refusal (data : ScheduleSearchData) :
    Refusal env txn request (scheduleSearch txn data) := by
  unfold scheduleSearch
  split
  · exact refused_refusal _
  · exact refused_refusal _

theorem handle_refusal (keyed : txn.Keyed) (coupled : ∀ id, Coupled (txn.cell id))
    (ranged : Ranged txn) (request : Request) : Refusal env txn request (handle env txn request) := by
  cases request with
  | promiseCreate data => exact promiseCreate_refusal data
  | promiseGet id => exact promiseGet_refusal id
  | promiseSettle data => exact promiseSettle_refusal data
  | promiseRegisterCallback data => exact promiseRegisterCallback_refusal data
  | promiseRegisterListener data => exact promiseRegisterListener_refusal data
  | promiseSearch data => exact promiseSearch_refusal data
  | taskCreate data => exact taskCreate_refusal keyed coupled ranged data
  | taskAcquire data => exact taskAcquire_refusal keyed data
  | taskRelease data => exact taskRelease_refusal data
  | taskFulfill data => exact taskFulfill_refusal keyed data
  | taskSuspend data => exact taskSuspend_refusal keyed data
  | taskFence data corrId => exact taskFence_refusal data corrId
  | taskHeartbeat data => exact done_refusal _ 200 _
  | taskGet id => exact taskGet_refusal id
  | taskHalt id => exact taskHalt_refusal id
  | taskContinue id => exact taskContinue_refusal id
  | taskSearch data => exact taskSearch_refusal data
  | scheduleCreate data => exact scheduleCreate_refusal data
  | scheduleGet id => exact scheduleGet_refusal id
  | scheduleDelete id => exact scheduleDelete_refusal id
  | scheduleSearch data => exact scheduleSearch_refusal data
  | invalid message => exact refused_refusal _
  | unknown kind => exact refused_refusal _

end Kernel

/-! ## The work deadlines leave -/

section

variable {env : Env} {txn : Txn} {before after : System} {request : Request}

theorem releasesOf_eq (keyed : txn.Keyed) {id : String} {action : After}
    (member : action ∈ releasesOf txn id) : action = .release id := by
  unfold releasesOf at member
  split at member
  · rename_i task stored
    rw [keyed.task id task stored] at member
    split at member
    · exact List.mem_singleton.mp member
    · cases member
  · cases member

/-- Deadlines leave the release of the tasks of overdue promises. -/
theorem tryTimeout_after (ids : List String) (keyed : txn.Keyed) :
    ∀ action ∈ (tryTimeout env txn ids).after, action ∈ txn.after ∨
      ∃ id ∈ ids, action = .release id ∧
        ∃ promise ∈ txn.getPromise id, promise.record.Overdue txn.now := by
  unfold tryTimeout
  induction ids generalizing txn with
  | nil => exact fun action member => .inl member
  | cons named rest ih =>
      intro action member
      rw [List.foldl_cons] at member
      rcases ih (timeoutOne_keyed keyed named) action member with earlier | ⟨id, inside, same, overdue⟩
      · rcases timeoutOne_cases env txn keyed named with
          ⟨promise, stored, own, pending, due, expired⟩ | ⟨early, same⟩
        · rw [expired, expirePromise_eq, after_settleChain] at earlier
          rcases List.mem_append.mp earlier with old | released
          · exact .inl old
          · exact .inr ⟨named, List.mem_cons_self, own ▸ releasesOf_eq keyed released, promise, stored,
              pending, due⟩
        · rw [same] at earlier
          exact .inl earlier
      · obtain ⟨promise, stored, pending, due⟩ := overdue
        rw [(timeoutOne_buffers env txn named).now] at due
        rw [getPromise_timeoutOne keyed] at stored
        refine .inr ⟨id, List.mem_cons_of_mem _ inside, same, ?_⟩
        split at stored
        · obtain ⟨old, _, rfl⟩ := Option.map_eq_some_iff.mp stored
          exact absurd ⟨pending, due⟩ (lapsed_prompt txn.now old)
        · exact ⟨promise, stored, pending, due⟩

theorem perform_release (queue : Queue Payload) (held : Held) (id : String) :
    (After.release id).perform queue held =
      ((held[id]?.map fun claim => (queue.ack claim).getD queue).getD queue,
        if (held[id]?).isSome then held.erase id else held) := by
  unfold After.perform
  dsimp only
  cases held[id]? <;> rfl

/-- Releases take the same jobs from two tables that hold the same claims of them. -/
theorem performAll_queue (queue : Queue Payload) (actions : List After) (first second : Held)
    (releases : ∀ action ∈ actions, ∃ id : String, action = .release id ∧
      second[id]? = first[id]?) :
    (performAll queue second actions).1 = (performAll queue first actions).1 := by
  induction actions generalizing queue first second with
  | nil => rfl
  | cons action rest ih =>
      obtain ⟨id, rfl, same⟩ := releases action List.mem_cons_self
      rw [performAll, performAll, perform_release, perform_release, same]
      refine ih _ _ _ fun other member => ?_
      obtain ⟨task, rfl, agree⟩ := releases other (List.mem_cons_of_mem _ member)
      refine ⟨task, rfl, ?_⟩
      by_cases held : (first[id]?).isSome = true
      · rw [if_pos held, if_pos held, Table.find_erase, Table.find_erase, agree]
      · rw [if_neg held, if_neg held, agree]

/-- Releases only drop claims, of the tasks they name. -/
theorem performAll_held (queue : Queue Payload) (actions : List After) (held : Held)
    (releases : ∀ action ∈ actions, ∃ id, action = .release id) (id : String) :
    (performAll queue held actions).2[id]? = held[id]? ∨
      (performAll queue held actions).2[id]? = none ∧ .release id ∈ actions := by
  induction actions generalizing queue held with
  | nil => exact .inl rfl
  | cons action rest ih =>
      obtain ⟨task, rfl⟩ := releases action List.mem_cons_self
      rw [performAll, perform_release]
      rcases ih _ (if (held[task]?).isSome then held.erase task else held) (fun other member =>
        releases other (List.mem_cons_of_mem _ member)) with same | ⟨dropped, member⟩
      · by_cases own : task = id
        · by_cases present : (held[task]?).isSome = true
          · rw [if_pos present, Table.find_erase, if_pos own] at same
            rw [if_pos present]
            exact .inr ⟨same, own ▸ List.mem_cons_self⟩
          · rw [if_neg present] at same ⊢
            exact .inl same
        · refine .inl (same.trans ?_)
          by_cases present : (held[task]?).isSome = true
          · rw [if_pos present, Table.find_erase, if_neg own]
          · rw [if_neg present]
      · exact .inr ⟨dropped, List.mem_cons_of_mem _ member⟩

/-- What a request leaves once the work of its commit is done. -/
theorem Completes.performed {stored : Bool} (completed : Completes env before request stored after) :
    after.kv = (conclude (handle env (before.txn env) request) stored).1.kv ∧
      (after.queue, after.held) =
        performAll (conclude (handle env (before.txn env) request) stored).1.queue
          (conclude (handle env (before.txn env) request) stored).1.held
          (conclude (handle env (before.txn env) request) stored).1.after := by
  obtain ⟨steps, ran, unlocked⟩ := completed
  obtain ⟨next, taken, remaining⟩ := Option.bind_eq_some_iff.mp ran
  change stepRequest env before request stored = some next at taken
  unfold stepRequest at taken
  split at taken
  · obtain ⟨kv, performed⟩ := run_finish remaining unlocked
    cases taken
    exact ⟨kv, performed⟩
  · cases taken

/-- A commit that is refused because its claim is lost drops at most that claim. -/
theorem commitAck_checked {next : Txn} {id : String} {commit : Commit}
    (lost : next.commitAck id = (commit, false)) :
    ∃ last, next.Checked last id ∧ commit = last.discard := by
  unfold Txn.commitAck at lost
  split at lost
  · rename_i last held
    cases lost
    exact ⟨last, Txn.holds_checked held, rfl⟩
  · rename_i last held
    obtain ⟨rfl, claim, found⟩ := Txn.holds_true held
    simp only [found] at lost
    split at lost
    · cases lost
    · rename_i refused
      cases lost
      refine ⟨_, Txn.erased_checked fun other held => ?_, rfl⟩
      cases found.symm.trans held
      exact .inr (Queue.ack_lost.mp refused)

end

/-- The store once the deadlines of the promises a request names are applied and committed. -/
def System.lapse (env : Env) (system : System) (request : Request) : System :=
  let commit := (tryTimeout env (system.txn env) request.named).commit
  let performed := performAll commit.queue commit.held commit.after
  { system.absorb commit with
    queue := performed.1
    held := performed.2
    after := [] }

/-- Why a refused request may have dropped a claim: its lease ended, it is no longer its job's, or
the deadline of its task's promise has passed. -/
def System.Droppable (env : Env) (system : System) (request : Request) (id : String)
    (claim : Claim) : Prop :=
  (system.txn env).live claim = false ∨ system.queue.current claim = false ∨
    id ∈ request.named ∧ ∃ promise ∈ system.promise id, promise.record.Overdue system.now

section

variable {env : Env} {before after : System} {request : Request}

/-- What is dropped from the claims of the store is droppable. -/
structure Dropped (env : Env) (before : System) (request : Request) (held : Held) : Prop where
  kept : ∀ (id : String) (claim : Claim), held[id]? = some claim → before.held[id]? = some claim
  lost : ∀ (id : String) (claim : Claim), before.held[id]? = some claim → held[id]? = none →
    before.Droppable env request id claim

theorem ended_of_buffers {txn next : Txn} {claim : Claim} (buffers : Txn.Buffers txn next)
    (ended : next.Ended claim) : txn.Ended claim := by
  rcases ended with dead | stale
  · rw [Txn.live_of_buffers buffers] at dead
    exact .inl dead
  · unfold Queue.current at stale
    rw [buffers.jobs] at stale
    exact .inr stale

/-- A check over the buffered writes of a request drops a claim that had ended before it. -/
theorem Txn.Checked.dropped {next last : Txn} {own : String}
    (buffers : Txn.Buffers (before.txn env) next) (checked : next.Checked last own) :
    Dropped env before request last.held := by
  have same : next.held = before.held := buffers.held
  obtain ⟨_, others, kept | ⟨gone, ended⟩⟩ := checked
  · have all (id : String) : last.held[id]? = before.held[id]? := by
      by_cases self : id = own
      · rw [self, kept, same]
      · rw [others id self, same]
    refine ⟨fun id claim found => (all id).symm.trans found, ?_⟩
    intro id claim found absent
    rw [all, found] at absent
    cases absent
  · refine ⟨?_, ?_⟩
    · intro id claim found
      by_cases self : id = own
      · rw [self, gone] at found
        cases found
      · rw [others id self, same] at found
        exact found
    · intro id claim found absent
      by_cases self : id = own
      · rw [self] at found
        rcases ended_of_buffers buffers (ended claim (by rw [same]; exact found)) with dead | stale
        · exact .inl dead
        · exact .inr (.inl stale)
      · rw [others id self, same, found] at absent
        cases absent

/-- The work that the deadlines of a request's promises leave: releases of their tasks. -/
theorem timeouts_release (request : Request) (reached : Reachable env before) :
    ∀ action ∈ (tryTimeout env (before.txn env) request.named).after, ∃ id ∈ request.named,
      action = .release id ∧ ∃ promise ∈ before.promise id, promise.record.Overdue before.now := by
  intro action member
  rcases tryTimeout_after request.named (Reachable.keyed reached) action member with
    earlier | ⟨id, named, same, promise, stored, overdue⟩
  · cases earlier
  · rw [System.getPromise_txn] at stored
    exact ⟨id, named, same, promise, stored, overdue⟩

/-- A response whose refusals are failures is no refusal. -/
theorem answered_fails {response : Response} {stored : Bool} {status : Nat} {message : String}
    (exit : ∀ id, response.exit ≠ .commitAck id)
    (replied : ∀ status message, response.reply = .err status message → 500 ≤ status)
    (refused : (conclude response stored).2 = .err status message) : 500 ≤ status := by
  unfold conclude at refused
  split at refused
  · exact replied status message refused
  · exact replied status message refused
  · cases refused
    exact Nat.le_refl _
  · exact replied status message refused
  · exact absurd (by assumption) (exit _)

/-- A task that deadlines release is fulfilled by them. -/
theorem released_fulfilled {task : StoredTask} (reached : Reachable env before)
    (released : .release task.id ∈ (tryTimeout env (before.txn env) request.named).after)
    (stored : (tryTimeout env (before.txn env) request.named).getTask task.id = some task) :
    task.state = .fulfilled := by
  have keyed := Reachable.keyed reached
  obtain ⟨id, named, same, promise, known, overdue⟩ := timeouts_release request reached _ released
  cases same
  have coupled := tryTimeout_coupled env request.named keyed
    (fun id => by rw [System.cell_txn]; exact Reachable.coupled reached id) task.id
  have settled : (tryTimeout env (before.txn env) request.named).getPromise task.id =
      some (lapsed before.now promise) := by
    rw [getPromise_tryTimeout _ keyed, if_pos named, System.getPromise_txn, known]
    rfl
  by_contra unfulfilled
  have pending := (coupled.pending _ task settled stored).mpr unfulfilled
  obtain ⟨_, early⟩ := (lapsed_pending_iff before.now promise).mp pending
  have late := overdue.2
  omega

/-- Deadlines that are committed after a check of the claim of a task they did not fulfil leave
the jobs they leave anyway, and drop no claim but an ended one and those of the promises' tasks. -/
theorem committed_lapse {next : Txn} {own : String} (reached : Reachable env before)
    (checked : (tryTimeout env (before.txn env) request.named).Checked next own)
    (apart : ∀ id : String, .release id ∈ (tryTimeout env (before.txn env) request.named).after →
      next.held[id]? = (tryTimeout env (before.txn env) request.named).held[id]?)
    (kv : after.kv = next.commit.kv)
    (performed : (after.queue, after.held) =
      performAll next.commit.queue next.commit.held next.commit.after) :
    after.kv = (before.lapse env request).kv ∧
      after.queue.jobs = (before.lapse env request).queue.jobs ∧
      Dropped env before request after.held := by
  have buffers := tryTimeout_buffers env request.named (before.txn env)
  have releases := timeouts_release request reached
  have dropped : Dropped env before request next.held := checked.dropped buffers
  obtain ⟨⟨held, rfl⟩, _, _⟩ := checked
  have queue : after.queue = (before.lapse env request).queue := by
    refine (congrArg Prod.fst performed).trans (performAll_queue _ _ _ _ ?_)
    intro action member
    obtain ⟨id, _, rfl, _⟩ := releases action member
    exact ⟨id, rfl, apart id member⟩
  refine ⟨kv, by rw [queue], ?_⟩
  have left (id : String) := performAll_held
    (tryTimeout env (before.txn env) request.named).commit.queue
    (tryTimeout env (before.txn env) request.named).after held
    (fun action member => by
      obtain ⟨id, _, same, _⟩ := releases action member
      exact ⟨id, same⟩) id
  have last : after.held = (performAll (tryTimeout env (before.txn env) request.named).commit.queue
      held (tryTimeout env (before.txn env) request.named).after).2 := congrArg Prod.snd performed
  rw [← last] at left
  refine ⟨?_, ?_⟩
  · intro id claim found
    rcases left id with same | ⟨gone, _⟩
    · exact dropped.kept id claim (same.symm.trans found)
    · rw [gone] at found
      cases found
  · intro id claim found absent
    rcases left id with same | ⟨_, released⟩
    · exact dropped.lost id claim found (same.symm.trans absent)
    · obtain ⟨other, named, same, overdue⟩ := releases _ released
      cases same
      exact .inr (.inr ⟨named, overdue⟩)

end

/-- A refused request leaves the records and the jobs as they were or as the deadlines of the
promises it names leave them, and no claim is dropped but one that ended or whose task's promise
such a deadline settled. -/
theorem refusals_keep {env : Env} {before after : System} {request : Request} {stored : Bool}
    {status : Nat} {message : String} (reached : Reachable env before)
    (ranged : ∀ id promise, before.promise id = some promise →
      promise.record.timeoutAt ≤ Text.i64Max)
    (refused : answer env before request stored = .err status message)
    (client : 400 ≤ status ∧ status < 500)
    (completed : Completes env before request stored after) :
    (after.kv = before.kv ∧ after.queue.jobs = before.queue.jobs ∨
      after.kv = (before.lapse env request).kv ∧
        after.queue.jobs = (before.lapse env request).queue.jobs) ∧
    (∀ (id : String) (claim : Claim), after.held[id]? = some claim →
      before.held[id]? = some claim) ∧
    ∀ (id : String) (claim : Claim), before.held[id]? = some claim → after.held[id]? = none →
      before.Droppable env request id claim := by
  have keyed := Reachable.keyed reached
  have coupled (id : String) : Coupled ((before.txn env).cell id) := by
    rw [System.cell_txn]
    exact Reachable.coupled reached id
  have bounded : Ranged (before.txn env) := by
    refine ⟨rfl, fun id promise stored => ?_⟩
    rw [System.getPromise_txn] at stored
    exact ranged id promise stored
  have refusal : Refusal env (before.txn env) request _ := handle_refusal keyed coupled bounded request
  obtain ⟨kv, performed⟩ := completed.performed
  unfold answer at refused
  generalize handle env (before.txn env) request = response at refusal refused kv performed
  cases refusal with
  | answered response exit replied => exact absurd (answered_fails exit replied refused) (by omega)
  | dropped next reply buffers =>
      have queue : after.queue = next.queue := congrArg Prod.fst performed
      have held : after.held = before.held := (congrArg Prod.snd performed).trans buffers.held
      refine ⟨.inl ⟨kv.trans buffers.kv, by rw [queue]; exact buffers.jobs⟩, ?_, ?_⟩
      · intro id claim found
        exact held ▸ found
      · intro id claim found absent
        rw [held, found] at absent
        cases absent
  | applied reply =>
      cases stored with
      | false =>
          cases refused
          omega
      | true =>
          obtain ⟨records, jobs, dropped⟩ := committed_lapse reached (.refl _ "")
            (fun _ _ => rfl) kv performed
          exact ⟨.inr ⟨records, jobs⟩, dropped.kept, dropped.lost⟩
  | checked next reply task known unfulfilled checked =>
      cases stored with
      | false =>
          cases refused
          omega
      | true =>
          obtain ⟨records, jobs, dropped⟩ := committed_lapse reached checked (by
            intro id released
            refine checked.others id ?_
            rintro rfl
            exact unfulfilled (released_fulfilled reached released known)) kv performed
          exact ⟨.inr ⟨records, jobs⟩, dropped.kept, dropped.lost⟩
  | acknowledges next id data status buffers =>
      cases stored with
      | false =>
          cases refused
          omega
      | true =>
          cases committed : next.commitAck id with
          | mk commit acked =>
              simp only [conclude, committed] at refused kv performed
              cases acked with
              | true => cases refused
              | false =>
                  obtain ⟨last, checked, rfl⟩ := commitAck_checked committed
                  have dropped : Dropped env before request last.held := checked.dropped buffers
                  obtain ⟨⟨held, rfl⟩, _, _⟩ := checked
                  have queue : after.queue = next.queue := congrArg Prod.fst performed
                  have kept : after.held = held := congrArg Prod.snd performed
                  rw [kept, queue]
                  exact ⟨.inl ⟨kv.trans buffers.kv, buffers.jobs⟩, dropped.kept, dropped.lost⟩

/-- A delivered task whose promise's deadline has passed. -/
def expiredRun : List Event := deliveredRun ++ [.clock 1000]

theorem expiredRun_ends : (Machine.run (step .sample) .empty expiredRun).isSome = true := by
  decide

def expired : System := (Machine.run (step .sample) .empty expiredRun).get expiredRun_ends

theorem expired_reachable : Reachable .sample expired :=
  Machine.reachable_of_run (Option.some_get expiredRun_ends).symm

/-- The acquisition of a delivered task whose promise has expired is refused: the deadline settles
the promise and the claim of its task goes. -/
theorem refusals_keep_expired :
    answer .sample expired (acquireRoot 100) true = .err 409 "Task is not pending" ∧
      ∃ after, Completes .sample expired (acquireRoot 100) true after ∧
        (∃ promise, after.promise "root" = some promise ∧ promise.record.state ≠ .pending) ∧
        expired.Droppable .sample (acquireRoot 100) "root" (.sample 0 0) := by
  have refused : answer .sample expired (acquireRoot 100) true =
      .err 409 "Task is not pending" := by
    decide
  have enabled : (Machine.run (step .sample) expired
      [.request (acquireRoot 100) true, .finish]).any (fun after => after.after = [] ∧
        (after.promise "root").any (fun promise => promise.record.state ≠ .pending) = true ∧
        after.held["root"]? = none) = true := by
    decide
  have ranged : ∀ entry ∈ expired.kv.promises.toList,
      entry.2.record.timeoutAt ≤ Text.i64Max := by
    decide
  obtain ⟨after, ran, checked⟩ := (Option.any_eq_true _ _).mp enabled
  obtain ⟨unlocked, settled, dropped⟩ := of_decide_eq_true checked
  obtain ⟨promise, stored, state⟩ := (Option.any_eq_true _ _).mp settled
  have completed : Completes .sample expired (acquireRoot 100) true after := ⟨1, ran, unlocked⟩
  have kept := refusals_keep expired_reachable (fun id promise stored =>
    ranged _ (Std.ExtTreeMap.mem_toList_iff_getElem?_eq_some.mpr stored)) refused (by decide)
    completed
  exact ⟨refused, after, completed, ⟨promise, stored, of_decide_eq_true state⟩,
    kept.2.2 "root" (.sample 0 0) (by decide) dropped⟩

end Resonate
