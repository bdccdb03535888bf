import Resonate.Replies

set_option autoImplicit false

/-! The statuses of replies: every handler answers in form. -/

namespace Resonate

open Kernel

/-- A successful status, or one of the protocol's errors. -/
def Reply.Formed : Reply → Prop
  | .ok status _ => status = 200 ∨ status = 300
  | .err status _ => status ∈ [400, 404, 409, 422]

@[simp] theorem formed_err (status : Nat) (message : String) :
    (Reply.err status message).Formed ↔ status ∈ [400, 404, 409, 422] := Iff.rfl

theorem formed_of_refusal {reply : Reply} {status : Nat}
    (refusal : ∃ message, reply = .err status message) (known : status ∈ [400, 404, 409, 422]) :
    reply.Formed := by
  obtain ⟨message, rfl⟩ := refusal
  exact known

namespace Kernel

/-- The reply is in form unless an expectation failed. -/
def Response.Formed (response : Response) : Prop :=
  response.exit = .panic ∨ response.reply.Formed

variable {env : Env} {txn : Txn}

@[simp] theorem formed_ok (data : ReplyData) : (ok data).Formed := .inl rfl

@[simp] theorem formed_done (reply : Reply) : (done txn reply).Formed ↔ reply.Formed := by
  simp [done, Response.Formed]

@[simp] theorem formed_refuse (reply : Reply) : (refuse txn reply).Formed ↔ reply.Formed := by
  simp [refuse, Response.Formed]

@[simp] theorem formed_commitSettlement (id : String) (reply : Reply) :
    (commitSettlement txn id reply).Formed ↔ reply.Formed := by
  simp [commitSettlement, Response.Formed]

@[simp] theorem formed_expectFailed (message : String) : (expectFailed txn message).Formed :=
  .inl rfl

@[simp] theorem formed_doneView (task : StoredTask) : (doneView txn task).Formed := by
  unfold doneView
  split <;> simp

theorem promiseCreate_formed (data : PromiseCreateData) : (promiseCreate env txn data).Formed := by
  unfold promiseCreate
  split
  · rename_i refused
    simpa using formed_of_refusal (validateCreate_refusal refused) (by simp)
  · dsimp only
    split <;> simp

theorem promiseGet_formed (id : String) : (promiseGet env txn id).Formed := by
  unfold promiseGet
  dsimp only
  split <;> simp

theorem promiseSettle_formed (data : PromiseSettleData) : (promiseSettle env txn data).Formed := by
  unfold promiseSettle
  dsimp only
  repeat' split
  all_goals simp

theorem promiseRegisterCallback_formed (data : CallbackData) :
    (promiseRegisterCallback env txn data).Formed := by
  unfold promiseRegisterCallback
  split
  · rename_i refused
    simpa using formed_of_refusal (validateCallback_refusal refused) (by simp)
  · dsimp only
    repeat' split
    all_goals simp

theorem promiseRegisterListener_formed (data : ListenerData) :
    (promiseRegisterListener env txn data).Formed := by
  unfold promiseRegisterListener
  dsimp only
  repeat' split
  all_goals simp

theorem promiseSearch_formed (data : PromiseSearchData) : (promiseSearch txn data).Formed := by
  unfold promiseSearch
  split
  · rename_i refused
    simpa using formed_of_refusal (searchLimit_refusal refused) (by simp)
  · simp

/-! ### Tasks -/

theorem acquire_formed (task : StoredTask) (pid : String) (ttl : Int) (message : String) :
    Response.Formed (match acquire txn task pid ttl with
      | (txn, none) => done txn (.err 409 message)
      | (txn, some task) => doneView txn task) := by
  split <;> simp

theorem taskCreateExisting_formed (data : TaskCreateData) (task : StoredTask) :
    (taskCreateExisting txn data task).Formed := by
  by_cases pending : task.state = .pending
  · rw [taskCreateExisting_pending data task pending]
    split
    · simp
    · exact acquire_formed task data.pid data.ttl "Already exists"
  · unfold taskCreateExisting
    split
    · contradiction
    all_goals simp

theorem taskCreate_formed (data : TaskCreateData) : (taskCreate env txn data).Formed := by
  unfold taskCreate
  dsimp only
  split
  · simp
  · split
    · simp
    · split
      · simp
      · split
        · rename_i refused
          simpa using formed_of_refusal (validateCreate_refusal refused) (by simp)
        · split
          · simp
          · split
            · simp
            · split
              · exact taskCreateExisting_formed data _
              · repeat' split
                all_goals simp

theorem taskAcquire_formed (data : TaskAcquireData) : (taskAcquire env txn data).Formed := by
  unfold taskAcquire
  dsimp only
  split
  · simp
  · split
    · simp
    · split
      · simp
      · exact acquire_formed _ data.pid data.ttl "Task is not pending"

theorem taskRelease_formed (data : TaskVersionData) : (taskRelease env txn data).Formed := by
  unfold taskRelease
  dsimp only
  repeat' split
  all_goals simp

theorem taskFulfill_formed (data : TaskFulfillData) : (taskFulfill env txn data).Formed := by
  unfold taskFulfill
  dsimp only
  repeat' split
  all_goals simp

theorem taskSuspend_formed (data : TaskSuspendData) : (taskSuspend env txn data).Formed := by
  unfold taskSuspend
  split
  · simp
  · split
    · rename_i refused
      simpa using formed_of_refusal (suspendIds_refusal refused) (by simp)
    · dsimp only
      split
      · simp
      · rename_i task stored
        by_cases acquired : task.isAcquiredAt data.version = true
        · rw [if_pos acquired]
          split
          · simp
          · split
            · rename_i refused
              simpa using formed_of_refusal (suspendAwaited_refusal refused) (by simp)
            · split
              · split
                · simp
                · exact (formed_done _).mpr (.inr rfl)
              · simp
        · rw [if_neg acquired]
          simp

theorem taskFence_formed (data : TaskFenceData) (corrId : String) :
    (taskFence env txn data corrId).Formed := by
  unfold taskFence
  split
  · simp
  · split
    · simp
    · split
      · simp
      · dsimp only
        split
        · simp
        · split
          · simp
          · split
            · rename_i refused
              simpa using formed_of_refusal (fenceAction_refusal refused) (by simp)
            · split <;> simp

theorem taskGet_formed (id : String) : (taskGet env txn id).Formed := by
  unfold taskGet
  dsimp only
  split <;> simp

theorem taskHalt_formed (id : String) : (taskHalt env txn id).Formed := by
  unfold taskHalt
  dsimp only
  repeat' split
  all_goals simp

theorem taskContinue_formed (id : String) : (taskContinue env txn id).Formed := by
  unfold taskContinue
  dsimp only
  repeat' split
  all_goals simp

theorem taskSearch_formed (data : TaskSearchData) : (taskSearch txn data).Formed := by
  unfold taskSearch
  split
  · rename_i refused
    simpa using formed_of_refusal (searchLimit_refusal refused) (by simp)
  · simp

/-! ### Schedules -/

theorem scheduleCreate_formed (data : ScheduleCreateData) :
    (scheduleCreate env txn data).Formed := by
  unfold scheduleCreate
  dsimp only
  repeat' split
  all_goals simp

theorem scheduleGet_formed (id : String) : (scheduleGet txn id).Formed := by
  unfold scheduleGet
  split <;> simp

theorem scheduleDelete_formed (id : String) : (scheduleDelete txn id).Formed := by
  unfold scheduleDelete
  split <;> simp

theorem scheduleSearch_formed (data : ScheduleSearchData) : (scheduleSearch txn data).Formed := by
  unfold scheduleSearch
  split
  · rename_i refused
    simpa using formed_of_refusal (searchLimit_refusal refused) (by simp)
  · simp

theorem handle_formed (env : Env) (txn : Txn) (request : Request) :
    (handle env txn request).Formed := by
  cases request with
  | promiseCreate data => exact promiseCreate_formed data
  | promiseGet id => exact promiseGet_formed id
  | promiseSettle data => exact promiseSettle_formed data
  | promiseRegisterCallback data => exact promiseRegisterCallback_formed data
  | promiseRegisterListener data => exact promiseRegisterListener_formed data
  | promiseSearch data => exact promiseSearch_formed data
  | taskCreate data => exact taskCreate_formed data
  | taskAcquire data => exact taskAcquire_formed data
  | taskRelease data => exact taskRelease_formed data
  | taskFulfill data => exact taskFulfill_formed data
  | taskSuspend data => exact taskSuspend_formed data
  | taskFence data corrId => exact taskFence_formed data corrId
  | taskHeartbeat data => simp [handle, taskHeartbeat]
  | taskGet id => exact taskGet_formed id
  | taskHalt id => exact taskHalt_formed id
  | taskContinue id => exact taskContinue_formed id
  | taskSearch data => exact taskSearch_formed data
  | scheduleCreate data => exact scheduleCreate_formed data
  | scheduleGet id => exact scheduleGet_formed id
  | scheduleDelete id => exact scheduleDelete_formed id
  | scheduleSearch data => exact scheduleSearch_formed data
  | invalid message => simp [handle]
  | unknown kind => simp [handle]

end Kernel

/-- No request fails an expectation, so its reply is in form unless the queue did not store it. -/
theorem answer_formed {env : Env} {system : System} (reached : Reachable env system)
    (request : Request) (stored : Bool) :
    (answer env system request stored).Formed ∨
      stored = false ∧ answer env system request stored = .err 500 "storage error" := by
  have keyed : (system.txn env).Keyed := Reachable.keyed reached
  have coupled (id : String) : Coupled ((system.txn env).cell id) := Reachable.coupled reached id
  have exits : (handle env (system.txn env) request).exit ≠ .panic := handle_exit keyed coupled request
  have formed : (handle env (system.txn env) request).reply.Formed :=
    (handle_formed env (system.txn env) request).resolve_left exits
  unfold answer conclude
  cases exit : (handle env (system.txn env) request).exit with
  | drop => exact .inl formed
  | panic => exact absurd exit exits
  | commit =>
      cases stored with
      | true => exact .inl formed
      | false => exact .inr ⟨rfl, rfl⟩
  | commitAck taskId =>
      cases stored with
      | false => exact .inr ⟨rfl, rfl⟩
      | true =>
          left
          dsimp only
          split
          · exact formed
          · simp

end Resonate
