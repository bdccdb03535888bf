import Resonate.Searches

set_option autoImplicit false

/-! What each request replies, and that replies report the records the store holds once the
request is committed. -/

namespace Resonate

open Kernel

/-! ## The records of a reply -/

namespace ReplyData

def promiseRecords : ReplyData → List PromiseRecord
  | .promise record => [record]
  | .promises page _ => page
  | .taskView _ record siblings => record :: siblings
  | .preload siblings => siblings
  | .fenced action siblings => action.data.getLeft?.toList ++ siblings
  | .empty | .task _ | .tasks _ _ | .schedule _ | .schedules _ _ => []

def taskRecords : ReplyData → List TaskRecord
  | .task record => [record]
  | .tasks page _ => page
  | .taskView record _ _ => [record]
  | .empty | .promise _ | .promises _ _ | .preload _ | .fenced _ _ | .schedule _
  | .schedules _ _ => []

def scheduleRecords : ReplyData → List ScheduleRecord
  | .schedule record => [record]
  | .schedules page _ => page
  | .empty | .promise _ | .promises _ _ | .task _ | .tasks _ _ | .taskView _ _ _ | .preload _
  | .fenced _ _ => []

end ReplyData

/-- The task whose view a request asks for. -/
def Request.viewed : Request → Option String
  | .taskCreate data => some data.action.data.id
  | .taskAcquire data => some data.id
  | _ => none

namespace Views

/-- The record is the one stored under its id. -/
def Shows (views : Views) (record : PromiseRecord) : Prop :=
  (views.promise record.id).map (·.record) = some record

/-- Every record of the data is the stored one, and the view of a task pairs it with its
promise. -/
structure Reports (views : Views) (data : ReplyData) : Prop where
  promise : ∀ record ∈ data.promiseRecords, views.Shows record
  task : ∀ record ∈ data.taskRecords, (views.task record.id).map StoredTask.record = some record
  schedule : ∀ record ∈ data.scheduleRecords, views.schedule record.id = some record

variable {views : Views}

theorem reports_empty : views.Reports .empty := by
  constructor <;> simp [ReplyData.promiseRecords, ReplyData.taskRecords, ReplyData.scheduleRecords]

theorem Shows.reports {record : PromiseRecord} (shown : views.Shows record) :
    views.Reports (.promise record) := by
  constructor <;>
    simp [ReplyData.promiseRecords, ReplyData.taskRecords, ReplyData.scheduleRecords, shown]

theorem reports_task {record : TaskRecord}
    (shown : (views.task record.id).map StoredTask.record = some record) :
    views.Reports (.task record) := by
  constructor <;> simp [ReplyData.promiseRecords, ReplyData.taskRecords, ReplyData.scheduleRecords]
  simpa using shown

theorem reports_schedule {record : ScheduleRecord} (shown : views.schedule record.id = some record) :
    views.Reports (.schedule record) := by
  constructor <;>
    simp [ReplyData.promiseRecords, ReplyData.taskRecords, ReplyData.scheduleRecords, shown]

theorem reports_preload {siblings : List PromiseRecord}
    (shown : ∀ record ∈ siblings, views.Shows record) : views.Reports (.preload siblings) := by
  refine ⟨shown, ?_, ?_⟩ <;> simp [ReplyData.taskRecords, ReplyData.scheduleRecords]

end Views

namespace Txn

variable {txn : Txn}

theorem Keyed.shows (keyed : txn.Keyed) {id : String} {stored : StoredPromise}
    (found : txn.getPromise id = some stored) : txn.views.Shows stored.record := by
  show (txn.getPromise stored.record.id).map (·.record) = some stored.record
  rw [keyed.promise id stored found, found, Option.map_some]

theorem Keyed.reports_task (keyed : txn.Keyed) {id : String} {stored : StoredTask}
    (found : txn.getTask id = some stored) : txn.views.Reports (.task stored.record) := by
  apply Views.reports_task
  show (txn.getTask stored.id).map StoredTask.record = some stored.record
  rw [keyed.task id stored found, found, Option.map_some]

/-- Every sibling is read from the transaction. -/
theorem preload_shows (keyed : txn.Keyed) (promise : PromiseRecord) :
    ∀ record ∈ txn.preload promise, txn.views.Shows record := by
  unfold preload
  cases promise.tags[tagBranch]? with
  | none => simp
  | some branch =>
      intro record member
      obtain ⟨id, _, found⟩ := List.mem_filterMap.mp member
      obtain ⟨stored, read, rfl⟩ := Option.map_eq_some_iff.mp found
      exact keyed.shows read

end Txn

/-- Whether a response with this exit stores what its transaction wrote. -/
def Kernel.Exit.stores : Exit → Bool
  | .commit | .commitAck _ => true
  | .drop | .panic => false

/-- The shape of a response: which records of its transaction the reply carries. A response
that stores nothing and is no error reads the transaction it was given. -/
inductive Answered (env : Env) (txn : Txn) (request : Request) : Response → Prop
  | refused (next : Txn) (exit : Exit) (status : Nat) (message : String)
      (failed : 400 ≤ status) : Answered env txn request ⟨next, exit, .err status message⟩
  | empty (next : Txn) (exit : Exit) (kept : exit.stores = true)
      (unviewed : request.viewed = none) :
      Answered env txn request ⟨next, exit, ok .empty⟩
  | promise (next : Txn) (exit : Exit) (kept : exit.stores = true) (id : String)
      (stored : StoredPromise) (unviewed : request.viewed = none) (named : id ∈ request.named)
      (found : next.getPromise id = some stored) :
      Answered env txn request ⟨next, exit, ok (.promise stored.record)⟩
  | task (next : Txn) (id : String) (stored : StoredTask) (unviewed : request.viewed = none)
      (found : next.getTask id = some stored) :
      Answered env txn request ⟨next, .commit, ok (.task stored.record)⟩
  | view (next : Txn) (id : String) (task : StoredTask) (promise : StoredPromise)
      (viewed : request.viewed = some id) (tasked : next.getTask id = some task)
      (found : next.getPromise id = some promise) :
      Answered env txn request ⟨next, .commit, ok (.taskView task.record promise.record
        (if task.state = .fulfilled then [] else next.preload promise.record))⟩
  | preload (next : Txn) (data : TaskSuspendData) (own : StoredPromise)
      (asked : request = .taskSuspend data) (found : next.getPromise data.id = some own) :
      Answered env txn request ⟨next, .commit, .ok 300 (.preload (next.preload own.record))⟩
  | fenced (next : Txn) (data : TaskFenceData) (corrId : String) (own : StoredPromise)
      (action : InnerReply) (asked : request = .taskFence data corrId)
      (found : next.getPromise data.id = some own)
      (inner : ∀ record, action.data = .inl record → ∃ id stored,
        data.action.data.id = some id ∧ next.getPromise id = some stored ∧
          stored.record = record) :
      Answered env txn request
        ⟨next, .commit, ok (.fenced action (next.preload own.record))⟩
  | schedule (next : Txn) (exit : Exit) (id : String) (stored : ScheduleRecord)
      (unviewed : request.viewed = none) (found : next.getSchedule id = some stored)
      (read : exit.stores = false → next = txn) :
      Answered env txn request ⟨next, exit, ok (.schedule stored)⟩
  | promises (data : PromiseSearchData) (limit : Nat) (asked : request = .promiseSearch data)
      (bounded : searchLimit data.limit defaultSearchLimit = .ok limit) :
      Answered env txn request (promiseSearch txn data)
  | tasks (data : TaskSearchData) (limit : Nat) (asked : request = .taskSearch data)
      (bounded : searchLimit data.limit defaultSearchLimit = .ok limit) :
      Answered env txn request (taskSearch txn data)
  | schedules (data : ScheduleSearchData) (limit : Nat) (asked : request = .scheduleSearch data)
      (bounded : searchLimit data.limit defaultScheduleSearchLimit = .ok limit) :
      Answered env txn request (scheduleSearch txn data)

namespace Kernel

variable {env : Env} {txn : Txn}

/-! ## Refusals -/

theorem validateCreate_refusal {data : PromiseCreateData} {reply : Reply}
    (refused : validateCreate env data = some reply) :
    ∃ message, reply = .err 400 message := by
  unfold validateCreate at refused
  repeat' split at refused
  all_goals
    first
    | cases refused
      done
    | exact ⟨_, (Option.some.inj refused).symm⟩

theorem validateCallback_refusal {awaited awaiter : String} {reply : Reply}
    (refused : validateCallback awaited awaiter = some reply) :
    ∃ message, reply = .err 400 message := by
  unfold validateCallback at refused
  repeat' split at refused
  all_goals
    first
    | cases refused
      done
    | exact ⟨_, (Option.some.inj refused).symm⟩

theorem searchLimit_refusal {limit : Option Int} {default : Nat} {reply : Reply}
    (refused : searchLimit limit default = .error reply) :
    ∃ message, reply = .err 400 message := by
  unfold searchLimit at refused
  split at refused
  · cases refused
  · split at refused
    · cases refused
    · exact ⟨_, (Except.error.inj refused).symm⟩

theorem suspendIds_refusal {id : String} {actions : List (Action CallbackData)}
    {checked : List String} {reply : Reply}
    (refused : suspendIds id checked actions = .error reply) :
    ∃ message, reply = .err 400 message := by
  induction actions generalizing checked with
  | nil => cases refused
  | cons action rest ih =>
      unfold suspendIds at refused
      split at refused
      · exact ⟨_, (Except.error.inj refused).symm⟩
      · split at refused
        · exact ⟨_, (Except.error.inj refused).symm⟩
        · split at refused
          · rename_i invalid
            rw [← Except.error.inj refused]
            exact validateCallback_refusal invalid
          · split at refused
            · exact ⟨_, (Except.error.inj refused).symm⟩
            · exact ih refused

theorem suspendAwaited_refusal {ids : List String} {reply : Reply}
    (refused : suspendAwaited txn ids = .error reply) :
    ∃ message, reply = .err 422 message := by
  induction ids with
  | nil => cases refused
  | cons id rest ih =>
      unfold suspendAwaited at refused
      split at refused
      · exact ⟨_, (Except.error.inj refused).symm⟩
      · split at refused
        · exact ⟨_, (Except.error.inj refused).symm⟩
        · cases later : suspendAwaited txn rest with
          | error other =>
              rw [later] at refused
              exact ih (later.trans refused)
          | ok awaited =>
              rw [later] at refused
              cases refused

theorem fenceAction_refusal {action : Action ActionValue} {reply : Reply}
    (refused : fenceAction env txn action = .error reply) :
    ∃ message, reply = .err 400 message := by
  unfold fenceAction at refused
  split at refused
  · split at refused
    · exact ⟨_, (Except.error.inj refused).symm⟩
    · split at refused
      · rename_i invalid
        rw [← Except.error.inj refused]
        exact validateCreate_refusal invalid
      · split at refused
        · cases refused
        · cases refused
  · split at refused
    · split at refused
      · exact ⟨_, (Except.error.inj refused).symm⟩
      · split at refused
        · cases refused
        · split at refused
          · cases refused
          · cases refused
    · exact ⟨_, (Except.error.inj refused).symm⟩

/-! ## One handler at a time -/

theorem answered_err {request : Request} {next : Txn} {exit : Exit} {reply : Reply} {status : Nat}
    (refusal : ∃ message, reply = .err status message) (failed : 400 ≤ status) :
    Answered env txn request ⟨next, exit, reply⟩ := by
  obtain ⟨message, rfl⟩ := refusal
  exact .refused next exit status message failed

theorem promiseCreate_answered (data : PromiseCreateData) :
    Answered env txn (.promiseCreate data) (promiseCreate env txn data) := by
  unfold promiseCreate
  split
  · rename_i refused
    exact answered_err (validateCreate_refusal refused) (by omega)
  · dsimp only
    split
    · rename_i found
      exact .promise _ .commit rfl data.id _ rfl (by simp [Request.named]) found
    · refine .promise _ .commit rfl data.id (newPromise data none _) rfl (by simp [Request.named]) ?_
      rw [getPromise_createPromise, if_pos rfl]

theorem promiseGet_answered (id : String) :
    Answered env txn (.promiseGet id) (promiseGet env txn id) := by
  unfold promiseGet
  dsimp only
  split
  · rename_i found
    exact .promise _ .commit rfl id _ rfl (by simp [Request.named]) found
  · exact .refused _ _ 404 _ (by omega)

theorem promiseSettle_answered (keyed : txn.Keyed) (data : PromiseSettleData) :
    Answered env txn (.promiseSettle data) (promiseSettle env txn data) := by
  have named : data.id ∈ (Request.promiseSettle data).named := by simp [Request.named]
  have timed := tryTimeout_keyed env [data.id] keyed
  unfold promiseSettle
  dsimp only
  split
  · exact .refused _ _ 404 _ (by omega)
  · rename_i promise found
    have own : promise.record.id = data.id := timed.promise _ _ found
    split
    · refine .promise _ .commit rfl data.id
        (settledPromise promise data.state data.value _).cleared rfl named ?_
      rw [settle_eq, getPromise_settleChain]
      exact if_pos own
    · exact .promise _ .commit rfl data.id promise rfl named found

theorem promiseRegisterCallback_answered (keyed : txn.Keyed) (data : CallbackData) :
    Answered env txn (.promiseRegisterCallback data) (promiseRegisterCallback env txn data) := by
  have named : data.awaited ∈ (Request.promiseRegisterCallback data).named := by
    simp [Request.named]
  have timed := tryTimeout_keyed env [data.awaited, data.awaiter] keyed
  unfold promiseRegisterCallback
  split
  · rename_i refused
    exact answered_err (validateCallback_refusal refused) (by omega)
  · dsimp only
    split
    · exact .refused _ _ 404 _ (by omega)
    · rename_i awaited found
      have own : awaited.record.id = data.awaited := timed.promise _ _ found
      split
      · exact .refused _ _ 422 _ (by omega)
      · split
        · exact .refused _ _ 422 _ (by omega)
        · split
          · exact .refused _ _ 422 _ (by omega)
          · split
            · split
              · rw [← registered_record awaited data.awaiter]
                refine .promise _ .commit rfl data.awaited (registered awaited data.awaiter)
                  rfl named ?_
                rw [getPromise_registerCallback awaited data.awaiter (own ▸ found), if_pos own]
              · refine .promise _ .commit rfl data.awaited awaited rfl named ?_
                rw [getPromise_resumeAwaiter]
                exact found
            · exact .promise _ .commit rfl data.awaited awaited rfl named found

theorem promiseRegisterListener_answered (keyed : txn.Keyed) (data : ListenerData) :
    Answered env txn (.promiseRegisterListener data) (promiseRegisterListener env txn data) := by
  have named : data.awaited ∈ (Request.promiseRegisterListener data).named := by
    simp [Request.named]
  have timed := tryTimeout_keyed env [data.awaited] keyed
  unfold promiseRegisterListener
  split
  · exact .refused _ _ 400 _ (by omega)
  · dsimp only
    split
    · exact .refused _ _ 404 _ (by omega)
    · rename_i awaited found
      have own : awaited.record.id = data.awaited := timed.promise _ _ found
      split
      · exact .refused _ _ 422 _ (by omega)
      · split
        · refine .promise _ .commit rfl data.awaited
            { awaited with listeners := awaited.listeners ++ [data.address] } rfl named ?_
          rw [Txn.getPromise_putPromise]
          exact if_pos own
        · exact .promise _ .commit rfl data.awaited awaited rfl named found

theorem promiseSearch_answered (data : PromiseSearchData) :
    Answered env txn (.promiseSearch data) (promiseSearch txn data) := by
  cases bounded : searchLimit data.limit defaultSearchLimit with
  | error reply =>
      unfold promiseSearch
      rw [bounded]
      exact answered_err (searchLimit_refusal bounded) (by omega)
  | ok limit => exact .promises data limit rfl bounded

theorem taskSearch_answered (data : TaskSearchData) :
    Answered env txn (.taskSearch data) (taskSearch txn data) := by
  cases bounded : searchLimit data.limit defaultSearchLimit with
  | error reply =>
      unfold taskSearch
      rw [bounded]
      exact answered_err (searchLimit_refusal bounded) (by omega)
  | ok limit => exact .tasks data limit rfl bounded

theorem scheduleSearch_answered (data : ScheduleSearchData) :
    Answered env txn (.scheduleSearch data) (scheduleSearch txn data) := by
  cases bounded : searchLimit data.limit defaultScheduleSearchLimit with
  | error reply =>
      unfold scheduleSearch
      rw [bounded]
      exact answered_err (searchLimit_refusal bounded) (by omega)
  | ok limit => exact .schedules data limit rfl bounded

/-! ### Tasks -/

theorem doneView_answered {request : Request} {next : Txn} {id : String} {task : StoredTask}
    (viewed : request.viewed = some id) (tasked : next.getTask id = some task)
    (own : task.id = id) : Answered env txn request (doneView next task) := by
  unfold doneView taskView
  cases found : next.getPromise task.id with
  | none => exact .refused _ _ 500 _ (by omega)
  | some promise => exact .view next id task promise viewed tasked (own ▸ found)

/-- A granted acquisition stores the task it returns. -/
theorem acquire_answered {request : Request} {next : Txn} {id : String} {task : StoredTask}
    (pid : String) (ttl : Int) (viewed : request.viewed = some id) (own : task.id = id)
    (status : Nat) (message : String) (failed : 400 ≤ status) :
    Answered env txn request
      (match acquire next task pid ttl with
      | (txn, none) => done txn (.err status message)
      | (txn, some task) => doneView txn task) := by
  unfold acquire
  split
  · rename_i refused
    split at refused
    · exact .refused _ _ status message failed
    · cases refused
  · rename_i granted
    split at granted
    · cases granted
    · cases granted
      refine doneView_answered viewed ?_ own
      rw [Txn.getTask_putTask]
      exact if_pos own

theorem taskCreateExisting_answered (data : TaskCreateData) (next : Txn) (task : StoredTask)
    (own : task.id = data.action.data.id)
    (stored : next.getTask data.action.data.id = some task) :
    Answered env txn (.taskCreate data) (taskCreateExisting next data task) := by
  have viewed : (Request.taskCreate data).viewed = some data.action.data.id := rfl
  by_cases pending : task.state = .pending
  · rw [taskCreateExisting_pending data task pending]
    split
    · exact .refused _ _ 409 _ (by omega)
    · exact acquire_answered _ _ viewed own 409 _ (by omega)
  · unfold taskCreateExisting
    split
    · contradiction
    · exact doneView_answered viewed stored own
    all_goals exact .refused _ _ 409 _ (by omega)

theorem taskCreate_answered (keyed : txn.Keyed) (data : TaskCreateData) :
    Answered env txn (.taskCreate data) (taskCreate env txn data) := by
  have timed := tryTimeout_keyed env [data.action.data.id] keyed
  unfold taskCreate
  dsimp only
  split
  · exact .refused _ _ 400 _ (by omega)
  · split
    · exact .refused _ _ 400 _ (by omega)
    · split
      · exact .refused _ _ 400 _ (by omega)
      · split
        · rename_i refused
          exact answered_err (validateCreate_refusal refused) (by omega)
        · split
          · exact .refused _ _ 400 _ (by omega)
          · split
            · exact .refused _ _ 400 _ (by omega)
            · split
              · rename_i task stored
                exact taskCreateExisting_answered data _ task (timed.task _ _ stored) stored
              · split
                · exact .refused _ _ 422 _ (by omega)
                · split
                  · rename_i task stored
                    have named := createPromise_keyed env _ data.action.data none
                      (.acquire data.pid data.ttl) timed
                    rw [createPromise_promise, newPromise_id] at stored
                    exact doneView_answered rfl stored (named.task _ _ stored)
                  · exact .refused _ _ 500 _ (by omega)

theorem taskAcquire_answered (keyed : txn.Keyed) (data : TaskAcquireData) :
    Answered env txn (.taskAcquire data) (taskAcquire env txn data) := by
  have timed := tryTimeout_keyed env [data.id] keyed
  unfold taskAcquire
  dsimp only
  split
  · exact .refused _ _ 404 _ (by omega)
  · rename_i task stored
    split
    · exact .refused _ _ 409 _ (by omega)
    · split
      · exact .refused _ _ 409 _ (by omega)
      · exact acquire_answered _ _ rfl (timed.task _ _ stored) 409 _ (by omega)

theorem taskRelease_answered (data : TaskVersionData) :
    Answered env txn (.taskRelease data) (taskRelease env txn data) := by
  unfold taskRelease
  dsimp only
  split
  · exact .refused _ _ 404 _ (by omega)
  · split
    · exact .refused _ _ 409 _ (by omega)
    · exact .empty _ .commit rfl rfl

theorem taskFulfill_answered (keyed : txn.Keyed) (data : TaskFulfillData) :
    Answered env txn (.taskFulfill data) (taskFulfill env txn data) := by
  have named : data.id ∈ (Request.taskFulfill data).named := by simp [Request.named]
  have timed := tryTimeout_keyed env [data.id] keyed
  unfold taskFulfill
  dsimp only
  split
  · exact .refused _ _ 400 _ (by omega)
  · split
    · exact .refused _ _ 400 _ (by omega)
    · split
      · exact .refused _ _ 404 _ (by omega)
      · rename_i task stored
        split
        · exact .refused _ _ 409 _ (by omega)
        · split
          · exact .refused _ _ 404 _ (by omega)
          · rename_i promise found
            have own : promise.record.id = data.id := timed.promise _ _ found
            split
            · exact .refused _ _ 409 _ (by omega)
            · rename_i next held
              obtain ⟨rfl, _⟩ := Txn.holds_true held
              split
              · refine .promise _ (.commitAck task.id) rfl data.id
                  (settledPromise promise data.action.data.state data.action.data.value _).cleared
                  rfl named ?_
                rw [settle_eq, getPromise_settleChain]
                exact if_pos own
              · exact .promise _ (.commitAck task.id) rfl data.id promise rfl named found

theorem taskSuspend_answered (data : TaskSuspendData) :
    Answered env txn (.taskSuspend data) (taskSuspend env txn data) := by
  unfold taskSuspend
  split
  · exact .refused _ _ 400 _ (by omega)
  · split
    · rename_i refused
      exact answered_err (suspendIds_refusal refused) (by omega)
    · dsimp only
      split
      · exact .refused _ _ 404 _ (by omega)
      · rename_i task stored
        by_cases acquired : task.isAcquiredAt data.version = true
        · rw [if_pos acquired]
          split
          · exact .refused _ _ 409 _ (by omega)
          · split
            · rename_i refused
              exact answered_err (suspendAwaited_refusal refused) (by omega)
            · split
              · split
                · exact .refused _ _ 500 _ (by omega)
                · rename_i own found
                  exact .preload _ data own rfl found
              · exact .empty _ (.commitAck data.id) rfl rfl
        · rw [if_neg acquired]
          exact .refused _ _ 409 _ (by omega)

/-- The promise a fenced action replies with is the stored one. -/
theorem fenceAction_inner (keyed : txn.Keyed) (action : Action ActionValue) (next : Txn)
    (status : Nat) (inner : PromiseRecord ⊕ String)
    (performed : fenceAction env txn action = .ok (next, status, inner)) :
    ∀ record, inner = .inl record → ∃ id stored, action.data.id = some id ∧
      next.getPromise id = some stored ∧ stored.record = record := by
  intro record same
  unfold fenceAction at performed
  split at performed
  · split at performed
    · cases performed
    · rename_i data decoded
      have named := action.data.create_id data decoded
      split at performed
      · cases performed
      · split at performed
        · rename_i existing found
          cases performed
          cases same
          exact ⟨data.id, existing, named, found, rfl⟩
        · have created := getPromise_createPromise env txn data none .dispatch data.id
          rw [if_pos rfl] at created
          cases performed
          cases same
          exact ⟨data.id, newPromise data none txn.now, named, created, rfl⟩
  · split at performed
    · split at performed
      · cases performed
      · rename_i data decoded
        have named := action.data.settle_id data decoded
        split at performed
        · cases performed
          cases same
        · rename_i promise found
          have own : promise.record.id = data.id := keyed.promise _ _ found
          split at performed
          · have settled : (settle env txn promise data.state data.value).1.getPromise data.id =
                some (settledPromise promise data.state data.value txn.now).cleared := by
              rw [settle_eq, getPromise_settleChain]
              exact if_pos own
            cases performed
            cases same
            exact ⟨data.id, _, named, settled, rfl⟩
          · cases performed
            cases same
            exact ⟨data.id, promise, named, found, rfl⟩
    · cases performed

theorem taskFence_answered (keyed : txn.Keyed) (data : TaskFenceData) (corrId : String) :
    Answered env txn (.taskFence data corrId) (taskFence env txn data corrId) := by
  unfold taskFence
  split
  · exact .refused _ _ 400 _ (by omega)
  · rename_i actionId decoded
    split
    · exact .refused _ _ 400 _ (by omega)
    · split
      · exact .refused _ _ 400 _ (by omega)
      · dsimp only
        split
        · exact .refused _ _ 404 _ (by omega)
        · split
          · exact .refused _ _ 409 _ (by omega)
          · split
            · rename_i refused
              exact answered_err (fenceAction_refusal refused) (by omega)
            · rename_i next status inner performed
              split
              · exact .refused _ _ 500 _ (by omega)
              · rename_i own found
                exact .fenced _ data corrId own _ rfl found (fenceAction_inner
                  (tryTimeout_keyed env _ keyed) data.action next status inner performed)

theorem taskGet_answered (id : String) :
    Answered env txn (.taskGet id) (taskGet env txn id) := by
  unfold taskGet
  dsimp only
  split
  · rename_i task found
    exact .task _ id task rfl found
  · exact .refused _ _ 404 _ (by omega)

theorem taskHalt_answered (id : String) :
    Answered env txn (.taskHalt id) (taskHalt env txn id) := by
  unfold taskHalt
  dsimp only
  split
  · exact .refused _ _ 404 _ (by omega)
  · split
    · exact .refused _ _ 409 _ (by omega)
    all_goals exact .empty _ .commit rfl rfl

theorem taskContinue_answered (id : String) :
    Answered env txn (.taskContinue id) (taskContinue env txn id) := by
  unfold taskContinue
  dsimp only
  split
  · exact .refused _ _ 404 _ (by omega)
  · split
    · exact .refused _ _ 409 _ (by omega)
    · exact .empty _ .commit rfl rfl

/-! ### Schedules -/

theorem scheduleCreate_answered (data : ScheduleCreateData) :
    Answered env txn (.scheduleCreate data) (scheduleCreate env txn data) := by
  unfold scheduleCreate
  repeat'
    split
  all_goals
    first
    | exact .refused _ _ 400 _ (by omega)
    | skip
  · rename_i existing found
    exact .schedule _ .drop data.id existing rfl found fun _ => rfl
  · refine .schedule _ .commit data.id _ rfl ?_ nofun
    rw [Txn.scheduleTimer, Txn.getSchedule_enqueue, Txn.getSchedule_putSchedule, if_pos rfl]

theorem scheduleGet_answered (id : String) :
    Answered env txn (.scheduleGet id) (scheduleGet txn id) := by
  unfold scheduleGet
  split
  · rename_i schedule found
    exact .schedule _ .drop id schedule rfl found fun _ => rfl
  · exact .refused _ _ 404 _ (by omega)

theorem scheduleDelete_answered (id : String) :
    Answered env txn (.scheduleDelete id) (scheduleDelete txn id) := by
  unfold scheduleDelete
  split
  · exact .refused _ _ 404 _ (by omega)
  · exact .empty _ .commit rfl rfl

/-- Every response has one of the listed shapes. -/
theorem handle_answered (env : Env) (keyed : txn.Keyed) (request : Request) :
    Answered env txn request (handle env txn request) := by
  cases request with
  | promiseCreate data => exact promiseCreate_answered data
  | promiseGet id => exact promiseGet_answered id
  | promiseSettle data => exact promiseSettle_answered keyed data
  | promiseRegisterCallback data => exact promiseRegisterCallback_answered keyed data
  | promiseRegisterListener data => exact promiseRegisterListener_answered keyed data
  | promiseSearch data => exact promiseSearch_answered data
  | taskCreate data => exact taskCreate_answered keyed data
  | taskAcquire data => exact taskAcquire_answered keyed data
  | taskRelease data => exact taskRelease_answered data
  | taskFulfill data => exact taskFulfill_answered keyed data
  | taskSuspend data => exact taskSuspend_answered data
  | taskFence data corrId => exact taskFence_answered keyed data corrId
  | taskHeartbeat data => exact .empty _ .commit rfl rfl
  | taskGet id => exact taskGet_answered id
  | taskHalt id => exact taskHalt_answered id
  | taskContinue id => exact taskContinue_answered id
  | taskSearch data => exact taskSearch_answered data
  | scheduleCreate data => exact scheduleCreate_answered data
  | scheduleGet id => exact scheduleGet_answered id
  | scheduleDelete id => exact scheduleDelete_answered id
  | scheduleSearch data => exact scheduleSearch_answered data
  | invalid message => exact .refused _ _ 400 _ (by omega)
  | unknown kind => exact .refused _ _ 400 _ (by omega)

end Kernel

/-! ## Replies and the committed store -/

section

variable {env : Env} {txn : Txn} {request : Request} {response : Response}

theorem getPromise_of_clean (clean : txn.writes = .empty) (id : String) :
    txn.getPromise id = txn.kv.promises[id]? := by
  unfold Txn.getPromise
  rw [clean]
  exact Table.read_empty _ _

theorem getTask_of_clean (clean : txn.writes = .empty) (id : String) :
    txn.getTask id = txn.kv.tasks[id]? := by
  unfold Txn.getTask
  rw [clean]
  exact Table.read_empty _ _

theorem getSchedule_of_clean (clean : txn.writes = .empty) (id : String) :
    txn.getSchedule id = txn.kv.schedules[id]? := by
  unfold Txn.getSchedule
  rw [clean]
  exact Table.read_empty _ _

/-- A page lists items of its listing. -/
theorem mem_page {α : Type} {items : List α} {idOf : α → String} {cursor : Option String}
    {limit : Nat} {item : α} (member : item ∈ (page items idOf cursor limit).1) :
    item ∈ items := by
  rw [Search.page_eq] at member
  exact (Paging.fetch_mem rfl member).1

theorem promiseSearch_eq (txn : Txn) (data : PromiseSearchData) (limit : Nat)
    (bounded : searchLimit data.limit defaultSearchLimit = .ok limit) :
    ∃ page cursor, promiseSearch txn data = refuse txn (ok (.promises page cursor)) ∧
      ∀ record ∈ page, ∃ (id : String) (stored : StoredPromise),
        txn.kv.promises[id]? = some stored ∧ stored.record = record := by
  unfold promiseSearch
  rw [bounded]
  refine ⟨_, _, rfl, ?_⟩
  intro record member
  have listed := (List.mem_filter.mp (mem_page member)).1
  obtain ⟨⟨id, stored⟩, entry, rfl⟩ := List.mem_map.mp listed
  exact ⟨id, stored, Std.ExtTreeMap.mem_toList_iff_getElem?_eq_some.mp entry, rfl⟩

theorem taskSearch_eq (txn : Txn) (data : TaskSearchData) (limit : Nat)
    (bounded : searchLimit data.limit defaultSearchLimit = .ok limit) :
    ∃ page cursor, taskSearch txn data = refuse txn (ok (.tasks page cursor)) ∧
      ∀ record ∈ page, ∃ (id : String) (stored : StoredTask),
        txn.kv.tasks[id]? = some stored ∧ stored.record = record := by
  unfold taskSearch
  rw [bounded]
  refine ⟨_, _, rfl, ?_⟩
  intro record member
  have listed := (List.mem_filter.mp (mem_page member)).1
  obtain ⟨stored, task, rfl⟩ := List.mem_map.mp listed
  obtain ⟨⟨id, _⟩, entry, rfl⟩ := List.mem_map.mp task
  exact ⟨id, _, Std.ExtTreeMap.mem_toList_iff_getElem?_eq_some.mp entry, rfl⟩

theorem scheduleSearch_eq (txn : Txn) (data : ScheduleSearchData) (limit : Nat)
    (bounded : searchLimit data.limit defaultScheduleSearchLimit = .ok limit) :
    ∃ page cursor, scheduleSearch txn data = refuse txn (ok (.schedules page cursor)) ∧
      ∀ record ∈ page, ∃ id : String, txn.kv.schedules[id]? = some record := by
  unfold scheduleSearch
  rw [bounded]
  refine ⟨_, _, rfl, ?_⟩
  intro record member
  have listed := (List.mem_filter.mp (mem_page member)).1
  obtain ⟨⟨id, _⟩, entry, rfl⟩ := List.mem_map.mp listed
  exact ⟨id, Std.ExtTreeMap.mem_toList_iff_getElem?_eq_some.mp entry⟩

/-- A response reports the records of its transaction. -/
theorem Answered.reports (answered : Answered env txn request response) (keyed : response.txn.Keyed)
    (clean : txn.writes = .empty) (status : Nat) (data : ReplyData)
    (replied : response.reply = .ok status data) :
    response.txn.views.Reports data ∧ (response.exit.stores = false → response.txn = txn) := by
  cases answered with
  | refused next exit status message failed => cases replied
  | empty next exit kept unviewed =>
      cases replied
      exact ⟨Views.reports_empty, fun lost => absurd kept (by simp [lost])⟩
  | promise next exit kept id stored unviewed named found =>
      cases replied
      exact ⟨(keyed.shows found).reports, fun lost => absurd kept (by simp [lost])⟩
  | task next id stored unviewed found =>
      cases replied
      exact ⟨keyed.reports_task found, nofun⟩
  | view next id task promise viewed tasked found =>
      cases replied
      refine ⟨⟨?_, (keyed.reports_task tasked).task, ?_⟩, nofun⟩
      · intro record member
        rcases List.mem_cons.mp member with rfl | sibling
        · exact keyed.shows found
        · by_cases ended : task.state = .fulfilled
          · simp [ended] at sibling
          · rw [if_neg ended] at sibling
            exact Txn.preload_shows keyed _ record sibling
      · simp [ReplyData.scheduleRecords]
  | preload next data own asked found =>
      cases replied
      exact ⟨Views.reports_preload (Txn.preload_shows keyed _), nofun⟩
  | fenced next data corrId own action asked found inner =>
      cases replied
      refine ⟨⟨?_, ?_, ?_⟩, nofun⟩
      · intro record member
        rcases List.mem_append.mp member with acted | sibling
        · obtain ⟨id, stored, _, read, rfl⟩ := inner record (by simpa using acted)
          exact keyed.shows read
        · exact Txn.preload_shows keyed _ record sibling
      · simp [ReplyData.taskRecords]
      · simp [ReplyData.scheduleRecords]
  | schedule next exit id stored unviewed found read =>
      cases replied
      refine ⟨Views.reports_schedule ?_, read⟩
      show next.getSchedule stored.id = some stored
      rw [keyed.schedule id stored found]
      exact found
  | promises data limit asked bounded =>
      obtain ⟨page, cursor, same, listed⟩ := promiseSearch_eq txn data limit bounded
      rw [same] at replied keyed ⊢
      cases replied
      refine ⟨⟨?_, ?_, ?_⟩, fun _ => rfl⟩
      · intro record member
        obtain ⟨id, stored, found, rfl⟩ := listed record member
        exact keyed.shows ((getPromise_of_clean clean id).trans found)
      · simp [ReplyData.taskRecords]
      · simp [ReplyData.scheduleRecords]
  | tasks data limit asked bounded =>
      obtain ⟨page, cursor, same, listed⟩ := taskSearch_eq txn data limit bounded
      rw [same] at replied keyed ⊢
      cases replied
      refine ⟨⟨?_, ?_, ?_⟩, fun _ => rfl⟩
      · simp [ReplyData.promiseRecords]
      · intro record member
        obtain ⟨id, stored, found, rfl⟩ := listed record member
        exact (keyed.reports_task ((getTask_of_clean clean id).trans found)).task stored.record
          (List.mem_singleton_self _)
      · simp [ReplyData.scheduleRecords]
  | schedules data limit asked bounded =>
      obtain ⟨page, cursor, same, listed⟩ := scheduleSearch_eq txn data limit bounded
      rw [same] at replied keyed ⊢
      cases replied
      refine ⟨⟨?_, ?_, ?_⟩, fun _ => rfl⟩
      · simp [ReplyData.promiseRecords]
      · simp [ReplyData.taskRecords]
      · intro record member
        obtain ⟨id, found⟩ := listed record member
        have stored : txn.getSchedule id = some record := (getSchedule_of_clean clean id).trans found
        show txn.getSchedule record.id = some record
        rw [keyed.schedule id record stored]
        exact stored

/-- The view of a task has the task asked for and the promise of the same id. -/
theorem Answered.paired (answered : Answered env txn request response)
    (keyed : response.txn.Keyed) (status : Nat) (data : ReplyData)
    (replied : response.reply = .ok status data) (id : String)
    (viewed : request.viewed = some id) :
    ∃ task promise siblings, data = .taskView task promise siblings ∧ task.id = id ∧
      promise.id = id := by
  cases answered with
  | refused next exit status message failed => cases replied
  | view next other task promise asked tasked found =>
      cases replied
      have same : other = id := Option.some.inj (asked.symm.trans viewed)
      rw [same] at tasked found
      exact ⟨_, _, _, rfl, keyed.task id task tasked, keyed.promise id promise found⟩
  | empty next exit kept unviewed => simp [unviewed] at viewed
  | promise next exit kept other stored unviewed named found => simp [unviewed] at viewed
  | task next other stored unviewed found => simp [unviewed] at viewed
  | schedule next exit other stored unviewed found read => simp [unviewed] at viewed
  | preload next asking own asked found => simp [asked, Request.viewed] at viewed
  | fenced next asking corrId own action asked found inner => simp [asked, Request.viewed] at viewed
  | promises asking limit asked bounded => simp [asked, Request.viewed] at viewed
  | tasks asking limit asked bounded => simp [asked, Request.viewed] at viewed
  | schedules asking limit asked bounded => simp [asked, Request.viewed] at viewed

/-- A successful reply is the handler's, and the store holds what the transaction wrote unless the
handler stores nothing. -/
theorem conclude_ok {stored : Bool} {status : Nat} {data : ReplyData}
    (replied : (conclude response stored).2 = .ok status data) :
    response.reply = .ok status data ∧
      (conclude response stored).1.kv =
        if response.exit.stores then response.txn.kv.apply response.txn.writes
        else response.txn.kv := by
  unfold conclude at replied ⊢
  cases exit : response.exit with
  | drop =>
      rw [exit] at replied
      exact ⟨replied, rfl⟩
  | panic =>
      rw [exit] at replied
      exact ⟨replied, rfl⟩
  | commit =>
      rw [exit] at replied
      cases stored with
      | true => exact ⟨replied, rfl⟩
      | false => cases replied
  | commitAck taskId =>
      rw [exit] at replied
      cases stored with
      | false => cases replied
      | true =>
          cases committed : response.txn.commitAck taskId with
          | mk commit acked =>
              cases acked with
              | false =>
                  simp only [committed] at replied
                  cases replied
              | true =>
                  simp only [committed] at replied ⊢
                  exact ⟨replied, commitAck_kv committed⟩

end

/-- Every record of a successful reply is the one the store holds under its id right after the
request, and the reply to an acquisition pairs the task with its own promise. -/
theorem replies_report {env : Env} {before after : System} {request : Request} {stored : Bool}
    {status : Nat} {data : ReplyData} (reached : Reachable env before)
    (taken : step env before (.request request stored) = some after)
    (replied : answer env before request stored = .ok status data) :
    (∀ record ∈ data.promiseRecords, (after.promise record.id).map (·.record) = some record) ∧
    (∀ record ∈ data.taskRecords, (after.task record.id).map StoredTask.record = some record) ∧
    (∀ record ∈ data.scheduleRecords, after.schedule record.id = some record) ∧
    ∀ id, request.viewed = some id → ∃ task promise siblings,
      data = .taskView task promise siblings ∧ task.id = id ∧ promise.id = id := by
  have keyed := Reachable.keyed reached
  have answered := handle_answered env keyed request
  have last := ((handle_outcome env keyed request).trail keyed).keyed keyed
  obtain ⟨same, left⟩ := conclude_ok replied
  obtain ⟨reports, unstored⟩ := answered.reports last rfl status data same
  have views : after.views = (handle env (before.txn env) request).txn.views := by
    change stepRequest env before request stored = some after at taken
    unfold stepRequest at taken
    split at taken
    · cases taken
      by_cases stores : (handle env (before.txn env) request).exit.stores = true
      · rw [if_pos stores] at left
        exact (stores_of_kv left).views
      · rw [if_neg stores] at left
        rw [unstored (by simpa using stores)] at left ⊢
        rw [views_txn]
        exact views_of_kv left
    · cases taken
  rw [← views] at reports
  exact ⟨reports.promise, reports.task, reports.schedule,
    fun id viewed => answered.paired last status data same id viewed⟩

/-- The acquisition of a task, with one sibling of its promise. -/
theorem replies_report_family :
    ∃ after record siblings, step .brief familyTrace.2
        (.request (.taskAcquire ⟨"root", 0, "p", 100⟩) true) = some after ∧
      answer .brief familyTrace.2 (.taskAcquire ⟨"root", 0, "p", 100⟩) true =
        .ok 200 (.taskView ⟨"root", .acquired, 1, 0, some 100, some "p"⟩ record siblings) ∧
      siblings.map (·.id) = ["root:1"] ∧
      (after.task "root").map StoredTask.record =
        some ⟨"root", .acquired, 1, 0, some 100, some "p"⟩ ∧
      (∀ shown ∈ record :: siblings, (after.promise shown.id).map (·.record) = some shown) ∧
      record.id = "root" := by
  have enabled : (step .brief familyTrace.2
      (.request (.taskAcquire ⟨"root", 0, "p", 100⟩) true)).isSome = true := by
    decide
  obtain ⟨after, taken⟩ := Option.isSome_iff_exists.mp enabled
  have replied : answer .brief familyTrace.2 (.taskAcquire ⟨"root", 0, "p", 100⟩) true =
      .ok 200 (.taskView ⟨"root", .acquired, 1, 0, some 100, some "p"⟩
        (newPromise .rootSample none 1).record
        [(newPromise (.branchSample "root:1") none 1).record]) := by
    decide
  obtain ⟨promises, tasks, _, paired⟩ := replies_report family_reachable taken replied
  refine ⟨after, _, _, taken, replied, rfl, tasks _ (List.mem_singleton_self _), promises, ?_⟩
  obtain ⟨task, promise, siblings, same, _, own⟩ := paired "root" rfl
  cases same
  exact own

end Resonate
