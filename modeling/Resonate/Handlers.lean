import Resonate.Kernel

set_option autoImplicit false

/-! One handler for each request kind, the delivery of a job and the firing of a timer. -/

namespace Resonate

namespace Kernel

/-- How a handler leaves its transaction: dropped, committed, committed with the
acknowledgement of a task's held claim, or dropped by a failed `expect`. -/
inductive Exit
  | drop
  | commit
  | commitAck (taskId : String)
  | panic
  deriving DecidableEq, Repr

structure Response where
  txn : Txn
  exit : Exit
  reply : Reply

/-- Reply without committing. -/
def refuse (txn : Txn) (reply : Reply) : Response := ⟨txn, .drop, reply⟩

/-- Reply after committing. -/
def done (txn : Txn) (reply : Reply) : Response := ⟨txn, .commit, reply⟩

/-- Reply after committing with the acknowledgement of the held claim of `taskId`. -/
def commitSettlement (txn : Txn) (taskId : String) (reply : Reply) : Response :=
  ⟨txn, .commitAck taskId, reply⟩

/-- A failed `expect`: no reply is sent. -/
def expectFailed (txn : Txn) (message : String) : Response := ⟨txn, .panic, .err 500 message⟩

def ok (data : ReplyData) : Reply := .ok 200 data

/-- The task with its promise and its siblings. `none` when the promise is missing. -/
def taskView (txn : Txn) (task : StoredTask) : Option ReplyData :=
  match txn.getPromise task.id with
  | none => none
  | some promise =>
      let preload := if task.state = .fulfilled then [] else txn.preload promise.record
      some (.taskView task.record promise.record preload)

/-- Commit and reply with the view of a task. -/
def doneView (txn : Txn) (task : StoredTask) : Response :=
  match taskView txn task with
  | some view => done txn (ok view)
  | none => expectFailed txn "a task's promise exists"

def promiseCreate (env : Env) (txn : Txn) (data : PromiseCreateData) : Response :=
  match validateCreate env data with
  | some reply => refuse txn reply
  | none =>
      let txn := tryTimeout env txn [data.id]
      match txn.getPromise data.id with
      | some existing => done txn (ok (.promise existing.record))
      | none =>
          let (txn, promise) := createPromise env txn data none .dispatch
          done txn (ok (.promise promise.record))

def promiseGet (env : Env) (txn : Txn) (id : String) : Response :=
  let txn := tryTimeout env txn [id]
  match txn.getPromise id with
  | some promise => done txn (ok (.promise promise.record))
  | none => done txn (.err 404 "Promise not found")

def promiseSettle (env : Env) (txn : Txn) (data : PromiseSettleData) : Response :=
  let txn := tryTimeout env txn [data.id]
  match txn.getPromise data.id with
  | none => done txn (.err 404 "Promise not found")
  | some promise =>
      if promise.record.isPending then
        let (txn, promise) := settle env txn promise data.state data.value
        done txn (ok (.promise promise.record))
      else done txn (ok (.promise promise.record))

def registerCallback (txn : Txn) (awaited : StoredPromise) (awaiter : String) : Txn :=
  if awaiter ∈ awaited.callbacks then txn
  else txn.putPromise { awaited with callbacks := awaited.callbacks ++ [awaiter] }

def promiseRegisterCallback (env : Env) (txn : Txn) (data : CallbackData) : Response :=
  match validateCallback data.awaited data.awaiter with
  | some reply => refuse txn reply
  | none =>
      let txn := tryTimeout env txn [data.awaited, data.awaiter]
      match txn.getPromise data.awaited with
      | none => done txn (.err 404 "Awaited promise not found")
      | some awaited =>
          match txn.getPromise data.awaiter with
          | none => done txn (.err 422 "Awaiter promise not found")
          | some awaiter =>
              if awaiter.record.target.isNone then
                done txn (.err 422 "Awaiter promise has no resonate:target tag")
              else if ¬ awaited.record.isExternal then
                done txn (.err 422 "Awaited promise is not awaitable")
              else
                let txn :=
                  if awaiter.record.isPending then
                    if awaited.record.isPending then
                      registerCallback txn awaited data.awaiter
                    else resumeAwaiter env txn data.awaiter data.awaited .registration
                  else txn
                done txn (ok (.promise awaited.record))

def promiseRegisterListener (env : Env) (txn : Txn) (data : ListenerData) : Response :=
  if ¬ env.isUrl data.address then refuse txn (.err 400 "Invalid listener address")
  else
    let txn := tryTimeout env txn [data.awaited]
    match txn.getPromise data.awaited with
    | none => done txn (.err 404 "Awaited promise not found")
    | some awaited =>
        if ¬ awaited.record.isExternal then
          done txn (.err 422 "Awaited promise is not awaitable")
        else
          let txn :=
            if awaited.record.isPending ∧ data.address ∉ awaited.listeners then
              txn.putPromise { awaited with listeners := awaited.listeners ++ [data.address] }
            else txn
          done txn (ok (.promise awaited.record))

def promiseSearch (txn : Txn) (data : PromiseSearchData) : Response :=
  match searchLimit data.limit defaultSearchLimit with
  | .error reply => refuse txn reply
  | .ok limit =>
      let promises := txn.promises.filter fun promise =>
        data.state.all (promise.state == ·) && tagsMatch promise.tags data.tags
      let (page, cursor) := page promises (·.id) data.cursor limit
      refuse txn (ok (.promises page cursor))

/-- The rest of `task.create` for a task that exists. A delivered job's claim is held, or the
job is claimed by id from the queue. -/
def taskCreateExisting (txn : Txn) (data : TaskCreateData) (task : StoredTask) : Response :=
  match task.state with
  | .pending =>
      let (txn, claimed) :=
        match txn.holds task.id with
        | (txn, true) => (txn, true)
        | (txn, false) =>
            match task.job with
            | some job => txn.claimJob task.id job (leaseOf data.ttl)
            | none => (txn, false)
      if ¬ claimed then done txn (.err 409 "Already exists")
      else
        match acquire txn task data.pid data.ttl with
        | (txn, none) => done txn (.err 409 "Already exists")
        | (txn, some task) => doneView txn task
  | .fulfilled => doneView txn task
  | .acquired | .suspended | .halted => done txn (.err 409 "Already exists")

def taskCreate (env : Env) (txn : Txn) (data : TaskCreateData) : Response :=
  let create := data.action.data
  if data.action.kind ≠ "promise.create" then refuse txn (.err 400 "Invalid action kind")
  else if data.pid = "" then refuse txn (.err 400 "Process ID is required")
  else if data.ttl < 1 then refuse txn (.err 400 "TTL must be positive")
  else
    match validateCreate env create with
    | some reply => refuse txn reply
    | none =>
        if create.tags[tagTarget]?.isNone then
          refuse txn (.err 400 "resonate:target tag is required")
        else if create.tags[tagDelay]?.isSome then
          refuse txn (.err 400 "resonate:delay tag is not allowed")
        else
          let txn := tryTimeout env txn [create.id]
          match txn.getTask create.id with
          | some task => taskCreateExisting txn data task
          | none =>
              match txn.getPromise create.id with
              | some _ =>
                  done txn (.err 422 "The promise does not have a resonate:target tag")
              | none =>
                  let (txn, promise) :=
                    createPromise env txn create none (.acquire data.pid data.ttl)
                  match txn.getTask promise.record.id with
                  | some task => doneView txn task
                  | none => expectFailed txn "a targeted promise has a task"

def taskAcquire (env : Env) (txn : Txn) (data : TaskAcquireData) : Response :=
  let txn := tryTimeout env txn [data.id]
  match txn.getTask data.id with
  | none => done txn (.err 404 "Task not found")
  | some task =>
      if task.state ≠ .pending then done txn (.err 409 "Task is not pending")
      else if task.version ≠ data.version then done txn (.err 409 "Version mismatch")
      else
        match acquire txn task data.pid data.ttl with
        | (txn, none) => done txn (.err 409 "Task is not pending")
        | (txn, some task) => doneView txn task

def taskRelease (env : Env) (txn : Txn) (data : TaskVersionData) : Response :=
  let txn := tryTimeout env txn [data.id]
  match txn.getTask data.id with
  | none => done txn (.err 404 "Task not found")
  | some task =>
      if ¬ task.isAcquiredAt data.version then
        done txn (.err 409 "Task version mismatch or invalid state")
      else
        -- The job returns to pending and is delivered again.
        let txn := (txn.putTask (task.transition .pending)).nackAfterCommit task.id
        done txn (ok .empty)

def taskFulfill (env : Env) (txn : Txn) (data : TaskFulfillData) : Response :=
  let action := data.action.data
  if data.action.kind ≠ "promise.settle" then refuse txn (.err 400 "Invalid action kind")
  else if action.id ≠ data.id then
    refuse txn (.err 400 "Action must settle the task's promise")
  else
    let txn := tryTimeout env txn [data.id]
    match txn.getTask data.id with
    | none => done txn (.err 404 "Task not found")
    | some task =>
        if ¬ task.isAcquiredAt data.version then
          done txn (.err 409 "Task version mismatch or invalid state")
        else
          match txn.getPromise data.id with
          | none => done txn (.err 404 "Promise not found")
          | some promise =>
              match txn.holds task.id with
              | (txn, false) => done txn (.err 409 "Task version mismatch or invalid state")
              | (txn, true) =>
                  let (txn, promise) :=
                    if promise.record.isPending then
                      settle env txn promise action.state action.value
                    else (txn, promise)
                  commitSettlement txn task.id (ok (.promise promise.record))

/-- The checks of a suspend's actions, in order: their awaited ids, or the refusal. -/
def suspendIds (id : String) : List String → List (Action CallbackData) →
    Except Reply (List String)
  | awaited, [] => .ok awaited
  | awaited, action :: rest =>
      if action.kind ≠ "promise.register_callback" then
        .error (.err 400 "Invalid action kind")
      else if action.data.awaiter ≠ id then
        .error (.err 400 "Action awaiter must be the task")
      else
        match validateCallback action.data.awaited action.data.awaiter with
        | some reply => .error reply
        | none =>
            if action.data.awaited ∈ awaited then
              .error (.err 400 "Awaited promises must be unique")
            else suspendIds id (awaited ++ [action.data.awaited]) rest

/-- The awaited promises of a suspend, or the refusal of the first one that cannot be
awaited. -/
def suspendAwaited (txn : Txn) : List String → Except Reply (List StoredPromise)
  | [] => .ok []
  | id :: rest =>
      match txn.getPromise id with
      | none => .error (.err 422 "Awaited promise not found")
      | some promise =>
          if ¬ promise.record.isExternal then
            .error (.err 422 "Awaited promise is not awaitable")
          else (suspendAwaited txn rest).map (promise :: ·)

def taskSuspend (env : Env) (txn : Txn) (data : TaskSuspendData) : Response :=
  if data.actions.isEmpty then refuse txn (.err 400 "Actions are required")
  else
    match suspendIds data.id [] data.actions with
    | .error reply => refuse txn reply
    | .ok awaitedIds =>
        let txn := tryTimeout env txn (data.id :: awaitedIds)
        match txn.getTask data.id with
        | none => done txn (.err 404 "Task not found")
        | some task =>
            let (txn, held) :=
              if task.isAcquiredAt data.version then txn.holds task.id else (txn, false)
            if ¬ held then done txn (.err 409 "Task is not acquired or version mismatch")
            else
              match suspendAwaited txn awaitedIds with
              | .error reply => done txn reply
              | .ok awaited =>
                  let task := { task with resumes := ∅ }
                  if awaited.any fun promise => ¬ promise.record.isPending then
                    let txn := txn.putTask task
                    match txn.getPromise data.id with
                    | none => expectFailed txn "a task's promise exists"
                    | some own => done txn (.ok 300 (.preload (txn.preload own.record)))
                  else
                    let txn := awaited.foldl
                      (fun txn promise => registerCallback txn promise data.id) txn
                    let txn := txn.putTask (task.transition .suspended)
                    commitSettlement txn data.id (ok .empty)

/-- The fenced action: the transaction with the inner status and data, or the refusal of the
whole request. -/
def fenceAction (env : Env) (txn : Txn) (action : Action ActionValue) :
    Except Reply (Txn × Nat × (PromiseRecord ⊕ String)) :=
  if action.kind = "promise.create" then
    match action.data.create with
    | .error message => .error (.err 400 (String.append "Invalid action data: " message))
    | .ok create =>
        match validateCreate env create with
        | some reply => .error reply
        | none =>
            match txn.getPromise create.id with
            | some existing => .ok (txn, 200, .inl existing.record)
            | none =>
                let (txn, promise) := createPromise env txn create none .dispatch
                .ok (txn, 200, .inl promise.record)
  else if action.kind = "promise.settle" then
    match action.data.settle with
    | .error message => .error (.err 400 (String.append "Invalid action data: " message))
    | .ok settleData =>
        match txn.getPromise settleData.id with
        | none => .ok (txn, 404, .inr "Promise not found")
        | some promise =>
            if promise.record.isPending then
              let (txn, promise) := settle env txn promise settleData.state settleData.value
              .ok (txn, 200, .inl promise.record)
            else .ok (txn, 200, .inl promise.record)
  else .error (.err 400 "Invalid fence action kind")

def taskFence (env : Env) (txn : Txn) (data : TaskFenceData) (corrId : String) : Response :=
  match data.action.data.id with
  | none => refuse txn (.err 400 "Action promise ID is required")
  | some actionId =>
      if actionId = data.id then
        refuse txn (.err 400 "Action promise must differ from the task's promise")
      else if originOf actionId ≠ originOf data.id then
        refuse txn (.err 400 "Action must belong to the task's origin")
      else
        let txn := tryTimeout env txn [data.id, actionId]
        match txn.getTask data.id with
        | none => done txn (.err 404 "Task not found")
        | some task =>
            if ¬ task.isAcquiredAt data.version then done txn (.err 409 "Version mismatch")
            else
              match fenceAction env txn data.action with
              | .error reply => refuse txn reply
              | .ok (txn, status, inner) =>
                  match txn.getPromise data.id with
                  | none => expectFailed txn "a task's promise exists"
                  | some own =>
                      let action : InnerReply :=
                        { kind := data.action.kind
                          corrId := corrId
                          status := status
                          version := protocolVersion
                          data := inner }
                      done txn (ok (.fenced action (txn.preload own.record)))

/-- One entry of a heartbeat. -/
def heartbeatOne (pid : String) (txn : Txn) (entry : TaskVersionData) : Txn :=
  match txn.getTask entry.id with
  | none => txn
  | some task =>
      match task.isAcquiredAt entry.version && task.pid == some pid, task.ttl with
      | true, some ttl => (txn.renew task.id (leaseOf ttl)).1
      | _, _ => txn

def taskHeartbeat (txn : Txn) (data : TaskHeartbeatData) : Response :=
  done (data.tasks.foldl (heartbeatOne data.pid) txn) (ok .empty)

def taskGet (env : Env) (txn : Txn) (id : String) : Response :=
  let txn := tryTimeout env txn [id]
  match txn.getTask id with
  | some task => done txn (ok (.task task.record))
  | none => done txn (.err 404 "Task not found")

def taskHalt (env : Env) (txn : Txn) (id : String) : Response :=
  let txn := tryTimeout env txn [id]
  match txn.getTask id with
  | none => done txn (.err 404 "Task not found")
  | some task =>
      match task.state with
      | .fulfilled => done txn (.err 409 "Task is fulfilled")
      | .halted => done txn (ok .empty)
      | .pending | .acquired | .suspended =>
          -- A held claim is acknowledged: the job ends. A job still waiting for delivery is
          -- dropped at its delivery.
          done ((txn.putTask (task.transition .halted)).release task.id) (ok .empty)

def taskContinue (env : Env) (txn : Txn) (id : String) : Response :=
  let txn := tryTimeout env txn [id]
  match txn.getTask id with
  | none => done txn (.err 404 "Task not found")
  | some task =>
      if task.state ≠ .halted then done txn (.err 409 "Task is not halted")
      else
        let task := task.transition .pending
        let txn := txn.putTask task
        -- A job still waiting for delivery dispatches the task.
        let txn := if task.job.any txn.jobExists then txn else (txn.dispatch env task none).1
        done txn (ok .empty)

def taskSearch (txn : Txn) (data : TaskSearchData) : Response :=
  match searchLimit data.limit defaultSearchLimit with
  | .error reply => refuse txn reply
  | .ok limit =>
      let tasks := (txn.tasks.map StoredTask.record).filter
        fun record => data.state.all (record.state == ·)
      let (page, cursor) := page tasks (·.id) data.cursor limit
      refuse txn (ok (.tasks page cursor))

def scheduleCreate (env : Env) (txn : Txn) (data : ScheduleCreateData) : Response :=
  if data.id = "" then refuse txn (.err 400 "Schedule ID is required")
  else if Text.contains data.id ':' then
    refuse txn (.err 400 "Schedule ID must not contain ':'")
  else
    match data.promiseTags[tagTarget]? with
    | none => refuse txn (.err 400 "resonate:target tag is required")
    | some target =>
        if ¬ env.isUrl target then refuse txn (.err 400 "Invalid resonate:target address")
        else if data.promiseTimeout < 0 then
          refuse txn (.err 400 "Promise timeout must not be negative")
        else
          match txn.getSchedule data.id with
          | some existing => refuse txn (ok (.schedule existing))
          | none =>
              match env.nextAfter data.cron txn.now with
              | none => refuse txn (.err 400 "Invalid cron expression")
              | some nextRunAt =>
                  let schedule : ScheduleRecord :=
                    { id := data.id
                      cron := data.cron
                      promiseId := data.promiseId
                      promiseTimeout := data.promiseTimeout
                      promiseParam := data.promiseParam
                      promiseTags := data.promiseTags
                      createdAt := txn.now
                      nextRunAt := nextRunAt
                      lastRunAt := none }
                  let txn := (txn.putSchedule schedule).scheduleTimer
                    (.schedule schedule.id nextRunAt) nextRunAt
                  done txn (ok (.schedule schedule))

def scheduleGet (txn : Txn) (id : String) : Response :=
  match txn.getSchedule id with
  | some schedule => refuse txn (ok (.schedule schedule))
  | none => refuse txn (.err 404 "Schedule not found")

def scheduleDelete (txn : Txn) (id : String) : Response :=
  match txn.getSchedule id with
  | none => refuse txn (.err 404 "Schedule not found")
  | some _ => done (txn.deleteSchedule id) (ok .empty)

def scheduleSearch (txn : Txn) (data : ScheduleSearchData) : Response :=
  match searchLimit data.limit defaultScheduleSearchLimit with
  | .error reply => refuse txn reply
  | .ok limit =>
      let schedules := txn.schedules.filter
        fun schedule => tagsMatch schedule.promiseTags data.tags
      let (page, cursor) := page schedules (·.id) data.cursor limit
      refuse txn (ok (.schedules page cursor))

/-- Dispatch one request. -/
def handle (env : Env) (txn : Txn) : Request → Response
  | .promiseCreate data => promiseCreate env txn data
  | .promiseGet id => promiseGet env txn id
  | .promiseSettle data => promiseSettle env txn data
  | .promiseRegisterCallback data => promiseRegisterCallback env txn data
  | .promiseRegisterListener data => promiseRegisterListener env txn data
  | .promiseSearch data => promiseSearch txn data
  | .taskCreate data => taskCreate env txn data
  | .taskAcquire data => taskAcquire env txn data
  | .taskRelease data => taskRelease env txn data
  | .taskFulfill data => taskFulfill env txn data
  | .taskSuspend data => taskSuspend env txn data
  | .taskFence data corrId => taskFence env txn data corrId
  | .taskHeartbeat data => taskHeartbeat txn data
  | .taskGet id => taskGet env txn id
  | .taskHalt id => taskHalt env txn id
  | .taskContinue id => taskContinue env txn id
  | .taskSearch data => taskSearch txn data
  | .scheduleCreate data => scheduleCreate env txn data
  | .scheduleGet id => scheduleGet txn id
  | .scheduleDelete id => scheduleDelete txn id
  | .scheduleSearch data => scheduleSearch txn data
  | .invalid message => refuse txn (.err 400 (String.append "Invalid request: " message))
  | .unknown kind => refuse txn (.err 400 (String.append "Unknown operation: " kind))

/-- Deliver a claimed job: the transaction to commit and the message to pass to the callback.
The outer `none` is a payload that does not decode as a delivery. -/
def deliver (env : Env) (txn : Txn) (claim : Claim) : Option (Txn × Option Message) :=
  match claim.payload with
  | .timer _ => none
  | .unblock message => some (txn.ackAfterCommit claim, some message)
  | .execute id =>
      let txn := tryTimeout env txn [id]
      match txn.getTask id with
      | none => some (txn.ackAfterCommit claim, none)
      | some task =>
          match task.state with
          | .acquired =>
              let txn := (txn.putTask (task.transition .pending)).holdAfterCommit id claim
              some (txn, some (.execute id task.version))
          | .pending =>
              some (txn.holdAfterCommit id claim, some (.execute id task.version))
          | .suspended | .halted | .fulfilled => some (txn.ackAfterCommit claim, none)

/-- Apply a fired timer. A timer that outlived its transition ends without effect. -/
def fire (env : Env) (txn : Txn) : Timer → Txn × Exit
  | .promiseTimeout id =>
      match txn.getPromise id with
      | none => (txn, .drop)
      | some promise =>
          if ¬ promise.record.isPending then (txn, .drop)
          else ((expirePromise env txn promise).1, .commit)
  | .schedule id at_ =>
      match txn.getSchedule id with
      | none => (txn, .drop)
      | some schedule =>
          if schedule.nextRunAt ≠ at_ then (txn, .drop)
          else (fireSchedule env txn schedule, .commit)

end Kernel

end Resonate
