import Resonate.Creation

set_option autoImplicit false

/-! The moves a transaction is made of. Every request, delivery and firing is a trail of moves,
and each move applies functions of the kernel under the conditions they were checked for. -/

namespace Resonate

open Kernel

/-- What one move does, with the stored record it starts from. -/
inductive Label
  | expire (promise : StoredPromise)
  | strike (promise : StoredPromise)
  | settle (promise : StoredPromise) (state : SettleState) (value : PromiseValue)
  | create (data : PromiseCreateData) (createdAt : Option Int) (mode : CreateMode)
  | register (awaited : StoredPromise) (awaiter : String)
  | listen (awaited : StoredPromise) (address : String)
  | resume (awaited : StoredPromise) (awaiter : String)
  | acquire (task : StoredTask) (pid : String) (ttl : Int)
  | release (task : StoredTask)
  | lose (task : StoredTask)
  | suspend (task : StoredTask) (awaited : List String)
  | clear (task : StoredTask)
  | halt (task : StoredTask)
  | proceed (task : StoredTask)
  | addSchedule (schedule : ScheduleRecord)
  | advance (schedule : ScheduleRecord)
  | dropSchedule (id : String)
  | check (task : String)
  | renew (task : String) (lease : Nat)
  | claim (task : StoredTask) (lease : Nat)
  | ack (claim : Claim)
  | hold (task : String) (claim : Claim)

/-- Whether a move puts a task to sleep. -/
def Label.Suspends : Label → Prop
  | .suspend _ _ => True
  | _ => False

/-- How a creation was admitted: validated for a request, or expanded from a schedule. -/
inductive Admitted (env : Env) (txn : Txn) : PromiseCreateData → Option Int → CreateMode → Prop
  | dispatched (data : PromiseCreateData) (valid : validateCreate env data = none) :
      Admitted env txn data none .dispatch
  | acquired (data : PromiseCreateData) (pid : String) (ttl : Int)
      (valid : validateCreate env data = none) (targeted : data.tags[tagTarget]?.isSome = true)
      (undelayed : data.tags[tagDelay]? = none) (named : pid ≠ "") (positive : 1 ≤ ttl) :
      Admitted env txn data none (.acquire pid ttl)
  | fired (schedule : ScheduleRecord) (stored : txn.getSchedule schedule.id = some schedule) :
      Admitted env txn (firedData schedule) (some schedule.nextRunAt) .dispatch

namespace Kernel

/-- A task acquired by `pid`. -/
def acquiredTask (task : StoredTask) (pid : String) (ttl : Int) : StoredTask :=
  { task with
    state := .acquired
    version := task.version + 1
    pid := some pid
    ttl := some ttl
    resumes := ∅ }

/-- The schedule after its firing at `nextRunAt`, with its next timer. -/
def advanceSchedule (env : Env) (txn : Txn) (schedule : ScheduleRecord) : Txn :=
  let fired := { schedule with lastRunAt := some schedule.nextRunAt }
  match env.nextAfter schedule.cron schedule.nextRunAt with
  | some next =>
      (txn.scheduleTimer (.schedule schedule.id next) next).putSchedule
        { fired with nextRunAt := next }
  | none => txn.putSchedule fired

/-- A halted task is pending again, and dispatched unless its job still exists. -/
def proceed (env : Env) (txn : Txn) (task : StoredTask) : Txn :=
  let task := task.transition .pending
  let txn := txn.putTask task
  if task.job.any txn.jobExists then txn else (txn.dispatch env task none).1

end Kernel

/-- Whether a promise is stored, pending and can be awaited. -/
structure Awaitable (txn : Txn) (awaited : StoredPromise) : Prop where
  stored : txn.getPromise awaited.record.id = some awaited
  pending : awaited.record.isPending = true
  external : awaited.record.isExternal = true

/-- One move. -/
inductive Move (env : Env) (txn : Txn) : Label → Txn → Prop
  | expire (promise : StoredPromise) (stored : txn.getPromise promise.record.id = some promise)
      (pending : promise.record.isPending = true) (due : promise.record.timeoutAt ≤ txn.now) :
      Move env txn (.expire promise) (expirePromise env txn promise).1
  | strike (promise : StoredPromise) (stored : txn.getPromise promise.record.id = some promise)
      (pending : promise.record.isPending = true) :
      Move env txn (.strike promise) (expirePromise env txn promise).1
  | settle (promise : StoredPromise) (state : SettleState) (value : PromiseValue)
      (stored : txn.getPromise promise.record.id = some promise)
      (pending : promise.record.isPending = true) (early : txn.now < promise.record.timeoutAt) :
      Move env txn (.settle promise state value) (Kernel.settle env txn promise state value).1
  | create (data : PromiseCreateData) (createdAt : Option Int) (mode : CreateMode)
      (absent : txn.getPromise data.id = none) (admitted : Admitted env txn data createdAt mode) :
      Move env txn (.create data createdAt mode) (createPromise env txn data createdAt mode).1
  | register (awaited : StoredPromise) (awaiter : String) (awaitable : Awaitable txn awaited)
      (valid : validateCallback awaited.record.id awaiter = none)
      (known : (txn.getTask awaiter).isSome = true ∨
        (txn.getPromise awaiter).any (·.record.target.isSome) = true)
      (unlisted : awaiter ∉ awaited.callbacks) :
      Move env txn (.register awaited awaiter)
        (txn.putPromise { awaited with callbacks := awaited.callbacks ++ [awaiter] })
  | listen (awaited : StoredPromise) (address : String) (awaitable : Awaitable txn awaited)
      (valid : env.isUrl address = true) (unlisted : address ∉ awaited.listeners) :
      Move env txn (.listen awaited address)
        (txn.putPromise { awaited with listeners := awaited.listeners ++ [address] })
  | resume (awaited : StoredPromise) (awaiter : String)
      (stored : txn.getPromise awaited.record.id = some awaited)
      (settled : awaited.record.isPending = false) (external : awaited.record.isExternal = true)
      (valid : validateCallback awaited.record.id awaiter = none)
      (opened : txn.isOpen awaiter = true) :
      Move env txn (.resume awaited awaiter)
        (resumeAwaiter env txn awaiter awaited.record.id .registration)
  | acquire (task : StoredTask) (pid : String) (ttl : Int)
      (stored : txn.getTask task.id = some task) (pending : task.state = .pending)
      (renewed : (txn.renew task.id (leaseOf ttl)).2 = true) :
      Move env txn (.acquire task pid ttl)
        ((txn.renew task.id (leaseOf ttl)).1.putTask (acquiredTask task pid ttl))
  | release (task : StoredTask) (stored : txn.getTask task.id = some task)
      (acquired : task.state = .acquired) :
      Move env txn (.release task)
        ((txn.putTask (task.transition .pending)).nackAfterCommit task.id)
  | lose (task : StoredTask) (stored : txn.getTask task.id = some task)
      (acquired : task.state = .acquired) :
      Move env txn (.lose task) (txn.putTask (task.transition .pending))
  | suspend (task : StoredTask) (awaited : List String)
      (stored : txn.getTask task.id = some task) (acquired : task.state = .acquired)
      (some_awaited : awaited ≠ [])
      (listed : ∀ id ∈ awaited, ∃ promise, txn.getPromise id = some promise ∧
        promise.record.isPending = true ∧ task.id ∈ promise.callbacks) :
      Move env txn (.suspend task awaited)
        (txn.putTask { task.transition .suspended with resumes := ∅ })
  | clear (task : StoredTask) (stored : txn.getTask task.id = some task)
      (acquired : task.state = .acquired) :
      Move env txn (.clear task) (txn.putTask { task with resumes := ∅ })
  | halt (task : StoredTask) (stored : txn.getTask task.id = some task)
      (unfulfilled : task.state ≠ .fulfilled) (unhalted : task.state ≠ .halted) :
      Move env txn (.halt task) ((txn.putTask (task.transition .halted)).release task.id)
  | proceed (task : StoredTask) (stored : txn.getTask task.id = some task)
      (halted : task.state = .halted) :
      Move env txn (.proceed task) (Kernel.proceed env txn task)
  | addSchedule (schedule : ScheduleRecord) (absent : txn.getSchedule schedule.id = none)
      (next : env.nextAfter schedule.cron txn.now = some schedule.nextRunAt)
      (created : schedule.createdAt = txn.now) (unfired : schedule.lastRunAt = none)
      (named : schedule.id ≠ "") (plain : Text.contains schedule.id ':' = false)
      (targeted : schedule.promiseTags[tagTarget]?.any env.isUrl = true)
      (timeout : 0 ≤ schedule.promiseTimeout) :
      Move env txn (.addSchedule schedule)
        ((txn.putSchedule schedule).scheduleTimer (.schedule schedule.id schedule.nextRunAt)
          schedule.nextRunAt)
  | advance (schedule : ScheduleRecord)
      (stored : txn.getSchedule schedule.id = some schedule) :
      Move env txn (.advance schedule) (advanceSchedule env txn schedule)
  | dropSchedule (id : String) : Move env txn (.dropSchedule id) (txn.deleteSchedule id)
  | check (task : String) : Move env txn (.check task) (txn.holds task).1
  | renew (task : String) (lease : Nat) : Move env txn (.renew task lease) (txn.renew task lease).1
  | claim (task : StoredTask) (job lease : Nat) (stored : txn.getTask task.id = some task)
      (pending : task.state = .pending) (dispatched : task.job = some job) :
      Move env txn (.claim task lease) (txn.claimJob task.id job lease).1
  | ack (claim : Claim)
      (dead : ∀ id task, claim.payload = .execute id → txn.getTask id = some task →
        task.state ≠ .pending ∧ task.state ≠ .acquired) :
      Move env txn (.ack claim) (txn.ackAfterCommit claim)
  | hold (task : StoredTask) (claim : Claim) (executes : claim.payload = .execute task.id)
      (stored : txn.getTask task.id = some task) (pending : task.state = .pending) :
      Move env txn (.hold task.id claim) (txn.holdAfterCommit task.id claim)

/-- Moves in order, each of which is permitted. -/
inductive Trail (env : Env) (permits : Label → Prop) : Txn → Txn → Prop
  | refl (txn : Txn) : Trail env permits txn txn
  | step {first second third : Txn} (label : Label) (permitted : permits label)
      (move : Move env first label second) (rest : Trail env permits second third) :
      Trail env permits first third

/-! ## What a request permits -/

/-- The promises whose deadlines a request applies. -/
def Request.named : Request → List String
  | .promiseCreate data => [data.id]
  | .promiseGet id => [id]
  | .promiseSettle data => [data.id]
  | .promiseRegisterCallback data => [data.awaited, data.awaiter]
  | .promiseRegisterListener data => [data.awaited]
  | .taskCreate data => [data.action.data.id]
  | .taskAcquire data => [data.id]
  | .taskRelease data => [data.id]
  | .taskFulfill data => [data.id]
  | .taskSuspend data => data.id :: data.actions.map (·.data.awaited)
  | .taskFence data _ => data.id :: data.action.data.id.toList
  | .taskGet id => [id]
  | .taskHalt id => [id]
  | .taskContinue id => [id]
  | .promiseSearch _ | .taskHeartbeat _ | .taskSearch _ | .scheduleCreate _ | .scheduleGet _
  | .scheduleDelete _ | .scheduleSearch _ | .invalid _ | .unknown _ => []

/-- The settlement a request asks for. -/
def Request.settlement : Request → Option PromiseSettleData
  | .promiseSettle data => some data
  | .taskFulfill data => some data.action.data
  | .taskFence data _ =>
      if data.action.kind = "promise.settle" then data.action.data.settle.toOption else none
  | _ => none

/-- The creation a request asks for. -/
def Request.creation : Request → Option (PromiseCreateData × CreateMode)
  | .promiseCreate data => some (data, .dispatch)
  | .taskCreate data => some (data.action.data, .acquire data.pid data.ttl)
  | .taskFence data _ =>
      if data.action.kind = "promise.create" then
        data.action.data.create.toOption.map fun create => (create, .dispatch)
      else none
  | _ => none

/-- The registrations a request asks for: awaited and awaiter. -/
def Request.callbacks : Request → List (String × String)
  | .promiseRegisterCallback data => [(data.awaited, data.awaiter)]
  | .taskSuspend data => data.actions.map fun action => (action.data.awaited, data.id)
  | _ => []

/-- Whether a request asks for the acquisition of a task at a version, by a process. -/
def Request.acquires (request : Request) (id : String) (version : Int) (pid : String)
    (ttl : Int) : Prop :=
  match request with
  | .taskCreate data => data.action.data.id = id ∧ data.pid = pid ∧ data.ttl = ttl
  | .taskAcquire data => data = ⟨id, version, pid, ttl⟩
  | _ => False

/-- The task a request names at a version its caller was granted. -/
def Request.holder : Request → Option TaskVersionData
  | .taskRelease data => some data
  | .taskFulfill data => some ⟨data.id, data.version⟩
  | .taskSuspend data => some ⟨data.id, data.version⟩
  | .taskFence data _ => some ⟨data.id, data.version⟩
  | _ => none

/-- The moves a request can lead to. -/
def Request.permits (request : Request) : Label → Prop
  | .expire promise => promise.record.id ∈ request.named
  | .settle promise state value => request.settlement = some ⟨promise.record.id, state, value⟩
  | .create data createdAt mode => createdAt = none ∧ request.creation = some (data, mode)
  | .register awaited awaiter => (awaited.record.id, awaiter) ∈ request.callbacks
  | .listen awaited address =>
      request = .promiseRegisterListener ⟨awaited.record.id, address⟩
  | .resume awaited awaiter =>
      request = .promiseRegisterCallback ⟨awaited.record.id, awaiter⟩
  | .acquire task pid ttl => request.acquires task.id task.version pid ttl
  | .release task => request = .taskRelease ⟨task.id, task.version⟩
  | .suspend task awaited => ∃ data, request = .taskSuspend data ∧ data.id = task.id ∧
      data.version = task.version ∧ awaited = data.actions.map (·.data.awaited)
  | .clear task => ∃ data, request = .taskSuspend data ∧ data.id = task.id ∧
      data.version = task.version
  | .halt task => request = .taskHalt task.id
  | .proceed task => request = .taskContinue task.id
  | .addSchedule schedule => ∃ data, request = .scheduleCreate data ∧ schedule =
      { id := data.id
        cron := data.cron
        promiseId := data.promiseId
        promiseTimeout := data.promiseTimeout
        promiseParam := data.promiseParam
        promiseTags := data.promiseTags
        createdAt := schedule.createdAt
        nextRunAt := schedule.nextRunAt
        lastRunAt := none }
  | .dropSchedule id => request = .scheduleDelete id
  | .claim task lease => ∃ data, request = .taskCreate data ∧ data.action.data.id = task.id ∧
      lease = leaseOf data.ttl
  | .check _ | .renew _ _ => True
  | .strike _ | .lose _ | .advance _ | .ack _ | .hold _ _ => False

/-- The moves the delivery of a claim can lead to. -/
def deliveryPermits (claim : Claim) : Label → Prop
  | .expire promise => claim.payload = .execute promise.record.id
  | .lose task => claim.payload = .execute task.id
  | .ack taken => taken = claim
  | .hold _ taken => taken = claim
  | _ => False

/-- The moves the firing of a timer can lead to. -/
def firingPermits (timer : Timer) : Label → Prop
  | .strike promise => timer = .promiseTimeout promise.record.id
  | .create data createdAt mode => ∃ schedule at_, timer = .schedule schedule.id at_ ∧
      schedule.nextRunAt = at_ ∧ data = firedData schedule ∧ createdAt = some at_ ∧
      mode = .dispatch
  | .advance schedule => timer = .schedule schedule.id schedule.nextRunAt
  | _ => False

end Resonate
