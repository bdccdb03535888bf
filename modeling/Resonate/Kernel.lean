import Resonate.Txn

set_option autoImplicit false

/-! Validation, settlement and creation: what the handlers share. -/

namespace Resonate

namespace Kernel

def defaultSearchLimit : Nat := 100
def defaultScheduleSearchLimit : Nat := 10
def maxSearchLimit : Nat := 1000

/-- The lease of a task with a `ttl` of milliseconds. -/
def leaseOf (ttl : Int) : Nat := ttl.toNat

/-- Whether `ancestor` is `id` or a lineage prefix of it. -/
def isAncestor (ancestor id : String) : Bool :=
  if ancestor = id then true
  else
    let separator := if Text.contains ancestor ':' then '.' else ':'
    match Text.stripPrefix id ancestor with
    | some rest => Text.startsWith rest separator
    | none => false

/-- A lineage tag that is present names an ancestor. -/
def ancestorTagValid (data : PromiseCreateData) (tag : String) : Bool :=
  data.tags[tag]?.all fun ancestor => isAncestor ancestor data.id

def delayTagValid (data : PromiseCreateData) : Bool :=
  data.tags[tagDelay]?.all fun delay =>
    (Text.parseI64 delay).any (fun delay => 0 ≤ delay ∧ delay < data.timeoutAt) &&
      data.tags[tagTarget]?.isSome

def validateCreate (env : Env) (data : PromiseCreateData) : Option Reply :=
  if data.id = "" then some (.err 400 "Promise ID is required")
  else if Text.contains data.id '\x00' then
    some (.err 400 "Promise ID must not contain null bytes")
  else if data.timeoutAt < 0 then some (.err 400 "Promise timeout must not be negative")
  else if ¬ data.tags[tagTarget]?.all env.isUrl then
    some (.err 400 "Invalid resonate:target address")
  else if data.tags[tagOrigin]?.any
      fun origin => Text.contains origin ':' || originOf data.id ≠ origin then
    some (.err 400 "Invalid resonate:origin tag")
  else if ¬ ancestorTagValid data tagBranch then some (.err 400 "Invalid resonate:branch tag")
  else if ¬ ancestorTagValid data tagParent then some (.err 400 "Invalid resonate:parent tag")
  else if data.tags[tagPrefix]?.any fun pre => Text.contains pre ':' then
    some (.err 400 "Invalid resonate:prefix tag")
  else if ¬ delayTagValid data then some (.err 400 "Invalid resonate:delay tag")
  else none

def validateCallback (awaited awaiter : String) : Option Reply :=
  if awaited = "" ∨ awaiter = "" then
    some (.err 400 "Awaited and awaiter promise IDs are required")
  else if awaited = awaiter then some (.err 400 "Awaited and awaiter must differ")
  else if originOf awaited ≠ originOf awaiter then
    some (.err 400 "Awaited and awaiter must share an origin")
  else none

def searchLimit (limit : Option Int) (default : Nat) : Except Reply Nat :=
  match limit with
  | none => .ok default
  | some limit =>
      if 1 ≤ limit ∧ limit ≤ maxSearchLimit then .ok limit.toNat
      else .error (.err 400
        (String.append "Invalid 'limit': must be between 1 and " (toString maxSearchLimit)))

/-- One page of `items`, which are in id order: the items after `cursor`, at most `limit` of
them, and the cursor of the next page when more remain. -/
def page {α : Type} (items : List α) (idOf : α → String) (cursor : Option String)
    (limit : Nat) : List α × Option String :=
  let page := (items.filter fun item => cursor.all (· < idOf item)).take (limit + 1)
  if limit < page.length then
    let page := page.take limit
    (page, page.getLast?.map idOf)
  else (page, none)

def tagsMatch (tags : Tags) (filter : Option Tags) : Bool :=
  filter.all fun filter => filter.toList.all fun entry => tags[entry.1]? == some entry.2

/-- How a settled awaited promise reached an awaiter. -/
inductive Wake
  | fanout
  | registration
  deriving DecidableEq, Repr

/-- Record a settled awaited promise against its awaiter's task and dispatch a suspended task
again. -/
def resumeAwaiter (env : Env) (txn : Txn) (awaiter awaited : String) (wake : Wake) : Txn :=
  match txn.getTask awaiter with
  | none => txn
  | some task =>
      match task.state with
      | .suspended =>
          (txn.dispatch env { task.transition .pending with resumes := {awaited} } none).1
      | .pending | .acquired =>
          txn.putTask { task with resumes := insert awaited task.resumes }
      | .halted =>
          if wake = .fanout then txn.putTask { task with resumes := insert awaited task.resumes }
          else txn
      | .fulfilled => txn

/-- Resume a registered awaiter whose own promise is pending and not past its deadline. -/
def wakeAwaiter (env : Env) (awaited : String) (txn : Txn) (awaiter : String) : Txn :=
  match txn.getPromise awaiter with
  | some awaiting =>
      if awaiting.record.isPending ∧ txn.now < awaiting.record.timeoutAt then
        resumeAwaiter env txn awaiter awaited .fanout
      else txn
  | none => txn

/-- The promise's own task is fulfilled and its held claim released. -/
def fulfillOwnTask (txn : Txn) (id : String) : Txn :=
  match txn.getTask id with
  | some task =>
      if task.state ≠ .fulfilled then
        (txn.putTask { task.transition .fulfilled with resumes := ∅ }).release task.id
      else txn
  | none => txn

/-- The consequences of a settlement: the promise's own task is fulfilled, every registered
awaiter is resumed and every listener receives an unblock message. -/
def settleChain (env : Env) (txn : Txn) (promise : StoredPromise) : Txn × StoredPromise :=
  let txn := fulfillOwnTask txn promise.record.id
  let callbacks := promise.callbacks
  let listeners := promise.listeners
  let promise := { promise with callbacks := [], listeners := [] }
  let txn := txn.putPromise promise
  let txn := callbacks.foldl (wakeAwaiter env promise.record.id) txn
  let txn := listeners.foldl
    (fun txn address => txn.sendUnblock env address (.unblock promise.record)) txn
  (txn, promise)

/-- Settle a pending promise by its deadline. -/
def expirePromise (env : Env) (txn : Txn) (promise : StoredPromise) : Txn × StoredPromise :=
  settleChain env txn { promise with record := { promise.record with
    state := promise.record.timeoutState
    settledAt := some promise.record.timeoutAt } }

/-- Settle a pending promise by a client at `now`. -/
def settle (env : Env) (txn : Txn) (promise : StoredPromise) (state : SettleState)
    (value : PromiseValue) : Txn × StoredPromise :=
  settleChain env txn { promise with record := { promise.record with
    state := state.toPromiseState
    value := value
    settledAt := some txn.now } }

/-- Settle one named promise whose deadline has passed. -/
def timeoutOne (env : Env) (txn : Txn) (id : String) : Txn :=
  match txn.getPromise id with
  | some promise =>
      if promise.record.isPending ∧ txn.now ≥ promise.record.timeoutAt then
        (expirePromise env txn promise).1
      else txn
  | none => txn

/-- Settle every named promise whose deadline has passed. -/
def tryTimeout (env : Env) (txn : Txn) (ids : List String) : Txn :=
  ids.foldl (timeoutOne env) txn

/-- Acquire a delivered task for `pid` with a lease of `ttl` milliseconds. `none` when the
task's claim is not held or its lease has ended. -/
def acquire (txn : Txn) (task : StoredTask) (pid : String) (ttl : Int) :
    Txn × Option StoredTask :=
  match txn.renew task.id (leaseOf ttl) with
  | (txn, false) => (txn, none)
  | (txn, true) =>
      let task := { task with
        state := .acquired
        version := task.version + 1
        pid := some pid
        ttl := some ttl
        resumes := ∅ }
      (txn.putTask task, some task)

/-- How a created promise's task starts: dispatched, or acquired by the caller. -/
inductive CreateMode
  | dispatch
  | acquire (pid : String) (ttl : Int)
  deriving DecidableEq, Repr

/-- The time a `resonate:delay` tag defers the dispatch to. -/
def delayOf (tags : Tags) (now : Int) : Option Int :=
  (tags[tagDelay]?.bind Text.parseI64).filter (now < ·)

/-- A created promise: in its timeout state when the deadline has passed. -/
def newPromise (data : PromiseCreateData) (createdAt : Option Int) (now : Int) :
    StoredPromise :=
  let pending : PromiseRecord :=
    { id := data.id
      state := .pending
      param := data.param
      value := {}
      tags := data.tags
      timeoutAt := data.timeoutAt
      createdAt := if now ≥ data.timeoutAt then data.timeoutAt else createdAt.getD now
      settledAt := none }
  let record :=
    if now ≥ data.timeoutAt then
      { pending with state := pending.timeoutState, settledAt := some data.timeoutAt }
    else pending
  { record, callbacks := [], listeners := [] }

/-- Start the task of a created promise with a target. -/
def startTask (env : Env) (txn : Txn) (promise : PromiseRecord) (target : String)
    (mode : CreateMode) : Txn :=
  let task := StoredTask.new promise.id target .pending
  if txn.now ≥ promise.timeoutAt then
    txn.putTask { task with state := .fulfilled }
  else
    match mode with
    | .acquire pid ttl =>
        let task := { task with
          state := .acquired
          version := 1
          pid := some pid
          ttl := some ttl }
        let (txn, task) := txn.dispatch env task (some (Text.saturatingAdd txn.now ttl))
        txn.claimAfterCommit task (leaseOf ttl)
    | .dispatch => (txn.dispatch env task (delayOf promise.tags txn.now)).1

/-- Create a promise that does not exist. -/
def createPromise (env : Env) (txn : Txn) (data : PromiseCreateData) (createdAt : Option Int)
    (mode : CreateMode) : Txn × StoredPromise :=
  let promise := newPromise data createdAt txn.now
  let txn := txn.indexBranch promise.record
  let txn := txn.putPromise promise
  let txn :=
    match promise.record.target with
    | some target => startTask env txn promise.record target mode
    | none => txn
  let txn :=
    if promise.record.isPending ∧ promise.record.isExternal then
      txn.scheduleTimer (.promiseTimeout promise.record.id) promise.record.timeoutAt
    else txn
  (txn, promise)

/-- The promise id a schedule's firing expands to. -/
def firedId (schedule : ScheduleRecord) : String :=
  Text.replace (Text.replace schedule.promiseId "{{.id}}" schedule.id)
    "{{.timestamp}}" (toString schedule.nextRunAt)

/-- The tags of a schedule's promise. -/
def firedTags (schedule : ScheduleRecord) (id : String) : Tags :=
  [tagOrigin, tagBranch, tagParent, tagPrefix].foldl (fun tags key => tags.insert key id)
    (schedule.promiseTags.insert tagSchedule schedule.id)

def firedData (schedule : ScheduleRecord) : PromiseCreateData where
  id := firedId schedule
  timeoutAt := Text.saturatingAdd schedule.nextRunAt schedule.promiseTimeout
  param := schedule.promiseParam
  tags := firedTags schedule (firedId schedule)

/-- Fire a schedule at its `nextRunAt`: create the schedule's promise, unless it exists, and
advance the schedule by one firing. -/
def fireSchedule (env : Env) (txn : Txn) (schedule : ScheduleRecord) : Txn :=
  let firedAt := schedule.nextRunAt
  let txn :=
    match txn.getPromise (firedId schedule) with
    | some _ => txn
    | none => (createPromise env txn (firedData schedule) (some firedAt) .dispatch).1
  let schedule := { schedule with lastRunAt := some firedAt }
  match env.nextAfter schedule.cron firedAt with
  | some next =>
      let schedule := { schedule with nextRunAt := next }
      (txn.scheduleTimer (.schedule schedule.id next) next).putSchedule schedule
  | none => txn.putSchedule schedule

example : isAncestor "root" "root:0" ∧ ¬ isAncestor "root" "rooted:0" ∧
    ¬ isAncestor "root:0" "root:01" := by decide

end Kernel

end Resonate
