import Resonate.LeaseQueue
import Resonate.Keys
import Resonate.Envelope

set_option autoImplicit false

/-! One request's unit of work over the queue: reads through a write buffer, the jobs and
timers it produces, the claims it keeps and one commit at the end. -/

namespace Resonate

open LeaseQueue (Queue Job EnqueueRequest)

/-- The messages of a delivery: the dispatch of a task at its current version, and the final
record of a promise. -/
inductive Message
  | execute (task : String) (version : Int)
  | unblock (promise : PromiseRecord)
  deriving DecidableEq

/-- One scheduled deadline. -/
inductive Timer
  | promiseTimeout (id : String)
  | schedule (id : String) (at_ : Int)
  deriving DecidableEq, Repr

/-- The payload of a job: the dispatch of a task, an unblock message, or a timer. -/
inductive Payload
  | execute (task : String)
  | unblock (message : Message)
  | timer (timer : Timer)
  deriving DecidableEq

abbrev Claim := LeaseQueue.Claim Payload

/-- The claims of delivered execute jobs, by task id. -/
abbrev Held := Table String Claim

/-- Work that follows the commit. -/
inductive After
  | ack (claim : Claim)
  | hold (task : String) (claim : Claim)
  | release (task : String)
  | nack (task : String)
  | claim (task : String) (job : Nat) (lease : Nat)
  deriving DecidableEq

/-- The records of the store, one table for each key prefix. -/
structure Kv where
  promises : Table String StoredPromise
  tasks : Table String StoredTask
  schedules : Table String ScheduleRecord
  branches : Table String Unit

/-- The entries written by a request, for each table. -/
structure Writes where
  promises : Table.Buffer String StoredPromise
  tasks : Table.Buffer String StoredTask
  schedules : Table.Buffer String ScheduleRecord
  branches : Table.Buffer String Unit

def Kv.empty : Kv := ⟨∅, ∅, ∅, ∅⟩

def Writes.empty : Writes := ⟨∅, ∅, ∅, ∅⟩

def Kv.apply (kv : Kv) (writes : Writes) : Kv where
  promises := Table.apply kv.promises writes.promises
  tasks := Table.apply kv.tasks writes.tasks
  schedules := Table.apply kv.schedules writes.schedules
  branches := Table.apply kv.branches writes.branches

structure Txn where
  kv : Kv
  queue : Queue Payload
  held : Held
  preloadLimit : Nat
  now : Int
  writes : Writes
  enqueues : List (EnqueueRequest Payload)
  after : List After

namespace Txn

def getPromise (txn : Txn) (id : String) : Option StoredPromise :=
  Table.read txn.kv.promises txn.writes.promises id

def putPromise (txn : Txn) (promise : StoredPromise) : Txn :=
  { txn with writes := { txn.writes with
      promises := txn.writes.promises.insert promise.record.id (some promise) } }

def indexBranch (txn : Txn) (promise : PromiseRecord) : Txn :=
  match promise.tags[tagBranch]? with
  | some branch => { txn with writes := { txn.writes with
      branches := txn.writes.branches.insert (Keys.branchKey branch promise.id) (some ()) } }
  | none => txn

def getTask (txn : Txn) (id : String) : Option StoredTask :=
  Table.read txn.kv.tasks txn.writes.tasks id

def putTask (txn : Txn) (task : StoredTask) : Txn :=
  { txn with writes := { txn.writes with
      tasks := txn.writes.tasks.insert task.id (some task) } }

def getSchedule (txn : Txn) (id : String) : Option ScheduleRecord :=
  Table.read txn.kv.schedules txn.writes.schedules id

def putSchedule (txn : Txn) (schedule : ScheduleRecord) : Txn :=
  { txn with writes := { txn.writes with
      schedules := txn.writes.schedules.insert schedule.id (some schedule) } }

def deleteSchedule (txn : Txn) (id : String) : Txn :=
  { txn with writes := { txn.writes with
      schedules := txn.writes.schedules.insert id none } }

/-- The ascending scan of the committed index: every sibling's id until more than `limit` are
found. -/
def scanBranch (pre self : String) (limit : Nat) : List String → List String → List String
  | ids, [] => ids
  | ids, key :: rest =>
      match Keys.branchEntryId pre key with
      | none => scanBranch pre self limit ids rest
      | some id =>
          let ids := if id ≠ self then ids ++ [id] else ids
          if limit < ids.length then ids else scanBranch pre self limit ids rest

/-- The siblings this request indexed, added to those of the scan. -/
def addWritten (pre self : String) (ids : List String) :
    List (String × Option Unit) → List String
  | [] => ids
  | (key, value) :: rest =>
      match value, Keys.branchEntryId pre key with
      | some (), some id =>
          if id ≠ self ∧ id ∉ ids then addWritten pre self (ids ++ [id]) rest
          else addWritten pre self ids rest
      | _, _ => addWritten pre self ids rest

def startsWith (pre key : String) : Bool := pre.toList.isPrefixOf key.toList

/-- The promises that share `promise`'s branch, other than the promise itself, in id order
and at most `preloadLimit` of them. -/
def preload (txn : Txn) (promise : PromiseRecord) : List PromiseRecord :=
  match promise.tags[tagBranch]? with
  | none => []
  | some branch =>
      let pre := Keys.branchPrefix branch
      let committed := (txn.kv.branches.toList.map Prod.fst).filter (startsWith pre)
      let ids := scanBranch pre promise.id txn.preloadLimit [] committed
      let written := (txn.writes.branches.toList.dropWhile (·.1 < pre)).takeWhile
        fun entry => startsWith pre entry.1
      let ids := addWritten pre promise.id ids written
      let ids := (ids.insertionSort (· ≤ ·)).take txn.preloadLimit
      ids.filterMap fun id => (txn.getPromise id).map (·.record)

/-- Every committed promise, in id order. -/
def promises (txn : Txn) : List PromiseRecord :=
  txn.kv.promises.toList.map (·.2.record)

def tasks (txn : Txn) : List StoredTask :=
  txn.kv.tasks.toList.map (·.2)

def schedules (txn : Txn) : List ScheduleRecord :=
  txn.kv.schedules.toList.map (·.2)

def enqueue (txn : Txn) (request : EnqueueRequest Payload) : Txn :=
  { txn with enqueues := txn.enqueues ++ [request] }

def unblockRequest (env : Env) (address : String) (message : Message) :
    EnqueueRequest Payload where
  queue := Keys.addressQueue env address
  payload := .unblock message
  idOverride := none
  runAt := none

def executeRequest (env : Env) (target task : String) (job : Nat) (runAt : Option Int) :
    EnqueueRequest Payload where
  queue := Keys.addressQueue env target
  payload := .execute task
  idOverride := some job
  runAt := runAt.map Int.toNat

def timerRequest (timer : Timer) (at_ : Int) : EnqueueRequest Payload where
  queue := Keys.timerQueue
  payload := .timer timer
  idOverride := none
  runAt := some at_.toNat

/-- Enqueue an unblock message for the listener at `address`. -/
def sendUnblock (env : Env) (txn : Txn) (address : String) (message : Message) : Txn :=
  txn.enqueue (unblockRequest env address message)

/-- Enqueue the dispatch of `task` on its target's queue, at `runAt` when given, and write
the task with the new job's id. -/
def dispatch (env : Env) (txn : Txn) (task : StoredTask) (runAt : Option Int) :
    Txn × StoredTask :=
  let (job, queue) := txn.queue.nextJobId
  let txn := { txn with queue }
  let task := { task with job := some job }
  let txn := txn.putTask task
  (txn.enqueue (executeRequest env task.target task.id job runAt), task)

/-- Schedule `timer` to fire at epoch millisecond `at_`. -/
def scheduleTimer (txn : Txn) (timer : Timer) (at_ : Int) : Txn :=
  txn.enqueue (timerRequest timer at_)

/-- Whether `claim`'s job is under a lease that is live at `now`. -/
def live (txn : Txn) (claim : Claim) : Bool :=
  match txn.queue.leaseExpiry claim.id with
  | some expiry => decide (min (expiry : Int) Text.i64Max > txn.now)
  | none => false

/-- Whether the claim of `taskId`'s job is held with a live lease. A held claim whose lease
ended is dropped. -/
def holds (txn : Txn) (taskId : String) : Txn × Bool :=
  match txn.held[taskId]? with
  | some claim =>
      if txn.live claim then (txn, true)
      else ({ txn with held := txn.held.erase taskId }, false)
  | none => (txn, false)

/-- Renew the lease of `taskId`'s held claim. -/
def renew (txn : Txn) (taskId : String) (lease : Nat) : Txn × Bool :=
  match txn.holds taskId with
  | (txn, false) => (txn, false)
  | (txn, true) =>
      match txn.held[taskId]? with
      | none => (txn, false)
      | some claim =>
          match txn.queue.renewLease claim lease with
          | some queue => ({ txn with queue }, true)
          | none => ({ txn with held := txn.held.erase taskId }, false)

/-- Claim `job` by id for `taskId` and hold the claim. -/
def claimJob (txn : Txn) (taskId : String) (job : Nat) (lease : Nat) : Txn × Bool :=
  match txn.queue.claimById job lease with
  | some (claim, queue) => ({ txn with queue, held := txn.held.insert taskId claim }, true)
  | none => (txn, false)

/-- Whether the job exists in any state. -/
def jobExists (txn : Txn) (id : Nat) : Bool := txn.queue.jobs[id]?.isSome

def follow (txn : Txn) (after : After) : Txn := { txn with after := txn.after ++ [after] }

def ackAfterCommit (txn : Txn) (claim : Claim) : Txn := txn.follow (.ack claim)

def holdAfterCommit (txn : Txn) (taskId : String) (claim : Claim) : Txn :=
  txn.follow (.hold taskId claim)

def release (txn : Txn) (taskId : String) : Txn := txn.follow (.release taskId)

def nackAfterCommit (txn : Txn) (taskId : String) : Txn := txn.follow (.nack taskId)

/-- Claim `task`'s job by id after the commit. A dispatched task has a job. -/
def claimAfterCommit (txn : Txn) (task : StoredTask) (lease : Nat) : Txn :=
  match task.job with
  | some job => txn.follow (.claim task.id job lease)
  | none => txn

end Txn

/-- What a transaction leaves behind: the store, the claims still held, the work that follows
and the jobs enqueued. -/
structure Commit where
  kv : Kv
  queue : Queue Payload
  held : Held
  after : List After
  jobs : List (Nat × Job Payload)

namespace Txn

/-- Commit every write, delete and enqueue as one transaction. -/
def commit (txn : Txn) : Commit :=
  let (jobs, queue) := txn.queue.enqueue txn.enqueues
  { kv := txn.kv.apply txn.writes, queue, held := txn.held, after := txn.after, jobs }

/-- Drop the transaction. The claims taken, renewed or dropped on the way stay so. -/
def discard (txn : Txn) : Commit :=
  { kv := txn.kv, queue := txn.queue, held := txn.held, after := [], jobs := [] }

/-- Commit in the transaction that acknowledges the held claim of `taskId`. `false` when the
claim is lost, and the store is then unchanged. -/
def commitAck (txn : Txn) (taskId : String) : Commit × Bool :=
  match txn.holds taskId with
  | (txn, false) => (txn.discard, false)
  | (txn, true) =>
      match txn.held[taskId]? with
      | none => (txn.discard, false)
      | some claim =>
          let txn := { txn with held := txn.held.erase taskId }
          match txn.queue.ack claim with
          | some queue => ({ txn with queue }.commit, true)
          | none => (txn.discard, false)

end Txn

/-- One action that follows a commit. A claim whose lease ended was requeued already, so a
lost claim has had its effect. -/
def After.perform (queue : Queue Payload) (held : Held) : After → Queue Payload × Held
  | .ack taken => ((queue.ack taken).getD queue, held)
  | .hold task taken => (queue, held.insert task taken)
  | .release task =>
      match held[task]? with
      | some taken => ((queue.ack taken).getD queue, held.erase task)
      | none => (queue, held)
  | .nack task =>
      match held[task]? with
      | some taken => ((queue.nack taken).getD queue, held.erase task)
      | none => (queue, held)
  | .claim task job lease =>
      match queue.claimById job lease with
      | some (taken, queue) => (queue, held.insert task taken)
      | none => (queue, held)

end Resonate
