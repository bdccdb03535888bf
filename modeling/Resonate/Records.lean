import Resonate.Table
import Resonate.Text

set_option autoImplicit false

namespace Resonate

abbrev Tags := Table String String

def tagTarget : String := "resonate:target"
def tagTimer : String := "resonate:timer"
def tagDelay : String := "resonate:delay"
def tagBranch : String := "resonate:branch"
def tagScope : String := "resonate:scope"
def tagExternal : String := "resonate:external"
def tagOrigin : String := "resonate:origin"
def tagParent : String := "resonate:parent"
def tagPrefix : String := "resonate:prefix"
def tagSchedule : String := "resonate:schedule"

inductive PromiseState
  | pending
  | resolved
  | rejected
  | rejectedCanceled
  | rejectedTimedout
  deriving DecidableEq, Repr

inductive TaskState
  | pending
  | acquired
  | suspended
  | halted
  | fulfilled
  deriving DecidableEq, Repr

/-- The states a client can settle a promise to. -/
inductive SettleState
  | resolved
  | rejected
  | rejectedCanceled
  deriving DecidableEq, Repr

def SettleState.toPromiseState : SettleState → PromiseState
  | .resolved => .resolved
  | .rejected => .rejected
  | .rejectedCanceled => .rejectedCanceled

structure PromiseValue where
  headers : Option Tags := none
  data : Option String := none
  deriving DecidableEq

/-- A promise in its wire form. -/
structure PromiseRecord where
  id : String
  state : PromiseState
  param : PromiseValue
  value : PromiseValue
  tags : Tags
  timeoutAt : Int
  createdAt : Int
  settledAt : Option Int
  deriving DecidableEq

namespace PromiseRecord

def isPending (promise : PromiseRecord) : Bool := promise.state == .pending

def target (promise : PromiseRecord) : Option String := promise.tags[tagTarget]?

def isTimer (promise : PromiseRecord) : Bool := promise.tags[tagTimer]? == some "true"

/-- The state a deadline settles the promise to. -/
def timeoutState (promise : PromiseRecord) : PromiseState :=
  if promise.isTimer then .resolved else .rejectedTimedout

/-- Whether a task can await the promise. -/
def isExternal (promise : PromiseRecord) : Bool :=
  promise.tags[tagScope]? == some "global" || promise.tags[tagExternal]? == some "true" ||
    promise.target.isSome || promise.isTimer

end PromiseRecord

/-- A promise as stored: the wire record, the ids of the awaiting tasks and the addresses to
send an unblock to. -/
structure StoredPromise where
  record : PromiseRecord
  callbacks : List String
  listeners : List String
  deriving DecidableEq

/-- Everything before the first `:` of a promise id. -/
def originOf (id : String) : String :=
  match Text.splitOnce id ':' with
  | some (origin, _) => origin
  | none => id

/-- A task in its wire form. `resumes` counts the settled awaited promises the task has not
observed. -/
structure TaskRecord where
  id : String
  state : TaskState
  version : Int
  resumes : Nat
  ttl : Option Int
  pid : Option String
  deriving DecidableEq, Repr

/-- A task as stored. Its dispatch is the job `job` on the queue of `target`. -/
structure StoredTask where
  id : String
  state : TaskState
  version : Int
  target : String
  job : Option Nat
  pid : Option String
  ttl : Option Int
  resumes : Finset String
  deriving DecidableEq

namespace StoredTask

def new (id target : String) (state : TaskState) : StoredTask where
  id := id
  state := state
  version := 0
  target := target
  job := none
  pid := none
  ttl := none
  resumes := ∅

def record (task : StoredTask) : TaskRecord where
  id := task.id
  state := task.state
  version := task.version
  resumes := task.resumes.card
  ttl := task.ttl
  pid := task.pid

def isAcquiredAt (task : StoredTask) (version : Int) : Bool :=
  task.state == .acquired && task.version == version

/-- Move the task to `state` without a holder. -/
def transition (task : StoredTask) (state : TaskState) : StoredTask :=
  { task with state, pid := none, ttl := none }

end StoredTask

structure ScheduleRecord where
  id : String
  cron : String
  promiseId : String
  promiseTimeout : Int
  promiseParam : PromiseValue
  promiseTags : Tags
  createdAt : Int
  nextRunAt : Int
  lastRunAt : Option Int
  deriving DecidableEq

example : originOf "my.app:1:x" = "my.app" ∧ originOf "root" = "root" := by decide

end Resonate
