import Resonate.Records

set_option autoImplicit false

/-! The data of each request kind, and replies. -/

namespace Resonate

structure PromiseCreateData where
  id : String
  timeoutAt : Int
  param : PromiseValue
  tags : Tags
  deriving DecidableEq

structure PromiseSettleData where
  id : String
  state : SettleState
  value : PromiseValue
  deriving DecidableEq

structure CallbackData where
  awaited : String
  awaiter : String
  deriving DecidableEq, Repr

structure ListenerData where
  awaited : String
  address : String
  deriving DecidableEq, Repr

structure PromiseSearchData where
  state : Option PromiseState
  tags : Option Tags
  limit : Option Int
  cursor : Option String

/-- A request nested in a task request. -/
structure Action (α : Type) where
  kind : String
  data : α

structure TaskCreateData where
  pid : String
  ttl : Int
  action : Action PromiseCreateData

structure TaskAcquireData where
  id : String
  version : Int
  pid : String
  ttl : Int

structure TaskVersionData where
  id : String
  version : Int

structure TaskSuspendData where
  id : String
  version : Int
  actions : List (Action CallbackData)

structure TaskFulfillData where
  id : String
  version : Int
  action : Action PromiseSettleData

/-- The undecoded data of a fenced action: the string under its `id`, and what decoding it as
either request yields. A successful decoding reads the same `id`. -/
structure ActionValue where
  id : Option String
  create : Except String PromiseCreateData
  settle : Except String PromiseSettleData
  create_id : ∀ data, create = .ok data → id = some data.id
  settle_id : ∀ data, settle = .ok data → id = some data.id

structure TaskFenceData where
  id : String
  version : Int
  action : Action ActionValue

structure TaskHeartbeatData where
  pid : String
  tasks : List TaskVersionData

structure TaskSearchData where
  state : Option TaskState
  limit : Option Int
  cursor : Option String

structure ScheduleCreateData where
  id : String
  cron : String
  promiseId : String
  promiseTimeout : Int
  promiseParam : PromiseValue
  promiseTags : Tags

structure ScheduleSearchData where
  tags : Option Tags
  limit : Option Int
  cursor : Option String

/-- A request after its data is parsed. `invalid` is data that does not parse, with the
parser's message, and `unknown` a kind no handler exists for. -/
inductive Request
  | promiseCreate (data : PromiseCreateData)
  | promiseGet (id : String)
  | promiseSettle (data : PromiseSettleData)
  | promiseRegisterCallback (data : CallbackData)
  | promiseRegisterListener (data : ListenerData)
  | promiseSearch (data : PromiseSearchData)
  | taskCreate (data : TaskCreateData)
  | taskAcquire (data : TaskAcquireData)
  | taskRelease (data : TaskVersionData)
  | taskFulfill (data : TaskFulfillData)
  | taskSuspend (data : TaskSuspendData)
  | taskFence (data : TaskFenceData) (corrId : String)
  | taskHeartbeat (data : TaskHeartbeatData)
  | taskGet (id : String)
  | taskHalt (id : String)
  | taskContinue (id : String)
  | taskSearch (data : TaskSearchData)
  | scheduleCreate (data : ScheduleCreateData)
  | scheduleGet (id : String)
  | scheduleDelete (id : String)
  | scheduleSearch (data : ScheduleSearchData)
  | invalid (message : String)
  | unknown (kind : String)

def protocolVersion : String := "2026-04-01"

/-- The reply a fence nests: the head's status, and the data, a promise or a message. -/
structure InnerReply where
  kind : String
  corrId : String
  status : Nat
  version : String
  data : PromiseRecord ⊕ String
  deriving DecidableEq

inductive ReplyData
  | empty
  | promise (promise : PromiseRecord)
  | promises (page : List PromiseRecord) (cursor : Option String)
  | task (task : TaskRecord)
  | tasks (page : List TaskRecord) (cursor : Option String)
  | taskView (task : TaskRecord) (promise : PromiseRecord) (preload : List PromiseRecord)
  | preload (preload : List PromiseRecord)
  | fenced (action : InnerReply) (preload : List PromiseRecord)
  | schedule (schedule : ScheduleRecord)
  | schedules (page : List ScheduleRecord) (cursor : Option String)
  deriving DecidableEq

/-- The outcome of one request. -/
inductive Reply
  | ok (status : Nat) (data : ReplyData)
  | err (status : Nat) (message : String)
  deriving DecidableEq

def Reply.status : Reply → Nat
  | .ok status _ => status
  | .err status _ => status

end Resonate
