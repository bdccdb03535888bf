import Resonate.Wire
import Resonate.Envelope

set_option autoImplicit false

/-! The data of each request kind as it is decoded from JSON, and the request it makes. -/

namespace Resonate

open Json (required defaulted)

/-- What the crate takes from serde: the value of a text, the text of a value, and the message of a
value that does not decode as a type. -/
structure Serde where
  fromStr : String → Except String Json
  toText : Json → String
  mismatch : String → Json → String

def IdData.ofJson (value : Json) : Option String := do
  let fields ← Json.fields ["id"] value
  required fields "id" Json.asStr

def PromiseCreateData.ofJson (value : Json) : Option PromiseCreateData := do
  let fields ← Json.fields ["id", "timeoutAt", "param", "tags"] value
  let id ← required fields "id" Json.asStr
  let timeoutAt ← required fields "timeoutAt" Json.i64
  let param ← defaulted fields "param" (Json.nullDefault PromiseValue.ofJson {}) {}
  let tags ← defaulted fields "tags" (Json.nullDefault Json.textMap ∅) ∅
  some { id, timeoutAt, param, tags }

def PromiseSettleData.ofJson (value : Json) : Option PromiseSettleData := do
  let fields ← Json.fields ["id", "state", "value"] value
  let id ← required fields "id" Json.asStr
  let state ← required fields "state" SettleState.ofJson
  let value ← defaulted fields "value" (Json.nullDefault PromiseValue.ofJson {}) {}
  some { id, state, value }

def CallbackData.ofJson (value : Json) : Option CallbackData := do
  let fields ← Json.fields ["awaited", "awaiter"] value
  let awaited ← required fields "awaited" Json.asStr
  let awaiter ← required fields "awaiter" Json.asStr
  some { awaited, awaiter }

def ListenerData.ofJson (value : Json) : Option ListenerData := do
  let fields ← Json.fields ["awaited", "address"] value
  let awaited ← required fields "awaited" Json.asStr
  let address ← required fields "address" Json.asStr
  some { awaited, address }

def PromiseSearchData.ofJson (value : Json) : Option PromiseSearchData := do
  let fields ← Json.fields ["state", "tags", "limit", "cursor"] value
  let state ← defaulted fields "state" (Json.nullable PromiseState.ofJson) none
  let tags ← defaulted fields "tags" (Json.nullable Json.textMap) none
  let limit ← defaulted fields "limit" (Json.nullable Json.i64) none
  let cursor ← defaulted fields "cursor" (Json.nullable Json.asStr) none
  some { state, tags, limit, cursor }

def Action.ofJson {α : Type} (decode : Json.Decoder α) (value : Json) : Option (Action α) := do
  let fields ← Json.fields ["kind", "data"] value
  let kind ← required fields "kind" Json.asStr
  let data ← required fields "data" decode
  some { kind, data }

def TaskCreateData.ofJson (value : Json) : Option TaskCreateData := do
  let fields ← Json.fields ["pid", "ttl", "action"] value
  let pid ← required fields "pid" Json.asStr
  let ttl ← required fields "ttl" Json.i64
  let action ← required fields "action" (Action.ofJson PromiseCreateData.ofJson)
  some { pid, ttl, action }

def TaskAcquireData.ofJson (value : Json) : Option TaskAcquireData := do
  let fields ← Json.fields ["id", "version", "pid", "ttl"] value
  let id ← required fields "id" Json.asStr
  let version ← required fields "version" Json.i64
  let pid ← required fields "pid" Json.asStr
  let ttl ← required fields "ttl" Json.i64
  some { id, version, pid, ttl }

def TaskVersionData.ofJson (value : Json) : Option TaskVersionData := do
  let fields ← Json.fields ["id", "version"] value
  let id ← required fields "id" Json.asStr
  let version ← required fields "version" Json.i64
  some { id, version }

def TaskSuspendData.ofJson (value : Json) : Option TaskSuspendData := do
  let fields ← Json.fields ["id", "version", "actions"] value
  let id ← required fields "id" Json.asStr
  let version ← required fields "version" Json.i64
  let actions ← defaulted fields "actions" (Json.listOf (Action.ofJson CallbackData.ofJson)) []
  some { id, version, actions }

def TaskFulfillData.ofJson (value : Json) : Option TaskFulfillData := do
  let fields ← Json.fields ["id", "version", "action"] value
  let id ← required fields "id" Json.asStr
  let version ← required fields "version" Json.i64
  let action ← required fields "action" (Action.ofJson PromiseSettleData.ofJson)
  some { id, version, action }

/-! ## The data of a fenced action -/

/-- What decoding a fenced action's data as a type yields, once it has an id. -/
def decodeAction {α : Type} (serde : Serde) (type : String) (decode : Json.Decoder α) (value : Json) :
    Except String α :=
  match (value.get "id").asStr, decode value with
  | some _, some data => .ok data
  | _, _ => .error (serde.mismatch type value)

theorem decodeAction_id {α : Type} {serde : Serde} {type : String} {decode : Json.Decoder α}
    {value : Json} {idOf : α → String}
    (reads : ∀ members data, decode (.obj members) = some data →
      (members.lookup "id").bind Json.asStr = some (idOf data))
    (data : α) (decoded : decodeAction serde type decode value = .ok data) :
    (value.get "id").asStr = some (idOf data) := by
  unfold decodeAction at decoded
  split at decoded
  · rename_i id read named passed
    cases decoded
    obtain ⟨members, rfl⟩ := Json.get_shape named
    exact Json.get_required (reads members data passed)
  · cases decoded

theorem PromiseCreateData.ofJson_id (members : List (String × Json)) (data : PromiseCreateData)
    (decoded : ofJson (.obj members) = some data) :
    (members.lookup "id").bind Json.asStr = some data.id := by
  obtain ⟨id, read, decoded⟩ := Option.bind_eq_some_iff.mp decoded
  obtain ⟨timeoutAt, _, decoded⟩ := Option.bind_eq_some_iff.mp decoded
  obtain ⟨param, _, decoded⟩ := Option.bind_eq_some_iff.mp decoded
  obtain ⟨tags, _, decoded⟩ := Option.bind_eq_some_iff.mp decoded
  cases decoded
  exact read

theorem PromiseSettleData.ofJson_id (members : List (String × Json)) (data : PromiseSettleData)
    (decoded : ofJson (.obj members) = some data) :
    (members.lookup "id").bind Json.asStr = some data.id := by
  obtain ⟨id, read, decoded⟩ := Option.bind_eq_some_iff.mp decoded
  obtain ⟨state, _, decoded⟩ := Option.bind_eq_some_iff.mp decoded
  obtain ⟨value, _, decoded⟩ := Option.bind_eq_some_iff.mp decoded
  cases decoded
  exact read

/-- The data of a fenced action stays a value until the fence decodes it. -/
def ActionValue.ofJson (serde : Serde) (value : Json) : ActionValue where
  id := (value.get "id").asStr
  create := decodeAction serde "PromiseCreateData" PromiseCreateData.ofJson value
  settle := decodeAction serde "PromiseSettleData" PromiseSettleData.ofJson value
  create_id := decodeAction_id PromiseCreateData.ofJson_id
  settle_id := decodeAction_id PromiseSettleData.ofJson_id

def TaskFenceData.ofJson (serde : Serde) (value : Json) : Option TaskFenceData := do
  let fields ← Json.fields ["id", "version", "action"] value
  let id ← required fields "id" Json.asStr
  let version ← required fields "version" Json.i64
  let action ← required fields "action"
    (Action.ofJson fun value => some (ActionValue.ofJson serde value))
  some { id, version, action }

def TaskHeartbeatData.ofJson (value : Json) : Option TaskHeartbeatData := do
  let fields ← Json.fields ["pid", "tasks"] value
  let pid ← required fields "pid" Json.asStr
  let tasks ← defaulted fields "tasks" (Json.listOf TaskVersionData.ofJson) []
  some { pid, tasks }

def TaskSearchData.ofJson (value : Json) : Option TaskSearchData := do
  let fields ← Json.fields ["state", "limit", "cursor"] value
  let state ← defaulted fields "state" (Json.nullable TaskState.ofJson) none
  let limit ← defaulted fields "limit" (Json.nullable Json.i64) none
  let cursor ← defaulted fields "cursor" (Json.nullable Json.asStr) none
  some { state, limit, cursor }

def ScheduleCreateData.ofJson (value : Json) : Option ScheduleCreateData := do
  let fields ← Json.fields ["id", "cron", "promiseId", "promiseTimeout", "promiseParam",
    "promiseTags"] value
  let id ← required fields "id" Json.asStr
  let cron ← required fields "cron" Json.asStr
  let promiseId ← required fields "promiseId" Json.asStr
  let promiseTimeout ← required fields "promiseTimeout" Json.i64
  let promiseParam ← defaulted fields "promiseParam" (Json.nullDefault PromiseValue.ofJson {}) {}
  let promiseTags ← defaulted fields "promiseTags" (Json.nullDefault Json.textMap ∅) ∅
  some { id, cron, promiseId, promiseTimeout, promiseParam, promiseTags }

def ScheduleSearchData.ofJson (value : Json) : Option ScheduleSearchData := do
  let fields ← Json.fields ["tags", "limit", "cursor"] value
  let tags ← defaulted fields "tags" (Json.nullable Json.textMap) none
  let limit ← defaulted fields "limit" (Json.nullable Json.i64) none
  let cursor ← defaulted fields "cursor" (Json.nullable Json.asStr) none
  some { tags, limit, cursor }

/-! ## Requests -/

/-- The request of data that decodes as its type. -/
def Request.parse {α : Type} (serde : Serde) (type : String) (decode : Json.Decoder α) (data : Json)
    (make : α → Request) : Request :=
  match decode data with
  | some data => make data
  | none => .invalid (serde.mismatch type data)

/-- The request that an envelope of a kind asks for. -/
def Request.ofJson (serde : Serde) (kind corrId : String) (data : Json) : Request :=
  match kind with
  | "promise.create" =>
      parse serde "PromiseCreateData" PromiseCreateData.ofJson data .promiseCreate
  | "promise.get" => parse serde "IdData" IdData.ofJson data .promiseGet
  | "promise.settle" =>
      parse serde "PromiseSettleData" PromiseSettleData.ofJson data .promiseSettle
  | "promise.register_callback" =>
      parse serde "CallbackData" CallbackData.ofJson data .promiseRegisterCallback
  | "promise.register_listener" =>
      parse serde "ListenerData" ListenerData.ofJson data .promiseRegisterListener
  | "promise.search" =>
      parse serde "PromiseSearchData" PromiseSearchData.ofJson data .promiseSearch
  | "task.create" => parse serde "TaskCreateData" TaskCreateData.ofJson data .taskCreate
  | "task.acquire" => parse serde "TaskAcquireData" TaskAcquireData.ofJson data .taskAcquire
  | "task.release" => parse serde "TaskVersionData" TaskVersionData.ofJson data .taskRelease
  | "task.fulfill" => parse serde "TaskFulfillData" TaskFulfillData.ofJson data .taskFulfill
  | "task.suspend" => parse serde "TaskSuspendData" TaskSuspendData.ofJson data .taskSuspend
  | "task.fence" =>
      parse serde "TaskFenceData" (TaskFenceData.ofJson serde) data fun data => .taskFence data corrId
  | "task.heartbeat" =>
      parse serde "TaskHeartbeatData" TaskHeartbeatData.ofJson data .taskHeartbeat
  | "task.get" => parse serde "IdData" IdData.ofJson data .taskGet
  | "task.halt" => parse serde "IdData" IdData.ofJson data .taskHalt
  | "task.continue" => parse serde "IdData" IdData.ofJson data .taskContinue
  | "task.search" => parse serde "TaskSearchData" TaskSearchData.ofJson data .taskSearch
  | "schedule.create" =>
      parse serde "ScheduleCreateData" ScheduleCreateData.ofJson data .scheduleCreate
  | "schedule.get" => parse serde "IdData" IdData.ofJson data .scheduleGet
  | "schedule.delete" => parse serde "IdData" IdData.ofJson data .scheduleDelete
  | "schedule.search" =>
      parse serde "ScheduleSearchData" ScheduleSearchData.ofJson data .scheduleSearch
  | other => .unknown other

end Resonate
