import Resonate.Json
import Resonate.Txn

set_option autoImplicit false

/-! The JSON of the protocol's records, messages and jobs, and what is read back from it. -/

namespace Resonate

open Json (required defaulted)

/-- The texts of job ids, which the queue hands out and reads back. -/
structure JobIds where
  text : Nat → String
  read : String → Option Nat
  read_text : ∀ job, read (text job) = some job

/-- Job ids in unary. -/
def JobIds.unary : JobIds where
  text job := String.ofList (List.replicate job 'j')
  read text := some text.length
  read_text job := by simp

def PromiseState.names : List (String × PromiseState) :=
  [("pending", .pending), ("resolved", .resolved), ("rejected", .rejected),
    ("rejected_canceled", .rejectedCanceled), ("rejected_timedout", .rejectedTimedout)]

def TaskState.names : List (String × TaskState) :=
  [("pending", .pending), ("acquired", .acquired), ("suspended", .suspended), ("halted", .halted),
    ("fulfilled", .fulfilled)]

def SettleState.names : List (String × SettleState) :=
  [("resolved", .resolved), ("rejected", .rejected), ("rejected_canceled", .rejectedCanceled)]

def PromiseState.json : PromiseState → Json
  | .pending => .str "pending"
  | .resolved => .str "resolved"
  | .rejected => .str "rejected"
  | .rejectedCanceled => .str "rejected_canceled"
  | .rejectedTimedout => .str "rejected_timedout"

def TaskState.json : TaskState → Json
  | .pending => .str "pending"
  | .acquired => .str "acquired"
  | .suspended => .str "suspended"
  | .halted => .str "halted"
  | .fulfilled => .str "fulfilled"

def PromiseState.ofJson : Json.Decoder PromiseState := Json.variant names

def TaskState.ofJson : Json.Decoder TaskState := Json.variant names

def SettleState.ofJson : Json.Decoder SettleState := Json.variant names

def PromiseValue.json (value : PromiseValue) : Json :=
  .obj (Json.member "headers" Json.ofTexts value.headers ++ Json.member "data" .str value.data)

def PromiseValue.ofJson (value : Json) : Option PromiseValue := do
  let fields ← Json.fields ["headers", "data"] value
  let headers ← defaulted fields "headers" (Json.nullable Json.textMap) none
  let data ← defaulted fields "data" (Json.nullable Json.asStr) none
  some { headers, data }

/-! ## Promises -/

/-- The members of a promise in its wire form. -/
def PromiseRecord.members (promise : PromiseRecord) : List (String × Json) :=
  [("id", .str promise.id), ("state", promise.state.json), ("param", promise.param.json),
    ("value", promise.value.json), ("tags", Json.ofTexts promise.tags),
    ("timeoutAt", .int promise.timeoutAt), ("createdAt", .int promise.createdAt)] ++
    Json.member "settledAt" .int promise.settledAt

def PromiseRecord.json (promise : PromiseRecord) : Json := .obj promise.members

def PromiseRecord.ofFields (fields : String → Option Json) : Option PromiseRecord := do
  let id ← required fields "id" Json.asStr
  let state ← required fields "state" PromiseState.ofJson
  let param ← defaulted fields "param" PromiseValue.ofJson {}
  let value ← defaulted fields "value" PromiseValue.ofJson {}
  let tags ← defaulted fields "tags" Json.textMap ∅
  let timeoutAt ← required fields "timeoutAt" Json.number
  let createdAt ← required fields "createdAt" Json.number
  let settledAt ← defaulted fields "settledAt" (Json.nullable Json.number) none
  some { id, state, param, value, tags, timeoutAt, createdAt, settledAt }

/-- The wire record flat, with the registrations beside it. -/
def StoredPromise.json (promise : StoredPromise) : Json :=
  .obj (promise.record.members ++ [("callbacks", .arr (promise.callbacks.map .str)),
    ("listeners", .arr (promise.listeners.map .str))])

def StoredPromise.ofJson (value : Json) : Option StoredPromise := do
  let members ← value.asObj
  let fields name := members.lookup name
  let record ← PromiseRecord.ofFields fields
  let callbacks ← defaulted fields "callbacks" (Json.listOf Json.asStr) []
  let listeners ← defaulted fields "listeners" (Json.listOf Json.asStr) []
  some { record, callbacks, listeners }

/-! ## Tasks -/

def TaskRecord.json (task : TaskRecord) : Json :=
  .obj ([("id", .str task.id), ("state", task.state.json), ("version", .int task.version),
    ("resumes", .int task.resumes)] ++ Json.member "ttl" .int task.ttl ++
    Json.member "pid" .str task.pid)

def StoredTask.json (ids : JobIds) (task : StoredTask) : Json :=
  .obj [("id", .str task.id), ("state", task.state.json), ("version", .int task.version),
    ("target", .str task.target), ("job", Json.ofOption (fun job => .str (ids.text job)) task.job),
    ("pid", Json.ofOption .str task.pid), ("ttl", Json.ofOption .int task.ttl),
    ("resumes", .arr ((task.resumes.sort (· ≤ ·)).map .str))]

def StoredTask.ofJson (ids : JobIds) (value : Json) : Option StoredTask := do
  let fields ← Json.fields
    ["id", "state", "version", "target", "job", "pid", "ttl", "resumes"] value
  let id ← required fields "id" Json.asStr
  let state ← required fields "state" TaskState.ofJson
  let version ← required fields "version" Json.number
  let target ← required fields "target" Json.asStr
  let job ← defaulted fields "job" (Json.nullable fun value => value.asStr.bind ids.read) none
  let pid ← defaulted fields "pid" (Json.nullable Json.asStr) none
  let ttl ← defaulted fields "ttl" (Json.nullable Json.number) none
  let resumes ← defaulted fields "resumes" (Json.listOf Json.asStr) []
  some { id, state, version, target, job, pid, ttl, resumes := resumes.toFinset }

/-! ## Schedules -/

def ScheduleRecord.json (schedule : ScheduleRecord) : Json :=
  .obj ([("id", .str schedule.id), ("cron", .str schedule.cron),
    ("promiseId", .str schedule.promiseId), ("promiseTimeout", .int schedule.promiseTimeout),
    ("promiseParam", schedule.promiseParam.json), ("promiseTags", Json.ofTexts schedule.promiseTags),
    ("createdAt", .int schedule.createdAt), ("nextRunAt", .int schedule.nextRunAt)] ++
    Json.member "lastRunAt" .int schedule.lastRunAt)

def ScheduleRecord.ofJson (value : Json) : Option ScheduleRecord := do
  let fields ← Json.fields ["id", "cron", "promiseId", "promiseTimeout", "promiseParam",
    "promiseTags", "createdAt", "nextRunAt", "lastRunAt"] value
  let id ← required fields "id" Json.asStr
  let cron ← required fields "cron" Json.asStr
  let promiseId ← required fields "promiseId" Json.asStr
  let promiseTimeout ← required fields "promiseTimeout" Json.number
  let promiseParam ← defaulted fields "promiseParam" PromiseValue.ofJson {}
  let promiseTags ← defaulted fields "promiseTags" Json.textMap ∅
  let createdAt ← required fields "createdAt" Json.number
  let nextRunAt ← required fields "nextRunAt" Json.number
  let lastRunAt ← defaulted fields "lastRunAt" (Json.nullable Json.number) none
  some
    { id
      cron
      promiseId
      promiseTimeout
      promiseParam
      promiseTags
      createdAt
      nextRunAt
      lastRunAt }

/-! ## Messages and jobs -/

def Message.json : Message → Json
  | .execute task version => .obj [("kind", .str "execute"), ("head", .obj []),
      ("data", .obj [("task", .obj [("id", .str task), ("version", .int version)])])]
  | .unblock promise => .obj [("kind", .str "unblock"), ("head", .obj []),
      ("data", .obj [("promise", promise.json)])]

def Timer.json : Timer → Json
  | .promiseTimeout id => .obj [("kind", .str "promise_timeout"), ("id", .str id)]
  | .schedule id at_ => .obj [("kind", .str "schedule"), ("id", .str id), ("at", .int at_)]

def Timer.ofJson (value : Json) : Option Timer := do
  let (kind, content) ← value.tagged "kind"
  if kind = "promise_timeout" then do
    let fields ← Json.fields ["id"] content
    let id ← required fields "id" Json.asStr
    some (.promiseTimeout id)
  else if kind = "schedule" then do
    let fields ← Json.fields ["id", "at"] content
    let id ← required fields "id" Json.asStr
    let at_ ← required fields "at" Json.number
    some (.schedule id at_)
  else none

/-- The payload of a job on an address queue, as it is decoded: the message of an unblock is passed
on as it is. -/
inductive Delivery
  | execute (task : String)
  | unblock (message : Json)

def Delivery.ofJson (value : Json) : Option Delivery := do
  let (kind, content) ← value.tagged "kind"
  if kind = "execute" then do
    let fields ← Json.fields ["task"] content
    let task ← required fields "task" Json.asStr
    some (.execute task)
  else if kind = "unblock" then do
    let fields ← Json.fields ["message"] content
    let message ← required fields "message" some
    some (.unblock message)
  else none

/-- The payload a job is enqueued with. -/
def Payload.json : Payload → Json
  | .execute task => .obj [("kind", .str "execute"), ("task", .str task)]
  | .unblock message => .obj [("kind", .str "unblock"), ("message", message.json)]
  | .timer deadline => deadline.json

/-- The timer of a payload on the timer queue. -/
def Payload.asTimer : Payload → Option Timer
  | .timer deadline => some deadline
  | .execute _ | .unblock _ => none

/-- What is delivered of a payload on an address queue. -/
def Payload.asDelivery : Payload → Option Delivery
  | .execute task => some (.execute task)
  | .unblock message => some (.unblock message.json)
  | .timer _ => none

/-! ## Reading back -/

section

variable (ids : JobIds)

@[simp] theorem PromiseState.ofJson_json (state : PromiseState) : ofJson state.json = some state := by
  cases state <;> rfl

@[simp] theorem TaskState.ofJson_json (state : TaskState) : ofJson state.json = some state := by
  cases state <;> rfl

@[simp] theorem PromiseValue.ofJson_json (value : PromiseValue) :
    PromiseValue.ofJson value.json = some value := by
  obtain ⟨headers, data⟩ := value
  cases headers <;> cases data <;>
    simp [PromiseValue.ofJson, PromiseValue.json, defaulted, List.lookup]

theorem PromiseRecord.ofFields_members {fields : String → Option Json} (promise : PromiseRecord)
    (read : ∀ name, name ∈ ["id", "state", "param", "value", "tags", "timeoutAt", "createdAt",
      "settledAt"] → fields name = promise.members.lookup name) :
    PromiseRecord.ofFields fields = some promise := by
  obtain ⟨id, state, param, value, tags, timeoutAt, createdAt, settledAt⟩ := promise
  cases settledAt <;>
    simp [PromiseRecord.ofFields, required, defaulted, read, PromiseRecord.members, List.lookup]

/-- A stored promise is read back, its registrations in their order. -/
theorem StoredPromise.ofJson_json (promise : StoredPromise) :
    StoredPromise.ofJson promise.json = some promise := by
  obtain ⟨record, callbacks, listeners⟩ := promise
  have texts (items : List String) : Json.listOf Json.asStr (.arr (items.map .str)) = some items :=
    Json.listOf_arr Json.asStr_str items
  have apart (name : String) (beside : name ≠ "callbacks") (listed : name ≠ "listeners") :
      (record.members ++ [("callbacks", Json.arr (callbacks.map .str)),
        ("listeners", Json.arr (listeners.map .str))]).lookup name = record.members.lookup name := by
    have first : (name == "callbacks") = false := beq_false_of_ne beside
    have second : (name == "listeners") = false := beq_false_of_ne listed
    rw [List.lookup_append]
    simp only [List.lookup, first, second, Option.or_none]
  have unlisted : record.members.lookup "callbacks" = none ∧
      record.members.lookup "listeners" = none := by
    obtain ⟨id, state, param, value, tags, timeoutAt, createdAt, settledAt⟩ := record
    cases settledAt <;> exact ⟨rfl, rfl⟩
  unfold StoredPromise.ofJson
  refine Option.bind_eq_some_iff.mpr ⟨_, rfl, ?_⟩
  dsimp only
  refine Option.bind_eq_some_iff.mpr ⟨record, PromiseRecord.ofFields_members record ?_, ?_⟩
  · intro name member
    apply apart
    · rintro rfl
      simp at member
    · rintro rfl
      simp at member
  · refine Option.bind_eq_some_iff.mpr
      ⟨callbacks, Json.defaulted_some ?_ (texts callbacks) _, ?_⟩
    · rw [List.lookup_append, unlisted.1]
      rfl
    · refine Option.bind_eq_some_iff.mpr
        ⟨listeners, Json.defaulted_some ?_ (texts listeners) _, rfl⟩
      rw [List.lookup_append, unlisted.2]
      rfl

theorem StoredTask.ofJson_json (task : StoredTask) :
    StoredTask.ofJson ids (task.json ids) = some task := by
  obtain ⟨id, state, version, target, job, pid, ttl, resumes⟩ := task
  have texts (items : List String) : Json.listOf Json.asStr (.arr (items.map .str)) = some items :=
    Json.listOf_arr Json.asStr_str items
  have named : Json.nullable (fun value => value.asStr.bind ids.read)
      (Json.ofOption (fun job => .str (ids.text job)) job) = some job :=
    Json.nullable_ofOption (fun job => ids.read_text job) (by simp) job
  have held : Json.nullable Json.asStr (Json.ofOption .str pid) = some pid :=
    Json.nullable_ofOption Json.asStr_str (by simp) pid
  have leased : Json.nullable Json.number (Json.ofOption .int ttl) = some ttl :=
    Json.nullable_ofOption Json.number_int (by simp) ttl
  simp [StoredTask.ofJson, StoredTask.json, required, defaulted, List.lookup, texts, named, held,
    leased]

theorem ScheduleRecord.ofJson_json (schedule : ScheduleRecord) :
    ScheduleRecord.ofJson schedule.json = some schedule := by
  obtain ⟨id, cron, promiseId, promiseTimeout, promiseParam, promiseTags, createdAt, nextRunAt,
    lastRunAt⟩ := schedule
  unfold ScheduleRecord.ofJson
  refine Option.bind_eq_some_iff.mpr ⟨_, Json.fields_obj _ _, ?_⟩
  refine Option.bind_eq_some_iff.mpr ⟨id, Json.required_some rfl rfl, ?_⟩
  refine Option.bind_eq_some_iff.mpr ⟨cron, Json.required_some rfl rfl, ?_⟩
  refine Option.bind_eq_some_iff.mpr ⟨promiseId, Json.required_some rfl rfl, ?_⟩
  refine Option.bind_eq_some_iff.mpr ⟨promiseTimeout, Json.required_some rfl rfl, ?_⟩
  refine Option.bind_eq_some_iff.mpr
    ⟨promiseParam, Json.defaulted_some rfl (PromiseValue.ofJson_json _) _, ?_⟩
  refine Option.bind_eq_some_iff.mpr
    ⟨promiseTags, Json.defaulted_some rfl (Json.textMap_ofTexts _) _, ?_⟩
  refine Option.bind_eq_some_iff.mpr ⟨createdAt, Json.required_some rfl rfl, ?_⟩
  refine Option.bind_eq_some_iff.mpr ⟨nextRunAt, Json.required_some rfl rfl, ?_⟩
  cases lastRunAt with
  | none => rfl
  | some time => rfl

/-- The timer worker reads timers back, and no other payload as a timer. -/
theorem Timer.ofJson_payload (payload : Payload) : Timer.ofJson payload.json = payload.asTimer := by
  cases payload with
  | execute task => simp [Timer.ofJson, Payload.json, Payload.asTimer, Json.tagged, required, List.lookup]
  | unblock message =>
      simp [Timer.ofJson, Payload.json, Payload.asTimer, Json.tagged, required, List.lookup]
  | timer timer =>
      cases timer <;> simp [Timer.ofJson, Payload.json, Payload.asTimer, Timer.json, Json.tagged,
        required, List.lookup]

/-- A delivery loop reads dispatches and messages back, and no timer as either. -/
theorem Delivery.ofJson_payload (payload : Payload) :
    Delivery.ofJson payload.json = payload.asDelivery := by
  cases payload with
  | execute task =>
      simp [Delivery.ofJson, Payload.json, Payload.asDelivery, Json.tagged, required, List.lookup]
  | unblock message =>
      simp [Delivery.ofJson, Payload.json, Payload.asDelivery, Json.tagged, required, List.lookup]
  | timer timer =>
      cases timer <;> simp [Delivery.ofJson, Payload.json, Payload.asDelivery, Timer.json, Json.tagged,
        required, List.lookup]

/-- Every stored record reads back, and each worker reads back the payloads it was sent and takes no
other for its own. -/
theorem records_read_back :
    (∀ promise : StoredPromise, StoredPromise.ofJson promise.json = some promise) ∧
      (∀ task : StoredTask, StoredTask.ofJson ids (task.json ids) = some task) ∧
      (∀ schedule : ScheduleRecord, ScheduleRecord.ofJson schedule.json = some schedule) ∧
      (∀ payload : Payload, Timer.ofJson payload.json = payload.asTimer) ∧
      ∀ payload : Payload, Delivery.ofJson payload.json = payload.asDelivery :=
  ⟨StoredPromise.ofJson_json, StoredTask.ofJson_json ids, ScheduleRecord.ofJson_json,
    Timer.ofJson_payload, Delivery.ofJson_payload⟩

end

/-- A promise with a callback and a listener, the task it waits for, with a resume and a job, and a
schedule. -/
def sampleAwaited : StoredPromise where
  record :=
    { id := "root:0"
      state := .resolved
      param := { data := some "in" }
      value := { headers := some ∅ }
      tags := Std.ExtTreeMap.ofList [(tagBranch, "root"), (tagTarget, "poll://any@a")]
      timeoutAt := 1000
      createdAt := 1
      settledAt := some 2 }
  callbacks := ["root"]
  listeners := ["poll://any@b"]

def sampleAwaiting : StoredTask where
  id := "root"
  state := .pending
  version := 2
  target := "poll://any@a"
  job := some 3
  pid := none
  ttl := some 100
  resumes := {"root:0"}

def sampleSchedule : ScheduleRecord where
  id := "nightly"
  cron := "0 0 * * *"
  promiseId := "nightly{{.timestamp}}"
  promiseTimeout := 1000
  promiseParam := {}
  promiseTags := Std.ExtTreeMap.ofList [(tagTarget, "poll://any@a")]
  createdAt := 1
  nextRunAt := 5
  lastRunAt := none

/-- Job ids in unary read back, so these records and the payloads about them do. -/
theorem records_read_back_awaited :
    StoredPromise.ofJson sampleAwaited.json = some sampleAwaited ∧
      StoredTask.ofJson .unary (sampleAwaiting.json .unary) = some sampleAwaiting ∧
      ScheduleRecord.ofJson sampleSchedule.json = some sampleSchedule ∧
      Timer.ofJson (Payload.timer (.schedule "nightly" 5)).json = some (.schedule "nightly" 5) ∧
      Timer.ofJson (Payload.execute "root").json = none ∧
      Delivery.ofJson (Payload.execute "root").json = some (.execute "root") ∧
      Delivery.ofJson (Payload.unblock (.unblock sampleAwaited.record)).json =
        some (.unblock (Message.unblock sampleAwaited.record).json) ∧
      Delivery.ofJson (Payload.timer (.promiseTimeout "root:0")).json = none := by
  obtain ⟨promises, tasks, schedules, timers, deliveries⟩ := records_read_back .unary
  exact ⟨promises _, tasks _, schedules _, timers _, timers _, deliveries _, deliveries _,
    deliveries _⟩

end Resonate
