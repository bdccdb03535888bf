import Resonate.NetworkFacts

set_option autoImplicit false

/-! The object form of each request, and that it is read back: the requests that texts make are those
whose integers fit 64 bits. -/

namespace Json

theorem i64_fits {value : Json} {read : Int} (decoded : i64 value = some read) : IsI64 read := by
  unfold i64 at decoded
  split at decoded
  · split at decoded
    · rename_i fits
      cases decoded
      exact fits
    · cases decoded
  · cases decoded

theorem required_fits {fields : String → Option Json} {name : String} {read : Int}
    (decoded : required fields name i64 = some read) : IsI64 read := by
  obtain ⟨value, _, decoded⟩ := Option.bind_eq_some_iff.mp decoded
  exact i64_fits decoded

theorem optional_fits {fields : String → Option Json} {name : String} {read : Option Int}
    (decoded : defaulted fields name (nullable i64) none = some read) :
    ∀ limit, read = some limit → IsI64 limit := by
  rintro limit rfl
  unfold defaulted at decoded
  split at decoded
  · unfold nullable at decoded
    split at decoded
    · cases decoded
    · obtain ⟨value, whole, same⟩ := Option.map_eq_some_iff.mp decoded
      cases same
      exact i64_fits whole
  · cases decoded

theorem listOf_forall {α : Type} {decode : Decoder α} {kept : α → Prop}
    (keeps : ∀ value read, decode value = some read → kept read) {value : Json} {read : List α}
    (decoded : listOf decode value = some read) : ∀ item ∈ read, kept item := by
  unfold listOf at decoded
  split at decoded
  · rename_i items
    induction items generalizing read with
    | nil =>
        cases decoded
        simp
    | cons first rest ih =>
        rw [List.mapM_cons] at decoded
        obtain ⟨head, passed, decoded⟩ := Option.bind_eq_some_iff.mp decoded
        obtain ⟨tail, later, decoded⟩ := Option.bind_eq_some_iff.mp decoded
        cases decoded
        intro item member
        rcases List.mem_cons.mp member with rfl | old
        · exact keeps first _ passed
        · exact ih later item old
  · cases decoded

@[simp] theorem nullDefault_obj {α : Type} {decode : Decoder α} {default read : α}
    {members : List (String × Json)} (decoded : decode (.obj members) = some read) :
    nullDefault decode default (.obj members) = some read := by
  unfold nullDefault
  rw [nullable_some decoded nofun]
  rfl

end Json

namespace Resonate

open Json (IsI64)

/-! ## The object form of request data -/

def PromiseCreateData.json (data : PromiseCreateData) : Json :=
  .obj [("id", .str data.id), ("timeoutAt", .int data.timeoutAt), ("param", data.param.json),
    ("tags", Json.ofTexts data.tags)]

def SettleState.json (state : SettleState) : Json := state.toPromiseState.json

def PromiseSettleData.json (data : PromiseSettleData) : Json :=
  .obj [("id", .str data.id), ("state", data.state.json), ("value", data.value.json)]

def CallbackData.json (data : CallbackData) : Json :=
  .obj [("awaited", .str data.awaited), ("awaiter", .str data.awaiter)]

def ListenerData.json (data : ListenerData) : Json :=
  .obj [("awaited", .str data.awaited), ("address", .str data.address)]

def PromiseSearchData.json (data : PromiseSearchData) : Json :=
  .obj [("state", Json.ofOption PromiseState.json data.state),
    ("tags", Json.ofOption Json.ofTexts data.tags), ("limit", Json.ofOption .int data.limit),
    ("cursor", Json.ofOption .str data.cursor)]

def Action.json {α : Type} (encode : α → Json) (action : Action α) : Json :=
  .obj [("kind", .str action.kind), ("data", encode action.data)]

def TaskCreateData.json (data : TaskCreateData) : Json :=
  .obj [("pid", .str data.pid), ("ttl", .int data.ttl),
    ("action", data.action.json PromiseCreateData.json)]

def TaskAcquireData.json (data : TaskAcquireData) : Json :=
  .obj [("id", .str data.id), ("version", .int data.version), ("pid", .str data.pid),
    ("ttl", .int data.ttl)]

def TaskVersionData.json (data : TaskVersionData) : Json :=
  .obj [("id", .str data.id), ("version", .int data.version)]

def TaskSuspendData.json (data : TaskSuspendData) : Json :=
  .obj [("id", .str data.id), ("version", .int data.version),
    ("actions", .arr (data.actions.map (Action.json CallbackData.json)))]

def TaskFulfillData.json (data : TaskFulfillData) : Json :=
  .obj [("id", .str data.id), ("version", .int data.version),
    ("action", data.action.json PromiseSettleData.json)]

def TaskHeartbeatData.json (data : TaskHeartbeatData) : Json :=
  .obj [("pid", .str data.pid), ("tasks", .arr (data.tasks.map TaskVersionData.json))]

def TaskSearchData.json (data : TaskSearchData) : Json :=
  .obj [("state", Json.ofOption TaskState.json data.state), ("limit", Json.ofOption .int data.limit),
    ("cursor", Json.ofOption .str data.cursor)]

def ScheduleCreateData.json (data : ScheduleCreateData) : Json :=
  .obj [("id", .str data.id), ("cron", .str data.cron), ("promiseId", .str data.promiseId),
    ("promiseTimeout", .int data.promiseTimeout), ("promiseParam", data.promiseParam.json),
    ("promiseTags", Json.ofTexts data.promiseTags)]

def ScheduleSearchData.json (data : ScheduleSearchData) : Json :=
  .obj [("tags", Json.ofOption Json.ofTexts data.tags), ("limit", Json.ofOption .int data.limit),
    ("cursor", Json.ofOption .str data.cursor)]

def idJson (id : String) : Json := .obj [("id", .str id)]

/-- The integers of a request fit 64 bits. -/
def Request.Sized : Request → Prop
  | .promiseCreate data => IsI64 data.timeoutAt
  | .promiseSearch data => ∀ limit, data.limit = some limit → IsI64 limit
  | .taskCreate data => IsI64 data.ttl ∧ IsI64 data.action.data.timeoutAt
  | .taskAcquire data => IsI64 data.version ∧ IsI64 data.ttl
  | .taskRelease data => IsI64 data.version
  | .taskFulfill data => IsI64 data.version
  | .taskSuspend data => IsI64 data.version
  | .taskFence data _ => IsI64 data.version ∧
      ∀ create, data.action.data.create = .ok create → IsI64 create.timeoutAt
  | .taskHeartbeat data => ∀ entry ∈ data.tasks, IsI64 entry.version
  | .taskSearch data => ∀ limit, data.limit = some limit → IsI64 limit
  | .scheduleCreate data => IsI64 data.promiseTimeout
  | .scheduleSearch data => ∀ limit, data.limit = some limit → IsI64 limit
  | .promiseGet _ | .promiseSettle _ | .promiseRegisterCallback _ | .promiseRegisterListener _
  | .taskGet _ | .taskHalt _ | .taskContinue _ | .scheduleGet _ | .scheduleDelete _ | .invalid _
  | .unknown _ => True

/-- The kind and the object form of a request. The data of a fence keeps the value of its action. -/
def Request.written : Request → Option (String × Json)
  | .promiseCreate data => some ("promise.create", data.json)
  | .promiseGet id => some ("promise.get", idJson id)
  | .promiseSettle data => some ("promise.settle", data.json)
  | .promiseRegisterCallback data => some ("promise.register_callback", data.json)
  | .promiseRegisterListener data => some ("promise.register_listener", data.json)
  | .promiseSearch data => some ("promise.search", data.json)
  | .taskCreate data => some ("task.create", data.json)
  | .taskAcquire data => some ("task.acquire", data.json)
  | .taskRelease data => some ("task.release", data.json)
  | .taskFulfill data => some ("task.fulfill", data.json)
  | .taskSuspend data => some ("task.suspend", data.json)
  | .taskHeartbeat data => some ("task.heartbeat", data.json)
  | .taskGet id => some ("task.get", idJson id)
  | .taskHalt id => some ("task.halt", idJson id)
  | .taskContinue id => some ("task.continue", idJson id)
  | .taskSearch data => some ("task.search", data.json)
  | .scheduleCreate data => some ("schedule.create", data.json)
  | .scheduleGet id => some ("schedule.get", idJson id)
  | .scheduleDelete id => some ("schedule.delete", idJson id)
  | .scheduleSearch data => some ("schedule.search", data.json)
  | .taskFence _ _ | .invalid _ | .unknown _ => none

/-! ## Reading back -/

@[simp] theorem SettleState.ofJson_json (state : SettleState) : ofJson state.json = some state := by
  cases state <;> rfl

theorem PromiseCreateData.ofJson_json (data : PromiseCreateData) (fits : IsI64 data.timeoutAt) :
    ofJson data.json = some data := by
  have param : Json.nullDefault PromiseValue.ofJson {} data.param.json = some data.param :=
    Json.nullDefault_obj (PromiseValue.ofJson_json data.param)
  have tags : Json.nullDefault Json.textMap ∅ (Json.ofTexts data.tags) = some data.tags :=
    Json.nullDefault_obj (Json.textMap_ofTexts data.tags)
  simp [ofJson, json, Json.required, Json.defaulted, List.lookup, Json.i64_int fits, param, tags]

theorem PromiseSettleData.ofJson_json (data : PromiseSettleData) : ofJson data.json = some data := by
  have value : Json.nullDefault PromiseValue.ofJson {} data.value.json = some data.value :=
    Json.nullDefault_obj (PromiseValue.ofJson_json data.value)
  simp [ofJson, json, Json.required, Json.defaulted, List.lookup, value]

theorem CallbackData.ofJson_json (data : CallbackData) : ofJson data.json = some data := by
  simp [ofJson, json, Json.required, List.lookup]

theorem ListenerData.ofJson_json (data : ListenerData) : ofJson data.json = some data := by
  simp [ofJson, json, Json.required, List.lookup]

/-- A limit within 64 bits, or none. -/
theorem nullable_limit {limit : Option Int} (fits : ∀ value, limit = some value → IsI64 value) :
    Json.nullable Json.i64 (Json.ofOption .int limit) = some limit := by
  cases limit with
  | none => rfl
  | some value => exact Json.nullable_some (Json.i64_int (fits value rfl)) nofun

theorem nullable_tags (tags : Option Tags) :
    Json.nullable Json.textMap (Json.ofOption Json.ofTexts tags) = some tags :=
  Json.nullable_ofOption Json.textMap_ofTexts (fun _ => nofun) tags

theorem nullable_cursor (cursor : Option String) :
    Json.nullable Json.asStr (Json.ofOption .str cursor) = some cursor :=
  Json.nullable_ofOption Json.asStr_str (fun _ => nofun) cursor

theorem PromiseSearchData.ofJson_json (data : PromiseSearchData)
    (fits : ∀ limit, data.limit = some limit → IsI64 limit) : ofJson data.json = some data := by
  have state : Json.nullable PromiseState.ofJson (Json.ofOption PromiseState.json data.state) =
      some data.state :=
    Json.nullable_ofOption PromiseState.ofJson_json (fun state => by cases state <;> nofun) data.state
  simp [ofJson, json, Json.defaulted, List.lookup, state, nullable_tags, nullable_limit fits,
    nullable_cursor]

theorem Action.ofJson_json {α : Type} {decode : Json.Decoder α} {encode : α → Json}
    (action : Action α) (undoes : decode (encode action.data) = some action.data) :
    ofJson decode (action.json encode) = some action := by
  simp [ofJson, json, Json.required, List.lookup, undoes]

theorem TaskCreateData.ofJson_json (data : TaskCreateData) (ttl : IsI64 data.ttl)
    (timeoutAt : IsI64 data.action.data.timeoutAt) : ofJson data.json = some data := by
  have action := Action.ofJson_json data.action
    (PromiseCreateData.ofJson_json data.action.data timeoutAt)
  simp [ofJson, json, Json.required, List.lookup, Json.i64_int ttl, action]

theorem TaskAcquireData.ofJson_json (data : TaskAcquireData) (version : IsI64 data.version)
    (ttl : IsI64 data.ttl) : ofJson data.json = some data := by
  simp [ofJson, json, Json.required, List.lookup, Json.i64_int version, Json.i64_int ttl]

theorem TaskVersionData.ofJson_json (data : TaskVersionData) (version : IsI64 data.version) :
    ofJson data.json = some data := by
  simp [ofJson, json, Json.required, List.lookup, Json.i64_int version]

theorem TaskSuspendData.ofJson_json (data : TaskSuspendData) (version : IsI64 data.version) :
    ofJson data.json = some data := by
  have actions : Json.listOf (Action.ofJson CallbackData.ofJson)
      (.arr (data.actions.map (Action.json CallbackData.json))) = some data.actions :=
    Json.listOf_arr (fun action => Action.ofJson_json action (CallbackData.ofJson_json action.data))
      data.actions
  simp [ofJson, json, Json.required, Json.defaulted, List.lookup, Json.i64_int version, actions]

theorem TaskFulfillData.ofJson_json (data : TaskFulfillData) (version : IsI64 data.version) :
    ofJson data.json = some data := by
  have action := Action.ofJson_json data.action (PromiseSettleData.ofJson_json data.action.data)
  simp [ofJson, json, Json.required, List.lookup, Json.i64_int version, action]

theorem TaskHeartbeatData.ofJson_json (data : TaskHeartbeatData)
    (fits : ∀ entry ∈ data.tasks, IsI64 entry.version) : ofJson data.json = some data := by
  have tasks : Json.listOf TaskVersionData.ofJson (.arr (data.tasks.map TaskVersionData.json)) =
      some data.tasks :=
    Json.listOf_arr_mem fun entry member => TaskVersionData.ofJson_json entry (fits entry member)
  simp [ofJson, json, Json.required, Json.defaulted, List.lookup, tasks]

theorem TaskSearchData.ofJson_json (data : TaskSearchData)
    (fits : ∀ limit, data.limit = some limit → IsI64 limit) : ofJson data.json = some data := by
  have state : Json.nullable TaskState.ofJson (Json.ofOption TaskState.json data.state) =
      some data.state :=
    Json.nullable_ofOption TaskState.ofJson_json (fun state => by cases state <;> nofun) data.state
  simp [ofJson, json, Json.defaulted, List.lookup, state, nullable_limit fits, nullable_cursor]

theorem ScheduleCreateData.ofJson_json (data : ScheduleCreateData)
    (fits : IsI64 data.promiseTimeout) : ofJson data.json = some data := by
  have param : Json.nullDefault PromiseValue.ofJson {} data.promiseParam.json =
      some data.promiseParam := Json.nullDefault_obj (PromiseValue.ofJson_json data.promiseParam)
  have tags : Json.nullDefault Json.textMap ∅ (Json.ofTexts data.promiseTags) =
      some data.promiseTags := Json.nullDefault_obj (Json.textMap_ofTexts data.promiseTags)
  simp [ofJson, json, Json.required, Json.defaulted, List.lookup, Json.i64_int fits, param, tags]

theorem ScheduleSearchData.ofJson_json (data : ScheduleSearchData)
    (fits : ∀ limit, data.limit = some limit → IsI64 limit) : ofJson data.json = some data := by
  simp [ofJson, json, Json.defaulted, List.lookup, nullable_tags, nullable_limit fits,
    nullable_cursor]

theorem IdData.ofJson_json (id : String) : IdData.ofJson (idJson id) = some id := by
  simp [ofJson, idJson, Json.required, List.lookup]

/-- A request in its object form is read back as itself. -/
theorem Request.ofJson_written {serde : Serde} {request : Request} {kind : String} {data : Json}
    (corrId : String) (written : request.written = some (kind, data)) (sized : request.Sized) :
    Request.ofJson serde kind corrId data = request := by
  cases request with
  | promiseCreate asked =>
      cases written
      simp [Request.ofJson, Request.parse, PromiseCreateData.ofJson_json asked sized]
  | promiseGet id => cases written; simp [Request.ofJson, Request.parse, IdData.ofJson_json]
  | promiseSettle asked =>
      cases written
      simp [Request.ofJson, Request.parse, PromiseSettleData.ofJson_json asked]
  | promiseRegisterCallback asked =>
      cases written
      simp [Request.ofJson, Request.parse, CallbackData.ofJson_json asked]
  | promiseRegisterListener asked =>
      cases written
      simp [Request.ofJson, Request.parse, ListenerData.ofJson_json asked]
  | promiseSearch asked =>
      cases written
      simp [Request.ofJson, Request.parse, PromiseSearchData.ofJson_json asked sized]
  | taskCreate asked =>
      cases written
      simp [Request.ofJson, Request.parse, TaskCreateData.ofJson_json asked sized.1 sized.2]
  | taskAcquire asked =>
      cases written
      simp [Request.ofJson, Request.parse, TaskAcquireData.ofJson_json asked sized.1 sized.2]
  | taskRelease asked =>
      cases written
      simp [Request.ofJson, Request.parse, TaskVersionData.ofJson_json asked sized]
  | taskFulfill asked =>
      cases written
      simp [Request.ofJson, Request.parse, TaskFulfillData.ofJson_json asked sized]
  | taskSuspend asked =>
      cases written
      simp [Request.ofJson, Request.parse, TaskSuspendData.ofJson_json asked sized]
  | taskFence asked named => cases written
  | taskHeartbeat asked =>
      cases written
      simp [Request.ofJson, Request.parse, TaskHeartbeatData.ofJson_json asked sized]
  | taskGet id => cases written; simp [Request.ofJson, Request.parse, IdData.ofJson_json]
  | taskHalt id => cases written; simp [Request.ofJson, Request.parse, IdData.ofJson_json]
  | taskContinue id => cases written; simp [Request.ofJson, Request.parse, IdData.ofJson_json]
  | taskSearch asked =>
      cases written
      simp [Request.ofJson, Request.parse, TaskSearchData.ofJson_json asked sized]
  | scheduleCreate asked =>
      cases written
      simp [Request.ofJson, Request.parse, ScheduleCreateData.ofJson_json asked sized]
  | scheduleGet id => cases written; simp [Request.ofJson, Request.parse, IdData.ofJson_json]
  | scheduleDelete id => cases written; simp [Request.ofJson, Request.parse, IdData.ofJson_json]
  | scheduleSearch asked =>
      cases written
      simp [Request.ofJson, Request.parse, ScheduleSearchData.ofJson_json asked sized]
  | invalid message => cases written
  | unknown other => cases written

/-! ## What is read fits -/

theorem PromiseCreateData.ofJson_fits {value : Json} {data : PromiseCreateData}
    (decoded : ofJson value = some data) : IsI64 data.timeoutAt := by
  obtain ⟨fields, _, decoded⟩ := Option.bind_eq_some_iff.mp decoded
  obtain ⟨id, _, decoded⟩ := Option.bind_eq_some_iff.mp decoded
  obtain ⟨timeoutAt, read, decoded⟩ := Option.bind_eq_some_iff.mp decoded
  obtain ⟨param, _, decoded⟩ := Option.bind_eq_some_iff.mp decoded
  obtain ⟨tags, _, decoded⟩ := Option.bind_eq_some_iff.mp decoded
  cases decoded
  exact Json.required_fits read

theorem PromiseSearchData.ofJson_fits {value : Json} {data : PromiseSearchData}
    (decoded : ofJson value = some data) : ∀ limit, data.limit = some limit → IsI64 limit := by
  obtain ⟨fields, _, decoded⟩ := Option.bind_eq_some_iff.mp decoded
  obtain ⟨state, _, decoded⟩ := Option.bind_eq_some_iff.mp decoded
  obtain ⟨tags, _, decoded⟩ := Option.bind_eq_some_iff.mp decoded
  obtain ⟨limit, read, decoded⟩ := Option.bind_eq_some_iff.mp decoded
  obtain ⟨cursor, _, decoded⟩ := Option.bind_eq_some_iff.mp decoded
  cases decoded
  exact Json.optional_fits read

theorem Action.ofJson_data {α : Type} {decode : Json.Decoder α} {value : Json} {action : Action α}
    (decoded : ofJson decode value = some action) : ∃ value, decode value = some action.data := by
  obtain ⟨fields, _, decoded⟩ := Option.bind_eq_some_iff.mp decoded
  obtain ⟨kind, _, decoded⟩ := Option.bind_eq_some_iff.mp decoded
  obtain ⟨data, read, decoded⟩ := Option.bind_eq_some_iff.mp decoded
  cases decoded
  obtain ⟨inner, _, passed⟩ := Option.bind_eq_some_iff.mp read
  exact ⟨inner, passed⟩

theorem TaskCreateData.ofJson_fits {value : Json} {data : TaskCreateData}
    (decoded : ofJson value = some data) : IsI64 data.ttl ∧ IsI64 data.action.data.timeoutAt := by
  obtain ⟨fields, _, decoded⟩ := Option.bind_eq_some_iff.mp decoded
  obtain ⟨pid, _, decoded⟩ := Option.bind_eq_some_iff.mp decoded
  obtain ⟨ttl, read, decoded⟩ := Option.bind_eq_some_iff.mp decoded
  obtain ⟨action, acted, decoded⟩ := Option.bind_eq_some_iff.mp decoded
  cases decoded
  obtain ⟨nested, _, acted⟩ := Option.bind_eq_some_iff.mp acted
  obtain ⟨inner, passed⟩ := Action.ofJson_data acted
  exact ⟨Json.required_fits read, PromiseCreateData.ofJson_fits passed⟩

theorem TaskAcquireData.ofJson_fits {value : Json} {data : TaskAcquireData}
    (decoded : ofJson value = some data) : IsI64 data.version ∧ IsI64 data.ttl := by
  obtain ⟨fields, _, decoded⟩ := Option.bind_eq_some_iff.mp decoded
  obtain ⟨id, _, decoded⟩ := Option.bind_eq_some_iff.mp decoded
  obtain ⟨version, versioned, decoded⟩ := Option.bind_eq_some_iff.mp decoded
  obtain ⟨pid, _, decoded⟩ := Option.bind_eq_some_iff.mp decoded
  obtain ⟨ttl, leased, decoded⟩ := Option.bind_eq_some_iff.mp decoded
  cases decoded
  exact ⟨Json.required_fits versioned, Json.required_fits leased⟩

theorem TaskVersionData.ofJson_fits {value : Json} {data : TaskVersionData}
    (decoded : ofJson value = some data) : IsI64 data.version := by
  obtain ⟨fields, _, decoded⟩ := Option.bind_eq_some_iff.mp decoded
  obtain ⟨id, _, decoded⟩ := Option.bind_eq_some_iff.mp decoded
  obtain ⟨version, read, decoded⟩ := Option.bind_eq_some_iff.mp decoded
  cases decoded
  exact Json.required_fits read

theorem TaskSuspendData.ofJson_fits {value : Json} {data : TaskSuspendData}
    (decoded : ofJson value = some data) : IsI64 data.version := by
  obtain ⟨fields, _, decoded⟩ := Option.bind_eq_some_iff.mp decoded
  obtain ⟨id, _, decoded⟩ := Option.bind_eq_some_iff.mp decoded
  obtain ⟨version, read, decoded⟩ := Option.bind_eq_some_iff.mp decoded
  obtain ⟨actions, _, decoded⟩ := Option.bind_eq_some_iff.mp decoded
  cases decoded
  exact Json.required_fits read

theorem TaskFulfillData.ofJson_fits {value : Json} {data : TaskFulfillData}
    (decoded : ofJson value = some data) : IsI64 data.version := by
  obtain ⟨fields, _, decoded⟩ := Option.bind_eq_some_iff.mp decoded
  obtain ⟨id, _, decoded⟩ := Option.bind_eq_some_iff.mp decoded
  obtain ⟨version, read, decoded⟩ := Option.bind_eq_some_iff.mp decoded
  obtain ⟨action, _, decoded⟩ := Option.bind_eq_some_iff.mp decoded
  cases decoded
  exact Json.required_fits read

theorem decodeAction_ok {α : Type} {serde : Serde} {type : String} {decode : Json.Decoder α}
    {value : Json} {data : α} (decoded : decodeAction serde type decode value = .ok data) :
    decode value = some data := by
  unfold decodeAction at decoded
  split at decoded
  · rename_i id read named passed
    cases decoded
    exact passed
  · cases decoded

theorem TaskFenceData.ofJson_fits {serde : Serde} {value : Json} {data : TaskFenceData}
    (decoded : ofJson serde value = some data) : IsI64 data.version ∧
      ∀ create, data.action.data.create = .ok create → IsI64 create.timeoutAt := by
  obtain ⟨fields, _, decoded⟩ := Option.bind_eq_some_iff.mp decoded
  obtain ⟨id, _, decoded⟩ := Option.bind_eq_some_iff.mp decoded
  obtain ⟨version, read, decoded⟩ := Option.bind_eq_some_iff.mp decoded
  obtain ⟨action, acted, decoded⟩ := Option.bind_eq_some_iff.mp decoded
  cases decoded
  obtain ⟨nested, _, acted⟩ := Option.bind_eq_some_iff.mp acted
  obtain ⟨inner, same⟩ := Action.ofJson_data acted
  refine ⟨Json.required_fits read, fun create decoded => ?_⟩
  rw [← Option.some.inj same] at decoded
  exact PromiseCreateData.ofJson_fits (decodeAction_ok decoded)

theorem TaskHeartbeatData.ofJson_fits {value : Json} {data : TaskHeartbeatData}
    (decoded : ofJson value = some data) : ∀ entry ∈ data.tasks, IsI64 entry.version := by
  obtain ⟨fields, _, decoded⟩ := Option.bind_eq_some_iff.mp decoded
  obtain ⟨pid, _, decoded⟩ := Option.bind_eq_some_iff.mp decoded
  obtain ⟨tasks, read, decoded⟩ := Option.bind_eq_some_iff.mp decoded
  cases decoded
  unfold Json.defaulted at read
  split at read
  · exact Json.listOf_forall (fun _ _ => TaskVersionData.ofJson_fits) read
  · cases read
    simp

theorem TaskSearchData.ofJson_fits {value : Json} {data : TaskSearchData}
    (decoded : ofJson value = some data) : ∀ limit, data.limit = some limit → IsI64 limit := by
  obtain ⟨fields, _, decoded⟩ := Option.bind_eq_some_iff.mp decoded
  obtain ⟨state, _, decoded⟩ := Option.bind_eq_some_iff.mp decoded
  obtain ⟨limit, read, decoded⟩ := Option.bind_eq_some_iff.mp decoded
  obtain ⟨cursor, _, decoded⟩ := Option.bind_eq_some_iff.mp decoded
  cases decoded
  exact Json.optional_fits read

theorem ScheduleCreateData.ofJson_fits {value : Json} {data : ScheduleCreateData}
    (decoded : ofJson value = some data) : IsI64 data.promiseTimeout := by
  obtain ⟨fields, _, decoded⟩ := Option.bind_eq_some_iff.mp decoded
  obtain ⟨id, _, decoded⟩ := Option.bind_eq_some_iff.mp decoded
  obtain ⟨cron, _, decoded⟩ := Option.bind_eq_some_iff.mp decoded
  obtain ⟨promiseId, _, decoded⟩ := Option.bind_eq_some_iff.mp decoded
  obtain ⟨promiseTimeout, read, decoded⟩ := Option.bind_eq_some_iff.mp decoded
  obtain ⟨promiseParam, _, decoded⟩ := Option.bind_eq_some_iff.mp decoded
  obtain ⟨promiseTags, _, decoded⟩ := Option.bind_eq_some_iff.mp decoded
  cases decoded
  exact Json.required_fits read

theorem ScheduleSearchData.ofJson_fits {value : Json} {data : ScheduleSearchData}
    (decoded : ofJson value = some data) : ∀ limit, data.limit = some limit → IsI64 limit := by
  obtain ⟨fields, _, decoded⟩ := Option.bind_eq_some_iff.mp decoded
  obtain ⟨tags, _, decoded⟩ := Option.bind_eq_some_iff.mp decoded
  obtain ⟨limit, read, decoded⟩ := Option.bind_eq_some_iff.mp decoded
  obtain ⟨cursor, _, decoded⟩ := Option.bind_eq_some_iff.mp decoded
  cases decoded
  exact Json.optional_fits read

theorem Request.parse_sized {α : Type} {serde : Serde} {type : String} {decode : Json.Decoder α}
    {make : α → Request} (fits : ∀ value data, decode value = some data → (make data).Sized)
    (value : Json) : (Request.parse serde type decode value make).Sized := by
  unfold parse
  split
  · rename_i data decoded
    exact fits value data decoded
  · trivial

theorem Request.parse_free {α : Type} {serde : Serde} {type : String} {decode : Json.Decoder α}
    {make : α → Request} (free : ∀ data, (make data).Sized) (value : Json) :
    (Request.parse serde type decode value make).Sized :=
  parse_sized (fun _ data _ => free data) value

/-- Every request that an envelope makes fits. -/
theorem Request.ofJson_sized (serde : Serde) (kind corrId : String) (data : Json) :
    (Request.ofJson serde kind corrId data).Sized := by
  unfold ofJson
  split
  · exact parse_sized (fun _ _ => PromiseCreateData.ofJson_fits) data
  · exact parse_free (fun _ => by exact trivial) data
  · exact parse_free (fun _ => by exact trivial) data
  · exact parse_free (fun _ => by exact trivial) data
  · exact parse_free (fun _ => by exact trivial) data
  · exact parse_sized (fun _ _ => PromiseSearchData.ofJson_fits) data
  · exact parse_sized (fun _ _ => TaskCreateData.ofJson_fits) data
  · exact parse_sized (fun _ _ => TaskAcquireData.ofJson_fits) data
  · exact parse_sized (fun _ _ => TaskVersionData.ofJson_fits) data
  · exact parse_sized (fun _ _ => TaskFulfillData.ofJson_fits) data
  · exact parse_sized (fun _ _ => TaskSuspendData.ofJson_fits) data
  · exact parse_sized (fun _ _ => TaskFenceData.ofJson_fits) data
  · exact parse_sized (fun _ _ => TaskHeartbeatData.ofJson_fits) data
  · exact parse_free (fun _ => by exact trivial) data
  · exact parse_free (fun _ => by exact trivial) data
  · exact parse_free (fun _ => by exact trivial) data
  · exact parse_sized (fun _ _ => TaskSearchData.ofJson_fits) data
  · exact parse_sized (fun _ _ => ScheduleCreateData.ofJson_fits) data
  · exact parse_free (fun _ => by exact trivial) data
  · exact parse_free (fun _ => by exact trivial) data
  · exact parse_sized (fun _ _ => ScheduleSearchData.ofJson_fits) data
  · trivial

/-! ## Envelopes -/

/-- The envelope of a request in object form. -/
def envelopeJson (kind corrId : String) (data : Json) : Json :=
  .obj [("kind", .str kind),
    ("head", .obj [("corrId", .str corrId), ("version", .str protocolVersion)]), ("data", data)]

/-- The data of a fence over the value of its action. -/
def fenceJson (id : String) (version : Int) (kind : String) (value : Json) : Json :=
  .obj [("id", .str id), ("version", .int version),
    ("action", .obj [("kind", .str kind), ("data", value)])]

section

variable {env : Env} {serde : Serde} {system : System} {raw kind corrId : String}

theorem parseRequest_envelope {data : Json}
    (read : serde.fromStr raw = .ok (envelopeJson kind corrId data)) (named : kind ≠ "")
    (object : data.isObject = true) :
    parseRequest serde raw = .ok ⟨kind, ⟨corrId, some protocolVersion⟩, data⟩ := by
  have decoded : RequestEnvelope.ofJson (envelopeJson kind corrId data) =
      some ⟨kind, ⟨corrId, some protocolVersion⟩, data⟩ := by
    simp [RequestEnvelope.ofJson, RequestHead.ofJson, envelopeJson, Json.required, Json.defaulted,
      List.lookup]
  have current : (some protocolVersion).filter (fun version => decide (version ≠ protocolVersion)) =
      none := by decide
  have checked : RequestEnvelope.check ⟨kind, ⟨corrId, some protocolVersion⟩, data⟩ = none := by
    unfold RequestEnvelope.check
    rw [if_neg named, current]
    exact if_pos object
  unfold parseRequest
  rw [read]
  dsimp only
  rw [decoded]
  dsimp only
  rw [checked]

theorem sendTimed_envelope {data : Json} {request : Request}
    (read : serde.fromStr raw = .ok (envelopeJson kind corrId data)) (named : kind ≠ "")
    (object : data.isObject = true) (asked : Request.ofJson serde kind corrId data = request)
    (stored : Bool) :
    sendTimed env serde system raw stored =
      (step env system (.request request stored)).map fun after => (after, system.now,
        serde.toText (response kind corrId (answer env system request stored))) := by
  unfold sendTimed
  rw [parseRequest_envelope read named object]
  dsimp only [RequestEnvelope.request]
  rw [asked]

theorem Request.written_object {request : Request} {data : Json}
    (written : request.written = some (kind, data)) : kind ≠ "" ∧ data.isObject = true := by
  cases request <;> cases written <;> exact ⟨by decide, rfl⟩

theorem TaskFenceData.ofJson_fence (id : String) {version : Int} (fits : IsI64 version)
    (value : Json) : TaskFenceData.ofJson serde (fenceJson id version kind value) =
      some ⟨id, version, ⟨kind, ActionValue.ofJson serde value⟩⟩ := by
  simp [TaskFenceData.ofJson, fenceJson, Action.ofJson, Json.required, List.lookup,
    Json.i64_int fits]

theorem decodeAction_obj {α : Type} {type id : String} {decode : Json.Decoder α}
    {members : List (String × Json)} {data : α} (named : members.lookup "id" = some (.str id))
    (decoded : decode (.obj members) = some data) :
    decodeAction serde type decode (.obj members) = .ok data := by
  unfold decodeAction
  rw [Json.get_obj, named, decoded]
  rfl

end

/-- The text of a request in object form is applied as this request, and a fence as a fence of the
action its value decodes to. No text makes a request whose integers do not fit 64 bits. -/
theorem requests_sent (serde : Serde) :
    (∀ env system request kind corrId data raw stored, request.written = some (kind, data) →
      request.Sized → serde.fromStr raw = .ok (envelopeJson kind corrId data) →
      sendTimed env serde system raw stored =
        (step env system (.request request stored)).map fun after => (after, system.now,
          serde.toText (response kind corrId (answer env system request stored)))) ∧
    (∀ env system id version kind value corrId raw stored, IsI64 version →
      serde.fromStr raw = .ok (envelopeJson "task.fence" corrId (fenceJson id version kind value)) →
      sendTimed env serde system raw stored =
        (step env system (.request
          (.taskFence ⟨id, version, ⟨kind, ActionValue.ofJson serde value⟩⟩ corrId) stored)).map
          fun after => (after, system.now, serde.toText (response "task.fence" corrId
            (answer env system
              (.taskFence ⟨id, version, ⟨kind, ActionValue.ofJson serde value⟩⟩ corrId) stored)))) ∧
    (∀ create : PromiseCreateData, IsI64 create.timeoutAt →
      (ActionValue.ofJson serde create.json).create = .ok create) ∧
    (∀ settled : PromiseSettleData, (ActionValue.ofJson serde settled.json).settle = .ok settled) ∧
    ∀ kind corrId data, (Request.ofJson serde kind corrId data).Sized := by
  refine ⟨?_, ?_, ?_, ?_, Request.ofJson_sized serde⟩
  · intro env system request kind corrId data raw stored written sized read
    obtain ⟨named, object⟩ := Request.written_object written
    exact sendTimed_envelope read named object (Request.ofJson_written corrId written sized) stored
  · intro env system id version kind value corrId raw stored fits read
    refine sendTimed_envelope read (by decide) rfl ?_ stored
    simp [Request.ofJson, Request.parse, TaskFenceData.ofJson_fence id fits value]
  · intro create fits
    exact decodeAction_obj rfl (PromiseCreateData.ofJson_json create fits)
  · intro settled
    exact decodeAction_obj rfl (PromiseSettleData.ofJson_json settled)

/-- The envelope that creates the first promise. -/
def firstEnvelope : Json := envelopeJson "promise.create" "c1" PromiseCreateData.sample.json

theorem Serde.sample_fromStr (known : Json) : (sample known).fromStr (Json.text known) = .ok known :=
  if_pos rfl

/-- The text of the first promise is applied as its creation. -/
theorem requests_sent_first :
    sendTimed .sample (.sample firstEnvelope) .empty (Json.text firstEnvelope) true =
      (step .sample .empty (.request (.promiseCreate .sample) true)).map fun after =>
        (after, System.empty.now, Json.text (response "promise.create" "c1"
          (answer .sample .empty (.promiseCreate .sample) true))) :=
  (requests_sent (.sample firstEnvelope)).1 .sample .empty (.promiseCreate .sample) "promise.create"
    "c1" PromiseCreateData.sample.json (Json.text firstEnvelope) true rfl ⟨by decide, by decide⟩
    (Serde.sample_fromStr firstEnvelope)

end Resonate
