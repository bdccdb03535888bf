import Resonate.NetworkFacts

set_option autoImplicit false

/-! What is sent tells what happened: no two outcomes share a response, and no two messages a form. -/

namespace Json

section

variable {α β : Type} {encode : α → Json} {write : β → Json}

theorem str_injective : Function.Injective Json.str := fun _ _ same => Json.str.inj same

theorem int_injective : Function.Injective Json.int := fun _ _ same => Json.int.inj same

/-- An encoding that a decoder undoes keeps values apart. -/
theorem injective_of_undoes {decode : Decoder α} (undoes : ∀ value, decode (encode value) = some value) :
    Function.Injective encode := by
  intro first second same
  have read := undoes second
  rw [← same, undoes first] at read
  exact Option.some.inj read

theorem map_inj (injective : Function.Injective encode) {first second : List α} :
    first.map encode = second.map encode ↔ first = second :=
  (List.map_injective_iff.mpr injective).eq_iff

theorem member_inj (injective : Function.Injective encode) {name : String} {first second : Option α} :
    member name encode first = member name encode second ↔ first = second := by
  constructor
  · intro same
    cases first with
    | none =>
        cases second with
        | none => rfl
        | some value => cases same
    | some value =>
        cases second with
        | none => cases same
        | some other =>
            have encoded : encode value = encode other := by simpa using same
            rw [injective encoded]
  · rintro rfl
    rfl

/-- Two optional members with different names, one after the other. -/
theorem member_append_inj (left : Function.Injective encode) (right : Function.Injective write)
    {name next : String} (apart : name ≠ next) {first second : Option α} {third fourth : Option β} :
    member name encode first ++ member next write third =
      member name encode second ++ member next write fourth ↔ first = second ∧ third = fourth := by
  constructor
  · intro same
    cases first with
    | none =>
        cases second with
        | none => exact ⟨rfl, (member_inj right).mp same⟩
        | some value => cases third <;> simp [apart.symm] at same
    | some value =>
        cases second with
        | none => cases fourth <;> simp [apart] at same
        | some other =>
            obtain ⟨head, tail⟩ := List.cons.inj same
            exact ⟨congrArg some (left (congrArg Prod.snd head)), (member_inj right).mp tail⟩
  · rintro ⟨rfl, rfl⟩
    rfl

end

end Json

namespace Resonate

/-! ## Records -/

theorem TaskState.json_injective : Function.Injective TaskState.json :=
  Json.injective_of_undoes TaskState.ofJson_json

theorem PromiseRecord.json_injective : Function.Injective PromiseRecord.json := by
  intro first second same
  have read (record : PromiseRecord) :
      PromiseRecord.ofFields (fun name => record.members.lookup name) = some record :=
    PromiseRecord.ofFields_members record fun _ _ => rfl
  have members : first.members = second.members := Json.obj.inj same
  have again := read second
  rw [← members, read first] at again
  exact Option.some.inj again

theorem ScheduleRecord.json_injective : Function.Injective ScheduleRecord.json :=
  Json.injective_of_undoes ScheduleRecord.ofJson_json

theorem TaskRecord.json_injective : Function.Injective TaskRecord.json := by
  intro first second same
  obtain ⟨id, state, version, resumes, ttl, pid⟩ := first
  obtain ⟨id', state', version', resumes', ttl', pid'⟩ := second
  simp only [json, List.cons_append, List.nil_append, Json.obj.injEq, List.cons.injEq, Prod.mk.injEq,
    Json.str.injEq, true_and, TaskState.json_injective.eq_iff, Json.int.injEq, Nat.cast_inj, ne_eq,
    String.reduceEq, not_false_eq_true,
    Json.member_append_inj Json.int_injective Json.str_injective] at same
  obtain ⟨rfl, rfl, rfl, rfl, rfl, rfl⟩ := same
  rfl

/-! ## Replies -/

theorem InnerReply.json_injective : Function.Injective InnerReply.json := by
  intro first second same
  obtain ⟨kind, corrId, status, version, data⟩ := first
  obtain ⟨kind', corrId', status', version', data'⟩ := second
  simp only [json, Json.obj.injEq, List.cons.injEq, Prod.mk.injEq, Json.str.injEq, true_and,
    Json.int.injEq, Nat.cast_inj, and_true] at same
  obtain ⟨rfl, ⟨rfl, rfl, rfl⟩, read⟩ := same
  have carried : data = data' := by
    cases data with
    | inl record =>
        cases data' with
        | inl other =>
            have read : record.json = other.json := by simpa using read
            rw [PromiseRecord.json_injective read]
        | inr message => simp at read
    | inr message =>
        cases data' with
        | inl record => simp at read
        | inr other => rw [Json.str.inj read]
  rw [carried]

/-- The data of a reply keeps its kind, its records and its cursor apart. -/
theorem ReplyData.json_inj {first second : ReplyData} : first.json = second.json ↔ first = second := by
  cases first <;> cases second <;>
    simp [json, withCursor, PromiseRecord.json_injective.eq_iff, TaskRecord.json_injective.eq_iff,
      ScheduleRecord.json_injective.eq_iff, InnerReply.json_injective.eq_iff,
      Json.map_inj PromiseRecord.json_injective, Json.map_inj TaskRecord.json_injective,
      Json.map_inj ScheduleRecord.json_injective, Json.member_inj Json.str_injective]

theorem ReplyData.json_object (data : ReplyData) : data.json.isObject = true := by
  cases data <;> rfl

theorem Reply.json_inj {first second : Reply} :
    first.status = second.status ∧ first.json = second.json ↔ first = second := by
  constructor
  · rintro ⟨statuses, same⟩
    cases first with
    | ok status data =>
        cases second with
        | ok status' data' =>
            cases statuses
            rw [ReplyData.json_inj.mp same]
        | err status' message =>
            have object := ReplyData.json_object data
            rw [show data.json = .str message from same] at object
            cases object
    | err status message =>
        cases second with
        | ok status' data =>
            have object := ReplyData.json_object data
            rw [show data.json = .str message from same.symm] at object
            cases object
        | err status' other =>
            cases statuses
            rw [Json.str.inj same]
  · rintro rfl
    exact ⟨rfl, rfl⟩

/-! ## What texts and messages tell -/

/-- A response determines the kind and the correlation id of its request and the whole reply. -/
theorem response_inj {kind kind' corrId corrId' : String} {reply reply' : Reply} :
    response kind corrId reply = response kind' corrId' reply' ↔
      kind = kind' ∧ corrId = corrId' ∧ reply = reply' := by
  constructor
  · intro same
    simp only [response, Json.obj.injEq, List.cons.injEq, Prod.mk.injEq, Json.str.injEq, true_and,
      Json.int.injEq, Nat.cast_inj, and_true] at same
    obtain ⟨rfl, ⟨rfl, statuses⟩, data⟩ := same
    exact ⟨rfl, rfl, Reply.json_inj.mp ⟨statuses, data⟩⟩
  · rintro ⟨rfl, rfl, rfl⟩
    rfl

/-- A message determines the task and its version, or the promise. -/
theorem Message.json_inj {first second : Message} : first.json = second.json ↔ first = second := by
  cases first with
  | execute task version => cases second <;> simp [json]
  | unblock promise => cases second <;> simp [json, PromiseRecord.json_injective.eq_iff]

/-- A reply a store can give: in form, or that its storage failed. -/
def Reply.Given (reply : Reply) : Prop := reply.Formed ∨ reply = .err 500 "storage error"

/-- The data of a given reply is an object where its status is a success, and else a text. -/
theorem Reply.Given.object_iff {reply : Reply} (given : reply.Given) :
    reply.json.isObject = true ↔ reply.status = 200 ∨ reply.status = 300 := by
  cases reply with
  | ok status data =>
      have known : status = 200 ∨ status = 300 := given.resolve_right nofun
      exact ⟨fun _ => known, fun _ => ReplyData.json_object data⟩
  | err status message =>
      constructor
      · intro object
        cases object
      · intro success
        change status = 200 ∨ status = 300 at success
        rcases given with formed | failed
        · rw [formed_err] at formed
          rcases success with rfl | rfl <;> simp at formed
        · cases failed
          simp at success

section

variable {env : Env} {serde : Serde}

/-- The text is that of a response with a reply a store can give. -/
def Exchange.Told (serde : Serde) (exchange : Exchange) : Prop :=
  ∃ kind corrId reply, exchange.text = serde.toText (response kind corrId reply) ∧ reply.Given

theorem Served.told {before after : System} {raw : String} {exchange : Exchange}
    (served : Served env serde before after raw exchange) : exchange.Told serde := by
  cases served with
  | malformed refused message parsed told same => exact ⟨_, _, _, rfl, .inl (by simp)⟩
  | applied request stored reply parsed wellFormed named taken replied formed =>
      exact ⟨_, _, _, rfl, formed.imp_right And.right⟩

theorem NetworkHistory.told {past : List (Machine.Entry Network NetworkEvent)} {network : Network}
    (history : NetworkHistory env serde past network) :
    ∀ exchange ∈ network.exchanges, exchange.Told serde := by
  induction history with
  | start => exact nofun
  | @extend older before after event previous taken ih =>
      have step := networkStep_cases (NetworkHistory.reachable previous) taken
      intro exchange member
      cases step with
      | sent raw stored after latest served timed =>
          rcases List.mem_append.mp member with old | new
          · exact ih exchange old
          · cases List.mem_singleton.mp new
            exact served.told
      | stored event after own taken => exact ih exchange member

/-- Every text a network returns is that of a response, whose data is an object where its status is a
success and else a text. Two responses with one form are of one kind, under one correlation id and with
one reply: its status, and its message or every record, page and cursor. Two messages with one form name
one task and version or carry one promise. -/
theorem responses_tell {past : List (Machine.Entry Network NetworkEvent)} {network : Network}
    (history : NetworkHistory env serde past network) :
    (∀ exchange ∈ network.exchanges, ∃ kind corrId reply,
      exchange.text = serde.toText (response kind corrId reply) ∧
      (((response kind corrId reply).get "data").isObject = true ↔
        reply.status = 200 ∨ reply.status = 300) ∧
      ∀ kind' corrId' reply', response kind' corrId' reply' = response kind corrId reply →
        kind' = kind ∧ corrId' = corrId ∧ reply' = reply) ∧
    ∀ message message' : Message, message.json = message'.json ↔ message = message' := by
  refine ⟨fun exchange member => ?_, fun message message' => Message.json_inj⟩
  obtain ⟨kind, corrId, reply, text, given⟩ := NetworkHistory.told history exchange member
  refine ⟨kind, corrId, reply, text, given.object_iff, ?_⟩
  exact fun kind' corrId' reply' same => response_inj.mp same

end

/-- The two texts of the sample run are told apart. -/
theorem responses_tell_sent :
    sentTrace.2.exchanges.length = 2 ∧
    ∀ exchange ∈ sentTrace.2.exchanges, ∃ kind corrId reply,
      exchange.text = (Serde.sample RequestEnvelope.sample).toText (response kind corrId reply) ∧
      (((response kind corrId reply).get "data").isObject = true ↔
        reply.status = 200 ∨ reply.status = 300) ∧
      ∀ kind' corrId' reply', response kind' corrId' reply' = response kind corrId reply →
        kind' = kind ∧ corrId' = corrId ∧ reply' = reply :=
  ⟨by decide +kernel, (responses_tell sent_history).1⟩

end Resonate
