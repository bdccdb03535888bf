import Resonate.Network
import Resonate.Statuses
import Resonate.Timing

set_option autoImplicit false

/-! Every text is answered in form, and the store behind a network runs as the requests say. -/

namespace Resonate

open Kernel

section

variable {env : Env} {serde : Serde} {system : System}

/-! ## The names of an envelope -/

/-- The kind and the correlation id of an envelope, each empty where there is none. -/
def envelopeNames (serde : Serde) (raw : String) : String × String :=
  match serde.fromStr raw with
  | .error _ => ("", "")
  | .ok value =>
      ((value.get "kind").asStr.getD "", ((value.get "head").get "corrId").asStr.getD "")

/-- The envelope or its head is an array, whose fields are read by their order. -/
def Positional (serde : Serde) (raw : String) : Prop :=
  ∃ value, serde.fromStr raw = .ok value ∧
    ((∃ items, value = .arr items) ∨ ∃ items, value.get "head" = .arr items)

theorem RequestHead.ofJson_corrId {value : Json} {head : RequestHead}
    (decoded : ofJson value = some head) (named : ∀ items, value ≠ .arr items) :
    head.corrId = (value.get "corrId").asStr.getD "" := by
  obtain ⟨fields, shaped, decoded⟩ := Option.bind_eq_some_iff.mp decoded
  rcases Json.fields_shape shaped with ⟨members, rfl⟩ | ⟨items, rfl⟩
  · cases shaped
    obtain ⟨corrId, read, decoded⟩ := Option.bind_eq_some_iff.mp decoded
    obtain ⟨version, _, decoded⟩ := Option.bind_eq_some_iff.mp decoded
    cases decoded
    exact (Json.get_defaulted read).symm
  · exact absurd rfl (named items)

/-- The fields of an envelope in object form are those it names. -/
theorem RequestEnvelope.ofJson_names {members : List (String × Json)} {request : RequestEnvelope}
    (decoded : ofJson (.obj members) = some request)
    (named : ∀ items, (Json.obj members).get "head" ≠ .arr items) :
    request.kind = ((Json.obj members).get "kind").asStr.getD "" ∧
      request.head.corrId = (((Json.obj members).get "head").get "corrId").asStr.getD "" := by
  obtain ⟨kind, read, decoded⟩ := Option.bind_eq_some_iff.mp decoded
  obtain ⟨head, headed, decoded⟩ := Option.bind_eq_some_iff.mp decoded
  obtain ⟨data, _, decoded⟩ := Option.bind_eq_some_iff.mp decoded
  cases decoded
  constructor
  · rw [Json.get_required read]
    rfl
  · change Json.defaulted (fun name => members.lookup name) "head" RequestHead.ofJson {} = _ at headed
    unfold Json.defaulted at headed
    dsimp only at headed
    rw [Json.get_obj] at named ⊢
    cases found : members.lookup "head" with
    | none =>
        rw [found] at headed
        cases headed
        rfl
    | some member =>
        rw [found] at headed named
        exact RequestHead.ofJson_corrId headed named

theorem parseRequest_error {raw : String} {refused : Malformed}
    (parsed : parseRequest serde raw = .error refused) :
    (refused.kind, refused.corrId) = envelopeNames serde raw ∧
      ∃ message, refused.reply = .err 400 message := by
  unfold parseRequest at parsed
  unfold envelopeNames
  cases read : serde.fromStr raw with
  | error message =>
      rw [read] at parsed
      cases parsed
      exact ⟨rfl, _, rfl⟩
  | ok value =>
      rw [read] at parsed
      dsimp only at parsed
      split at parsed
      · cases parsed
        exact ⟨rfl, _, rfl⟩
      · split at parsed
        · cases parsed
          exact ⟨rfl, _, rfl⟩
        · cases parsed

theorem parseRequest_ok {raw : String} {request : RequestEnvelope}
    (parsed : parseRequest serde raw = .ok request) :
    request.check = none ∧
      (Positional serde raw ∨ (request.kind, request.head.corrId) = envelopeNames serde raw) := by
  unfold parseRequest at parsed
  unfold Positional envelopeNames
  cases read : serde.fromStr raw with
  | error message =>
      rw [read] at parsed
      cases parsed
  | ok value =>
      rw [read] at parsed
      dsimp only at parsed
      split at parsed
      · cases parsed
      · rename_i decoded
        split at parsed
        · cases parsed
        · rename_i checked
          cases parsed
          refine ⟨checked, ?_⟩
          obtain ⟨fields, shaped, _⟩ := Option.bind_eq_some_iff.mp decoded
          rcases Json.fields_shape shaped with ⟨members, rfl⟩ | ⟨items, rfl⟩
          · by_cases positional : ∃ items, (Json.obj members).get "head" = .arr items
            · exact .inl ⟨_, rfl, .inr positional⟩
            · obtain ⟨kind, corrId⟩ :=
                RequestEnvelope.ofJson_names decoded (not_exists.mp positional)
              exact .inr (Prod.ext kind corrId)
          · exact .inl ⟨_, rfl, .inl ⟨items, rfl⟩⟩

/-! ## Runs of texts -/

/-- What the checks of an envelope leave. -/
structure RequestEnvelope.WellFormed (request : RequestEnvelope) : Prop where
  kind : request.kind ≠ ""
  version : ∀ version, request.head.version = some version → version = protocolVersion
  data : request.data.isObject = true

theorem RequestEnvelope.wellFormed_of_check {request : RequestEnvelope} (checked : request.check = none) :
    request.WellFormed := by
  unfold check at checked
  split at checked
  · cases checked
  · rename_i kind
    split at checked
    · cases checked
    · rename_i current
      split at checked
      · rename_i data
        refine ⟨kind, fun version given => ?_, data⟩
        rw [given, Option.filter_some] at current
        by_contra other
        simp [other] at current
      · cases checked

/-- What one text does to the store, and how it is answered. -/
inductive Served (env : Env) (serde : Serde) (before after : System) (raw : String) : Exchange → Prop
  | malformed (refused : Malformed) (message : String)
      (parsed : parseRequest serde raw = .error refused) (told : refused.reply = .err 400 message)
      (same : after = before) :
      Served env serde before after raw ⟨raw, before.now, serde.toText
        (response (envelopeNames serde raw).1 (envelopeNames serde raw).2 (.err 400 message))⟩
  | applied (request : RequestEnvelope) (stored : Bool) (reply : Reply)
      (parsed : parseRequest serde raw = .ok request) (wellFormed : request.WellFormed)
      (named : Positional serde raw ∨ (request.kind, request.head.corrId) = envelopeNames serde raw)
      (taken : step env before (.request (request.request serde) stored) = some after)
      (replied : reply = answer env before (request.request serde) stored)
      (formed : reply.Formed ∨ stored = false ∧ reply = .err 500 "storage error") :
      Served env serde before after raw ⟨raw, before.now, serde.toText
        (response request.kind request.head.corrId reply)⟩

theorem sendTimed_served (reached : Reachable env system) {after : System} {raw text : String}
    {time : Int} {stored : Bool}
    (sent : sendTimed env serde system raw stored = some (after, time, text)) :
    Served env serde system after raw ⟨raw, time, text⟩ := by
  unfold sendTimed at sent
  cases parsed : parseRequest serde raw with
  | error refused =>
      obtain ⟨names, message, reply⟩ := parseRequest_error parsed
      rw [parsed] at sent
      cases sent
      have kind : refused.kind = (envelopeNames serde raw).1 := congrArg Prod.fst names
      have corrId : refused.corrId = (envelopeNames serde raw).2 := congrArg Prod.snd names
      rw [reply, kind, corrId]
      exact .malformed refused message parsed reply rfl
  | ok request =>
      obtain ⟨checked, named⟩ := parseRequest_ok parsed
      rw [parsed] at sent
      obtain ⟨next, taken, same⟩ := Option.map_eq_some_iff.mp sent
      cases same
      exact .applied request stored _ parsed (RequestEnvelope.wellFormed_of_check checked) named taken
        rfl (answer_formed reached _ stored)

/-- The clock does not go back, and a job is made to wait once its time has come. -/
def NetworkEvent.isInTime (before : Network) : NetworkEvent → Bool
  | .send _ _ => true
  | .store event => event.isInTime before.system

/-- A step of a network: a text served, or a step of the store alone. -/
inductive NetworkStep (env : Env) (serde : Serde) (before : Network) : NetworkEvent → Network → Prop
  | sent (raw : String) (stored : Bool) (after : System) (exchange : Exchange)
      (served : Served env serde before.system after raw exchange)
      (timed : exchange.time = before.system.now) :
      NetworkStep env serde before (.send raw stored) ⟨after, before.exchanges ++ [exchange]⟩
  | stored (event : Event) (after : System) (own : event.isRequest = false)
      (taken : step env before.system event = some after) :
      NetworkStep env serde before (.store event) ⟨after, before.exchanges⟩

theorem networkStep_cases {before after : Network} {event : NetworkEvent}
    (reached : Reachable env before.system)
    (taken : networkStep env serde before event = some after) :
    NetworkStep env serde before event after := by
  cases event with
  | send raw stored =>
      obtain ⟨⟨next, time, text⟩, sent, rfl⟩ := Option.map_eq_some_iff.mp taken
      have timed : time = before.system.now := by
        unfold sendTimed at sent
        split at sent
        · cases sent
          rfl
        · obtain ⟨_, _, same⟩ := Option.map_eq_some_iff.mp sent
          cases same
          rfl
      exact .sent raw stored next _ (sendTimed_served reached sent) timed
  | store event =>
      change (if event.isRequest then none
        else (step env before.system event).map fun next => { before with system := next }) =
          some after at taken
      split at taken
      · cases taken
      · rename_i own
        obtain ⟨next, stepped, rfl⟩ := Option.map_eq_some_iff.mp taken
        exact .stored event next (Bool.eq_false_iff.mpr own) stepped

theorem Served.system_step {before after : System} {raw : String} {exchange : Exchange}
    (served : Served env serde before after raw exchange) :
    after = before ∨ ∃ request stored, step env before (.request request stored) = some after := by
  cases served with
  | malformed refused message parsed told same => exact .inl same
  | applied request stored reply parsed wellFormed named taken replied formed =>
      exact .inr ⟨_, _, taken⟩

theorem NetworkStep.reachable {before after : Network} {event : NetworkEvent}
    (step : NetworkStep env serde before event after) (reached : Reachable env before.system) :
    Reachable env after.system := by
  cases step with
  | sent raw stored after exchange served timed =>
      rcases served.system_step with same | ⟨request, stored, taken⟩
      · exact same ▸ reached
      · exact reached.extend taken
  | stored event after own taken => exact reached.extend taken

/-- Behind its networks the store runs as it does by requests. -/
theorem NetworkHistory.reachable {past : List (Machine.Entry Network NetworkEvent)}
    {network : Network} (history : NetworkHistory env serde past network) :
    Reachable env network.system := by
  induction history with
  | start => exact Machine.reachable_start
  | extend previous taken ih => exact (networkStep_cases ih taken).reachable ih

/-- In a run whose clock does not go back, neither does that of a network. -/
theorem NetworkStep.now_le {before after : Network} {event : NetworkEvent}
    (step : NetworkStep env serde before event after) (reached : Reachable env before.system)
    (inTime : event.isInTime before = true) : before.system.now ≤ after.system.now := by
  have keyed : (before.system.txn env).Keyed := Reachable.keyed reached
  cases step with
  | sent raw stored after exchange served timed =>
      rcases served.system_step with same | ⟨request, stored, taken⟩
      · exact le_of_eq (congrArg System.now same.symm)
      · exact Resonate.now_le ((step_cases taken).clock_le keyed rfl)
  | stored event after own taken => exact Resonate.now_le ((step_cases taken).clock_le keyed inTime)

/-- Every answer was given by now. -/
def Network.Punctual (network : Network) : Prop :=
  ∀ exchange ∈ network.exchanges, exchange.time ≤ network.system.now

/-- What was answered since is dated since. -/
structure Follows (earlier later : Network) : Prop where
  now : earlier.system.now ≤ later.system.now
  exchanges : ∃ newer, later.exchanges = earlier.exchanges ++ newer ∧
    ∀ exchange ∈ newer, earlier.system.now ≤ exchange.time

theorem Follows.refl (network : Network) : Follows network network :=
  ⟨le_refl _, [], (List.append_nil _).symm, by simp⟩

theorem Follows.step {earlier before after : Network} {event : NetworkEvent}
    (follows : Follows earlier before) (step : NetworkStep env serde before event after)
    (forward : before.system.now ≤ after.system.now) : Follows earlier after := by
  obtain ⟨newer, same, dated⟩ := follows.exchanges
  refine ⟨follows.now.trans forward, ?_⟩
  cases step with
  | sent raw stored after exchange served timed =>
      refine ⟨newer ++ [exchange], ?_, ?_⟩
      · rw [same, List.append_assoc]
      · intro other member
        rcases List.mem_append.mp member with old | new
        · exact dated other old
        · rw [List.mem_singleton.mp new, timed]
          exact follows.now
  | stored event after own taken => exact ⟨newer, same, dated⟩

theorem Network.Punctual.step {before after : Network} {event : NetworkEvent}
    (punctual : before.Punctual) (step : NetworkStep env serde before event after)
    (forward : before.system.now ≤ after.system.now) : after.Punctual := by
  intro exchange member
  cases step with
  | sent raw stored after sent served timed =>
      rcases List.mem_append.mp member with old | new
      · exact (punctual exchange old).trans forward
      · rw [List.mem_singleton.mp new, timed]
        exact forward
  | stored event after own taken => exact (punctual exchange member).trans forward

theorem NetworkHistory.dated {past : List (Machine.Entry Network NetworkEvent)} {network : Network}
    (history : NetworkHistory env serde past network)
    (inTime : Machine.Meets (fun before event => event.isInTime before = true) past) :
    network.Punctual ∧ ∀ entry ∈ past, entry.before.Punctual ∧ Follows entry.before network := by
  induction history with
  | start =>
      constructor
      · intro exchange member
        cases member
      · intro entry member
        cases member
  | @extend older before after event previous taken ih =>
      have reached : Reachable env before.system := NetworkHistory.reachable previous
      have step := networkStep_cases reached taken
      have forward := step.now_le reached inTime.head
      obtain ⟨punctual, since⟩ := ih inTime.tail
      refine ⟨punctual.step step forward, fun entry member => ?_⟩
      rcases List.mem_cons.mp member with rfl | old
      · exact ⟨punctual, (Follows.refl _).step step forward⟩
      · obtain ⟨then_, follows⟩ := since entry old
        exact ⟨then_, follows.step step forward⟩

/-- Behind its networks the store is in a state that requests reach. Every text is answered once, in
form and under the names of its envelope: a malformed one changes nothing, any other is the step of its
request. While the clock does not go back, what was answered before a step is dated before it, and what
is answered later is dated after it. -/
theorem texts_answered {past : List (Machine.Entry Network NetworkEvent)} {network : Network}
    (history : NetworkHistory env serde past network) :
    Reachable env network.system ∧
    (∀ entry ∈ past, ∀ raw stored, entry.label = .send raw stored → ∃ exchange,
      entry.after.exchanges = entry.before.exchanges ++ [exchange] ∧
        Served env serde entry.before.system entry.after.system raw exchange) ∧
    (∀ entry ∈ past, ∀ event, entry.label = .store event →
      entry.after.exchanges = entry.before.exchanges) ∧
    (Machine.Meets (fun before event => event.isInTime before = true) past →
      ∀ entry ∈ past,
        (∀ exchange ∈ entry.before.exchanges, exchange.time ≤ entry.before.system.now) ∧
        ∃ newer, network.exchanges = entry.before.exchanges ++ newer ∧
          ∀ exchange ∈ newer, entry.before.system.now ≤ exchange.time) := by
  have steps (entry : Machine.Entry Network NetworkEvent) (member : entry ∈ past) :
      NetworkStep env serde entry.before entry.label entry.after := by
    obtain ⟨older, earlier⟩ := history.before_reachable entry member
    exact networkStep_cases (NetworkHistory.reachable earlier) (history.taken entry member)
  refine ⟨history.reachable, ?_, ?_, ?_⟩
  · intro entry member raw stored label
    have step := steps entry member
    rw [label] at step
    generalize last : entry.after = after at step ⊢
    cases step with
    | sent raw stored after exchange served timed => exact ⟨exchange, rfl, served⟩
  · intro entry member event label
    have step := steps entry member
    rw [label] at step
    generalize last : entry.after = after at step ⊢
    cases step with
    | stored event after own taken => rfl
  · intro inTime entry member
    obtain ⟨punctual, follows⟩ := (history.dated inTime).2 entry member
    exact ⟨punctual, follows.exchanges⟩

end

/-- A text that is no envelope, and one that creates a promise a while later. -/
def sentRun : List NetworkEvent :=
  [.send "root" true, .store (.clock 5), .send (Json.text RequestEnvelope.sample) true]

theorem sentRun_ends :
    (Machine.trace (networkStep .sample (.sample RequestEnvelope.sample)) [] .empty sentRun).isSome = true := by
  decide +kernel

def sentTrace : List (Machine.Entry Network NetworkEvent) × Network :=
  (Machine.trace (networkStep .sample (.sample RequestEnvelope.sample)) [] .empty sentRun).get sentRun_ends

theorem sent_history : NetworkHistory .sample (.sample RequestEnvelope.sample) sentTrace.1 sentTrace.2 :=
  Machine.history_of_trace sentRun_ends

/-- The text that is no envelope changes nothing and is answered 400 under no name. The other is
applied, and answered in form under its kind and correlation id. -/
theorem texts_answered_sent :
    (∃ entry ∈ sentTrace.1, entry.label = .send "root" true ∧
      entry.after.system = entry.before.system ∧
      ∃ message, entry.after.exchanges = entry.before.exchanges ++
        [⟨"root", entry.before.system.now, Json.text (response "" "" (.err 400 message))⟩]) ∧
    (∃ entry ∈ sentTrace.1, entry.label = .send (Json.text RequestEnvelope.sample) true ∧
      ∃ reply, (reply.Formed ∨ reply = .err 500 "storage error") ∧
        entry.after.exchanges = entry.before.exchanges ++
          [⟨Json.text RequestEnvelope.sample, entry.before.system.now,
            Json.text (response "promise.create" "c1" reply)⟩]) ∧
    (sentTrace.2.system.promise "root").isSome = true ∧
      sentTrace.2.exchanges.map (·.time) = [0, 5] := by
  obtain ⟨_, answered, _, _⟩ := texts_answered sent_history
  have labels (traced : List (Machine.Entry Network NetworkEvent) × Network)
      (ran : Machine.trace (networkStep .sample (.sample RequestEnvelope.sample)) [] .empty sentRun =
        some traced) : traced.1.map (·.label) = sentRun.reverse :=
    (Machine.trace_labels ran).trans (List.append_nil _)
  have labelled (label : NetworkEvent) (member : label ∈ sentRun) :
      ∃ entry ∈ sentTrace.1, entry.label = label := by
    refine List.mem_map.mp ?_
    rw [labels sentTrace (Option.some_get sentRun_ends).symm]
    exact List.mem_reverse.mpr member
  have refused : (parseRequest (.sample RequestEnvelope.sample) "root").toOption.isSome = false := by
    decide +kernel
  have accepted : (parseRequest (.sample RequestEnvelope.sample)
      (Json.text RequestEnvelope.sample)).toOption.map
        (fun request => (request.kind, request.head.corrId)) = some ("promise.create", "c1") := by
    decide +kernel
  obtain ⟨first, firstMember, firstLabel⟩ := labelled (.send "root" true) (by simp [sentRun])
  obtain ⟨last, lastMember, lastLabel⟩ :=
    labelled (.send (Json.text RequestEnvelope.sample) true) (by simp [sentRun])
  refine ⟨⟨first, firstMember, firstLabel, ?_⟩, ⟨last, lastMember, lastLabel, ?_⟩,
    by decide +kernel, by decide +kernel⟩
  · obtain ⟨exchange, listed, served⟩ := answered first firstMember _ _ firstLabel
    rw [listed]
    cases served with
    | malformed unread message parsed told same =>
        refine ⟨same, message, ?_⟩
        rw [show envelopeNames (.sample RequestEnvelope.sample) "root" = ("", "") by decide +kernel]
        rfl
    | applied request stored reply parsed wellFormed named taken replied formed =>
        rw [parsed] at refused
        cases refused
  · obtain ⟨exchange, listed, served⟩ := answered last lastMember _ _ lastLabel
    rw [listed]
    cases served with
    | malformed unread message parsed told same =>
        rw [parsed] at accepted
        cases accepted
    | applied request stored reply parsed wellFormed named taken replied formed =>
        rw [parsed] at accepted
        obtain ⟨kind, corrId⟩ := Prod.mk.inj (Option.some.inj accepted)
        rw [kind, corrId]
        exact ⟨reply, formed.imp_right And.right, rfl⟩

end Resonate
