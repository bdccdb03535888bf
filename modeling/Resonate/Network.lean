import Resonate.Requests
import Resonate.Store

set_option autoImplicit false

/-! The network: texts of request envelopes are parsed, applied to the store and answered by response
envelopes. -/

namespace Resonate

open Json (required defaulted)
open Kernel (handle)

structure RequestHead where
  corrId : String := ""
  version : Option String := none

/-- A parsed request envelope. -/
structure RequestEnvelope where
  kind : String
  head : RequestHead
  data : Json

def RequestHead.ofJson (value : Json) : Option RequestHead := do
  let fields ← Json.fields ["corrId", "version"] value
  let corrId ← defaulted fields "corrId" Json.asStr ""
  let version ← defaulted fields "version" (Json.nullable Json.asStr) none
  some { corrId, version }

def RequestEnvelope.ofJson (value : Json) : Option RequestEnvelope := do
  let fields ← Json.fields ["kind", "head", "data"] value
  let kind ← required fields "kind" Json.asStr
  let head ← defaulted fields "head" RequestHead.ofJson {}
  let data ← defaulted fields "data" some .null
  some { kind, head, data }

/-- A refused envelope: its kind and its correlation id, where present, and the reply. -/
structure Malformed where
  kind : String
  corrId : String
  reply : Reply

/-- The checks of a parsed envelope, in order: the message of the first that fails. -/
def RequestEnvelope.check (request : RequestEnvelope) : Option String :=
  if request.kind = "" then some "Request kind is required"
  else
    match request.head.version.filter (· ≠ protocolVersion) with
    | some version => some (String.append "Unsupported protocol version: " version)
    | none => if request.data.isObject then none else some "Request data must be an object"

/-- Parse a request envelope. -/
def parseRequest (serde : Serde) (raw : String) : Except Malformed RequestEnvelope :=
  match serde.fromStr raw with
  | .error message => .error ⟨"", "", .err 400 (String.append "Invalid request: " message)⟩
  | .ok value =>
      let kind := (value.get "kind").asStr.getD ""
      let corrId := ((value.get "head").get "corrId").asStr.getD ""
      match RequestEnvelope.ofJson value with
      | none =>
          .error ⟨kind, corrId,
            .err 400 (String.append "Invalid request: " (serde.mismatch "Request" value))⟩
      | some request =>
          match request.check with
          | some message => .error ⟨kind, corrId, .err 400 message⟩
          | none => .ok request

/-! ## Responses -/

def InnerReply.json (inner : InnerReply) : Json :=
  .obj [("kind", .str inner.kind),
    ("head", .obj [("corrId", .str inner.corrId), ("status", .int inner.status),
      ("version", .str inner.version)]),
    ("data", inner.data.elim (fun record => .obj [("promise", record.json)]) .str)]

/-- A page of records, with the cursor of the next page when there is one. -/
def withCursor (name : String) (page : List Json) (cursor : Option String) : Json :=
  .obj ((name, .arr page) :: Json.member "cursor" .str cursor)

def ReplyData.json : ReplyData → Json
  | .empty => .obj []
  | .promise record => .obj [("promise", record.json)]
  | .promises page cursor => withCursor "promises" (page.map PromiseRecord.json) cursor
  | .task record => .obj [("task", record.json)]
  | .tasks page cursor => withCursor "tasks" (page.map TaskRecord.json) cursor
  | .taskView record own siblings =>
      .obj [("task", record.json), ("promise", own.json),
        ("preload", .arr (siblings.map PromiseRecord.json))]
  | .preload siblings => .obj [("preload", .arr (siblings.map PromiseRecord.json))]
  | .fenced action siblings =>
      .obj [("action", action.json), ("preload", .arr (siblings.map PromiseRecord.json))]
  | .schedule record => .obj [("schedule", record.json)]
  | .schedules page cursor => withCursor "schedules" (page.map ScheduleRecord.json) cursor

/-- The reply as the data of an envelope. -/
def Reply.json : Reply → Json
  | .ok _ data => data.json
  | .err _ message => .str message

/-- Build a response envelope. -/
def response (kind corrId : String) (reply : Reply) : Json :=
  .obj [("kind", .str kind),
    ("head", .obj [("corrId", .str corrId), ("status", .int reply.status),
      ("version", .str protocolVersion)]),
    ("data", reply.json)]

/-! ## Sending -/

/-- The request an accepted envelope asks for. -/
def RequestEnvelope.request (serde : Serde) (request : RequestEnvelope) : Request :=
  Request.ofJson serde request.kind request.head.corrId request.data

/-- Apply one text and return the time the store applied it at with the text of the response. `none`
while another request has the lock. -/
def sendTimed (env : Env) (serde : Serde) (system : System) (raw : String) (stored : Bool) :
    Option (System × Int × String) :=
  match parseRequest serde raw with
  | .error refused =>
      some (system, system.now, serde.toText (response refused.kind refused.corrId refused.reply))
  | .ok request =>
      (step env system (.request (request.request serde) stored)).map fun after =>
        (after, system.now, serde.toText (response request.kind request.head.corrId
          (answer env system (request.request serde) stored)))

/-- A text that was answered, with the time and the text of the response. -/
structure Exchange where
  raw : String
  time : Int
  text : String

/-- The store behind its networks, and the texts answered so far. -/
structure Network where
  system : System
  exchanges : List Exchange

/-- A text sent to a network, or a step of the store that no request takes. -/
inductive NetworkEvent
  | send (raw : String) (stored : Bool)
  | store (event : Event)

def Event.isRequest : Event → Bool
  | .request _ _ => true
  | _ => false

def Network.empty : Network := ⟨.empty, []⟩

def networkStep (env : Env) (serde : Serde) (network : Network) : NetworkEvent → Option Network
  | .send raw stored =>
      (sendTimed env serde network.system raw stored).map fun (after, time, text) =>
        ⟨after, network.exchanges ++ [⟨raw, time, text⟩]⟩
  | .store event =>
      if event.isRequest then none
      else (step env network.system event).map fun after => { network with system := after }

abbrev NetworkHistory (env : Env) (serde : Serde) :
    List (Machine.Entry Network NetworkEvent) → Network → Prop :=
  Machine.History (networkStep env serde) .empty

/-! ## A sample of texts -/

/-- The envelope of a promise created with a target. -/
def RequestEnvelope.sample : Json :=
  .obj [("kind", .str "promise.create"),
    ("head", .obj [("corrId", .str "c1"), ("version", .str protocolVersion)]),
    ("data", .obj [("id", .str "root"), ("timeoutAt", .int 1000),
      ("tags", .obj [(tagTarget, .str "poll://any@g")])])]

/-- Reads the text of one value, and no other. -/
def Serde.sample (known : Json) : Serde where
  fromStr text :=
    if text = Json.text known then .ok known else .error "expected value at line 1 column 1"
  toText := Json.text
  mismatch _ _ := "missing field"

end Resonate
