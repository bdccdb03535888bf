import Resonate.Machine
import Resonate.Handlers

set_option autoImplicit false

/-! The store as a machine: requests, deliveries and timers take the lock one at a time, and
the queue's own steps come between any two of them and between the actions that follow a
commit. -/

namespace Resonate

open LeaseQueue (Queue Job)
open Kernel (Response Exit handle deliver fire)

/-- `after` is the work of the commit that still has the lock, and `delivering` the message
its delivery returns. `claims` are taken by delivery loops and the timer worker and not yet
processed, `fired` those of timers whose firing returned. `outbox` holds the messages returned
to delivery loops, `sent` those passed to the callbacks, and `log` every job a commit
enqueued. -/
structure System where
  kv : Kv
  queue : Queue Payload
  held : Held
  after : List After
  delivering : Option (Nat × Message)
  claims : List Claim
  fired : List Claim
  outbox : List (Nat × Message)
  sent : List (Nat × Message)
  log : List (Nat × Job Payload)

/-- `stored` is whether the queue stores the commit; otherwise nothing is committed. -/
inductive Event
  | request (request : Request) (stored : Bool)
  | deliver (claim : Claim) (stored : Bool)
  | fire (claim : Claim) (stored : Bool)
  | finish
  | pass (entry : Nat × Message)
  | ackTimer (claim : Claim)
  | nackTimer (claim : Claim)
  | take (job lease : Nat)
  | promote (job : Nat)
  | reap (job : Nat)
  | clock (time : Nat)
  | reopen

namespace System

def empty : System where
  kv := .empty
  queue := .empty
  held := ∅
  after := []
  delivering := none
  claims := []
  fired := []
  outbox := []
  sent := []
  log := []

/-- The current time in epoch milliseconds. -/
def now (system : System) : Int := min (system.queue.clock : Int) Text.i64Max

/-- A request's transaction over the held claims of the lock. -/
def txn (env : Env) (system : System) : Txn where
  kv := system.kv
  queue := system.queue
  held := system.held
  preloadLimit := env.preloadLimit
  now := system.now
  writes := .empty
  enqueues := []
  after := []

/-- Take over what a transaction leaves behind. -/
def absorb (system : System) (commit : Commit) : System :=
  { system with
    kv := commit.kv
    queue := commit.queue
    held := commit.held
    after := commit.after
    log := system.log ++ commit.jobs }

end System

/-- What a response's exit leaves behind, with the reply that is sent. -/
def conclude (response : Response) (stored : Bool) : Commit × Reply :=
  match response.exit, stored with
  | .drop, _ | .panic, _ => (response.txn.discard, response.reply)
  | _, false => (response.txn.discard, .err 500 "storage error")
  | .commit, true => (response.txn.commit, response.reply)
  | .commitAck taskId, true =>
      match response.txn.commitAck taskId with
      | (commit, true) => (commit, response.reply)
      | (commit, false) => (commit, .err 409 "Task version mismatch or invalid state")

/-- The reply to a request. -/
def answer (env : Env) (system : System) (request : Request) (stored : Bool) : Reply :=
  (conclude (handle env (system.txn env) request) stored).2

def stepRequest (env : Env) (system : System) (request : Request) (stored : Bool) :
    Option System :=
  if system.after = [] then
    some (system.absorb (conclude (handle env (system.txn env) request) stored).1)
  else none

/-- A delivery whose payload does not decode or whose commit fails drops its claim. -/
def stepDeliver (env : Env) (system : System) (claim : Claim) (stored : Bool) :
    Option System :=
  if system.after = [] ∧ claim ∈ system.claims ∧ claim.queue ≠ Keys.timerQueue then
    let system := { system with claims := system.claims.erase claim }
    match deliver env (system.txn env) claim, stored with
    | none, _ => some system
    | some (txn, _), false => some (system.absorb txn.discard)
    | some (txn, message), true =>
        some { system.absorb txn.commit with delivering := message.map fun m => (claim.id, m) }
  else none

def stepFire (env : Env) (system : System) (claim : Claim) (stored : Bool) : Option System :=
  if system.after = [] ∧ claim ∈ system.claims ∧ claim.queue = Keys.timerQueue then
    match claim.payload with
    | .timer timer =>
        match fire env (system.txn env) timer, stored with
        | (txn, .commit), false => some (system.absorb txn.discard)
        | (txn, .commit), true =>
            some { system.absorb txn.commit with
              claims := system.claims.erase claim
              fired := claim :: system.fired }
        | (txn, _), _ =>
            some { system.absorb txn.discard with
              claims := system.claims.erase claim
              fired := claim :: system.fired }
    | _ => none
  else none

/-- The next action after a commit. The lock and the message are handed on with the last. -/
def stepFinish (system : System) : Option System :=
  match system.after with
  | [] => none
  | action :: rest =>
      let (queue, held) := action.perform system.queue system.held
      let system := { system with queue, held, after := rest }
      if rest = [] then
        some { system with
          delivering := none
          outbox := system.outbox ++ system.delivering.toList }
      else some system

/-- Pass a message to the subscribed callbacks. -/
def stepPass (system : System) (entry : Nat × Message) : Option System :=
  if entry ∈ system.outbox then
    some { system with
      outbox := system.outbox.erase entry
      sent := system.sent ++ [entry] }
  else none

/-- The timer worker removes a job whose firing returned. -/
def stepAckTimer (system : System) (claim : Claim) : Option System :=
  if claim ∈ system.fired then
    some { system with
      fired := system.fired.erase claim
      queue := (system.queue.ack claim).getD system.queue }
  else none

/-- The timer worker fails a job whose firing did not return. -/
def stepNackTimer (system : System) (claim : Claim) : Option System :=
  if claim ∈ system.claims ∧ claim.queue = Keys.timerQueue then
    some { system with
      claims := system.claims.erase claim
      queue := (system.queue.nack claim).getD system.queue }
  else none

/-- A delivery loop or the timer worker claims a waiting job. A delivery loop's lease is the
retry timeout. -/
def stepTake (env : Env) (system : System) (job lease : Nat) : Option System :=
  let timer := system.queue.jobs[job]?.any (·.queue == Keys.timerQueue)
  (system.queue.take job (if timer then lease else env.retryTimeout)).map
    fun (claim, queue) => { system with queue, claims := claim :: system.claims }

/-- Open the store again: every claimed job waits, and nothing of the process is left. -/
def stepReopen (system : System) : System :=
  { system with
    queue := system.queue.reopen
    held := ∅
    after := []
    delivering := none
    claims := []
    fired := []
    outbox := [] }

def step (env : Env) (system : System) : Event → Option System
  | .request request stored => stepRequest env system request stored
  | .deliver claim stored => stepDeliver env system claim stored
  | .fire claim stored => stepFire env system claim stored
  | .finish => stepFinish system
  | .pass entry => stepPass system entry
  | .ackTimer claim => stepAckTimer system claim
  | .nackTimer claim => stepNackTimer system claim
  | .take job lease => stepTake env system job lease
  | .promote job => (system.queue.promote job).map fun queue => { system with queue }
  | .reap job => (system.queue.reap job).map fun queue => { system with queue }
  | .clock time => some { system with queue := { system.queue with clock := time } }
  | .reopen => some (stepReopen system)

/-- The runs from the empty store. -/
abbrev Reachable (env : Env) : System → Prop := Machine.Reachable (step env) .empty

abbrev History (env : Env) : List (Machine.Entry System Event) → System → Prop :=
  Machine.History (step env) .empty

/-- A promise with a target, and a claim of its dispatch. -/
def PromiseCreateData.sample : PromiseCreateData where
  id := "root"
  timeoutAt := 1000
  param := {}
  tags := (∅ : Tags).insert tagTarget "poll://any@g"

/-- A promise without a target that can be awaited. -/
def PromiseCreateData.awaitedSample : PromiseCreateData where
  id := "root:0"
  timeoutAt := 1000
  param := {}
  tags := (∅ : Tags).insert tagExternal "true"

def Claim.sample (job token : Nat) : Claim :=
  ⟨job, "resonate.a.poll_3A_2F_2Fany_40g", .execute "root", none, token⟩

end Resonate
