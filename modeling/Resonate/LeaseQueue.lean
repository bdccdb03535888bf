import Resonate.Table

set_option autoImplicit false

/-! A queue of jobs claimed under leases. Every claim takes a fresh token, and a claim whose
token is no longer the job's is lost: its acknowledgement, failure or renewal has no effect. -/

namespace LeaseQueue

inductive JobState
  | scheduled
  | waiting
  | claimed (token leaseEnd : Nat)
  deriving DecidableEq, Repr

/-- The token of the claim a job is under. -/
def JobState.token : JobState → Option Nat
  | .claimed token _ => some token
  | _ => none

def JobState.isClaimed (state : JobState) : Bool := state.token.isSome

/-- The state a job returns to when its claim ends without an acknowledgement. -/
def JobState.requeued : JobState → JobState
  | .claimed _ _ => .waiting
  | state => state

structure Job (α : Type) where
  queue : String
  payload : α
  runAt : Option Nat
  state : JobState
  deriving DecidableEq, Repr

structure Claim (α : Type) where
  id : Nat
  queue : String
  payload : α
  runAt : Option Nat
  token : Nat
  deriving DecidableEq, Repr

structure EnqueueRequest (α : Type) where
  queue : String
  payload : α
  idOverride : Option Nat
  runAt : Option Nat
  deriving DecidableEq, Repr

/-- `nextJob` and `nextToken` are above every id and token handed out so far. -/
structure Queue (α : Type) where
  jobs : Table Nat (Job α)
  nextJob : Nat
  nextToken : Nat
  clock : Nat

namespace Queue

variable {α : Type}

def empty : Queue α := ⟨∅, 0, 0, 0⟩

def nextJobId (queue : Queue α) : Nat × Queue α :=
  (queue.nextJob, { queue with nextJob := queue.nextJob + 1 })

def put (queue : Queue α) (id : Nat) (job : Job α) : Queue α :=
  { queue with jobs := queue.jobs.insert id job }

def remove (queue : Queue α) (id : Nat) : Queue α :=
  { queue with jobs := queue.jobs.erase id }

/-- A job waits for delivery unless its time is in the future. -/
def placed (clock : Nat) (request : EnqueueRequest α) : Job α where
  queue := request.queue
  payload := request.payload
  runAt := request.runAt
  state := if request.runAt.any (clock < ·) then .scheduled else .waiting

def enqueueOne (queue : Queue α) (request : EnqueueRequest α) : (Nat × Job α) × Queue α :=
  let job := placed queue.clock request
  match request.idOverride with
  | some id => ((id, job), queue.put id job)
  | none => ((queue.nextJob, job), queue.nextJobId.2.put queue.nextJob job)

/-- Enqueue in order. The jobs are returned with their ids. -/
def enqueue (queue : Queue α) : List (EnqueueRequest α) → List (Nat × Job α) × Queue α
  | [] => ([], queue)
  | request :: rest =>
      let (entry, queue) := queue.enqueueOne request
      let (entries, queue) := queue.enqueue rest
      (entry :: entries, queue)

/-- Whether the job is still under this claim. -/
def current (queue : Queue α) (claim : Claim α) : Bool :=
  match queue.jobs[claim.id]? with
  | some job => job.state.token == some claim.token
  | none => false

/-- The end of the lease the job is under, whichever claim holds it. -/
def leaseExpiry (queue : Queue α) (id : Nat) : Option Nat :=
  match queue.jobs[id]? with
  | some { state := .claimed _ leaseEnd, .. } => some leaseEnd
  | _ => none

def setState (queue : Queue α) (id : Nat) (state : JobState) : Queue α :=
  match queue.jobs[id]? with
  | some job => queue.put id { job with state }
  | none => queue

def renewLease (queue : Queue α) (claim : Claim α) (lease : Nat) : Option (Queue α) :=
  if queue.current claim then
    some (queue.setState claim.id (.claimed claim.token (queue.clock + lease)))
  else none

def ack (queue : Queue α) (claim : Claim α) : Option (Queue α) :=
  if queue.current claim then some (queue.remove claim.id) else none

def nack (queue : Queue α) (claim : Claim α) : Option (Queue α) :=
  if queue.current claim then some (queue.setState claim.id .waiting) else none

/-- Put a job under a fresh claim. -/
def grant (queue : Queue α) (id : Nat) (job : Job α) (lease : Nat) : Claim α × Queue α :=
  ({ id, queue := job.queue, payload := job.payload, runAt := job.runAt, token := queue.nextToken },
    { queue.put id { job with state := .claimed queue.nextToken (queue.clock + lease) } with
      nextToken := queue.nextToken + 1 })

/-- Claim a job by id, a scheduled one included, unless another claim holds it. -/
def claimById (queue : Queue α) (id : Nat) (lease : Nat) : Option (Claim α × Queue α) :=
  match queue.jobs[id]? with
  | some job => if job.state.isClaimed then none else some (queue.grant id job lease)
  | none => none

/-- Claim a job that waits for delivery. -/
def take (queue : Queue α) (id : Nat) (lease : Nat) : Option (Claim α × Queue α) :=
  match queue.jobs[id]? with
  | some job => if job.state = .waiting then some (queue.grant id job lease) else none
  | none => none

/-- Make a scheduled job wait for delivery. -/
def promote (queue : Queue α) (id : Nat) : Option (Queue α) :=
  match queue.jobs[id]? with
  | some job => if job.state = .scheduled then some (queue.setState id .waiting) else none
  | none => none

/-- Requeue a job whose lease has ended. -/
def reap (queue : Queue α) (id : Nat) : Option (Queue α) :=
  match queue.leaseExpiry id with
  | some leaseEnd =>
      if leaseEnd ≤ queue.clock then some (queue.setState id .waiting) else none
  | none => none

/-- Open the queue again: every claimed job returns to waiting. -/
def reopen (queue : Queue α) : Queue α :=
  { queue with jobs := queue.jobs.map fun _ job => { job with state := job.state.requeued } }

end Queue

end LeaseQueue
