import Resonate.Jobs

set_option autoImplicit false

/-! Timers leave the queue only once their firing has returned. -/

namespace LeaseQueue

namespace Queue

variable {α : Type}

/-- A queue keeps the jobs it has when it takes requests. -/
theorem Accepts.contents_kept {queue : Queue α} {requests : List (EnqueueRequest α)}
    (accepts : queue.Accepts requests) {id : Nat} {contents : String × α × Option Nat}
    (found : queue.contents id = some contents) :
    (queue.enqueue requests).2.contents id = some contents := by
  obtain ⟨job, stored, rfl⟩ := Option.map_eq_some_iff.mp found
  have below : id < queue.nextJob := by
    by_contra above
    have absent := accepts.fresh id (by omega)
    simp [stored] at absent
  have unnamed : id ∉ EnqueueRequest.overrides requests := by
    intro named
    have absent := accepts.absent id named
    simp [stored] at absent
  unfold contents
  rw [accepts.kept id below unnamed, stored]
  rfl

end Queue

end LeaseQueue

namespace Resonate

open Kernel
open LeaseQueue (Queue Job EnqueueRequest)

/-- The job of a timer at a time, as it lies in the queue. -/
def timerContents (timer : Timer) (time : Int) : String × Payload × Option Nat :=
  (Keys.timerQueue, .timer timer, some time.toNat)

/-- `later` has the timers of `earlier`, but for the exempt ones. -/
def KeepsTimers (exempt : Nat → Prop) (earlier later : Queue Payload) : Prop :=
  ∀ (number : Nat) (queue : String) (timer : Timer) (runAt : Option Nat),
    earlier.contents number = some (queue, .timer timer, runAt) →
    later.contents number = some (queue, .timer timer, runAt) ∨ exempt number

/-- `later` has the messages and timers of `earlier`, but for the exempt ones. -/
def KeepsAnnounced (exempt : Nat → Prop) (earlier later : Queue Payload) : Prop :=
  ∀ (number : Nat) (queue : String) (payload : Payload) (runAt : Option Nat),
    (∀ id, payload ≠ .execute id) → earlier.contents number = some (queue, payload, runAt) →
    later.contents number = some (queue, payload, runAt) ∨ exempt number

/-- The timers an event removes: those whose firing returned. -/
def Event.Removes (before : System) (event : Event) (number : Nat) : Prop :=
  ∃ claim ∈ before.fired, event = .ackTimer claim ∧ claim.id = number

/-- The messages an event removes: those whose delivery acknowledges them in time. -/
def Event.Acknowledges (before : System) (event : Event) (number : Nat) : Prop :=
  event = .finish ∧ ∃ claim rest, before.after = .ack claim :: rest ∧ claim.id = number ∧
    before.queue.current claim = true

section

variable {exempt : Nat → Prop} {earlier later : Queue Payload}

theorem keepsAnnounced_of_contents (same : later.contents = earlier.contents) :
    KeepsAnnounced exempt earlier later := by
  intro number queue payload runAt announces found
  rw [same]
  exact .inl found

theorem KeepsAnnounced.trans {third : Queue Payload} (left : KeepsAnnounced exempt earlier later)
    (right : KeepsAnnounced exempt later third) : KeepsAnnounced exempt earlier third := by
  intro number queue payload runAt announces found
  rcases left number queue payload runAt announces found with kept | removed
  · exact right number queue payload runAt announces kept
  · exact .inr removed

/-- Removing the job of a dispatch keeps the others. -/
theorem keepsAnnounced_remove {floor : Nat} {claim : Claim} {id : String}
    (matched : Matches earlier.contents floor claim) (executes : claim.payload = .execute id) :
    KeepsAnnounced exempt earlier (earlier.remove claim.id) := by
  intro number queue payload runAt announces found
  rw [Queue.contents_remove]
  split
  · rename_i own
    subst own
    have same : payload = claim.payload := congrArg (·.2.1) (matched.contents _ found)
    exact absurd (same.trans executes) (announces id)
  · exact .inl found

theorem keepsAnnounced_ack (claim : Claim)
    (acknowledged : earlier.current claim = true → exempt claim.id) :
    KeepsAnnounced exempt earlier ((earlier.ack claim).getD earlier) := by
  cases acked : earlier.ack claim with
  | none => exact keepsAnnounced_of_contents rfl
  | some later =>
      obtain ⟨current, rfl⟩ := Queue.ack_eq acked
      intro number queue payload runAt announces found
      change (earlier.remove claim.id).contents number = _ ∨ _
      rw [Queue.contents_remove]
      split
      · rename_i own
        exact .inr (own ▸ acknowledged current)
      · exact .inl found

theorem keepsAnnounced_nack {claim : Claim} :
    KeepsAnnounced exempt earlier ((earlier.nack claim).getD earlier) := by
  cases nacked : earlier.nack claim with
  | none => exact keepsAnnounced_of_contents rfl
  | some later => exact keepsAnnounced_of_contents (Queue.nack_keeps nacked).contents

theorem keepsAnnounced_enqueue {requests : List (EnqueueRequest Payload)}
    (accepts : earlier.Accepts requests) :
    KeepsAnnounced exempt earlier (earlier.enqueue requests).2 :=
  fun _ _ _ _ _ found => .inl (accepts.contents_kept found)

/-- The work after a commit removes only what it acknowledges. -/
theorem Txn.Sound.perform_announced {txn : Txn} {floor : Nat} {strict : Prop}
    (sound : txn.Sound floor strict) (action : After)
    (acknowledged : ∀ claim, action = .ack claim → txn.queue.current claim = true →
      exempt claim.id) :
    KeepsAnnounced exempt txn.queue (action.perform txn.queue txn.held).1 := by
  cases action with
  | ack claim => exact keepsAnnounced_ack claim (acknowledged claim rfl)
  | hold task claim => exact keepsAnnounced_of_contents rfl
  | release task =>
      simp only [After.perform]
      split
      · rename_i claim found
        obtain ⟨matched, executes⟩ := sound.held task claim found
        change KeepsAnnounced exempt txn.queue ((txn.queue.ack claim).getD txn.queue)
        cases acked : txn.queue.ack claim with
        | none => exact keepsAnnounced_of_contents rfl
        | some later =>
            obtain ⟨_, rfl⟩ := Queue.ack_eq acked
            exact keepsAnnounced_remove matched executes
      · exact keepsAnnounced_of_contents rfl
  | nack task =>
      simp only [After.perform]
      split
      · exact keepsAnnounced_nack
      · exact keepsAnnounced_of_contents rfl
  | claim task job lease =>
      simp only [After.perform]
      split
      · rename_i claimed
        exact keepsAnnounced_of_contents (Queue.claimById_granted claimed).keeps.contents
      · exact keepsAnnounced_of_contents rfl

end

section

variable {env : Env} {before after : System}

/-- The claims a handled request holds are those of its tasks' jobs. -/
theorem Handled.held {request : Request} {response : Response} (booked : Booked env before)
    (keyed : (before.txn env).Keyed) (coupled : ∀ id, Coupled ((before.txn env).cell id))
    (handled : Handled env request (before.txn env) response) {id : String} {claim : Claim}
    (found : response.txn.held[id]? = some claim) :
    Matches response.txn.queue.contents before.queue.nextJob claim ∧
      claim.payload = .execute id := by
  have awake {txn : Txn} (trail : Trail env request.awake (before.txn env) txn) :=
    (booked.requested keyed coupled trail).held id claim
  cases handled with
  | plain response exit trail => exact awake trail found
  | fulfilled response id promise exit trail promised settled => exact awake trail found
  | asleep earlier next task awaited reply trail permitted move =>
      cases move with
      | suspend task awaited present acquired some_awaited listed =>
          have held := awake trail
          exact held found

theorem requested_announced {request : Request} {stored : Bool} (booked : Booked env before)
    (keyed : (before.txn env).Keyed) (coupled : ∀ id, Coupled ((before.txn env).cell id))
    (step : Step env before (.request request stored) after) (exempt : Nat → Prop) :
    KeepsAnnounced exempt before.queue after.queue := by
  have trail := (handle_outcome env keyed request).trail keyed
  have handled := handle_cases env keyed coupled request
  obtain ⟨_, accepts⟩ := handled.queue booked keyed coupled stored
  have started : KeepsAnnounced exempt before.queue
      (handle env (before.txn env) request).txn.queue :=
    keepsAnnounced_of_contents trail.fixed.contents
  cases step with
  | dropped request stored unlocked exit => exact started
  | committed request unlocked exit => exact started.trans (keepsAnnounced_enqueue accepts)
  | acked request taskId commit unlocked exit committed =>
      obtain ⟨claim, held, current, rfl⟩ := commitAck_acked committed
      obtain ⟨matched, executes⟩ := handled.held booked keyed coupled held
      have shrunk : KeepsAnnounced exempt _ _ := keepsAnnounced_remove matched executes
      exact started.trans (shrunk.trans (keepsAnnounced_enqueue (accepts.remove claim.id)))
  | lost request taskId commit unlocked exit committed =>
      obtain ⟨held, rfl, fewer⟩ := commitAck_lost committed
      exact started

theorem delivered_announced {claim : Claim} {stored : Bool} (booked : Booked env before)
    (keyed : (before.txn env).Keyed) (coupled : ∀ id, Coupled ((before.txn env).cell id))
    (step : Step env before (.deliver claim stored) after) (exempt : Nat → Prop) :
    KeepsAnnounced exempt before.queue after.queue := by
  have started {txn : Txn} {message : Option Message}
      (delivered : deliver env (before.txn env) claim = some (txn, message)) :
      KeepsAnnounced exempt before.queue txn.queue :=
    keepsAnnounced_of_contents (deliver_trail keyed claim txn message delivered).fixed.contents
  cases step with
  | undecoded claim stored unlocked member addressed refused => exact keepsAnnounced_of_contents rfl
  | undelivered claim txn message unlocked member addressed delivered => exact started delivered
  | delivered claim txn message unlocked member addressed delivered =>
      have accepts := (booked.delivered keyed coupled member delivered).accepts
      exact (started delivered).trans (keepsAnnounced_enqueue accepts)

theorem fired_announced {claim : Claim} {stored : Bool} (booked : Booked env before)
    (keyed : (before.txn env).Keyed) (coupled : ∀ id, Coupled ((before.txn env).cell id))
    (step : Step env before (.fire claim stored) after) (exempt : Nat → Prop) :
    KeepsAnnounced exempt before.queue after.queue := by
  have started (timer : Timer) :
      KeepsAnnounced exempt before.queue (fire env (before.txn env) timer).1.queue :=
    keepsAnnounced_of_contents (fire_trail env keyed timer).fixed.contents
  cases step with
  | unfired claim timer txn unlocked member timed payload fired =>
      have left := started timer
      rw [fired] at left
      exact left
  | fired claim timer txn unlocked member timed payload fired =>
      have left := started timer
      have sound := booked.struck keyed coupled timer
      rw [fired] at left sound
      exact left.trans (keepsAnnounced_enqueue sound.accepts)
  | outlived claim stored timer txn exit unlocked member timed payload fired idle =>
      have left := started timer
      rw [fired] at left
      exact left

/-- A step removes a message or a timer only when it acknowledges its delivery or the claim whose
firing returned. -/
theorem Step.announced {event : Event} (booked : Booked env before)
    (keyed : (before.txn env).Keyed) (coupled : ∀ id, Coupled ((before.txn env).cell id))
    (step : Step env before event after) :
    KeepsAnnounced (fun number => event.Removes before number ∨ event.Acknowledges before number)
      before.queue after.queue := by
  cases event with
  | request request stored => exact requested_announced booked keyed coupled step _
  | deliver claim stored => exact delivered_announced booked keyed coupled step _
  | fire claim stored => exact fired_announced booked keyed coupled step _
  | finish =>
      cases step with
      | finished action rest pending =>
          apply booked.sound.perform_announced action
          rintro claim rfl current
          exact .inr ⟨rfl, claim, rest, pending, rfl, current⟩
  | pass entry =>
      cases step with
      | passed entry member => exact keepsAnnounced_of_contents rfl
  | ackTimer claim =>
      cases step with
      | ackedTimer claim member =>
          apply keepsAnnounced_ack claim
          intro _
          exact .inl ⟨claim, member, rfl, rfl⟩
  | nackTimer claim =>
      cases step with
      | nackedTimer claim member timed => exact keepsAnnounced_nack
  | take job lease =>
      cases step with
      | taken job lease period claim queue granted =>
          exact keepsAnnounced_of_contents (Queue.take_granted granted).keeps.contents
  | promote job =>
      cases step with
      | promoted job queue moved =>
          exact keepsAnnounced_of_contents (Queue.promote_keeps moved).contents
  | reap job =>
      cases step with
      | reaped job queue moved => exact keepsAnnounced_of_contents (Queue.reap_keeps moved).contents
  | clock time =>
      cases step with
      | ticked time => exact keepsAnnounced_of_contents rfl
  | reopen =>
      cases step with
      | reopened => exact keepsAnnounced_of_contents (Queue.reopen_keeps before.queue).contents

/-- The claims acknowledged after a commit are no timers', and match the jobs they are of. -/
theorem Booked.acknowledged (booked : Booked env before) {claim : Claim} {rest : List After}
    (pending : before.after = .ack claim :: rest) :
    Matches before.queue.contents before.queue.nextJob claim ∧
      ∀ timer, claim.payload ≠ .timer timer := by
  have proper := booked.sound.after (.ack claim) (by
    change After.ack claim ∈ before.after
    simp [pending])
  exact ⟨proper.1, proper.2.1⟩

/-- A step removes a timer only when the worker acknowledges a claim whose firing returned. -/
theorem Step.timers {event : Event} (booked : Booked env before) (keyed : (before.txn env).Keyed)
    (coupled : ∀ id, Coupled ((before.txn env).cell id)) (step : Step env before event after) :
    KeepsTimers (event.Removes before) before.queue after.queue := by
  intro number queue timer runAt found
  rcases step.announced booked keyed coupled number queue (.timer timer) runAt (by simp) found with
    kept | removed | ⟨_, claim, rest, pending, own, _⟩
  · exact .inl kept
  · exact .inr removed
  · obtain ⟨matched, untimed⟩ := booked.acknowledged pending
    subst own
    have same : .timer timer = claim.payload := congrArg (·.2.1) (matched.contents _ found)
    exact absurd same.symm (untimed timer)

theorem Reachable.announced {event : Event} (reached : Reachable env before)
    (taken : step env before event = some after) :
    KeepsAnnounced (fun number => event.Removes before number ∨ event.Acknowledges before number)
      before.queue after.queue := by
  apply (step_cases taken).announced (Reachable.booked reached) (Reachable.keyed reached)
  intro id
  rw [System.cell_txn]
  exact Reachable.coupled reached id

theorem Reachable.timers {event : Event} (reached : Reachable env before)
    (taken : step env before event = some after) :
    KeepsTimers (event.Removes before) before.queue after.queue := by
  apply (step_cases taken).timers (Reachable.booked reached) (Reachable.keyed reached)
  intro id
  rw [System.cell_txn]
  exact Reachable.coupled reached id

/-! ## Firings -/

/-- A claim whose firing returned was there before, or its firing is the step. -/
theorem Step.fired_claims {event : Event} (step : Step env before event after) :
    ∀ claim ∈ after.fired, claim ∈ before.fired ∨
      ∃ stored, event = .fire claim stored ∧ claim ∈ before.claims := by
  intro claim member
  cases step with
  | fired taken timer txn unlocked inside timed payload fired =>
      rcases List.mem_cons.mp member with rfl | old
      · exact .inr ⟨true, rfl, inside⟩
      · exact .inl old
  | outlived taken stored timer txn exit unlocked inside timed payload fired idle =>
      rcases List.mem_cons.mp member with rfl | old
      · exact .inr ⟨stored, rfl, inside⟩
      · exact .inl old
  | ackedTimer taken inside => exact .inl (List.mem_of_mem_erase member)
  | reopened => cases member
  | _ => exact .inl member

/-! ## Commits -/

/-- The transaction an event commits. -/
def Event.Runs (env : Env) (before : System) (txn : Txn) : Event → Prop
  | .request asked stored => stored = true ∧ txn = (handle env (before.txn env) asked).txn
  | .deliver claim stored => stored = true ∧
      ∃ message, Kernel.deliver env (before.txn env) claim = some (txn, message)
  | .fire claim stored => stored = true ∧ ∃ timer, claim.payload = .timer timer ∧
      Kernel.fire env (before.txn env) timer = (txn, .commit)
  | _ => False

/-- The event commits the transaction and enqueues its jobs on the queue it left, or on that queue
without an acknowledged job. -/
structure Enqueued (env : Env) (before : System) (event : Event) (txn : Txn)
    (middle : Queue Payload) (after : System) : Prop where
  runs : event.Runs env before txn
  committed : Committed env before event txn after
  accepts : middle.Accepts txn.enqueues
  nextJob : before.queue.nextJob ≤ middle.nextJob
  queue : after.queue = (middle.enqueue txn.enqueues).2
  log : after.log = before.log ++ (middle.enqueue txn.enqueues).1

theorem enqueued_commit {event : Event} {txn : Txn} (middle : Queue Payload)
    (runs : event.Runs env before txn) (trail : Trail env event.permits (before.txn env) txn) (accepts : middle.Accepts txn.enqueues)
    (nextJob : middle.nextJob = txn.queue.nextJob) (clock : middle.clock = txn.queue.clock)
    (kv : after.kv = txn.kv.apply txn.writes)
    (queue : after.queue = (middle.enqueue txn.enqueues).2)
    (log : after.log = before.log ++ (middle.enqueue txn.enqueues).1) :
    Enqueued env before event txn middle after := by
  have forward : before.queue.nextJob ≤ txn.queue.nextJob := trail.fixed.nextJob
  have still : txn.queue.clock = before.queue.clock := trail.fixed.clock
  refine ⟨runs, ⟨trail, stores_of_kv kv, now_of_clock ?_⟩, accepts, ?_, queue, log⟩
  · rw [queue, Queue.enqueue_clock, clock, still]
  · rw [nextJob]
    exact forward

/-- A timer a commit enqueues is a fresh job of the queue. -/
theorem Enqueued.timer {event : Event} {txn : Txn} {middle : Queue Payload} {timer : Timer}
    {time : Int} (enqueued : Enqueued env before event txn middle after)
    (member : Txn.timerRequest timer time ∈ txn.enqueues) :
    ∃ number, before.queue.nextJob ≤ number ∧
      after.queue.contents number = some (timerContents timer time) := by
  obtain ⟨number, place, queued⟩ := enqueued.accepts.stored _ member
  rcases place with named | ⟨_, fresh⟩
  · cases named
  · refine ⟨number, le_trans enqueued.nextJob fresh, ?_⟩
    rw [enqueued.queue]
    unfold Queue.contents
    rw [queued]
    rfl

/-- A step commits nothing, or a transaction and the jobs it enqueues. -/
theorem Step.enqueued {event : Event} (booked : Booked env before) (keyed : (before.txn env).Keyed)
    (coupled : ∀ id, Coupled ((before.txn env).cell id)) (step : Step env before event after) :
    (after.kv = before.kv ∧ after.log = before.log) ∨
      ∃ txn middle, Enqueued env before event txn middle after := by
  have handled (request : Request) := (handle_outcome env keyed request).trail keyed
  have fitting (request : Request) (stored : Bool) :=
    ((handle_cases env keyed coupled request).queue booked keyed coupled stored).2
  cases step with
  | dropped request stored unlocked exit =>
      exact .inl ⟨(handled request).fixed.kv, List.append_nil _⟩
  | committed request unlocked exit =>
      exact .inr ⟨_, _, enqueued_commit _ ⟨rfl, rfl⟩ (handled request) (fitting request true) rfl rfl
        rfl rfl rfl⟩
  | acked request taskId commit unlocked exit committed =>
      obtain ⟨claim, held, current, rfl⟩ := commitAck_acked committed
      have shrunk := (fitting request true).remove claim.id
      exact .inr ⟨_, _, enqueued_commit _ ⟨rfl, rfl⟩ (handled request) shrunk rfl rfl rfl rfl rfl⟩
  | lost request taskId commit unlocked exit committed =>
      obtain ⟨held, rfl, fewer⟩ := commitAck_lost committed
      exact .inl ⟨(handled request).fixed.kv, List.append_nil _⟩
  | undelivered claim txn message unlocked member addressed delivered =>
      have trail := deliver_trail keyed claim txn message delivered
      exact .inl ⟨trail.fixed.kv, List.append_nil _⟩
  | delivered claim txn message unlocked member addressed delivered =>
      have trail := deliver_trail keyed claim txn message delivered
      have accepts := (booked.delivered keyed coupled member delivered).accepts
      exact .inr ⟨_, _, enqueued_commit _ ⟨rfl, message, delivered⟩ trail accepts rfl rfl rfl rfl rfl⟩
  | unfired claim timer txn unlocked member timed payload fired =>
      have trail := fire_trail env keyed timer
      rw [fired] at trail
      exact .inl ⟨trail.fixed.kv, List.append_nil _⟩
  | fired claim timer txn unlocked member timed payload fired =>
      have trail := fire_trail env keyed timer
      have sound := booked.struck keyed coupled timer
      rw [fired] at trail sound
      rw [← fire_permits claim true timer payload] at trail
      exact .inr ⟨_, _, enqueued_commit _ ⟨rfl, timer, payload, fired⟩ trail sound.accepts rfl rfl rfl
        rfl rfl⟩
  | outlived claim stored timer txn exit unlocked member timed payload fired idle =>
      have trail := fire_trail env keyed timer
      rw [fired] at trail
      exact .inl ⟨trail.fixed.kv, List.append_nil _⟩
  | _ => exact .inl ⟨rfl, rfl⟩

theorem Reachable.enqueued {event : Event} (reached : Reachable env before)
    (taken : step env before event = some after) :
    (after.kv = before.kv ∧ after.log = before.log) ∨
      ∃ txn middle, Enqueued env before event txn middle after := by
  apply (step_cases taken).enqueued (Reachable.booked reached) (Reachable.keyed reached)
  intro id
  rw [System.cell_txn]
  exact Reachable.coupled reached id

end

end Resonate
