import Resonate.Custody
import Resonate.Emissions
import Resonate.LeaseQueueTimes

set_option autoImplicit false

/-! What a step does to the jobs of the queue: those it leaves alone, those whose claims change
and those it adds. -/

namespace Resonate

open Kernel
open LeaseQueue (Queue Job EnqueueRequest)

/-- The jobs an event may reach before their time. -/
def Event.Reaches (before : System) (job : Job Payload) : Event → Prop
  | .request (.taskCreate data) _ => job.payload = .execute data.action.data.id
  | .finish => ∃ id number lease rest, before.after = .claim id number lease :: rest ∧
      job.payload = .execute id
  | .promote number => before.queue.jobs[number]? = some job
  | _ => False

section

variable {env : Env} {txn next : Txn} {label : Label} {exempt : Job Payload → Prop}

theorem renew_spares (txn : Txn) (task : String) (lease : Nat) :
    Queue.Spares exempt txn.queue (txn.renew task lease).1.queue := by
  unfold Txn.renew
  have same := Txn.holds_queue txn task
  cases checked : txn.holds task with
  | mk next result =>
      rw [checked] at same
      change next.queue = txn.queue at same
      cases result with
      | false => exact Queue.spares_of_jobs (by rw [same])
      | true =>
          dsimp only
          split
          · exact Queue.spares_of_jobs (by rw [same])
          · split
            · rename_i renewed
              rw [same] at renewed
              exact Queue.renewLease_spares renewed
            · exact Queue.spares_of_jobs (by rw [same])

/-- A move leaves the scheduled jobs alone, but for a claim by id. -/
theorem Move.spares {floor : Nat} {strict : Prop} (move : Move env txn label next)
    (sound : txn.Sound floor strict)
    (own : ∀ task lease, label = .claim task lease → ∀ job : Job Payload,
      job.payload = .execute task.id → exempt job) : Queue.Spares exempt txn.queue next.queue := by
  have buffered (buffers : Txn.Buffers txn next) : Queue.Spares exempt txn.queue next.queue :=
    Queue.spares_of_jobs buffers.jobs
  cases move with
  | expire promise stored pending due => exact buffered (settleChain_buffers _ _ _)
  | strike promise stored pending => exact buffered (settleChain_buffers _ _ _)
  | settle promise state value stored pending early => exact buffered (settleChain_buffers _ _ _)
  | create data createdAt mode absent admitted =>
      exact buffered (createPromise_buffers env txn data createdAt mode)
  | resume awaited awaiter stored settled external valid opened =>
      exact buffered (resumeAwaiter_buffers _ _ _)
  | acquire task pid ttl stored pending renewed => exact renew_spares txn task.id (leaseOf ttl)
  | proceed task stored halted => exact buffered (proceed_buffers task)
  | advance schedule stored => exact buffered (advanceSchedule_buffers schedule)
  | check task => exact Queue.spares_of_jobs (by rw [Txn.holds_queue])
  | renew task lease => exact renew_spares txn task lease
  | claim task job lease stored pending dispatched =>
      unfold Txn.claimJob
      split
      · rename_i claimed
        refine Queue.claimById_spares claimed fun queued found => ?_
        have contents : txn.queue.contents job = some queued.contents := by
          unfold Queue.contents
          rw [found]
          rfl
        exact own task lease rfl queued
          ((sound.owned task.id task job stored dispatched).2 _ (.inl ⟨_, contents, rfl⟩))
      · exact .refl _
  | _ => exact .refl _

theorem Trail.spares {permits : Label → Prop} {floor : Nat} {strict : Prop}
    {taken : Claim → Prop} (trail : Trail env permits txn next) (keyed : txn.Keyed)
    (coupled : ∀ id, Coupled (txn.cell id)) (sound : txn.Sound floor strict)
    (allowed : ∀ label, permits label → label.Allowed strict taken)
    (granted : ∀ claim, taken claim →
      Matches txn.queue.contents floor claim ∧ ∀ timer, claim.payload ≠ .timer timer)
    (own : ∀ task lease, permits (.claim task lease) → ∀ job : Job Payload,
      job.payload = .execute task.id → exempt job) : Queue.Spares exempt txn.queue next.queue := by
  induction trail with
  | refl txn => exact .refl _
  | step label permitted move rest ih =>
      have first : Queue.Spares exempt _ _ := move.spares sound fun task lease same =>
        own task lease (same ▸ permitted)
      refine first.trans (ih (move.keyed keyed) (fun id => (move.change keyed id).coupled (coupled id))
        (move.sound keyed coupled sound (allowed label permitted) granted) ?_)
      rw [move.fixed.contents]
      exact granted

end

/-- What a step leaves of the jobs of the queue. -/
inductive JobsAfter (env : Env) (before : System) (event : Event) (after : System) : Prop
  | kept (spares : Queue.Spares (event.Reaches before) before.queue after.queue)
      (log : after.log = before.log) : JobsAfter env before event after
  | committed (txn : Txn) (middle : Queue Payload)
      (spares : Queue.Spares (event.Reaches before) before.queue middle)
      (committed : Committed env before event txn after) (accepts : middle.Accepts txn.enqueues)
      (clock : middle.clock = before.queue.clock)
      (queue : after.queue = (middle.enqueue txn.enqueues).2)
      (log : after.log = before.log ++ (middle.enqueue txn.enqueues).1) :
      JobsAfter env before event after

section

variable {env : Env} {before after : System}

/-- A commit over a queue that spares the scheduled jobs. -/
theorem jobsAfter_commit {event : Event} {txn : Txn} (middle : Queue Payload)
    (trail : Trail env event.permits (before.txn env) txn)
    (spares : Queue.Spares (event.Reaches before) before.queue middle)
    (accepts : middle.Accepts txn.enqueues) (clock : middle.clock = txn.queue.clock)
    (kv : after.kv = txn.kv.apply txn.writes)
    (queue : after.queue = (middle.enqueue txn.enqueues).2) (log : after.log = before.log ++
      (middle.enqueue txn.enqueues).1) : JobsAfter env before event after := by
  have same : middle.clock = before.queue.clock := clock.trans trail.fixed.clock
  refine .committed txn middle spares ⟨trail, stores_of_kv kv, now_of_clock ?_⟩ accepts same queue log
  rw [queue, Queue.enqueue_clock, same]

theorem request_spares {request : Request} {txn : Txn} (booked : Booked env before)
    (keyed : (before.txn env).Keyed) (coupled : ∀ id, Coupled ((before.txn env).cell id))
    (stored : Bool) (trail : Trail env request.awake (before.txn env) txn) :
    Queue.Spares (Event.Reaches before · (.request request stored)) before.queue txn.queue := by
  refine trail.spares keyed coupled (booked.start _) (fun _ => Request.allowed)
    (fun _ none => absurd none id) ?_
  rintro task lease ⟨⟨data, rfl, own, _⟩, _⟩ job executes
  change job.payload = .execute data.action.data.id
  rw [own]
  exact executes

/-- A handled request leaves the scheduled jobs alone, and its enqueues fit the queue. -/
theorem Handled.queue {request : Request} {response : Response} (booked : Booked env before)
    (keyed : (before.txn env).Keyed) (coupled : ∀ id, Coupled ((before.txn env).cell id))
    (stored : Bool) (handled : Handled env request (before.txn env) response) :
    Queue.Spares (Event.Reaches before · (.request request stored)) before.queue
        response.txn.queue ∧
      response.txn.queue.Accepts response.txn.enqueues := by
  have awake {txn : Txn} (trail : Trail env request.awake (before.txn env) txn) :=
    And.intro (request_spares booked keyed coupled stored trail)
      (booked.requested keyed coupled trail).accepts
  cases handled with
  | plain response exit trail => exact awake trail
  | fulfilled response id promise exit trail promised settled => exact awake trail
  | asleep earlier next task awaited reply trail permitted move =>
      cases move with
      | suspend task awaited present acquired some_awaited listed =>
          obtain ⟨spares, accepts⟩ := awake trail
          exact ⟨spares, accepts⟩

theorem requested_jobs {request : Request} {stored : Bool} (booked : Booked env before)
    (keyed : (before.txn env).Keyed) (coupled : ∀ id, Coupled ((before.txn env).cell id))
    (step : Step env before (.request request stored) after) :
    JobsAfter env before (.request request stored) after := by
  have trail := (handle_outcome env keyed request).trail keyed
  obtain ⟨spares, accepts⟩ := (handle_cases env keyed coupled request).queue booked keyed coupled
    stored
  cases step with
  | dropped request stored unlocked exit => exact .kept spares (List.append_nil _)
  | committed request unlocked exit =>
      exact jobsAfter_commit _ trail spares accepts rfl rfl rfl rfl
  | acked request taskId commit unlocked exit committed =>
      obtain ⟨claim, held, current, rfl⟩ := commitAck_acked committed
      have shrunk : ((handle env (before.txn env) request).txn.queue.remove claim.id).Accepts
          (handle env (before.txn env) request).txn.enqueues :=
        accepts.remove claim.id
      exact jobsAfter_commit _ trail
        (spares.trans (Queue.remove_spares _ claim.id (Queue.current_busy current))) shrunk rfl rfl
        rfl rfl
  | lost request taskId commit unlocked exit committed =>
      obtain ⟨held, rfl, fewer⟩ := commitAck_lost committed
      exact .kept spares (List.append_nil _)

theorem delivered_jobs {claim : Claim} {stored : Bool} (booked : Booked env before)
    (keyed : (before.txn env).Keyed) (coupled : ∀ id, Coupled ((before.txn env).cell id))
    (step : Step env before (.deliver claim stored) after) :
    JobsAfter env before (.deliver claim stored) after := by
  have spares {txn : Txn} {message : Option Message} (member : claim ∈ before.claims)
      (delivered : deliver env (before.txn env) claim = some (txn, message)) :
      Queue.Spares (Event.Reaches before · (.deliver claim stored)) before.queue txn.queue := by
    refine (deliver_trail keyed claim txn message delivered).spares keyed coupled
      (booked.start False) (fun _ => delivery_allowed) ?_ fun _ _ none => absurd none id
    rintro taken rfl
    exact ⟨booked.claims taken member, deliver_untimed delivered⟩
  cases step with
  | undecoded claim stored unlocked member addressed refused => exact .kept (.refl _) rfl
  | undelivered claim txn message unlocked member addressed delivered =>
      exact .kept (spares member delivered) (List.append_nil _)
  | delivered claim txn message unlocked member addressed delivered =>
      exact jobsAfter_commit _ (deliver_trail keyed claim txn message delivered)
        (spares member delivered) (booked.delivered keyed coupled member delivered).accepts
        rfl rfl rfl rfl

theorem fired_jobs {claim : Claim} {stored : Bool} (booked : Booked env before)
    (keyed : (before.txn env).Keyed) (coupled : ∀ id, Coupled ((before.txn env).cell id))
    (step : Step env before (.fire claim stored) after) :
    JobsAfter env before (.fire claim stored) after := by
  have spares (timer : Timer) :
      Queue.Spares (Event.Reaches before · (.fire claim stored)) before.queue
        (fire env (before.txn env) timer).1.queue :=
    (fire_trail env keyed timer).spares keyed coupled (booked.start False)
      (fun _ => firing_allowed) (fun _ none => absurd none id) fun _ _ none => absurd none id
  cases step with
  | unfired claim timer txn unlocked member timed payload fired =>
      have left := spares timer
      rw [fired] at left
      exact .kept left (List.append_nil _)
  | fired claim timer txn unlocked member timed payload fired =>
      have left := spares timer
      have trail := fire_trail env keyed timer
      have sound := booked.struck keyed coupled timer
      rw [fired] at left trail sound
      rw [← fire_permits claim true timer payload] at trail
      exact jobsAfter_commit _ trail left sound.accepts rfl rfl rfl rfl
  | outlived claim stored timer txn exit unlocked member timed payload fired idle =>
      have left := spares timer
      rw [fired] at left
      exact .kept left (List.append_nil _)

theorem acked_spares {exempt : Job Payload → Prop} (queue : Queue Payload) (claim : Claim) :
    Queue.Spares exempt queue ((queue.ack claim).getD queue) := by
  cases acked : queue.ack claim with
  | none => exact .refl _
  | some later => exact Queue.ack_spares acked

theorem nacked_spares {exempt : Job Payload → Prop} (queue : Queue Payload) (claim : Claim) :
    Queue.Spares exempt queue ((queue.nack claim).getD queue) := by
  cases nacked : queue.nack claim with
  | none => exact .refl _
  | some later => exact Queue.nack_spares nacked

/-- The work after a commit leaves the scheduled jobs alone, but for a claim by id. -/
theorem perform_spares {exempt : Job Payload → Prop} (queue : Queue Payload) (held : Held)
    (action : After) (own : ∀ id number lease, action = .claim id number lease →
      ∀ job : Job Payload, queue.jobs[number]? = some job → exempt job) :
    Queue.Spares exempt queue (action.perform queue held).1 := by
  cases action with
  | ack taken => exact acked_spares queue taken
  | hold task taken => exact .refl _
  | release task =>
      simp only [After.perform]
      split
      · exact acked_spares queue _
      · exact .refl _
  | nack task =>
      simp only [After.perform]
      split
      · exact nacked_spares queue _
      · exact .refl _
  | claim task job lease =>
      simp only [After.perform]
      split
      · rename_i claimed
        exact Queue.claimById_spares claimed (own task job lease rfl)
      · exact .refl _

/-- Every step leaves the scheduled jobs alone, but for those its event reaches, and adds those its
transaction enqueues. -/
theorem Step.jobs {event : Event} (booked : Booked env before) (keyed : (before.txn env).Keyed)
    (coupled : ∀ id, Coupled ((before.txn env).cell id)) (step : Step env before event after) :
    JobsAfter env before event after := by
  cases event with
  | request request stored => exact requested_jobs booked keyed coupled step
  | deliver claim stored => exact delivered_jobs booked keyed coupled step
  | fire claim stored => exact fired_jobs booked keyed coupled step
  | finish =>
      cases step with
      | finished action rest pending =>
          refine .kept (perform_spares before.queue before.held action ?_) rfl
          intro id number lease same job found
          have proper := booked.sound.after action
            (show action ∈ before.after from pending ▸ List.mem_cons_self)
          subst same
          refine ⟨id, number, lease, rest, pending, ?_⟩
          refine proper.2 job.payload (.inl ⟨job.contents, ?_, rfl⟩)
          change (before.queue.jobs[number]?).map Job.contents = _
          rw [found]
          rfl
  | pass entry =>
      cases step with
      | passed entry member => exact .kept (.refl _) rfl
  | ackTimer claim =>
      cases step with
      | ackedTimer claim member => exact .kept (acked_spares _ _) rfl
  | nackTimer claim =>
      cases step with
      | nackedTimer claim member timed => exact .kept (nacked_spares _ _) rfl
  | take job lease =>
      cases step with
      | taken job lease period claim queue granted => exact .kept (Queue.take_spares granted) rfl
  | promote job =>
      cases step with
      | promoted job queue moved => exact .kept (Queue.promote_spares moved fun _ found => found) rfl
  | reap job =>
      cases step with
      | reaped job queue moved => exact .kept (Queue.reap_spares moved) rfl
  | clock time =>
      cases step with
      | ticked time => exact .kept (Queue.spares_of_jobs rfl) rfl
  | reopen =>
      cases step with
      | reopened => exact .kept (Queue.reopen_spares _) rfl

/-- What a step of a run leaves of the jobs. -/
theorem Reachable.jobs {event : Event} (reached : Reachable env before)
    (taken : step env before event = some after) : JobsAfter env before event after := by
  refine (step_cases taken).jobs (Reachable.booked reached) (Reachable.keyed reached) fun id => ?_
  rw [System.cell_txn]
  exact Reachable.coupled reached id

end

end Resonate
