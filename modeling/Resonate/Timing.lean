import Resonate.Jobs

set_option autoImplicit false

/-! Runs in which the clock does not go back and no job waits before its time. -/

namespace Resonate

open Kernel
open LeaseQueue (Queue Job)

/-- The clock does not go back, and a job is made to wait once its time has come. -/
def Event.isInTime (before : System) : Event → Bool
  | .clock time => decide (before.queue.clock ≤ time)
  | .promote job => (before.queue.jobs[job]?).all fun entry =>
      entry.runAt.all fun time => decide (time ≤ before.queue.clock)
  | _ => true

/-- Whether a job dispatches a task. -/
def Payload.isExecute : Payload → Bool
  | .execute _ => true
  | .unblock _ | .timer _ => false

theorem announces_iff {request : LeaseQueue.EnqueueRequest Payload} :
    announces request = true ↔ request.payload.isExecute = false := by
  unfold announces Payload.isExecute
  cases request.payload <;> simp

section

variable {env : Env} {before after system : System} {event : Event}

theorem Event.clock_of_inTime {time : Nat} (inTime : Event.isInTime before (.clock time) = true) :
    before.queue.clock ≤ time := of_decide_eq_true inTime

theorem Event.due_of_inTime {number : Nat} {job : Job Payload} {time : Nat}
    (inTime : Event.isInTime before (.promote number) = true)
    (found : before.queue.jobs[number]? = some job) (runAt : job.runAt = some time) :
    time ≤ before.queue.clock := by
  simp only [Event.isInTime, found, runAt, Option.all_some, decide_eq_true_eq] at inTime
  exact inTime

/-- In such a run the clock does not go back. -/
theorem Step.clock_le (keyed : (before.txn env).Keyed) (step : Step env before event after)
    (inTime : event.isInTime before = true) : before.queue.clock ≤ after.queue.clock := by
  rcases step.clock keyed with same | ⟨time, rfl, moved⟩
  · omega
  · have forward := Event.clock_of_inTime inTime
    omega

theorem now_le (forward : before.queue.clock ≤ after.queue.clock) : before.now ≤ after.now := by
  unfold System.now
  omega

/-- A claim of the process was there before the step, or is granted by it. -/
theorem Step.claims (step : Step env before event after) :
    ∀ claim ∈ after.claims, claim ∈ before.claims ∨ ∃ job lease period queue,
      event = .take job lease ∧ before.queue.take job period = some (claim, queue) := by
  intro claim member
  cases step with
  | undecoded taken stored unlocked inside addressed refused =>
      exact .inl (List.mem_of_mem_erase member)
  | undelivered taken txn message unlocked inside addressed delivered =>
      exact .inl (List.mem_of_mem_erase member)
  | delivered taken txn message unlocked inside addressed delivered =>
      exact .inl (List.mem_of_mem_erase member)
  | fired taken timer txn unlocked inside timed payload fired =>
      exact .inl (List.mem_of_mem_erase member)
  | outlived taken stored timer txn exit unlocked inside timed payload fired idle =>
      exact .inl (List.mem_of_mem_erase member)
  | nackedTimer taken inside timed => exact .inl (List.mem_of_mem_erase member)
  | taken job lease period granted queue taken =>
      rcases List.mem_cons.mp member with rfl | old
      · exact .inr ⟨job, lease, period, queue, rfl, taken⟩
      · exact .inl old
  | reopened => cases member
  | _ => exact .inl member

/-- A job that dispatches no task waits, and is claimed, only once its time has come. -/
structure System.Ripe (system : System) : Prop where
  jobs : ∀ (number : Nat) (job : Job Payload), system.queue.jobs[number]? = some job →
    job.payload.isExecute = false → Queue.Ripe system.queue.clock job
  claims : ∀ claim ∈ system.claims, claim.payload.isExecute = false →
    ∀ time, claim.runAt = some time → time ≤ system.queue.clock

/-- The jobs an event reaches before their time dispatch tasks, or are due. -/
theorem Event.Reaches.due {job : Job Payload} (reaches : event.Reaches before job)
    (inTime : event.isInTime before = true) (announces : job.payload.isExecute = false) :
    ∀ time, job.runAt = some time → time ≤ before.queue.clock := by
  intro time runAt
  cases event with
  | request request stored =>
      cases request with
      | taskCreate data =>
          have executes : job.payload = .execute data.action.data.id := reaches
          rw [executes] at announces
          cases announces
      | _ => exact reaches.elim
  | finish =>
      obtain ⟨id, number, lease, rest, pending, executes⟩ := reaches
      rw [executes] at announces
      cases announces
  | promote number => exact Event.due_of_inTime inTime reaches runAt
  | _ => exact reaches.elim

theorem System.Ripe.spared {exempt : Job Payload → Prop} {middle : Queue Payload}
    (ripe : before.Ripe) (spares : Queue.Spares exempt before.queue middle)
    (due : ∀ job, exempt job → job.payload.isExecute = false →
      ∀ time, job.runAt = some time → time ≤ before.queue.clock)
    (number : Nat) (job : Job Payload) (found : middle.jobs[number]? = some job)
    (announces : job.payload.isExecute = false) : Queue.Ripe before.queue.clock job := by
  refine spares.ripe found fun old stored contents => ?_
  have same : old.payload = job.payload := congrArg (·.2.1) contents
  have silent : old.payload.isExecute = false := by rw [same]; exact announces
  exact ⟨ripe.jobs number old stored silent, fun excepted => due old excepted silent⟩

theorem ripe_step (reached : Reachable env before) (taken : step env before event = some after)
    (inTime : event.isInTime before = true) (ripe : before.Ripe) : after.Ripe := by
  have step := step_cases taken
  have forward := step.clock_le (Reachable.keyed reached) inTime
  refine ⟨?_, ?_⟩
  · intro number job found announces
    refine Queue.Ripe.mono ?_ forward
    cases Reachable.jobs reached taken with
    | kept spares log =>
        exact ripe.spared spares (fun _ reaches => reaches.due inTime) number job found announces
    | committed txn middle spares committed accepts clock queue log =>
        rw [queue] at found
        rcases accepts.origin number job found with old | ⟨request, member, rfl, _⟩
        · exact ripe.spared spares (fun _ reaches => reaches.due inTime) number job old announces
        · rw [clock]
          exact Queue.placed_ripe _ request
  · intro claim member announces time runAt
    refine Nat.le_trans ?_ forward
    rcases step.claims claim member with old | ⟨number, lease, period, queue, rfl, granted⟩
    · exact ripe.claims claim old announces time runAt
    · obtain ⟨job, found, waiting, grants⟩ := Queue.take_waiting granted
      cases grants
      rcases ripe.jobs number job found announces with scheduled | due
      · rw [waiting] at scheduled
        cases scheduled
      · exact due time runAt

theorem empty_ripe : System.empty.Ripe := by
  refine ⟨?_, ?_⟩
  · intro number job found
    change (∅ : Table Nat (Job Payload))[number]? = some job at found
    rw [Std.ExtTreeMap.getElem?_empty] at found
    cases found
  · intro claim member
    cases member

/-! ## What is enqueued -/

/-- What holds of every message and timer a move enqueues holds of those in the queue and of those
claimed. -/
theorem Reachable.job_invariant (holds : Payload → Option Nat → Prop)
    (each : ∀ txn label next, Move env txn label next → ∀ request ∈ label.announcements env txn,
      holds request.payload request.runAt) (reached : Reachable env system) :
    (∀ (number : Nat) (job : Job Payload), system.queue.jobs[number]? = some job →
      job.payload.isExecute = false → holds job.payload job.runAt) ∧
    ∀ claim ∈ system.claims, claim.payload.isExecute = false →
      holds claim.payload claim.runAt := by
  refine Machine.Reachable.invariant (fun system =>
    (∀ (number : Nat) (job : Job Payload), system.queue.jobs[number]? = some job →
      job.payload.isExecute = false → holds job.payload job.runAt) ∧
    ∀ claim ∈ system.claims, claim.payload.isExecute = false →
      holds claim.payload claim.runAt) reached ⟨?_, ?_⟩ ?_
  · intro number job found
    change (∅ : Table Nat (Job Payload))[number]? = some job at found
    rw [Std.ExtTreeMap.getElem?_empty] at found
    cases found
  · intro claim member
    cases member
  · intro before event after reached ⟨jobs, claims⟩ taken
    have spared {exempt : Job Payload → Prop} {middle : Queue Payload}
        (spares : Queue.Spares exempt before.queue middle) (number : Nat) (job : Job Payload)
        (found : middle.jobs[number]? = some job) (announces : job.payload.isExecute = false) :
        holds job.payload job.runAt := by
      obtain ⟨old, stored, contents, _⟩ := spares.origin found
      have payload : old.payload = job.payload := congrArg (·.2.1) contents
      have runAt : old.runAt = job.runAt := congrArg (·.2.2) contents
      rw [← payload, ← runAt]
      exact jobs number old stored (by rw [payload]; exact announces)
    refine ⟨?_, ?_⟩
    · intro number job found announces
      cases Reachable.jobs reached taken with
      | kept spares log => exact spared spares number job found announces
      | committed txn middle spares committed accepts clock queue log =>
          rw [queue] at found
          rcases accepts.origin number job found with old | ⟨request, member, rfl, _⟩
          · exact spared spares number job old announces
          · have announced := committed.trail.announced (fun request =>
              holds request.payload request.runAt) (fun first label second _ move _ =>
                each first label second move) request (mem_announcementsOf.mpr ⟨member, announces_iff.mpr announces⟩)
            rcases announced with none | held
            · cases none
            · exact held
    · intro claim member announces
      rcases (step_cases taken).claims claim member with
        old | ⟨number, lease, period, queue, rfl, granted⟩
      · exact claims claim old announces
      · obtain ⟨job, found, waiting, grants⟩ := Queue.take_waiting granted
        cases grants
        exact jobs number job found announces

/-- The timer of a schedule's firing runs at the time of the firing. -/
theorem Reachable.stamped (reached : Reachable env system) (claim : Claim)
    (member : claim ∈ system.claims) {id : String} {time : Int}
    (timed : claim.payload = .timer (.schedule id time)) : claim.runAt = some time.toNat := by
  have stamped := (Reachable.job_invariant (fun payload runAt => ∀ id time,
    payload = .timer (.schedule id time) → runAt = some time.toNat) ?_ reached).2 claim member
      (by rw [timed]; rfl)
  · exact stamped id time timed
  · intro txn label next move request member id time payload
    cases mem_announcements member with
    | unblock label promise final address settles listed => cases payload
    | deadline data createdAt mode pending external => cases payload
    | added schedule =>
        cases payload
        rfl
    | advanced schedule following later =>
        cases payload
        rfl

end

end Resonate
