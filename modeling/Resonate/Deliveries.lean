import Resonate.Outstanding

set_option autoImplicit false

/-! The delivery of unblock messages: the job of a message is acknowledged before the message is
passed to the callbacks. -/

namespace Resonate

open Kernel
open LeaseQueue (Queue Job)

/-- The job of a message lies in the queue. -/
def System.Queued (system : System) (number : Nat) (message : Message) : Prop :=
  ∃ (queue : String) (runAt : Option Nat),
    system.queue.contents number = some (queue, .unblock message, runAt)

/-- The messages of the jobs that were in the queue and no longer are have been passed to the
callbacks. -/
def PassedFirst (past : List (Machine.Entry System Event)) (system : System) : Prop :=
  ∀ entry ∈ past, ∀ (number : Nat) (job : Job Payload) (message : Message),
    entry.before.queue.jobs[number]? = some job → job.payload = .unblock message →
    system.queue.jobs[number]? = none → (number, message) ∈ system.sent

/-- The delivery of a message is finished in time: it acknowledges its job under a claim that is still
current. -/
def Event.FinishesInTime (before : System) (event : Event) (number : Nat) : Prop :=
  event = .finish ∧ ∃ claim message rest, before.after = .ack claim :: rest ∧ claim.id = number ∧
    claim.payload = .unblock message ∧ before.queue.current claim = true

/-- The delivery of a job is finished, in time or not. -/
def Event.Finishes (before : System) (event : Event) (number : Nat) : Prop :=
  event = .finish ∧ ∃ message, before.delivering = some (number, message)

/-- The store is opened again while a delivery loop has a message whose job is gone. -/
def Event.Interrupts (before : System) (event : Event) : Prop :=
  event = .reopen ∧ ∃ number message, (number, message) ∈ before.outbox ∧
    (number, message) ∉ before.sent ∧ ¬ before.Queued number message

section

variable {env : Env} {before after system : System} {event : Event} {number : Nat}
  {message : Message} {past : List (Machine.Entry System Event)}

theorem queued_of_job {job : Job Payload} (found : system.queue.jobs[number]? = some job)
    (payload : job.payload = .unblock message) : system.Queued number message := by
  refine ⟨job.queue, job.runAt, ?_⟩
  unfold Queue.contents
  rw [found, ← payload]
  rfl

theorem System.Queued.stored (queued : system.Queued number message) :
    system.queue.jobs[number]? ≠ none := by
  obtain ⟨queue, runAt, contents⟩ := queued
  intro absent
  unfold Queue.contents at contents
  simp [absent] at contents

/-- A message that was passed stays passed. -/
theorem Step.sent (step : Step env before event after) : before.sent ⊆ after.sent := by
  cases step with
  | passed entry member => exact List.subset_append_left _ _
  | _ => exact fun _ member => member

/-- The job of a message leaves the queue only when its delivery acknowledges it. -/
theorem System.Queued.step (queued : before.Queued number message) (reached : Reachable env before)
    (taken : step env before event = some after) :
    after.Queued number message ∨ event = .finish ∧ ∃ claim rest, before.after = .ack claim :: rest ∧
      claim.id = number ∧ claim.payload = .unblock message ∧
      before.queue.current claim = true := by
  have booked : Booked env before := Reachable.booked reached
  obtain ⟨queue, runAt, contents⟩ := queued
  rcases Reachable.announced reached taken number queue (.unblock message) runAt (by simp) contents
    with kept | ⟨claim, member, _, own⟩ | ⟨finishes, claim, rest, pending, own, current⟩
  · exact .inl ⟨queue, runAt, kept⟩
  · obtain ⟨matched, timer, payload⟩ := booked.fired claim member
    subst own
    have same : .unblock message = claim.payload := congrArg (·.2.1) (matched.contents _ contents)
    rw [payload] at same
    cases same
  · obtain ⟨matched, _⟩ := booked.acknowledged pending
    subst own
    have same : .unblock message = claim.payload := congrArg (·.2.1) (matched.contents _ contents)
    exact .inr ⟨finishes, claim, rest, pending, rfl, same.symm, current⟩

/-! ## Messages in hand -/

/-- Only the delivery of a claim acknowledges it after its commit. -/
theorem ack_of_follows {txn : Txn} {label : Label} {claim : Claim}
    (member : .ack claim ∈ label.follows txn) : label = .ack claim := by
  have unreleased (id : String) : After.ack claim ∉ releasesOf txn id := by
    unfold releasesOf
    split
    · split <;> simp
    · simp
  cases label with
  | expire promise => exact absurd member (unreleased promise.record.id)
  | strike promise => exact absurd member (unreleased promise.record.id)
  | settle promise state value => exact absurd member (unreleased promise.record.id)
  | create data createdAt mode =>
      simp only [Label.follows, createFollows] at member
      split at member
      · simp only [startFollows] at member
        repeat' split at member
        all_goals simp at member
      · simp at member
  | ack other =>
      simp only [Label.follows, List.mem_singleton, After.ack.injEq] at member
      rw [member]
  | _ => simp [Label.follows] at member

theorem Trail.acks {permits : Label → Prop} {first last : Txn} {claim : Claim}
    (trail : Trail env permits first last) (member : .ack claim ∈ last.after) :
    .ack claim ∈ first.after ∨ permits (.ack claim) := by
  induction trail with
  | refl txn => exact .inl member
  | step label permitted move rest ih =>
      rcases ih member with before | allowed
      · rw [move.after] at before
        rcases List.mem_append.mp before with old | new
        · exact .inl old
        · rw [ack_of_follows new] at permitted
          exact .inr permitted
      · exact .inr allowed

/-- The only work after the commit that delivers a message is its acknowledgement. -/
def System.Handing (system : System) : Prop :=
  ∀ claim message, .ack claim ∈ system.after → claim.payload = .unblock message →
    system.after = [.ack claim] ∧ system.delivering = some (claim.id, message)

theorem Step.handing (keyed : (before.txn env).Keyed) (step : Step env before event after)
    (handing : before.Handing) : after.Handing := by
  have idle {later : System} (free : later.after = []) : later.Handing := by
    intro claim message member
    rw [free] at member
    cases member
  have requested (request : Request) {later : System}
      (same : later.after = (handle env (before.txn env) request).txn.after) :
      later.Handing := by
    intro claim message member
    rw [same] at member
    have trail := (handle_outcome env keyed request).trail keyed
    rcases trail.acks member with old | permitted
    · cases old
    · exact permitted.elim
  cases step with
  | dropped request stored unlocked exit => exact idle rfl
  | committed request unlocked exit => exact requested request rfl
  | acked request taskId commit unlocked exit committed =>
      obtain ⟨claim, held, current, rfl⟩ := commitAck_acked committed
      exact requested request rfl
  | lost request taskId commit unlocked exit committed =>
      obtain ⟨held, rfl, fewer⟩ := commitAck_lost committed
      exact idle rfl
  | undecoded claim stored unlocked member addressed refused => exact idle unlocked
  | undelivered claim txn message unlocked member addressed delivered => exact idle rfl
  | delivered claim txn message unlocked member addressed delivered =>
      intro taken other inside payload
      have trail := deliver_trail keyed claim txn message delivered
      rcases trail.acks inside with old | permitted
      · cases old
      · have same : taken = claim := permitted
        subst same
        unfold deliver at delivered
        rw [payload] at delivered
        cases delivered
        exact ⟨rfl, rfl⟩
  | unfired claim timer txn unlocked member timed payload fired => exact idle rfl
  | fired claim timer txn unlocked member timed payload fired =>
      intro taken other inside own
      have trail := fire_trail env keyed timer
      rw [fired] at trail
      rcases trail.acks inside with old | permitted
      · cases old
      · exact permitted.elim
  | outlived claim stored timer txn exit unlocked member timed payload fired left => exact idle rfl
  | finished action rest pending =>
      intro claim message member payload
      have inside : After.ack claim ∈ before.after := by
        rw [pending]
        exact List.mem_cons_of_mem _ member
      have alone := (handing claim message inside payload).1
      rw [pending] at alone
      have none_ : rest = [] := (List.cons.inj alone).2
      change After.ack claim ∈ rest at member
      rw [none_] at member
      cases member
  | reopened => exact idle rfl
  | _ => exact handing

theorem Reachable.handing (reached : Reachable env system) : system.Handing := by
  refine Machine.Reachable.invariant System.Handing reached ?_ ?_
  · intro claim message member
    cases member
  · intro before event after reached handing taken
    exact (step_cases taken).handing (Reachable.keyed reached) handing

/-! ## Runs -/

/-- A job that is never acknowledged in time stays in the queue. -/
theorem History.queued (history : History env past system)
    (late : Machine.Meets (fun before event => ∀ number, ¬ event.FinishesInTime before number) past) :
    ∀ entry ∈ past, ∀ (number : Nat) (job : Job Payload) (message : Message),
      entry.before.queue.jobs[number]? = some job → job.payload = .unblock message →
      system.Queued number message := by
  induction history with
  | start =>
      intro entry member
      cases member
  | @extend older before after event previous taken ih =>
      intro entry member number job message found payload
      have queued : before.Queued number message := by
        rcases List.mem_cons.mp member with rfl | earlier
        · exact queued_of_job found payload
        · exact ih late.tail entry earlier number job message found payload
      rcases queued.step ⟨_, previous⟩ taken with
        still | ⟨finishes, claim, rest, pending, own, payload, current⟩
      · exact still
      · exact absurd ⟨finishes, claim, message, rest, pending, own, payload, current⟩
          (late.head number)

/-- What lies with a delivery loop or was passed came from a delivery that was finished. -/
theorem Step.passing (step : Step env before event after)
    (known : (number, message) ∈ after.sent ∨ (number, message) ∈ after.outbox) :
    ((number, message) ∈ before.sent ∨ (number, message) ∈ before.outbox) ∨
      event.Finishes before number := by
  cases step with
  | finished action rest pending =>
      rcases known with sent | owed
      · exact .inl (.inl sent)
      · change _ ∈ if rest = [] then before.outbox ++ before.delivering.toList else before.outbox
          at owed
        split at owed
        · rcases List.mem_append.mp owed with old | handed
          · exact .inl (.inr old)
          · exact .inr ⟨rfl, message, Option.mem_toList.mp handed⟩
        · exact .inl (.inr owed)
  | passed entry member =>
      rcases known with sent | owed
      · rcases List.mem_append.mp sent with old | new
        · exact .inl (.inl old)
        · rw [List.mem_singleton.mp new]
          exact .inl (.inr member)
      · exact .inl (.inr (List.mem_of_mem_erase owed))
  | reopened =>
      rcases known with sent | owed
      · exact .inl (.inl sent)
      · cases owed
  | _ => exact .inl known

theorem History.passing (history : History env past system)
    (known : (number, message) ∈ system.sent ∨ (number, message) ∈ system.outbox) :
    ∃ entry ∈ past, entry.label.Finishes entry.before number := by
  induction history with
  | start => rcases known with sent | owed <;> contradiction
  | extend previous taken ih =>
      rcases (step_cases taken).passing known with earlier | finishes
      · obtain ⟨entry, member, finished⟩ := ih earlier
        exact ⟨entry, List.mem_cons_of_mem _ member, finished⟩
      · exact ⟨_, List.mem_cons_self, finishes⟩

/-- A delivery that is finished in time removes its job, and has passed nothing if it is the first. -/
theorem Event.FinishesInTime.loses (finishes : event.FinishesInTime before number)
    (history : History env past before)
    (first : ∀ entry ∈ past, ¬ entry.label.Finishes entry.before number)
    (taken : step env before event = some after) :
    ∃ (job : Job Payload) (message : Message), before.queue.jobs[number]? = some job ∧
      job.payload = .unblock message ∧ after.queue.jobs[number]? = none ∧
      (number, message) ∉ after.sent := by
  obtain ⟨rfl, claim, message, rest, pending, rfl, payload, current⟩ := finishes
  have unpassed : (claim.id, message) ∉ before.sent := by
    intro sent
    obtain ⟨entry, member, finishes⟩ := history.passing (.inl sent)
    exact first entry member finishes
  have booked : Booked env before := Reachable.booked ⟨past, history⟩
  obtain ⟨matched, _⟩ := booked.acknowledged pending
  obtain ⟨job, found, _⟩ := (Queue.current_iff _ _).mp current
  have own : job.payload = claim.payload := by
    have contents : before.queue.contents claim.id = some job.contents := by
      unfold Queue.contents
      rw [found]
      rfl
    exact congrArg (·.2.1) (matched.contents _ contents)
  cases step_cases taken with
  | finished action rest_ left =>
      rw [pending] at left
      cases left
      refine ⟨job, message, found, own.trans payload, ?_, unpassed⟩
      change ((before.queue.ack claim).getD before.queue).jobs[claim.id]? = none
      unfold Queue.ack
      rw [if_pos current]
      change (before.queue.jobs.erase claim.id)[claim.id]? = none
      rw [Table.find_erase]
      exact if_pos rfl

/-- A message a delivery loop has is passed, or lost when the store is opened again. -/
theorem Step.outbox (step : Step env before event after)
    (member : (number, message) ∈ before.outbox) :
    (number, message) ∈ after.outbox ∨ (number, message) ∈ after.sent ∨ event = .reopen := by
  cases step with
  | finished action rest pending =>
      left
      change _ ∈ if rest = [] then before.outbox ++ before.delivering.toList else before.outbox
      split
      · exact List.mem_append_left _ member
      · exact member
  | passed entry inside =>
      by_cases own : (number, message) = entry
      · right
        left
        change _ ∈ before.sent ++ [entry]
        simp [own]
      · left
        exact (List.mem_erase_of_ne own).mpr member
  | reopened => exact .inr (.inr rfl)
  | _ => exact .inl member

/-- A job of the queue stays there, or its message lies with a delivery loop or is passed, unless
the store is opened again in between. -/
theorem owed_step (reached : Reachable env before) (taken : step env before event = some after)
    (undisturbed : ¬ event.Interrupts before)
    (kept : before.Queued number message ∨ (number, message) ∈ before.sent ∨
      (number, message) ∈ before.outbox) :
    after.Queued number message ∨ (number, message) ∈ after.sent ∨
      (number, message) ∈ after.outbox := by
  have grows := (step_cases taken).sent
  have queued_step (queued : before.Queued number message) :
      after.Queued number message ∨ (number, message) ∈ after.outbox := by
    rcases queued.step reached taken with still | ⟨rfl, claim, rest, pending, own, payload, _⟩
    · exact .inl still
    · have handing : before.Handing := Reachable.handing reached
      obtain ⟨alone, message⟩ := handing claim message (by simp [pending]) payload
      rw [pending] at alone
      have none_ : rest = [] := (List.cons.inj alone).2
      cases step_cases taken with
      | finished action rest_ left =>
          rw [pending] at left
          cases left
          right
          change _ ∈ if rest = [] then before.outbox ++ before.delivering.toList else before.outbox
          rw [if_pos none_, message]
          simp [own]
  rcases kept with queued | passed | owed
  · rcases queued_step queued with still | handed
    · exact .inl still
    · exact .inr (.inr handed)
  · exact .inr (.inl (grows passed))
  · rcases (step_cases taken).outbox owed with still | passed | rfl
    · exact .inr (.inr still)
    · exact .inr (.inl passed)
    · by_cases passed : (number, message) ∈ before.sent
      · exact .inr (.inl (grows passed))
      · by_cases queued : before.Queued number message
        · rcases queued_step queued with still | handed
          · exact .inl still
          · exact .inr (.inr handed)
        · exact absurd ⟨rfl, number, message, owed, passed, queued⟩ undisturbed

theorem History.owed (history : History env past system)
    (undisturbed : Machine.Meets (fun before event => ¬ event.Interrupts before) past) :
    ∀ entry ∈ past, ∀ (number : Nat) (job : Job Payload) (message : Message),
      entry.before.queue.jobs[number]? = some job → job.payload = .unblock message →
      system.Queued number message ∨ (number, message) ∈ system.sent ∨
        (number, message) ∈ system.outbox := by
  induction history with
  | start =>
      intro entry member
      cases member
  | extend previous taken ih =>
      intro entry member number job message found payload
      apply owed_step ⟨_, previous⟩ taken undisturbed.head
      rcases List.mem_cons.mp member with rfl | older
      · exact .inl (queued_of_job found payload)
      · exact ih undisturbed.tail entry older number job message found payload

end

/-- In the runs where no delivery of a message is finished under a claim that is still current, the job
of a message is removed only after the message was passed. The first delivery of a job that is finished
in time removes the job before its message is passed. In a run that is never opened again while a
delivery loop has such a message, every message whose job is gone was passed or lies with the loop. -/
theorem unblocks_passed_first {env : Env} {past : List (Machine.Entry System Event)}
    {system : System} (history : History env past system) :
    (Machine.Meets (fun before event => ∀ number, ¬ event.FinishesInTime before number) past →
      ∀ newer older state, newer ++ older = past → History env older state →
        PassedFirst older state) ∧
    (∀ newer entry older number, past = newer ++ entry :: older →
      entry.label.FinishesInTime entry.before number →
      (∀ earlier ∈ older, ¬ earlier.label.Finishes earlier.before number) →
      ¬ PassedFirst (entry :: older) entry.after) ∧
    (Machine.Meets (fun before event => ¬ event.Interrupts before) past →
      ∀ entry ∈ past, ∀ (number : Nat) (job : Job Payload) (message : Message),
        entry.before.queue.jobs[number]? = some job → job.payload = .unblock message →
        system.queue.jobs[number]? = none →
        (number, message) ∈ system.sent ∨ (number, message) ∈ system.outbox) := by
  refine ⟨?_, ?_, ?_⟩
  · intro late newer older state same reached entry member number job message found payload gone
    have met : Machine.Meets (fun before event => ∀ number, ¬ event.FinishesInTime before number)
        older := by
      intro earlier inside
      apply late
      rw [← same]
      exact List.mem_append_right _ inside
    have queued := History.queued reached met entry member number job message found payload
    exact absurd gone queued.stored
  · rintro newer entry older number rfl inTime first passed
    have taken := history.taken entry (List.mem_append_right _ List.mem_cons_self)
    obtain ⟨job, message, found, payload, gone, unpassed⟩ :=
      inTime.loses (Machine.History.split history) first taken
    exact unpassed (passed entry List.mem_cons_self number job message found payload gone)
  · intro undisturbed entry member number job message found payload gone
    rcases (History.owed history undisturbed) entry member number job message found payload with
      queued | owed
    · exact absurd gone queued.stored
    · exact owed

/-- The message of a promise settled at the start. -/
def settledSample : Message :=
  .unblock { (newPromise .awaitedSample none 0).record with state := .resolved, settledAt := some 0 }

def unblockClaim (token : Nat) : Claim :=
  ⟨1, "resonate.a.poll_3A_2F_2Fany_40a", .unblock settledSample, none, token⟩

def settledRun : List Event :=
  [.request (.promiseCreate .awaitedSample) true,
    .request (.promiseRegisterListener ⟨"root:0", "poll://any@a"⟩) true,
    .request (.promiseSettle ⟨"root:0", .resolved, {}⟩) true, .take 1 0]

/-- The delivery of a message is finished after its lease has ended, and the message is passed. -/
def outlastedRun : List Event :=
  settledRun ++ [.clock 40, .reap 1, .deliver (unblockClaim 0) true, .finish,
    .pass (1, settledSample)]

theorem outlastedRun_ends : (Machine.trace (step .sample) [] .empty outlastedRun).isSome = true := by
  decide

def outlastedTrace : List (Machine.Entry System Event) × System :=
  (Machine.trace (step .sample) [] .empty outlastedRun).get outlastedRun_ends

theorem outlasted_history : History .sample outlastedTrace.1 outlastedTrace.2 :=
  Machine.history_of_trace outlastedRun_ends

/-- The process stops between the acknowledgement of a message and its callbacks. -/
def stoppedRun : List Event :=
  settledRun ++ [.deliver (unblockClaim 0) true, .finish, .reopen]

theorem stoppedRun_ends :
    (Machine.trace (step .sample) [] .empty stoppedRun).isSome = true := by
  decide

def stoppedTrace : List (Machine.Entry System Event) × System :=
  (Machine.trace (step .sample) [] .empty stoppedRun).get stoppedRun_ends

theorem stopped_history : History .sample stoppedTrace.1 stoppedTrace.2 :=
  Machine.history_of_trace stoppedRun_ends

/-- The acknowledgement before the stop. -/
def stoppedFinish : Machine.Entry System Event := stoppedTrace.1.get ⟨1, by decide⟩

/-- A delivery that is late leaves its job to be delivered again, and one that is in time and stopped
before its callbacks does not. -/
theorem unblocks_passed_first_late :
    (PassedFirst outlastedTrace.1 outlastedTrace.2 ∧ (1, settledSample) ∈ outlastedTrace.2.sent ∧
      outlastedTrace.2.queue.jobs[1]?.isSome = true) ∧
    ∃ newer entry older, stoppedTrace.1 = newer ++ entry :: older ∧
      ¬ PassedFirst (entry :: older) entry.after := by
  have lapsed : ∀ entry ∈ outlastedTrace.1, ∀ action ∈ entry.before.after,
      action = .ack (unblockClaim 0) ∧ entry.before.queue.current (unblockClaim 0) = false := by
    decide
  have late : Machine.Meets (fun before event => ∀ number, ¬ event.FinishesInTime before number)
      outlastedTrace.1 := by
    rintro entry member number ⟨_, claim, message, rest, pending, _, _, current⟩
    obtain ⟨same, stale⟩ := lapsed entry member (.ack claim) (by simp [pending])
    cases same
    rw [stale] at current
    cases current
  have split : stoppedTrace.1 =
      stoppedTrace.1.take 1 ++ stoppedFinish :: stoppedTrace.1.drop 2 := by
    rw [show stoppedFinish :: stoppedTrace.1.drop 2 = stoppedTrace.1.drop 1 from
      (List.drop_eq_getElem_cons (by decide)).symm, List.take_append_drop]
  have pending : stoppedFinish.before.after = [.ack (unblockClaim 0)] ∧
      stoppedFinish.before.queue.current (unblockClaim 0) = true := by
    decide
  have first : ∀ earlier ∈ stoppedTrace.1.drop 2, earlier.before.delivering = none := by decide
  have passed := (unblocks_passed_first outlasted_history).1 late [] _ _ rfl outlasted_history
  refine ⟨⟨passed, by decide, by decide⟩, _, _, _, split, ?_⟩
  refine (unblocks_passed_first stopped_history).2.1 _ _ _ 1 split
    ⟨rfl, unblockClaim 0, settledSample, [], pending.1, rfl, rfl, pending.2⟩ ?_
  rintro earlier member ⟨_, message, delivering⟩
  rw [first earlier member] at delivering
  cases delivering

/-- A settled promise whose listener is told by no one: its message is gone. -/
theorem unblock_lost :
    ∃ past system, History .sample past system ∧ ¬ PassedFirst past system ∧
      system.queue.jobs[1]? = none ∧ system.sent = [] ∧ system.outbox = [] ∧ system.claims = [] := by
  have queued : ∃ entry ∈ stoppedTrace.1,
      (entry.before.queue.jobs[1]?).any (fun job => job.payload = .unblock settledSample) = true := by
    decide
  have ended : stoppedTrace.2.queue.jobs[1]? = none ∧ stoppedTrace.2.sent = [] ∧
      stoppedTrace.2.outbox = [] ∧ stoppedTrace.2.claims = [] := by
    decide
  obtain ⟨entry, member, stored⟩ := queued
  obtain ⟨job, found, payload⟩ := (Option.any_eq_true _ _).mp stored
  refine ⟨_, _, stopped_history, ?_, ended⟩
  intro passed
  have sent := passed entry member 1 job settledSample found (of_decide_eq_true payload) ended.1
  rw [ended.2.1] at sent
  cases sent

end Resonate
