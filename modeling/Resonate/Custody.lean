import Resonate.Holding

set_option autoImplicit false

/-! The store's held claims in every state of a run, and what becomes of the dispatches. -/

namespace Resonate

open Kernel
open LeaseQueue (Queue EnqueueRequest)

/-- Whether a task is to be dispatched: it is pending or acquired, and not overdue. -/
def System.isDue (system : System) (id : String) : Bool :=
  (system.task id).any (fun task => task.state == .pending || task.state == .acquired) &&
    (system.cell id).isOpen system.now

/-- Whether a delivered job is still in the queue, where its task is to be dispatched. -/
def Event.isCurrent (before : System) : Event → Bool
  | .deliver claim true =>
      match claim.payload with
      | .execute id => !before.isDue id || (before.queue.jobs[claim.id]?).isSome
      | _ => true
  | _ => true

theorem Event.queued_of_current {before : System} {claim : Claim} {id : String}
    {task : StoredTask} (current : Event.isCurrent before (.deliver claim true) = true)
    (payload : claim.payload = .execute id) (stored : before.task id = some task)
    (live : task.Live) (opened : (before.cell id).isOpen before.now = true) :
    ∃ contents, before.queue.contents claim.id = some contents := by
  have due : before.isDue id = true := by
    unfold System.isDue
    rw [stored, opened]
    rcases live with state | state
    all_goals
      rw [Option.any_some, state]
      rfl
  simp only [Event.isCurrent, payload, due, Bool.not_true, Bool.false_or] at current
  obtain ⟨job, found⟩ := Option.isSome_iff_exists.mp current
  refine ⟨job.contents, ?_⟩
  unfold Queue.contents
  rw [found]
  rfl

section

variable {env : Env} {before after system : System}

/-- What is committed keeps its claims backed. -/
theorem Txn.Backed.absorbed {txn : Txn} (backed : txn.Backed) (stores : Stores txn after)
    (held : ∀ (id : String) (claim : Claim), after.held[id]? = some claim →
      txn.held[id]? = some claim) (follows : after.after = txn.after) :
    (after.view env).Backed := by
  have tasks : (after.view env).getTask = txn.getTask := (view_getTask env after).trans stores.task
  refine ⟨?_, ?_⟩
  · intro id claim found
    rw [tasks]
    change Backs txn.getTask id claim.id after.after
    rw [follows]
    exact backed.held id claim (held id claim found)
  · rw [tasks]
    change Backing txn.getTask after.after
    rw [follows]
    exact backed.taken

/-- What an undone transaction leaves is backed by the tasks it started from. -/
theorem Rooted.discarded {strict : Prop} {txn : Txn} (rooted : Rooted before.task strict txn)
    (kv : after.kv = before.kv)
    (held : ∀ (id : String) (claim : Claim), after.held[id]? = some claim →
      txn.held[id]? = some claim) (follows : after.after = []) : (after.view env).Backed := by
  refine ⟨?_, ?_⟩
  · intro id claim found
    obtain ⟨task, stored, recorded, live⟩ := rooted.held id claim (held id claim found)
    refine ⟨task, ?_, recorded, .inl live⟩
    rw [view_getTask]
    unfold System.task at stored ⊢
    rw [kv]
    exact stored
  · change Backing _ after.after
    rw [follows]
    trivial

/-- Between commits every held claim is of a live task's job. -/
theorem Txn.Backed.started (backed : (system.view env).Backed) (unlocked : system.after = [])
    (strict : Prop) : (system.txn env).Backed ∧ Rooted system.task strict (system.txn env) := by
  have live {id : String} {claim : Claim} (found : system.held[id]? = some claim) :
      ∃ task, system.task id = some task ∧ task.job = some claim.id ∧ task.Live := by
    obtain ⟨task, stored, recorded, state⟩ := backed.held id claim found
    rw [view_getTask] at stored
    refine ⟨task, stored, recorded, ?_⟩
    rcases state with live | release
    · exact live
    · change .release id ∈ system.after at release
      rw [unlocked] at release
      cases release
  refine ⟨⟨?_, trivial⟩, ⟨fun id claim found => live found, ?_⟩⟩
  · intro id claim found
    obtain ⟨task, stored, recorded, lives⟩ := live found
    rw [System.getTask_txn]
    exact ⟨task, stored, recorded, .inl lives⟩
  · intro _ id task stored ended
    rw [System.getTask_txn]
    exact ⟨task, stored, ended⟩

theorem Booked.named (booked : Booked env before) (job : Nat)
    (contents : String × Payload × Option Nat) (id : String)
    (queued : before.queue.contents job = some contents) (executes : contents.2.1 = .execute id) :
    ∃ task, before.task id = some task ∧ task.job = some job ∧ task.state ≠ .suspended := by
  obtain ⟨task, stored, recorded, awake⟩ :=
    booked.sound.ledger.named job id (.inl ⟨contents, queued, executes⟩)
  rw [view_getTask] at stored
  exact ⟨task, stored, recorded, awake⟩

/-! ## Requests -/

theorem Booked.rooted (booked : Booked env before) (backed : (before.view env).Backed)
    (unlocked : before.after = []) (keyed : (before.txn env).Keyed)
    (coupled : ∀ id, Coupled ((before.txn env).cell id)) {request : Request} {txn : Txn}
    (trail : Trail env request.awake (before.txn env) txn) :
    Rooted before.task request.Continues txn :=
  trail.rooted keyed coupled (booked.start _) (fun _ => Request.allowed)
    (fun _ none => absurd none id) booked.named (backed.started unlocked _).2

theorem Booked.backed (booked : Booked env before) (backed : (before.view env).Backed)
    (unlocked : before.after = []) (keyed : (before.txn env).Keyed)
    (coupled : ∀ id, Coupled ((before.txn env).cell id)) {request : Request} {txn : Txn}
    (trail : Trail env request.awake (before.txn env) txn) : txn.Backed :=
  trail.backed keyed coupled (booked.start _) (fun _ => Request.allowed)
    (fun _ none => absurd none id) (fun _ _ permitted => absurd permitted.1 id)
    (backed.started unlocked request.Continues).1

/-- A suspend takes over no claim. -/
theorem Trail.untaken {data : TaskSuspendData} {first second : Txn}
    (trail : Trail env (Request.taskSuspend data).awake first second)
    (untaken : ∀ action ∈ first.after, action.takes = none) :
    ∀ action ∈ second.after, action.takes = none := by
  induction trail with
  | refl txn => exact untaken
  | step label permitted move rest ih =>
      refine ih ?_
      rw [move.after]
      intro action member
      rcases List.mem_append.mp member with old | new
      · exact untaken action old
      · obtain ⟨permitted, _⟩ := permitted
        cases label with
        | expire promise => exact releasesOf_takes _ _ action new
        | settle promise state value => cases permitted
        | create data createdAt mode => cases permitted.2
        | release task => cases permitted
        | halt task => cases permitted
        | strike promise => exact absurd permitted id
        | ack claim => exact absurd permitted id
        | hold task claim => exact absurd permitted id
        | _ => cases new

/-- Putting a task to sleep as its claim is acknowledged leaves every claim backed. -/
theorem Txn.Backed.slept {earlier : Txn} {task : StoredTask} {awaited : List String} {next : Txn}
    (backed : earlier.Backed)
    (untaken : ∀ action ∈ earlier.after, action.takes = none)
    (move : Move env earlier (.suspend task awaited) next) (removed : Nat) :
    ({ next with
      held := next.held.erase task.id
      queue := next.queue.remove removed } : Txn).Backed := by
  cases move with
  | suspend task awaited stored acquired some_awaited listed =>
      refine ⟨?_, backing_of_none untaken⟩
      intro id claim found
      change (earlier.held.erase task.id)[id]? = some claim at found
      rw [Table.find_erase] at found
      split at found
      · cases found
      · rename_i other
        obtain ⟨old, present, recorded, state⟩ := backed.held id claim found
        refine ⟨old, ?_, recorded, state⟩
        change (earlier.putTask { task.transition .suspended with resumes := ∅ }).getTask id = _
        rw [Txn.getTask_putTask]
        exact (if_neg other).trans present

theorem Step.backed_request {request : Request} {stored : Bool} (booked : Booked env before)
    (backed : (before.view env).Backed) (keyed : (before.txn env).Keyed)
    (coupled : ∀ id, Coupled ((before.txn env).cell id))
    (step : Step env before (.request request stored) after) : (after.view env).Backed := by
  have handled := handle_cases env keyed coupled request
  have undone (unlocked : before.after = []) {response : Response}
      (handled : Handled env request (before.txn env) response) (held : Held)
      (fewer : ∀ (id : String) (claim : Claim), held[id]? = some claim →
        response.txn.held[id]? = some claim) :
      ((before.absorb { response.txn with held }.discard).view env).Backed := by
    have rooted {txn : Txn} (awake : Trail env request.awake (before.txn env) txn) :=
      (booked.rooted backed unlocked keyed coupled awake)
    cases handled with
    | plain response exit awake =>
        exact (rooted awake).discarded awake.fixed.kv fewer rfl
    | fulfilled response id promise exit awake stored settled =>
        exact (rooted awake).discarded awake.fixed.kv fewer rfl
    | asleep earlier next task awaited reply awake permitted move =>
        cases move with
        | suspend task awaited stored acquired some_awaited listed =>
            exact (rooted awake).discarded awake.fixed.kv fewer rfl
  cases step with
  | dropped request stored unlocked exit =>
      exact undone unlocked handled _ fun _ _ found => found
  | committed request unlocked exit =>
      generalize handle env (before.txn env) request = response at handled exit
      cases handled with
      | plain response plain awake =>
          exact (booked.backed backed unlocked keyed coupled awake).absorbed (stores_of_kv rfl)
            (fun _ _ found => found) rfl
      | fulfilled response id promise acked awake promised settled =>
          rw [exit] at acked
          cases acked
      | asleep earlier next task awaited reply awake permitted move => cases exit
  | acked request taskId commit unlocked exit committed =>
      obtain ⟨claim, held, current, rfl⟩ := commitAck_acked committed
      generalize handle env (before.txn env) request = response at handled exit held current
      cases handled with
      | plain response plain awake => exact absurd exit (plain.ne_commitAck taskId)
      | fulfilled response id promise acked awake promised settled =>
          exact (booked.backed backed unlocked keyed coupled awake).absorbed (stores_of_kv rfl)
            (fun _ _ found => erased_held found) rfl
      | asleep earlier next task awaited reply awake permitted move =>
          cases exit
          obtain ⟨data, rfl, _⟩ := permitted
          exact ((booked.backed backed unlocked keyed coupled awake).slept
            (awake.untaken fun _ none => nomatch none) move claim.id).absorbed (stores_of_kv rfl)
            (fun _ _ found => found) rfl
  | lost request taskId commit unlocked exit committed =>
      obtain ⟨held, rfl, fewer⟩ := commitAck_lost committed
      exact undone unlocked handled held fewer

/-! ## Deliveries, firings and the queue's own steps -/

theorem Step.backed_deliver {claim : Claim} {stored : Bool} (booked : Booked env before)
    (backed : (before.view env).Backed) (keyed : (before.txn env).Keyed)
    (coupled : ∀ id, Coupled ((before.txn env).cell id))
    (current : Event.isCurrent before (.deliver claim stored) = true)
    (step : Step env before (.deliver claim stored) after) : (after.view env).Backed := by
  cases step with
  | undecoded claim stored unlocked member addressed refused =>
      exact ⟨backed.held, backed.taken⟩
  | undelivered claim txn message unlocked member addressed delivered =>
      have trail := deliver_trail keyed claim txn message delivered
      have rooted : Rooted before.task False txn := by
        refine trail.rooted keyed coupled (booked.start False) (fun _ => delivery_allowed) ?_
          booked.named (backed.started unlocked False).2
        rintro taken rfl
        exact ⟨booked.claims taken member, deliver_untimed delivered⟩
      exact rooted.discarded trail.fixed.kv (fun _ _ found => found) rfl
  | delivered claim txn message unlocked member addressed delivered =>
      let permits (label : Label) : Prop := deliveryPermits claim label ∧
        ∀ task taken, label = .hold task taken →
          ∃ contents, before.queue.contents claim.id = some contents
      have trail : Trail env permits (before.txn env) txn := by
        refine deliver_moves keyed claim txn message delivered
          (fun _ payload => ⟨payload, fun _ _ same => Label.noConfusion same⟩)
          (fun _ payload => ⟨payload, fun _ _ same => Label.noConfusion same⟩)
          ⟨rfl, fun _ _ same => Label.noConfusion same⟩ ?_
        intro id task payload stored state
        refine ⟨rfl, fun _ _ _ => ?_⟩
        have unfulfilled : task.state ≠ .fulfilled := by
          rcases state with state | state
          all_goals
            rw [state]
            nofun
        obtain ⟨same, opened⟩ := tryTimeout_open keyed coupled stored unfulfilled
        rw [same, System.getTask_txn] at stored
        rw [← cell_isOpen, System.cell_txn] at opened
        exact Event.queued_of_current current payload stored state opened
      have kept : txn.Backed := by
        refine trail.backed keyed coupled (booked.start False)
          (fun _ permitted => delivery_allowed permitted.1) ?_ ?_ (backed.started unlocked False).1
        · rintro taken rfl
          exact ⟨booked.claims taken member, deliver_untimed delivered⟩
        · rintro task taken ⟨rfl, queued⟩
          exact queued task taken rfl
      exact kept.absorbed (stores_of_kv rfl) (fun _ _ found => found) rfl

theorem Step.backed_fire {claim : Claim} {stored : Bool} (booked : Booked env before)
    (backed : (before.view env).Backed) (keyed : (before.txn env).Keyed)
    (coupled : ∀ id, Coupled ((before.txn env).cell id))
    (step : Step env before (.fire claim stored) after) : (after.view env).Backed := by
  have undone (unlocked : before.after = []) (timer : Timer) :
      Rooted before.task False (fire env (before.txn env) timer).1 :=
    (fire_trail env keyed timer).rooted keyed coupled (booked.start False)
      (fun _ => firing_allowed) (fun _ none => absurd none id) booked.named
      (backed.started unlocked False).2
  cases step with
  | unfired claim timer txn unlocked member timed payload fired =>
      have rooted := undone unlocked timer
      have fixed := (fire_trail env keyed timer).fixed
      rw [fired] at rooted fixed
      exact rooted.discarded fixed.kv (fun _ _ found => found) rfl
  | fired claim timer txn unlocked member timed payload fired =>
      have kept : (fire env (before.txn env) timer).1.Backed :=
        (fire_trail env keyed timer).backed keyed coupled (booked.start False)
          (fun _ => firing_allowed) (fun _ none => absurd none id)
          (fun _ _ permitted => absurd permitted id) (backed.started unlocked False).1
      rw [fired] at kept
      exact kept.absorbed (stores_of_kv rfl) (fun _ _ found => found) rfl
  | outlived claim stored timer txn exit unlocked member timed payload fired idle =>
      have rooted := undone unlocked timer
      have fixed := (fire_trail env keyed timer).fixed
      rw [fired] at rooted fixed
      exact rooted.discarded fixed.kv (fun _ _ found => found) rfl

/-- The work that follows a commit leaves every claim backed. -/
theorem Step.backed_finish (backed : (before.view env).Backed)
    (step : Step env before .finish after) : (after.view env).Backed := by
  cases step with
  | finished action rest pending =>
      have backing : (∀ id job, action.takes = some (id, job) → Backs before.task id job rest) ∧
          Backing before.task rest := by
        have taken := backed.taken
        rw [view_getTask] at taken
        change Backing before.task before.after at taken
        rw [pending] at taken
        exact taken
      have popped {id : String} {claim : Claim} (found : before.held[id]? = some claim)
          (other : action ≠ .release id) : Backs before.task id claim.id rest := by
        obtain ⟨task, stored, recorded, state⟩ := backed.held id claim found
        rw [view_getTask] at stored
        refine ⟨task, stored, recorded, ?_⟩
        rcases state with live | release
        · exact .inl live
        · change .release id ∈ before.after at release
          rw [pending] at release
          rcases List.mem_cons.mp release with same | later
          · exact absurd same.symm other
          · exact .inr later
      have finish (held : ∀ (id : String) (claim : Claim),
          (action.perform before.queue before.held).2[id]? = some claim →
          Backs before.task id claim.id rest) :
          (({ before with
            queue := (action.perform before.queue before.held).1
            held := (action.perform before.queue before.held).2
            after := rest
            delivering := if rest = [] then none else before.delivering
            outbox := if rest = [] then before.outbox ++ before.delivering.toList
              else before.outbox } : System).view env).Backed := by
        refine ⟨?_, ?_⟩
        · rw [view_getTask]
          exact held
        · rw [view_getTask]
          exact backing.2
      refine finish ?_
      intro id claim found
      cases action with
      | ack taken => exact popped found (by simp)
      | hold task taken =>
          rcases inserted_held found with old | ⟨rfl, rfl⟩
          · exact popped old (by simp)
          · exact backing.1 _ _ rfl
      | release task =>
          have apart : before.held[id]? = some claim ∧ task ≠ id := by
            simp only [After.perform] at found
            split at found
            · rw [Table.find_erase] at found
              split at found
              · cases found
              · exact ⟨found, by assumption⟩
            · rename_i absent
              refine ⟨found, ?_⟩
              rintro rfl
              rw [absent] at found
              cases found
          refine popped apart.1 ?_
          intro same
          exact apart.2 (After.release.inj same)
      | nack task =>
          simp only [After.perform] at found
          split at found
          · exact popped (erased_held found) (by simp)
          · exact popped found (by simp)
      | claim task job lease =>
          simp only [After.perform] at found
          split at found
          · rename_i taken queue claimed
            have granted := Queue.claimById_granted claimed
            rcases inserted_held found with old | ⟨rfl, rfl⟩
            · exact popped old (by simp)
            · rw [granted.named]
              exact backing.1 _ _ rfl
          · exact popped found (by simp)

/-- Every claim stays backed while the delivered jobs are still in the queue. -/
theorem Step.backed {event : Event} (booked : Booked env before)
    (backed : (before.view env).Backed) (keyed : (before.txn env).Keyed)
    (coupled : ∀ id, Coupled ((before.txn env).cell id)) (current : event.isCurrent before = true)
    (step : Step env before event after) : (after.view env).Backed := by
  cases event with
  | request request stored => exact step.backed_request booked backed keyed coupled
  | deliver claim stored => exact step.backed_deliver booked backed keyed coupled current
  | fire claim stored => exact step.backed_fire booked backed keyed coupled
  | finish => exact step.backed_finish backed
  | pass entry =>
      cases step with
      | passed entry member => exact ⟨backed.held, backed.taken⟩
  | ackTimer claim =>
      cases step with
      | ackedTimer claim member => exact ⟨backed.held, backed.taken⟩
  | nackTimer claim =>
      cases step with
      | nackedTimer claim member timed => exact ⟨backed.held, backed.taken⟩
  | take job lease =>
      cases step with
      | taken job lease period claim queue granted => exact ⟨backed.held, backed.taken⟩
  | promote job =>
      cases step with
      | promoted job queue moved => exact ⟨backed.held, backed.taken⟩
  | reap job =>
      cases step with
      | reaped job queue moved => exact ⟨backed.held, backed.taken⟩
  | clock time =>
      cases step with
      | ticked time => exact ⟨backed.held, backed.taken⟩
  | reopen =>
      cases step with
      | reopened =>
          refine ⟨?_, trivial⟩
          intro id claim found
          change (∅ : Held)[id]? = some claim at found
          rw [Std.ExtTreeMap.getElem?_empty] at found
          cases found

theorem History.backed {past : List (Machine.Entry System Event)}
    (history : History env past system)
    (current : Machine.Meets (fun before event => event.isCurrent before = true) past) :
    (system.view env).Backed := by
  refine Machine.History.invariant (fun system => (system.view env).Backed) history current ?_ ?_
  · refine ⟨?_, trivial⟩
    intro id claim found
    change (∅ : Held)[id]? = some claim at found
    rw [Std.ExtTreeMap.getElem?_empty] at found
    cases found
  · intro before event after reached backed current taken
    refine (step_cases taken).backed (Reachable.booked reached) backed (Reachable.keyed reached) ?_
      current
    intro id
    rw [System.cell_txn]
    exact Reachable.coupled reached id

/-- In every state of a run a live task's job is in the queue, no two jobs dispatch one task, and
none dispatches a suspended one. While the delivered jobs are still in the queue, every held claim
is of the job of its task, which is live or is released by what the last commit still has to do. -/
theorem dispatch_conserved {past : List (Machine.Entry System Event)}
    (history : History env past system) :
    (∀ id task, system.task id = some task → task.state = .pending ∨ task.state = .acquired →
      ∃ number job, task.job = some number ∧ system.queue.jobs[number]? = some job ∧
        job.payload = .execute id) ∧
    (∀ (id : String) (first second : Nat) (left right : LeaseQueue.Job Payload),
      system.queue.jobs[first]? = some left → left.payload = .execute id →
      system.queue.jobs[second]? = some right → right.payload = .execute id → first = second) ∧
    (∀ id task, system.task id = some task → task.state = .suspended →
      ∀ (number : Nat) (job : LeaseQueue.Job Payload), system.queue.jobs[number]? = some job →
        job.payload ≠ .execute id) ∧
    (Machine.Meets (fun before event => event.isCurrent before = true) past →
      ∀ (id : String) (claim : Claim), system.held[id]? = some claim →
        ∃ task, system.task id = some task ∧ task.job = some claim.id ∧
          (task.state = .pending ∨ task.state = .acquired ∨ .release id ∈ system.after)) := by
  have sound := (Reachable.booked ⟨past, history⟩ : Booked env system).sound
  have carried (number : Nat) (job : LeaseQueue.Job Payload)
      (found : system.queue.jobs[number]? = some job) :
      (system.view env).Carries number job.payload := by
    refine .inl ⟨job.contents, ?_, rfl⟩
    change (system.queue.jobs[number]?).map _ = _
    rw [found]
    rfl
  refine ⟨?_, ?_, ?_, ?_⟩
  · intro id task stored live
    obtain ⟨number, recorded, ⟨contents, queued, executes⟩ | ⟨request, member, _⟩⟩ :=
      sound.ledger.covered id task (by rw [view_getTask]; exact stored) live
    · obtain ⟨job, found, rfl⟩ := Option.map_eq_some_iff.mp queued
      exact ⟨number, job, recorded, found, executes⟩
    · cases member
  · intro id first second left right found executes present names
    exact sound.job_unique (executes ▸ carried first left found)
      (names ▸ carried second right present)
  · intro id task stored asleep number job found executes
    obtain ⟨other, same, _, awake⟩ :=
      sound.ledger.named number id (executes ▸ carried number job found)
    rw [view_getTask, stored] at same
    cases same
    exact awake asleep
  · intro current id claim held
    obtain ⟨task, stored, recorded, state⟩ := (history.backed current).held id claim held
    rw [view_getTask] at stored
    exact ⟨task, stored, recorded, or_assoc.mp state⟩

end

/-- An acquired task has its claim held. -/
theorem dispatch_conserved_acquired :
    ∃ task, acquiredTrace.2.task "root" = some task ∧ task.job = some 0 ∧
      (task.state = .pending ∨ task.state = .acquired ∨
        .release "root" ∈ acquiredTrace.2.after) :=
  (dispatch_conserved acquired_history).2.2.2 (by decide) "root" (.sample 0 0) (by decide)

/-- The first claim of a job expires undelivered. The job is delivered again, its task is acquired,
suspended and woken with a new job, and only then the first claim is delivered. -/
def supersededRun : List Event :=
  [.clock 1, .request (.promiseCreate .sample) true,
    .request (.promiseCreate .awaitedSample) true, .take 0 0, .clock 40, .reap 0, .take 0 0,
    .deliver (.sample 0 1) true, .finish, .request (.taskAcquire ⟨"root", 0, "p", 100⟩) true,
    .request (.taskSuspend ⟨"root", 1,
      [⟨"promise.register_callback", ⟨"root:0", "root"⟩⟩]⟩) true,
    .request (.promiseSettle ⟨"root:0", .resolved, {}⟩) true, .deliver (.sample 0 0) true, .finish]

theorem superseded_claim_held :
    ∃ system, Reachable .sample system ∧ system.after = [] ∧
      ∃ claim task, system.held["root"]? = some claim ∧ system.task "root" = some task ∧
        task.state = .pending ∧ task.job ≠ some claim.id := by
  have ran : (Machine.run (step .sample) .empty supersededRun).any (fun system =>
      system.after = [] ∧ (system.held["root"]?).any (fun claim =>
        (system.task "root").any fun task =>
          task.state = .pending ∧ task.job ≠ some claim.id)) = true := by
    decide
  obtain ⟨system, ends, holds⟩ := (Option.any_eq_true _ _).mp ran
  obtain ⟨unlocked, held⟩ := of_decide_eq_true holds
  obtain ⟨claim, found, tasked⟩ := (Option.any_eq_true _ _).mp held
  obtain ⟨task, stored, differs⟩ := (Option.any_eq_true _ _).mp tasked
  obtain ⟨pending, other⟩ := of_decide_eq_true differs
  exact ⟨system, Machine.reachable_of_run ends, unlocked, claim, task, found, stored, pending, other⟩

end Resonate
