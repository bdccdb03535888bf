import Resonate.Coverage
import Resonate.Recovery

set_option autoImplicit false

/-! A deadline outlives the process: once the store is opened again, the timer of an overdue promise is
taken, fires and is acknowledged, and the promise has settled. -/

namespace Resonate

open Kernel
open LeaseQueue (Queue Job JobState)

/-- The firing of a timer after the store is opened again: the queue makes a scheduled job wait, the
worker takes and fires it, the work its commit left is done, and the worker acknowledges it. -/
def refiring (system : System) (number lease work : Nat) (claim : Claim) : List Event :=
  (if (system.queue.jobs[number]?).any (·.state = .scheduled) then [.promote number] else []) ++
    ([.take number lease, .fire claim true] ++ List.replicate work .finish ++ [.ackTimer claim])

/-- What the deadline of a promise leaves: the promise is settled, its own task is fulfilled, the
suspended tasks that await it are pending again, and no work is left. -/
structure Lapsed (env : Env) (before : System) (id : String) (promise : StoredPromise)
    (after : System) : Prop where
  unlocked : after.after = []
  settled : after.promise id = some (expiredPromise promise).cleared
  fulfilled : ∀ task, before.task id = some task →
    ∃ own, after.task id = some own ∧ own.state = .fulfilled
  woken : ∀ awaiter ∈ promise.callbacks, ∀ task, before.task awaiter = some task →
    task.state = .suspended → (before.txn env).isOpen awaiter = true →
    ∃ ready, after.task awaiter = some ready ∧ ready.state = .pending ∧ ready.resumes = {id}

section

variable {env : Env} {system : System} {id : String} {promise : StoredPromise} {number : Nat}
  {job : Job Payload}

/-- The work a commit left is done to its end. -/
theorem run_finishes (env : Env) (system : System) :
    ∃ after, Machine.run (step env) system (List.replicate system.after.length .finish) = some after ∧
      after.after = [] ∧ after.kv = system.kv ∧ after.fired = system.fired := by
  generalize work : system.after = actions
  induction actions generalizing system with
  | nil => exact ⟨system, rfl, work, rfl, rfl⟩
  | cons action rest ih =>
      have taken : ∃ next, step env system .finish = some next ∧ next.after = rest ∧
          next.kv = system.kv ∧ next.fired = system.fired := by
        change ∃ next, stepFinish system = some next ∧ _
        unfold stepFinish
        rw [work]
        dsimp only
        split
        · exact ⟨_, rfl, rfl, rfl, rfl⟩
        · exact ⟨_, rfl, rfl, rfl, rfl⟩
      obtain ⟨next, taken, left, kv, fired⟩ := taken
      obtain ⟨after, ran, unlocked, kept, remaining⟩ := ih next left
      refine ⟨after, ?_, unlocked, kept.trans kv, remaining.trans fired⟩
      rw [List.length_cons, List.replicate_succ, Machine.run_cons, taken]
      exact ran

/-- The settlement by a deadline, as the store holds it. -/
theorem expired_lapses {txn : Txn} {after : System} (keyed : txn.Keyed)
    (stored : txn.getPromise id = some promise) (due : promise.record.timeoutAt ≤ txn.now)
    (unlocked : after.after = []) (stores : Stores (expirePromise env txn promise).1 after)
    {before : System} (tasks : before.task = txn.getTask)
    (opens : ∀ other, (before.txn env).isOpen other = txn.isOpen other) :
    Lapsed env before id promise after := by
  have named : (expiredPromise promise).record.id = id := keyed.promise id promise stored
  have closed : txn.isOpen id = false := by
    unfold Txn.isOpen
    rw [stored]
    simp [due]
  refine ⟨unlocked, ?_, ?_, ?_⟩
  · rw [stores.promise, expirePromise_eq, getPromise_settleChain, if_pos named]
  · intro task found
    obtain ⟨job, _, changed, _⟩ :=
      settleChain_task env keyed (expiredPromise promise) (expiredPromise_settled promise) id
    rw [if_pos named, ← tasks, found] at changed
    refine ⟨task.fulfilled, ?_, ?_⟩
    · rw [stores.task, expirePromise_eq, changed]
      rfl
    · unfold StoredTask.fulfilled
      split
      · rfl
      · rename_i fulfilled
        exact not_not.mp fulfilled
  · intro awaiter listed task found suspended opened
    rw [opens] at opened
    have other : (expiredPromise promise).record.id ≠ awaiter := by
      rw [named]
      rintro rfl
      rw [closed] at opened
      cases opened
    obtain ⟨job, _, changed, _⟩ :=
      settleChain_task env keyed (expiredPromise promise) (expiredPromise_settled promise) awaiter
    rw [if_neg other, if_pos ⟨listed, opened⟩, ← tasks, found, named] at changed
    refine ⟨task.resumed id .fanout job, ?_, ?_, ?_⟩
    · rw [stores.task, expirePromise_eq, changed]
      rfl
    · unfold StoredTask.resumed
      rw [suspended]
      rfl
    · unfold StoredTask.resumed
      rw [suspended]

/-- A waiting timer is taken, fires and is acknowledged. -/
theorem refire_waiting (idle : system.after = []) (unclaimed : system.claims = [])
    (keyed : (system.txn env).Keyed) (stored : system.promise id = some promise)
    (pending : promise.record.isPending = true) (due : promise.record.timeoutAt ≤ system.now)
    (found : system.queue.jobs[number]? = some job) (waiting : job.state = .waiting)
    (payload : job.payload = .timer (.promiseTimeout id)) (timed : job.queue = Keys.timerQueue)
    (lease : Nat) :
    ∃ work after, Machine.run (step env) system
        ([.take number lease, .fire (nextClaim system.queue number job) true] ++
          List.replicate work .finish ++ [.ackTimer (nextClaim system.queue number job)]) =
          some after ∧
      Lapsed env system id promise after := by
  -- the job is taken
  obtain ⟨queue, took, clock, _⟩ := take_waiting env unclaimed found waiting lease
  generalize claimed : nextClaim system.queue number job = claim at took ⊢
  -- its claim fires
  let txn : Txn := System.txn env { system with queue, claims := [claim] }
  have now : txn.now = system.now := by
    change min (queue.clock : Int) _ = min (system.queue.clock : Int) _
    rw [clock]
  have keyed' : txn.Keyed := ⟨keyed.promise, keyed.task, keyed.schedule⟩
  have stored' : txn.getPromise id = some promise := by
    rw [System.getPromise_txn]
    exact stored
  have struck : fire env txn (.promiseTimeout id) = ((expirePromise env txn promise).1, .commit) := by
    rcases fire_timeout env txn id with ⟨other, present, _, struck⟩ | ⟨_, settled⟩
    · rw [stored'] at present
      cases present
      exact struck
    · rw [settled promise stored'] at pending
      cases pending
  generalize last : (expirePromise env txn promise).1 = next at struck
  let fired : System := { System.absorb { system with queue, claims := [claim] } next.commit with
    claims := []
    fired := claim :: system.fired }
  have firing : step env { system with queue, claims := [claim] } (.fire claim true) =
      some fired := by
    have own : claim.payload = .timer (.promiseTimeout id) ∧ claim.queue = Keys.timerQueue := by
      rw [← claimed]
      exact ⟨payload, timed⟩
    have fires : fire env (System.txn env { system with queue, claims := [claim] })
        (.promiseTimeout id) = (next, .commit) := struck
    change stepFire env { system with queue, claims := [claim] } claim true = _
    unfold stepFire
    rw [if_pos ⟨idle, List.mem_singleton_self claim, own.2⟩, own.1]
    dsimp only
    rw [fires]
    dsimp only
    rw [List.erase_cons_head]
  -- and is acknowledged once the commit's work is done
  obtain ⟨done, finished, unlocked, kept, outstanding⟩ := run_finishes env fired
  have member : claim ∈ done.fired := by
    rw [outstanding]
    exact List.mem_cons_self
  let after : System := { done with
    fired := done.fired.erase claim
    queue := (done.queue.ack claim).getD done.queue }
  have acknowledged : step env done (.ackTimer claim) = some after := by
    change stepAckTimer done claim = _
    unfold stepAckTimer
    rw [if_pos member]
  refine ⟨fired.after.length, after, ?_, ?_⟩
  · rw [Machine.run_append, Machine.run_append, Machine.run_cons, took, Option.bind_some,
      Machine.run_cons, firing, Option.bind_some, Machine.run_nil, Option.bind_some, finished,
      Option.bind_some, Machine.run_cons, acknowledged]
    rfl
  · have stores : Stores (expirePromise env txn promise).1 after := by
      rw [last]
      exact stores_of_kv kept
    have quiet : after.after = [] := unlocked
    have late : promise.record.timeoutAt ≤ txn.now := by
      rw [now]
      exact due
    refine expired_lapses keyed' stored' late quiet stores ?_ ?_
    · rw [System.getTask_txn]
      rfl
    · intro other
      have same : txn.isOpen other = (system.txn env).isOpen other := by
        apply isOpen_of
        · rfl
        · exact clock
      exact same.symm

/-- The timer of a promise fires once the store is opened again. -/
theorem restart_refires (reached : Reachable env system) (stored : system.promise id = some promise)
    (pending : promise.record.isPending = true) (due : promise.record.timeoutAt ≤ system.now)
    (found : system.queue.jobs[number]? = some job)
    (payload : job.payload = .timer (.promiseTimeout id)) (timed : job.queue = Keys.timerQueue)
    (lease : Nat) :
    ∃ work after, Machine.run (step env) system (.reopen ::
        refiring (stepReopen system) number lease work (nextClaim system.queue number job)) =
          some after ∧
      Lapsed env system id promise after := by
  have keyed : (system.txn env).Keyed := Reachable.keyed reached
  obtain ⟨ready, promoted, reopened⟩ := restart_waits env found
  have now : ready.now = system.now := by
    unfold System.now
    rw [reopened.clock]
  obtain ⟨work, after, ran, lapsed⟩ := @refire_waiting env ready id promise number
    { job with state := .waiting } reopened.idle reopened.unclaimed (reopened.keyed keyed)
    (reopened.promises ▸ stored) pending (by rw [now]; exact due) reopened.waits rfl payload timed
    lease
  have claim : nextClaim ready.queue number { job with state := .waiting } =
      nextClaim system.queue number job := by
    unfold nextClaim
    rw [reopened.token]
  have opening : step env system .reopen = some (stepReopen system) := rfl
  refine ⟨work, after, ?_, lapsed.unlocked, lapsed.settled, ?_, ?_⟩
  · rw [claim] at ran
    unfold refiring
    rw [Machine.run_cons, opening, Option.bind_some, Machine.run_append, promoted, Option.bind_some]
    exact ran
  · rw [← reopened.tasks]
    exact lapsed.fulfilled
  · intro awaiter listed task found suspended opened
    refine lapsed.woken awaiter listed task (reopened.tasks ▸ found) suspended ?_
    rw [isOpen_of reopened.promises reopened.clock]
    exact opened

/-- A timer that is due fires in time. -/
theorem refiring_inTime {runAt lease work : Nat} (found : system.queue.jobs[number]? = some job)
    (runs : job.runAt = some runAt) (due : runAt ≤ system.queue.clock) (claim : Claim) :
    ∀ event ∈ refiring (stepReopen system) number lease work claim,
      event.isInTime (stepReopen system) = true := by
  intro event member
  unfold refiring at member
  rcases List.mem_append.mp member with promoted | rest
  · have timely : job.runAt.all (fun time => decide (time ≤ system.queue.clock)) = true := by
      rw [runs]
      exact decide_eq_true due
    exact promoting_inTime found timely event promoted
  · rcases List.mem_append.mp rest with early | last
    · rcases List.mem_append.mp early with fired | finished
      · rcases List.mem_cons.mp fired with rfl | fired
        · rfl
        · rw [List.mem_singleton.mp fired]
          rfl
      · rw [List.eq_of_mem_replicate finished]
        rfl
    · rw [List.mem_singleton.mp last]
      rfl

end

/-- In whatever state the process stops: once the store is opened again, the timer of every pending
promise that can be awaited and whose deadline has passed fires in time. It leaves the promise settled at
its deadline without registrations, its own task fulfilled and the tasks that wait for it pending, and
the store takes requests. -/
theorem deadline_recoverable {env : Env} {system : System} (reached : Reachable env system) {id : String}
    {promise : StoredPromise} (stored : system.promise id = some promise)
    (pending : promise.record.isPending = true) (external : promise.record.isExternal = true)
    (due : promise.record.timeoutAt ≤ system.now) :
    ∃ (number : Nat) (job : Job Payload), system.queue.jobs[number]? = some job ∧
      job.queue = Keys.timerQueue ∧ job.payload = .timer (.promiseTimeout id) ∧
      ∀ lease, ∃ work after, Machine.run (step env) system (.reopen ::
          refiring (stepReopen system) number lease work (nextClaim system.queue number job)) =
            some after ∧
        (∀ event ∈ refiring (stepReopen system) number lease work (nextClaim system.queue number job),
          event.isInTime (stepReopen system) = true) ∧
        after.after = [] ∧
        (∃ final, after.promise id = some final ∧
          final.record = { promise.record with
            state := promise.record.timeoutState, settledAt := some promise.record.timeoutAt } ∧
          final.callbacks = [] ∧ final.listeners = []) ∧
        (∀ task, system.task id = some task →
          ∃ own, after.task id = some own ∧ own.state = .fulfilled) ∧
        ∀ awaiter ∈ promise.callbacks, ∀ task, system.task awaiter = some task →
          task.state = .suspended → (system.txn env).isOpen awaiter = true →
          ∃ ready, after.task awaiter = some ready ∧ ready.state = .pending ∧
            ready.resumes = {id} := by
  have timer := Reachable.timed reached stored pending (.inl external)
  obtain ⟨ahead, number, queued, _⟩ := Reachable.armed reached id promise stored timer
  obtain ⟨job, found, contents⟩ := Option.map_eq_some_iff.mp queued
  have timed : job.queue = Keys.timerQueue := congrArg (·.1) contents
  have payload : job.payload = .timer (.promiseTimeout id) := congrArg (·.2.1) contents
  have runs : job.runAt = some promise.record.timeoutAt.toNat := congrArg (·.2.2) contents
  have early : promise.record.timeoutAt.toNat ≤ system.queue.clock := by
    unfold System.now at due
    omega
  refine ⟨number, job, found, timed, payload, fun lease => ?_⟩
  obtain ⟨work, after, ran, lapsed⟩ :=
    restart_refires reached stored pending due found payload timed lease
  exact ⟨work, after, ran, refiring_inTime found runs early _, lapsed.unlocked,
    ⟨_, lapsed.settled, rfl, rfl, rfl⟩, lapsed.fulfilled, lapsed.woken⟩

/-- A promise whose deadline passes before its timer fires. -/
def lateRun : List Event := [.request (.promiseCreate .sample) true, .clock 1000]

theorem lateRun_ends : (Machine.trace (step .sample) [] .empty lateRun).isSome = true := by
  decide +kernel

def lateTrace : List (Machine.Entry System Event) × System :=
  (Machine.trace (step .sample) [] .empty lateRun).get lateRun_ends

theorem late_reachable : Reachable .sample lateTrace.2 :=
  ⟨_, Machine.history_of_trace lateRun_ends⟩

theorem deadline_recoverable_overdue :
    ∃ (number work : Nat) (job : Job Payload) (after : System) (final : StoredPromise),
      lateTrace.2.queue.jobs[number]? = some job ∧
      Machine.run (step .sample) lateTrace.2 (.reopen :: refiring (stepReopen lateTrace.2) number 5
        work (nextClaim lateTrace.2.queue number job)) = some after ∧
      after.promise "root" = some final ∧ final.record.state = .rejectedTimedout := by
  have present : (lateTrace.2.promise "root").any (fun promise =>
      promise.record.isPending = true ∧ promise.record.isExternal = true ∧
        promise.record.timeoutAt ≤ lateTrace.2.now ∧
        promise.record.timeoutState = .rejectedTimedout) = true := by
    decide +kernel
  obtain ⟨promise, stored, holds⟩ := (Option.any_eq_true _ _).mp present
  obtain ⟨pending, external, due, lapses⟩ := of_decide_eq_true holds
  obtain ⟨number, job, found, _, _, fires⟩ :=
    deadline_recoverable late_reachable stored pending external due
  obtain ⟨work, after, ran, _, _, ⟨final, settled, record, _⟩, _⟩ := fires 5
  refine ⟨number, work, job, after, final, found, ran, settled, ?_⟩
  rw [record]
  exact lapses

end Resonate
