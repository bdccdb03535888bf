import Resonate.Acquisitions
import Resonate.Messages
import Resonate.QueueNames
import Resonate.Timing

set_option autoImplicit false

/-! What a crash leaves behind can be taken up again: once the store is opened, the job of a live task
is delivered and the task is acquired at its next version. -/

namespace LeaseQueue.Queue

variable {α : Type} {queue : Queue α} {id : Nat} {job : Job α}

/-- A job waits, or is scheduled, once the queue is opened again. -/
theorem reopen_job (found : queue.jobs[id]? = some job) :
    queue.reopen.jobs[id]? = some { job with state := job.state.requeued } := by
  unfold reopen
  rw [Std.ExtTreeMap.getElem?_map, found]
  rfl

theorem requeued_cases (state : JobState) : state.requeued = .scheduled ∨ state.requeued = .waiting := by
  cases state with
  | scheduled => exact .inl rfl
  | waiting => exact .inr rfl
  | claimed token leaseEnd => exact .inr rfl

theorem promote_scheduled (found : queue.jobs[id]? = some job) (scheduled : job.state = .scheduled) :
    queue.promote id = some (queue.put id { job with state := .waiting }) := by
  unfold promote setState
  rw [found]
  exact if_pos scheduled

theorem take_ready (found : queue.jobs[id]? = some job) (waiting : job.state = .waiting)
    (lease : Nat) : queue.take id lease = some (queue.grant id job lease) := by
  unfold take
  rw [found]
  exact if_pos waiting

end LeaseQueue.Queue

namespace Resonate

open Kernel
open LeaseQueue (Queue Job JobState)

/-- The delivery of a job after the store is opened again: the queue makes a scheduled job wait, a
delivery loop takes it, and the store delivers the claim. -/
def redelivery (system : System) (number : Nat) (claim : Claim) : List Event :=
  (if (system.queue.jobs[number]?).any (·.state = .scheduled) then [.promote number] else []) ++
    [.take number 0, .deliver claim true, .finish]

/-- The claim the queue hands out next. -/
def nextClaim (queue : Queue Payload) (number : Nat) (job : Job Payload) : Claim where
  id := number
  queue := job.queue
  payload := job.payload
  runAt := job.runAt
  token := queue.nextToken

/-- The store after the delivery of a live task's job: the task is pending, its claim is held under the
lease of the delivery, and its message is in hand. -/
structure Redelivered (env : Env) (before : System) (id : String) (task : StoredTask) (claim : Claim)
    (after : System) : Prop where
  unlocked : after.after = []
  clock : after.queue.clock = before.queue.clock
  promises : after.promise = before.promise
  waits : ∃ pending, after.task id = some pending ∧ pending.state = .pending ∧
    pending.version = task.version
  leased : (after.txn env).Leased id claim (before.queue.clock + env.retryTimeout)
  message : (claim.id, Message.execute id task.version) ∈ after.outbox

section

variable {env : Env} {system : System} {id : String} {task : StoredTask} {number : Nat}
  {job : Job Payload}

/-- What the delivery of a live task's job hands to the commit. -/
structure Handover (txn next : Txn) (id : String) (task : StoredTask) (claim : Claim) : Prop where
  waits : ∃ pending, next.getTask id = some pending ∧ pending.state = .pending ∧
    pending.version = task.version
  promises : next.getPromise = txn.getPromise
  queue : next.queue = txn.queue
  held : next.held = txn.held
  enqueues : next.enqueues = txn.enqueues
  after : next.after = txn.after ++ [.hold id claim]

theorem deliver_live {txn : Txn} {claim : Claim} (keyed : txn.Keyed)
    (stored : txn.getTask id = some task) (live : task.state = .pending ∨ task.state = .acquired)
    (opened : txn.isOpen id = true) (payload : claim.payload = .execute id) :
    ∃ next, deliver env txn claim = some (next, some (.execute id task.version)) ∧
      Handover txn next id task claim := by
  have untimed : tryTimeout env txn [id] = txn :=
    tryTimeout_opened [id] fun other member => List.mem_singleton.mp member ▸ opened
  unfold deliver
  rw [payload]
  dsimp only
  rw [untimed, stored]
  dsimp only
  rcases live with pending | acquired
  · rw [pending]
    exact ⟨_, rfl, ⟨task, stored, pending, rfl⟩, rfl, rfl, rfl, rfl, rfl⟩
  · rw [acquired]
    refine ⟨_, rfl, ⟨task.transition .pending, ?_, rfl, rfl⟩, rfl, rfl, rfl, rfl, rfl⟩
    change (Txn.putTask _ _).getTask id = _
    rw [Txn.getTask_putTask]
    exact if_pos (keyed.task id task stored)

/-- A waiting job is taken: by the timer worker under its lease, by a delivery loop under the retry
timeout. -/
theorem take_waiting (env : Env) (unclaimed : system.claims = [])
    (found : system.queue.jobs[number]? = some job) (waiting : job.state = .waiting) (lease : Nat) :
    ∃ queue : Queue Payload, step env system (.take number lease) =
        some { system with queue, claims := [nextClaim system.queue number job] } ∧
      queue.clock = system.queue.clock ∧
      ∃ taken : Job Payload, queue.jobs[number]? = some taken ∧
        taken.state = .claimed system.queue.nextToken (system.queue.clock +
          if job.queue = Keys.timerQueue then lease else env.retryTimeout) := by
  generalize held : (if job.queue = Keys.timerQueue then lease else env.retryTimeout) = term
  have timer : (system.queue.jobs[number]?).any (·.queue == Keys.timerQueue) =
      decide (job.queue = Keys.timerQueue) := by
    rw [found]
    rfl
  have granted : system.queue.take number term = some (nextClaim system.queue number job,
      (system.queue.grant number job term).2) := by
    rw [Queue.take_ready found waiting]
    rfl
  refine ⟨(system.queue.grant number job term).2, ?_, (Queue.take_granted granted).clock, ?_⟩
  · change stepTake env system number lease = _
    unfold stepTake
    dsimp only
    rw [timer]
    simp only [decide_eq_true_eq]
    rw [held, granted, unclaimed]
    rfl
  · have jobs := system.queue.grant_jobs number number job term
    rw [if_pos rfl] at jobs
    exact ⟨_, jobs, rfl⟩

/-- A waiting job is taken and delivered. -/
theorem redeliver_waiting (idle : system.after = []) (unclaimed : system.claims = [])
    (keyed : (system.txn env).Keyed) (stored : system.task id = some task)
    (live : task.state = .pending ∨ task.state = .acquired)
    (opened : (system.txn env).isOpen id = true) (found : system.queue.jobs[number]? = some job)
    (waiting : job.state = .waiting) (payload : job.payload = .execute id)
    (addressed : job.queue ≠ Keys.timerQueue) :
    ∃ after, Machine.run (step env) system
        [.take number 0, .deliver (nextClaim system.queue number job) true, .finish] = some after ∧
      Redelivered env system id task (nextClaim system.queue number job) after := by
  -- the job is taken
  obtain ⟨queue, took, clock, leased⟩ := take_waiting env unclaimed found waiting 0
  rw [if_neg addressed] at leased
  generalize named : nextClaim system.queue number job = claim at took ⊢
  have token : claim.token = system.queue.nextToken := by
    rw [← named]
    rfl
  rw [← token] at leased
  -- its claim is delivered
  have now : System.now { system with queue, claims := [] } = system.now := by
    unfold System.now
    rw [clock]
  have start : (System.txn env { system with queue, claims := [] }).isOpen id = true := by
    obtain ⟨promise, present, pending, early⟩ := (Txn.isOpen_iff _ _).mp opened
    refine (Txn.isOpen_iff _ _).mpr ⟨promise, present, pending, ?_⟩
    change System.now { system with queue, claims := [] } < _
    rw [now]
    exact early
  have keyed' : (System.txn env { system with queue, claims := [] }).Keyed :=
    ⟨keyed.promise, keyed.task, keyed.schedule⟩
  have executes : claim.payload = .execute id := by
    rw [← named]
    exact payload
  have stored' : (System.txn env { system with queue, claims := [] }).getTask id = some task := by
    rw [System.getTask_txn]
    exact stored
  obtain ⟨next, delivered, handover⟩ :=
    @deliver_live env id task _ claim keyed' stored' live start executes
  obtain ⟨pending, waits, state, version⟩ := handover.waits
  have owned : claim.id = number := by
    rw [← named]
    rfl
  let delivery : System := { System.absorb { system with queue, claims := [] } next.commit with
    delivering := some (claim.id, .execute id task.version) }
  have handed : step env { system with queue, claims := [claim] } (.deliver claim true) =
      some delivery := by
    change stepDeliver env { system with queue, claims := [claim] } claim true = _
    unfold stepDeliver
    have timed : claim.queue ≠ Keys.timerQueue := by
      rw [← named]
      exact addressed
    rw [if_pos ⟨idle, List.mem_singleton_self claim, timed⟩]
    dsimp only
    rw [List.erase_cons_head, delivered]
    rfl
  have followed : delivery.after = [.hold id claim] := handover.after
  have same : delivery.queue = queue := by
    change (next.queue.enqueue next.enqueues).2 = queue
    rw [handover.enqueues, handover.queue]
    rfl
  -- and held once the commit's work is done
  let ready : System := { delivery with
    held := delivery.held.insert id claim
    after := []
    delivering := none
    outbox := delivery.outbox ++ [(claim.id, .execute id task.version)] }
  have finished : step env delivery .finish = some ready := by
    change stepFinish delivery = _
    unfold stepFinish
    rw [followed]
    rfl
  refine ⟨ready, ?_, ⟨rfl, ?_, ?_, ⟨pending, ?_, state, version⟩, ⟨?_, ?_⟩, ?_⟩⟩
  · rw [Machine.run_cons, took, Option.bind_some, Machine.run_cons, handed, Option.bind_some,
      Machine.run_cons, finished]
    rfl
  · change delivery.queue.clock = _
    rw [same, clock]
  · change delivery.promise = _
    have stores : Stores next delivery := stores_of_kv rfl
    rw [stores.promise, handover.promises, System.getPromise_txn]
    rfl
  · change delivery.task id = _
    have stores : Stores next delivery := stores_of_kv rfl
    rw [stores.task]
    exact waits
  · change (delivery.held.insert id claim)[id]? = some claim
    rw [Table.find_insert, if_pos rfl]
  · change ∃ job, delivery.queue.jobs[claim.id]? = some job ∧ _
    rw [same, owned]
    exact leased
  · exact List.mem_append_right _ (List.mem_singleton_self _)

/-- A redelivered task is acquired at its next version by whoever asks at the version told. -/
theorem redelivered_acquired {before after : System} {claim : Claim}
    (redelivered : Redelivered env before id task claim after) (keyed : (after.txn env).Keyed)
    (opened : (after.txn env).isOpen id = true) (leasing : 0 < env.retryTimeout)
    (clock : (before.queue.clock : Int) < Text.i64Max) (pid : String) (ttl : Int) :
    ∃ record promise siblings, answer env after (.taskAcquire ⟨id, task.version, pid, ttl⟩) true =
        .ok 200 (.taskView record promise siblings) ∧
      record.state = .acquired ∧ record.version = task.version + 1 ∧ record.pid = some pid := by
  obtain ⟨pending, stored, state, version⟩ := redelivered.waits
  have leased := redelivered.leased
  have untimed : tryTimeout env (after.txn env) [id] = after.txn env :=
    tryTimeout_opened [id] fun other member => List.mem_singleton.mp member ▸ opened
  have found : (after.txn env).getTask id = some pending := by
    rw [System.getTask_txn]
    exact stored
  have own : pending.id = id := keyed.task id pending found
  have live : (after.txn env).live claim = true := by
    rw [leased.live_iff]
    change min (after.queue.clock : Int) Text.i64Max < _
    rw [redelivered.clock]
    omega
  have renewed : ∃ next, (after.txn env).renew id (leaseOf ttl) = (next, true) := by
    unfold Txn.renew
    rw [leased.holds live]
    dsimp only
    rw [leased.held]
    dsimp only
    unfold Queue.renewLease
    rw [if_pos leased.current]
    exact ⟨_, rfl⟩
  obtain ⟨next, renewed⟩ := renewed
  have touches : Txn.Touches (after.txn env) next := by
    have touched := Txn.renew_touches (after.txn env) id (leaseOf ttl)
    rw [renewed] at touched
    exact touched
  obtain ⟨promise, promised, _⟩ := (Txn.isOpen_iff _ _).mp opened
  have acquired : acquire (after.txn env) pending pid ttl =
      (next.putTask (acquiredTask pending pid ttl), some (acquiredTask pending pid ttl)) := by
    have granted : (after.txn env).renew pending.id (leaseOf ttl) = (next, true) := by
      rw [own]
      exact renewed
    unfold acquire
    rw [granted]
    rfl
  have viewed : taskView (next.putTask (acquiredTask pending pid ttl)) (acquiredTask pending pid ttl) =
      some (.taskView (acquiredTask pending pid ttl).record promise.record
        ((next.putTask (acquiredTask pending pid ttl)).preload promise.record)) := by
    have present : (next.putTask (acquiredTask pending pid ttl)).getPromise
        (acquiredTask pending pid ttl).id = some promise := by
      rw [Txn.getPromise_putTask, touches.getPromise, ← promised, ← own]
      rfl
    unfold taskView
    rw [present]
    rfl
  refine ⟨(acquiredTask pending pid ttl).record, promise.record,
    (next.putTask (acquiredTask pending pid ttl)).preload promise.record, ?_, rfl, ?_, rfl⟩
  · unfold answer conclude handle taskAcquire
    dsimp only
    rw [untimed, found]
    dsimp only
    rw [if_neg (not_not.mpr state), if_neg (not_not.mpr version), acquired]
    dsimp only
    unfold doneView
    rw [viewed]
    rfl
  · change pending.version + 1 = _
    rw [version]

/-- A store that only differs in its jobs and the process's claims has the same records. -/
theorem isOpen_of {first second : System} (promises : second.promise = first.promise)
    (clock : second.queue.clock = first.queue.clock) (id : String) :
    (second.txn env).isOpen id = (first.txn env).isOpen id := by
  unfold Txn.isOpen
  rw [System.getPromise_txn, System.getPromise_txn, promises]
  have now : (second.txn env).now = (first.txn env).now := by
    change min (second.queue.clock : Int) _ = min (first.queue.clock : Int) _
    rw [clock]
  rw [now]

/-- The store once it is opened again and a job waits. -/
structure Reopened (before : System) (number : Nat) (job : Job Payload) (ready : System) : Prop where
  idle : ready.after = []
  unclaimed : ready.claims = []
  kv : ready.kv = before.kv
  clock : ready.queue.clock = before.queue.clock
  token : ready.queue.nextToken = before.queue.nextToken
  waits : ready.queue.jobs[number]? = some { job with state := .waiting }

theorem Reopened.promises {ready : System} (reopened : Reopened system number job ready) :
    ready.promise = system.promise := by
  unfold System.promise
  rw [reopened.kv]

theorem Reopened.tasks {ready : System} (reopened : Reopened system number job ready) :
    ready.task = system.task := by
  unfold System.task
  rw [reopened.kv]

theorem Reopened.keyed {ready : System} (reopened : Reopened system number job ready)
    (keyed : (system.txn env).Keyed) : (ready.txn env).Keyed := by
  have schedules : ready.schedule = system.schedule := by
    unfold System.schedule
    rw [reopened.kv]
  refine ⟨?_, ?_, ?_⟩
  · rw [System.getPromise_txn, reopened.promises, ← System.getPromise_txn env system]
    exact keyed.promise
  · rw [System.getTask_txn, reopened.tasks, ← System.getTask_txn env system]
    exact keyed.task
  · rw [System.getSchedule_txn, schedules, ← System.getSchedule_txn env system]
    exact keyed.schedule

/-- Any job waits once the store is opened again and the queue has made a scheduled one wait. -/
theorem restart_waits (env : Env) (found : system.queue.jobs[number]? = some job) :
    ∃ ready, Machine.run (step env) (stepReopen system)
        (if ((stepReopen system).queue.jobs[number]?).any (·.state = .scheduled) then
          [.promote number] else []) = some ready ∧
      Reopened system number job ready := by
  have waits := Queue.reopen_job found
  change ∃ ready, Machine.run _ _ (if (system.queue.reopen.jobs[number]?).any _ then _ else _) = _ ∧ _
  rw [waits, Option.any_some]
  rcases Queue.requeued_cases job.state with scheduled | waiting
  · -- the queue makes the job wait first
    have promoted : step env (stepReopen system) (.promote number) = some { stepReopen system with
        queue := system.queue.reopen.put number { job with state := .waiting } } := by
      change (system.queue.reopen.promote number).map _ = _
      rw [Queue.promote_scheduled waits scheduled]
      rfl
    rw [if_pos (decide_eq_true scheduled), Machine.run_cons, promoted]
    refine ⟨_, rfl, rfl, rfl, rfl, rfl, rfl, ?_⟩
    change (system.queue.reopen.put number { job with state := .waiting }).jobs[number]? = _
    unfold Queue.put
    rw [Table.find_insert, if_pos rfl]
  · rw [if_neg (by simp [waiting])]
    refine ⟨stepReopen system, rfl, rfl, rfl, rfl, rfl, rfl, ?_⟩
    change system.queue.reopen.jobs[number]? = _
    rw [waits, waiting]

/-- The job of a live task is delivered once the store is opened again. -/
theorem restart_redelivers (reached : Reachable env system) (stored : system.task id = some task)
    (live : task.state = .pending ∨ task.state = .acquired)
    (opened : (system.txn env).isOpen id = true) (found : system.queue.jobs[number]? = some job)
    (payload : job.payload = .execute id) (addressed : job.queue ≠ Keys.timerQueue) :
    ∃ after, Machine.run (step env) system
        (.reopen :: redelivery (stepReopen system) number (nextClaim system.queue number job)) =
          some after ∧
      Redelivered env system id task (nextClaim system.queue number job) after := by
  have keyed : (system.txn env).Keyed := Reachable.keyed reached
  obtain ⟨ready, promoted, reopened⟩ := restart_waits env found
  have still : (ready.txn env).isOpen id = true := by
    rw [isOpen_of reopened.promises reopened.clock]
    exact opened
  obtain ⟨after, ran, redelivered⟩ := @redeliver_waiting env ready id task number
    { job with state := .waiting } reopened.idle reopened.unclaimed (reopened.keyed keyed)
    (reopened.tasks ▸ stored) live still reopened.waits rfl payload addressed
  have claim : nextClaim ready.queue number { job with state := .waiting } =
      nextClaim system.queue number job := by
    unfold nextClaim
    rw [reopened.token]
  rw [claim] at ran redelivered
  have opening : step env system .reopen = some (stepReopen system) := rfl
  refine ⟨after, ?_, redelivered.unlocked, redelivered.clock.trans reopened.clock,
    redelivered.promises.trans reopened.promises, redelivered.waits, ?_, redelivered.message⟩
  · unfold redelivery
    rw [Machine.run_cons, opening, Option.bind_some, Machine.run_append, promoted, Option.bind_some]
    exact ran
  · rw [← reopened.clock]
    exact redelivered.leased

/-- A job that is due is made to wait in time. -/
theorem promoting_inTime (found : system.queue.jobs[number]? = some job)
    (due : job.runAt.all (fun time => decide (time ≤ system.queue.clock)) = true) :
    ∀ event ∈ (if ((stepReopen system).queue.jobs[number]?).any (·.state = .scheduled) then
        [Event.promote number] else []), event.isInTime (stepReopen system) = true := by
  intro event member
  split at member
  · rw [List.mem_singleton.mp member]
    change (system.queue.reopen.jobs[number]?).all _ = true
    rw [Queue.reopen_job found]
    exact due
  · cases member

/-- A job that is due is delivered in time. -/
theorem redelivery_inTime (found : system.queue.jobs[number]? = some job)
    (due : job.runAt.all (fun time => decide (time ≤ system.queue.clock)) = true) (claim : Claim) :
    ∀ event ∈ redelivery (stepReopen system) number claim,
      event.isInTime (stepReopen system) = true := by
  intro event member
  unfold redelivery at member
  rcases List.mem_append.mp member with promoted | rest
  · exact promoting_inTime found due event promoted
  · rcases List.mem_cons.mp rest with rfl | rest
    · rfl
    · rcases List.mem_cons.mp rest with rfl | rest
      · rfl
      · rw [List.mem_singleton.mp rest]
        rfl

end

/-- In whatever state the process stops: once the store is opened again, the job of every live task
whose promise is open is delivered from the queue of its target with the task's version, in time when
the job is due, and whoever acquires the task at this version holds it at the next. -/
theorem crash_recoverable {env : Env} {system : System} (reached : Reachable env system)
    (leasing : 0 < env.retryTimeout) (clock : (system.queue.clock : Int) < Text.i64Max) {id : String}
    {task : StoredTask} (stored : system.task id = some task)
    (live : task.state = .pending ∨ task.state = .acquired)
    (early : ∀ promise, system.promise id = some promise → system.now < promise.record.timeoutAt) :
    ∃ (number : Nat) (job : Job Payload) (after : System), task.job = some number ∧
      system.queue.jobs[number]? = some job ∧ job.queue = Keys.addressQueue env task.target ∧
      Machine.run (step env) system
        (.reopen :: redelivery (stepReopen system) number (nextClaim system.queue number job)) =
          some after ∧
      (job.runAt.all (fun time => decide (time ≤ system.queue.clock)) = true →
        ∀ event ∈ redelivery (stepReopen system) number (nextClaim system.queue number job),
          event.isInTime (stepReopen system) = true) ∧
      (number, Message.execute id task.version) ∈ after.outbox ∧
      ∀ pid ttl, ∃ record promise siblings,
        answer env after (.taskAcquire ⟨id, task.version, pid, ttl⟩) true =
          .ok 200 (.taskView record promise siblings) ∧
        record.state = .acquired ∧ record.version = task.version + 1 ∧ record.pid = some pid := by
  obtain ⟨past, history⟩ := reached
  have reached : Reachable env system := ⟨past, history⟩
  obtain ⟨number, job, recorded, found, payload⟩ := (dispatch_conserved history).1 id task stored live
  have logged := (Reachable.traced reached).jobs number job found
  rw [payload] at logged
  obtain ⟨own, present, queue⟩ := (Reachable.traced reached).dispatches number job.queue id logged
  cases present.symm.trans stored
  have opened : (system.txn env).isOpen id = true := by
    have coupled : Coupled (system.cell id) := Reachable.coupled reached id
    obtain ⟨promise, promised⟩ : ∃ promise, system.promise id = some promise := by
      have target := coupled.target
      change (system.task id).map _ = (system.promise id).bind _ at target
      rw [stored] at target
      obtain ⟨promise, promised, _⟩ := Option.bind_eq_some_iff.mp target.symm
      exact ⟨promise, promised⟩
    refine (Txn.isOpen_iff _ _).mpr ⟨promise, ?_, ?_, early promise promised⟩
    · rw [System.getPromise_txn]
      exact promised
    · refine (coupled.pending promise task promised stored).mpr ?_
      rcases live with state | state <;> simp [state]
  have addressed : job.queue ≠ Keys.timerQueue := by
    rw [queue]
    exact Keys.addressQueue_ne_timer env task.target
  obtain ⟨after, ran, redelivered⟩ :=
    restart_redelivers reached stored live opened found payload addressed
  have later : Reachable env after := by
    obtain ⟨newer, extended⟩ := history.append_run ran
    exact ⟨_, extended⟩
  refine ⟨number, job, after, recorded, found, queue, ran,
    fun due => redelivery_inTime found due _, redelivered.message, ?_⟩
  intro pid ttl
  have still : (after.txn env).isOpen id = true := by
    rw [isOpen_of redelivered.promises redelivered.clock]
    exact opened
  exact redelivered_acquired redelivered (Reachable.keyed later) still leasing clock pid ttl

/-- An acquired task whose holder is gone. -/
theorem crash_recoverable_acquired :
    ∃ (number : Nat) (job : Job Payload) (after : System),
      acquiredTrace.2.queue.jobs[number]? = some job ∧
      Machine.run (step .sample) acquiredTrace.2
        (.reopen :: redelivery (stepReopen acquiredTrace.2) number
          (nextClaim acquiredTrace.2.queue number job)) = some after ∧
      (number, Message.execute "root" 1) ∈ after.outbox := by
  have present : (acquiredTrace.2.task "root").any (fun task =>
      task.state = .acquired ∧ task.version = 1) = true := by
    decide
  obtain ⟨task, stored, holds⟩ := (Option.any_eq_true _ _).mp present
  obtain ⟨state, version⟩ := of_decide_eq_true holds
  have early : ∀ promise, acquiredTrace.2.promise "root" = some promise →
      acquiredTrace.2.now < promise.record.timeoutAt := by
    intro promise promised
    have all : (acquiredTrace.2.promise "root").all (fun promise =>
        acquiredTrace.2.now < promise.record.timeoutAt) = true := by
      decide
    rw [promised] at all
    exact of_decide_eq_true all
  obtain ⟨number, job, after, _, found, _, ran, _, message, _⟩ :=
    crash_recoverable acquired_reachable (by decide) (by decide) stored (.inr state) early
  rw [version] at message
  exact ⟨number, job, after, found, ran, message⟩

end Resonate
