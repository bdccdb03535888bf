import Resonate.Replies
import Resonate.Bookkeeping

set_option autoImplicit false

/-! What a granted acquisition leaves behind, and what its holder can do with it. -/

namespace Resonate

open Kernel
open LeaseQueue (Queue Job JobState)

/-- The claim held under `id` is the one its job is under, until `leaseEnd`. -/
structure Txn.Leased (txn : Txn) (id : String) (claim : Claim) (leaseEnd : Nat) : Prop where
  held : txn.held[id]? = some claim
  job : ∃ job, txn.queue.jobs[claim.id]? = some job ∧ job.state = .claimed claim.token leaseEnd

namespace Txn

variable {txn next : Txn} {id : String} {claim : Claim} {leaseEnd : Nat}

namespace Leased

theorem current (leased : txn.Leased id claim leaseEnd) : txn.queue.current claim = true := by
  obtain ⟨job, found, state⟩ := leased.job
  unfold Queue.current
  simp [found, state, JobState.token]

theorem leaseExpiry (leased : txn.Leased id claim leaseEnd) :
    txn.queue.leaseExpiry claim.id = some leaseEnd := by
  obtain ⟨job, found, state⟩ := leased.job
  obtain ⟨queue, payload, runAt, _⟩ := job
  cases state
  unfold Queue.leaseExpiry
  rw [found]

theorem live_iff (leased : txn.Leased id claim leaseEnd) :
    txn.live claim = true ↔ txn.now < min (leaseEnd : Int) Text.i64Max := by
  unfold live
  rw [leased.leaseExpiry]
  exact decide_eq_true_iff

theorem holds (leased : txn.Leased id claim leaseEnd) (live : txn.live claim = true) :
    txn.holds id = (txn, true) := by
  unfold Txn.holds
  rw [leased.held]
  dsimp only
  rw [if_pos live]

theorem of_buffers (leased : txn.Leased id claim leaseEnd) (buffers : Buffers txn next) :
    next.Leased id claim leaseEnd := by
  refine ⟨?_, ?_⟩
  · rw [buffers.held]
    exact leased.held
  · rw [buffers.jobs]
    exact leased.job

/-- The acknowledgement of a live claim succeeds. -/
theorem commitAck (leased : txn.Leased id claim leaseEnd) (live : txn.live claim = true) :
    ∃ commit, txn.commitAck id = (commit, true) := by
  unfold Txn.commitAck
  rw [leased.holds live]
  dsimp only
  rw [leased.held]
  dsimp only
  unfold Queue.ack
  rw [if_pos leased.current]
  exact ⟨_, rfl⟩

end Leased

theorem live_of_buffers (buffers : Buffers txn next) (claim : Claim) :
    next.live claim = txn.live claim := by
  unfold live Queue.leaseExpiry
  rw [buffers.jobs, buffers.now]

end Txn

/-- A response that acknowledges a live claim is sent as it is. -/
theorem conclude_leased {txn : Txn} {id : String} {claim : Claim} {leaseEnd : Nat} {reply : Reply}
    (leased : txn.Leased id claim leaseEnd) (live : txn.live claim = true) :
    (conclude (commitSettlement txn id reply) true).2 = reply := by
  obtain ⟨commit, acked⟩ := leased.commitAck live
  unfold conclude commitSettlement
  simp only [acked]

/-- A task acquired at a version, with a live claim and an open promise. -/
structure Txn.Granted (txn : Txn) (id : String) (version : Int) : Prop where
  task : ∃ task, txn.getTask id = some task ∧ task.isAcquiredAt version = true
  leased : ∃ claim leaseEnd, txn.Leased id claim leaseEnd ∧ txn.live claim = true
  opened : txn.isOpen id = true

namespace Kernel

variable {env : Env} {txn : Txn} {id : String} {version : Int}

theorem tryTimeout_opened (ids : List String) (opened : ∀ id ∈ ids, txn.isOpen id = true) :
    tryTimeout env txn ids = txn := by
  refine tryTimeout_same ids txn fun id member promise stored _ => ?_
  obtain ⟨other, found, _, early⟩ := (txn.isOpen_iff id).mp (opened id member)
  rw [stored] at found
  cases found
  exact early

/-- The holder of a granted task can fulfil it. -/
theorem taskFulfill_granted (keyed : txn.Keyed) (granted : txn.Granted id version)
    (data : TaskFulfillData) (named : data.id = id) (versioned : data.version = version)
    (kind : data.action.kind = "promise.settle") (own : data.action.data.id = id) :
    ∃ reply, (conclude (taskFulfill env txn data) true).2 = .ok 200 reply := by
  obtain ⟨⟨task, stored, acquired⟩, ⟨claim, leaseEnd, leased, live⟩, opened⟩ := granted
  obtain ⟨promise, promised, pending, early⟩ := (txn.isOpen_iff id).mp opened
  have same : task.id = id := keyed.task id task stored
  have untimed : tryTimeout env txn [id] = txn :=
    tryTimeout_opened [id] fun other member => by rw [List.mem_singleton.mp member]; exact opened
  have settling := settleChain_buffers env txn
    (settledPromise promise data.action.data.state data.action.data.value txn.now)
  refine ⟨.promise (settledPromise promise data.action.data.state data.action.data.value
    txn.now).cleared.record, ?_⟩
  have response : taskFulfill env txn data =
      commitSettlement (settle env txn promise data.action.data.state data.action.data.value).1
        id (ok (.promise (settledPromise promise data.action.data.state data.action.data.value
          txn.now).cleared.record)) := by
    unfold taskFulfill
    dsimp only
    rw [if_neg (not_not.mpr kind), if_neg (not_not.mpr (own.trans named.symm)), named, untimed,
      stored]
    dsimp only
    rw [versioned, if_neg (not_not.mpr acquired), promised]
    dsimp only
    rw [same, leased.holds live]
    dsimp only
    rw [if_pos pending]
    rfl
  rw [response]
  refine conclude_leased (leased.of_buffers settling) ?_
  rw [settle_eq, Txn.live_of_buffers settling]
  exact live

/-- A suspend whose actions pass every check that needs no promise. -/
structure WellFormed (data : TaskSuspendData) : Prop where
  nonempty : data.actions ≠ []
  kind : ∀ action ∈ data.actions, action.kind = "promise.register_callback"
  awaiter : ∀ action ∈ data.actions, action.data.awaiter = data.id
  valid : ∀ action ∈ data.actions, validateCallback action.data.awaited data.id = none
  distinct : (data.actions.map (·.data.awaited)).Nodup

theorem suspendIds_accepts (actions : List (Action CallbackData)) (checked : List String)
    (kind : ∀ action ∈ actions, action.kind = "promise.register_callback")
    (awaiter : ∀ action ∈ actions, action.data.awaiter = id)
    (valid : ∀ action ∈ actions, validateCallback action.data.awaited id = none)
    (distinct : (checked ++ actions.map (·.data.awaited)).Nodup) :
    suspendIds id checked actions = .ok (checked ++ actions.map (·.data.awaited)) := by
  induction actions generalizing checked with
  | nil => rw [List.map_nil, List.append_nil]; rfl
  | cons action rest ih =>
      have fresh : action.data.awaited ∉ checked := by
        intro member
        exact (List.nodup_append.mp distinct).2.2 _ member _ (by simp) rfl
      rw [List.map_cons, List.append_cons] at distinct ⊢
      unfold suspendIds
      rw [if_neg (not_not.mpr (kind action List.mem_cons_self)),
        if_neg (not_not.mpr (awaiter action List.mem_cons_self)), awaiter action List.mem_cons_self,
        valid action List.mem_cons_self]
      dsimp only
      rw [if_neg fresh]
      exact ih _ (fun other member => kind other (List.mem_cons_of_mem _ member))
        (fun other member => awaiter other (List.mem_cons_of_mem _ member))
        (fun other member => valid other (List.mem_cons_of_mem _ member)) distinct

/-- Awaited promises that are stored, external and pending are accepted. -/
theorem suspendAwaited_accepts (txn : Txn) (ids : List String)
    (awaitable : ∀ id ∈ ids, ∃ promise, txn.getPromise id = some promise ∧
      promise.record.isExternal = true ∧ promise.record.isPending = true) :
    ∃ awaited, suspendAwaited txn ids = .ok awaited ∧
      ∀ promise ∈ awaited, promise.record.isPending = true := by
  induction ids with
  | nil => exact ⟨[], rfl, by simp⟩
  | cons id rest ih =>
      obtain ⟨promise, stored, external, pending⟩ := awaitable id List.mem_cons_self
      obtain ⟨awaited, accepted, each⟩ :=
        ih fun other member => awaitable other (List.mem_cons_of_mem _ member)
      refine ⟨promise :: awaited, ?_, ?_⟩
      · unfold suspendAwaited
        rw [stored]
        dsimp only
        rw [if_neg (not_not.mpr external), accepted]
        rfl
      · intro other member
        rcases List.mem_cons.mp member with rfl | later
        · exact pending
        · exact each other later

theorem registerCallback_buffers (awaiter : String) (txn : Txn) (promise : StoredPromise) :
    Txn.Buffers txn (registerCallback txn promise awaiter) := by
  unfold registerCallback
  split
  · exact .refl txn
  · exact Txn.putPromise_buffers txn _

/-- The holder of a granted task can suspend it on promises that are external and open. -/
theorem taskSuspend_granted (keyed : txn.Keyed) (granted : txn.Granted id version)
    (data : TaskSuspendData) (named : data.id = id) (versioned : data.version = version)
    (formed : WellFormed data)
    (awaitable : ∀ action ∈ data.actions, txn.isOpen action.data.awaited = true ∧
      ∃ promise, txn.getPromise action.data.awaited = some promise ∧
        promise.record.isExternal = true) :
    (conclude (taskSuspend env txn data) true).2 = .ok 200 .empty := by
  obtain ⟨⟨task, stored, acquired⟩, ⟨claim, leaseEnd, leased, live⟩, opened⟩ := granted
  have same : task.id = id := keyed.task id task stored
  have ids := suspendIds_accepts data.actions [] formed.kind formed.awaiter formed.valid
    formed.distinct
  rw [List.nil_append] at ids
  have untimed : tryTimeout env txn (data.id :: data.actions.map (·.data.awaited)) = txn := by
    refine tryTimeout_opened _ fun other member => ?_
    rcases List.mem_cons.mp member with rfl | awaited
    · rw [named]
      exact opened
    · obtain ⟨action, among, rfl⟩ := List.mem_map.mp awaited
      exact (awaitable action among).1
  obtain ⟨awaited, accepted, pending⟩ := suspendAwaited_accepts txn
    (data.actions.map (·.data.awaited)) (by
      intro other member
      obtain ⟨action, among, rfl⟩ := List.mem_map.mp member
      obtain ⟨opened, promise, found, external⟩ := awaitable action among
      obtain ⟨known, read, pending, _⟩ := (txn.isOpen_iff _).mp opened
      rw [found] at read
      cases read
      exact ⟨promise, found, external, pending⟩)
  have nonempty : ¬ data.actions.isEmpty = true := by
    simpa using formed.nonempty
  have registering := Txn.foldl_buffers _
    (fun txn promise => registerCallback_buffers data.id txn promise) awaited txn
  have buffers := registering.trans (Txn.putTask_buffers _
    ({ task with resumes := ∅ }.transition .suspended))
  have response : taskSuspend env txn data =
      commitSettlement ((awaited.foldl (fun txn promise => registerCallback txn promise data.id)
        txn).putTask ({ task with resumes := ∅ }.transition .suspended)) data.id (ok .empty) := by
    unfold taskSuspend
    rw [if_neg nonempty, ids]
    dsimp only
    rw [untimed, named, stored]
    dsimp only
    rw [versioned, if_pos acquired, same, leased.holds live]
    dsimp only
    rw [if_neg (by simp), accepted]
    dsimp only
    rw [if_neg (by simpa using pending)]
  rw [response, named]
  rw [named] at buffers
  refine conclude_leased (leased.of_buffers buffers) ?_
  rw [Txn.live_of_buffers buffers]
  exact live

end Kernel

/-! ## Acquiring a task that exists -/

namespace Txn

variable {txn next : Txn} {id : String}

theorem setState_jobs (queue : Queue Payload) (id : Nat) (state : JobState) :
    (queue.setState id state).jobs[id]? =
      (queue.jobs[id]?).map fun job => { job with state := state } := by
  unfold Queue.setState
  cases found : queue.jobs[id]? with
  | none => rw [found, Option.map_none]
  | some job =>
      change (queue.jobs.insert id _)[id]? = _
      rw [Table.find_insert, if_pos rfl, Option.map_some]

/-- A renewal that succeeds puts the held claim under the new lease. -/
theorem renew_leased {lease : Nat} (renewed : txn.renew id lease = (next, true)) :
    ∃ claim, next.Leased id claim (txn.queue.clock + lease) := by
  unfold renew at renewed
  split at renewed
  · cases renewed
  · rename_i checked held
    obtain ⟨rfl, claim, found⟩ := holds_true held
    simp only [found] at renewed
    split at renewed
    · rename_i queue moved
      cases renewed
      unfold Queue.renewLease at moved
      split at moved
      · rename_i current
        cases moved
        obtain ⟨job, stored, _⟩ := (checked.queue.current_iff claim).mp current
        refine ⟨claim, found, { job with state := .claimed claim.token _ }, ?_, rfl⟩
        change (Queue.setState _ _ _).jobs[claim.id]? = _
        rw [setState_jobs, stored, Option.map_some]
      · cases moved
    · cases renewed

end Txn

/-- A transaction that leaves a task acquired at a version under a fresh lease, and nothing to do
after its commit. -/
structure Txn.Renewed (txn next : Txn) (id : String) (version : Int) (lease : Nat) : Prop where
  enqueues : next.enqueues = txn.enqueues
  after : next.after = txn.after
  clock : next.queue.clock = txn.queue.clock
  now : next.now = txn.now
  promises : next.getPromise = txn.getPromise
  task : ∃ task, next.getTask id = some task ∧ task.isAcquiredAt version = true
  leased : ∃ claim, next.Leased id claim (txn.queue.clock + lease)

namespace Kernel

variable {env : Env} {txn : Txn} {id : String}

/-- An acquisition that is granted renews the lease of the claim held for the task. -/
theorem acquire_renewed {next : Txn} {task acquired : StoredTask} {pid : String} {ttl : Int}
    (granted : acquire txn task pid ttl = (next, some acquired)) :
    txn.Renewed next task.id acquired.version (leaseOf ttl) ∧ acquired.id = task.id ∧
      next.getTask task.id = some acquired := by
  unfold acquire at granted
  split at granted
  · cases granted
  · rename_i renewed held
    have touches := Txn.renew_touches txn task.id (leaseOf ttl)
    rw [held] at touches
    obtain ⟨claim, leased⟩ := Txn.renew_leased held
    cases granted
    have stored : (renewed.putTask (acquiredTask task pid ttl)).getTask task.id =
        some (acquiredTask task pid ttl) := by
      rw [Txn.getTask_putTask]
      exact if_pos rfl
    refine ⟨⟨touches.enqueues, touches.after, touches.clock, touches.now, touches.getPromise, ?_,
      claim, leased.held, leased.job⟩, rfl, stored⟩
    exact ⟨acquiredTask task pid ttl, stored, by simp [StoredTask.isAcquiredAt, acquiredTask]⟩

/-- A reply with a task's view shows the task and is committed. -/
theorem doneView_reply {task : StoredTask} {record : TaskRecord} {promise : PromiseRecord}
    {siblings : List PromiseRecord}
    (replied : (doneView txn task).reply = .ok 200 (.taskView record promise siblings)) :
    record = task.record ∧ (doneView txn task).exit = .commit := by
  unfold doneView taskView at replied ⊢
  cases found : txn.getPromise task.id with
  | none =>
      rw [found] at replied
      cases replied
  | some stored =>
      rw [found] at replied
      cases replied
      exact ⟨rfl, rfl⟩

/-- A task a creation starts acquired: its job is enqueued to be claimed after the commit. -/
structure Created (env : Env) (txn next : Txn) (id : String) (lease : Nat) : Prop where
  queue : next.queue = txn.queue.nextJobId.2
  held : next.held = txn.held
  now : next.now = txn.now
  after : next.after = [.claim id txn.queue.nextJob lease]
  enqueues : ∃ target runAt timers,
    next.enqueues = Txn.executeRequest env target id txn.queue.nextJob runAt :: timers ∧
      ∀ request ∈ timers, request.idOverride = none
  task : ∃ task, next.getTask id = some task ∧ task.isAcquiredAt 1 = true

/-- How a request that acquires a task leaves its transaction. -/
inductive Acquires (env : Env) (txn : Txn) (id : String) (version : Int) (lease : Nat) :
    Response → Prop
  | renewed (response : Response) (exit : response.exit = .commit)
      (renewed : txn.Renewed response.txn id version lease)
      (opened : response.txn.isOpen id = true) : Acquires env txn id version lease response
  | created (response : Response) (exit : response.exit = .commit) (first : version = 1)
      (created : Created env txn response.txn id lease)
      (opened : response.txn.isOpen id = true) : Acquires env txn id version lease response

theorem Acquires.opened {version : Int} {lease : Nat} {response : Response}
    (acquires : Acquires env txn id version lease response) : response.txn.isOpen id = true := by
  cases acquires with
  | renewed exit renewed opened => exact opened
  | created exit first created opened => exact opened

theorem isOpen_renewed {next : Txn} {version : Int} {lease : Nat}
    (renewed : txn.Renewed next id version lease) : next.isOpen id = txn.isOpen id := by
  unfold Txn.isOpen
  rw [renewed.promises, renewed.now]

/-- An acquisition that replies with the task acquired was granted. -/
theorem acquire_acquires {next : Txn} {task : StoredTask} (pid : String) (ttl : Int)
    (status : Nat) (message : String) {record : TaskRecord} {promise : PromiseRecord}
    {siblings : List PromiseRecord} (touches : Txn.Touches txn next)
    (opened : txn.isOpen task.id = true)
    (replied : (match acquire next task pid ttl with
      | (txn, none) => done txn (.err status message)
      | (txn, some task) => doneView txn task).reply = .ok 200 (.taskView record promise siblings)) :
    Acquires env txn task.id record.version (leaseOf ttl)
      (match acquire next task pid ttl with
      | (txn, none) => done txn (.err status message)
      | (txn, some task) => doneView txn task) := by
  cases granted : acquire next task pid ttl with
  | mk last outcome =>
      cases outcome with
      | none =>
          rw [granted] at replied
          cases replied
      | some acquired =>
          rw [granted] at replied
          obtain ⟨rfl, exit⟩ := doneView_reply replied
          obtain ⟨renewed, own, _⟩ := acquire_renewed granted
          have whole : txn.Renewed last task.id acquired.version (leaseOf ttl) :=
            ⟨renewed.enqueues.trans touches.enqueues, renewed.after.trans touches.after,
              renewed.clock.trans touches.clock, renewed.now.trans touches.now,
              renewed.promises.trans touches.getPromise, renewed.task,
              touches.clock ▸ renewed.leased⟩
          refine .renewed _ exit ?_ ?_
          · rw [doneView_txn]
            exact whole
          · rw [doneView_txn, isOpen_renewed whole]
            exact opened

theorem taskAcquire_acquires (keyed : txn.Keyed) (coupled : ∀ id, Coupled (txn.cell id))
    (data : TaskAcquireData) {record : TaskRecord} {promise : PromiseRecord}
    {siblings : List PromiseRecord}
    (replied : (taskAcquire env txn data).reply = .ok 200 (.taskView record promise siblings)) :
    Acquires env txn data.id record.version (leaseOf data.ttl) (taskAcquire env txn data) := by
  have timed := tryTimeout_keyed env [data.id] keyed
  unfold taskAcquire at replied ⊢
  dsimp only at replied ⊢
  cases stored : (tryTimeout env txn [data.id]).getTask data.id with
  | none =>
      rw [stored] at replied
      cases replied
  | some task =>
      rw [stored] at replied
      dsimp only at replied ⊢
      have own : task.id = data.id := timed.task _ _ stored
      by_cases pending : task.state = .pending
      · obtain ⟨same, opened⟩ := tryTimeout_open keyed coupled stored (by simp [pending])
        rw [if_neg (not_not.mpr pending)] at replied ⊢
        by_cases version : task.version = data.version
        · rw [if_neg (not_not.mpr version)] at replied ⊢
          rw [same] at replied ⊢
          rw [← own] at opened ⊢
          exact acquire_acquires _ _ _ _ (.refl txn) opened replied
        · rw [if_pos version] at replied
          cases replied
      · rw [if_pos pending] at replied
        cases replied

theorem taskCreateExisting_acquires (data : TaskCreateData) (task : StoredTask)
    (opened : task.state ≠ .fulfilled → txn.isOpen task.id = true) {record : TaskRecord}
    {promise : PromiseRecord} {siblings : List PromiseRecord}
    (replied : (taskCreateExisting txn data task).reply =
      .ok 200 (.taskView record promise siblings)) (acquired : record.state = .acquired) :
    Acquires env txn task.id record.version (leaseOf data.ttl)
      (taskCreateExisting txn data task) := by
  by_cases pending : task.state = .pending
  · rw [taskCreateExisting_pending data task pending] at replied ⊢
    by_cases taken : (claimed txn task (leaseOf data.ttl)).2 = true
    · rw [if_neg (not_not.mpr taken)] at replied ⊢
      exact acquire_acquires _ _ _ _ (claimed_touches txn task _) (opened (by simp [pending]))
        replied
    · rw [if_pos taken] at replied
      cases replied
  · unfold taskCreateExisting at replied
    split at replied
    · contradiction
    · rename_i ended
      obtain ⟨rfl, _⟩ := doneView_reply replied
      exact absurd (ended.symm.trans acquired) (by simp)
    all_goals cases replied

/-! ## Acquiring a task that is created -/

theorem startTask_acquire_queue (promise : PromiseRecord) (target pid : String) (ttl : Int)
    (early : txn.now < promise.timeoutAt) :
    (startTask env txn promise target (.acquire pid ttl)).queue = txn.queue.nextJobId.2 := by
  unfold startTask
  dsimp only
  rw [if_neg (by omega)]
  rfl

theorem createPromise_acquire_queue (data : PromiseCreateData) (target pid : String) (ttl : Int)
    (targeted : data.tags[tagTarget]? = some target) (early : txn.now < data.timeoutAt) :
    (createPromise env txn data none (.acquire pid ttl)).1.queue = txn.queue.nextJobId.2 := by
  have started : (started env txn data none (.acquire pid ttl)).queue = txn.queue.nextJobId.2 := by
    unfold started
    dsimp only
    rw [PromiseRecord.target, newPromise_tags, targeted]
    dsimp only
    rw [startTask_acquire_queue]
    · change (txn.indexBranch _).queue.nextJobId.2 = _
      rw [indexed_queue]
    · change (txn.indexBranch _).now < _
      rw [indexed_now, newPromise_timeoutAt]
      exact early
  rw [createPromise_eq]
  dsimp only
  split
  · exact started
  · exact started

/-- A creation that starts its task acquired. -/
theorem createPromise_created (data : PromiseCreateData) (target pid : String) (ttl : Int)
    (targeted : data.tags[tagTarget]? = some target) (early : txn.now < data.timeoutAt)
    (unenqueued : txn.enqueues = []) (unfollowed : txn.after = []) :
    Created env txn (createPromise env txn data none (.acquire pid ttl)).1 data.id
      (leaseOf ttl) := by
  have buffers := createPromise_buffers env txn data none (.acquire pid ttl)
  have late : ¬ txn.now ≥ (newPromise data none txn.now).record.timeoutAt := by
    rw [newPromise_timeoutAt]
    omega
  refine ⟨createPromise_acquire_queue data target pid ttl targeted early, buffers.held, buffers.now,
    ?_, ⟨target, ?_⟩, ?_⟩
  · rw [after_createPromise, unfollowed, List.nil_append]
    unfold createFollows startFollows
    rw [targeted]
    dsimp only
    rw [if_neg late, newPromise_id]
  · rw [enqueues_createPromise, unenqueued, List.nil_append]
    unfold createRequests startRequests
    dsimp only
    rw [PromiseRecord.target, newPromise_tags, targeted]
    dsimp only
    rw [if_neg late, newPromise_id]
    refine ⟨_, _, rfl, ?_⟩
    intro request member
    split at member
    · rw [List.mem_singleton.mp member]
      rfl
    · cases member
  · refine ⟨createdTask (newPromise data none txn.now).record target (.acquire pid ttl) txn.now
      txn.queue.nextJob, ?_, ?_⟩
    · rw [getTask_createPromise, if_pos rfl]
      unfold taskOf
      rw [targeted]
      rfl
    · unfold createdTask
      dsimp only
      rw [if_neg late]
      rfl

/-- A created task that is acquired had a deadline to come. -/
theorem early_of_acquired {data : PromiseCreateData} {target pid : String} {ttl : Int} {job : Nat}
    (acquired : (createdTask (newPromise data none txn.now).record target (.acquire pid ttl) txn.now
      job).record.state = .acquired) : txn.now < data.timeoutAt := by
  by_contra late
  unfold createdTask at acquired
  dsimp only at acquired
  rw [if_pos (by rw [newPromise_timeoutAt]; omega)] at acquired
  cases acquired

/-- A created task starts acquired at version 1. -/
theorem created_version {data : PromiseCreateData} {target pid : String} {ttl : Int} {job : Nat}
    (early : txn.now < data.timeoutAt) :
    (createdTask (newPromise data none txn.now).record target (.acquire pid ttl) txn.now
      job).record.version = 1 := by
  unfold createdTask
  dsimp only
  rw [if_neg (by rw [newPromise_timeoutAt]; omega)]
  rfl

theorem isOpen_created (data : PromiseCreateData) (mode : CreateMode)
    (early : txn.now < data.timeoutAt) :
    (createPromise env txn data none mode).1.isOpen data.id = true := by
  rw [Txn.isOpen_iff]
  refine ⟨newPromise data none txn.now, ?_, ?_, ?_⟩
  · rw [getPromise_createPromise, if_pos rfl]
  · rw [newPromise_pending, decide_eq_true early]
  · rw [newPromise_timeoutAt, (createPromise_buffers env txn data none mode).now]
    exact early

theorem tryTimeout_absent {ids : List String} (absent : ∀ id ∈ ids, txn.getPromise id = none) :
    tryTimeout env txn ids = txn := by
  refine tryTimeout_same ids txn fun id member promise stored _ => ?_
  rw [absent id member] at stored
  cases stored

/-- A creation that replies with its task acquired starts it so. -/
theorem createTask_acquires (data : PromiseCreateData) (target pid : String) (ttl : Int)
    (message : String) (targeted : data.tags[tagTarget]? = some target)
    (unenqueued : txn.enqueues = []) (unfollowed : txn.after = []) {record : TaskRecord}
    {promise : PromiseRecord} {siblings : List PromiseRecord}
    (replied : (match (createPromise env txn data none (.acquire pid ttl)).1.getTask
        (createPromise env txn data none (.acquire pid ttl)).2.record.id with
      | some task => doneView (createPromise env txn data none (.acquire pid ttl)).1 task
      | none => expectFailed (createPromise env txn data none (.acquire pid ttl)).1
          message).reply = .ok 200 (.taskView record promise siblings))
    (acquired : record.state = .acquired) :
    Acquires env txn data.id record.version (leaseOf ttl)
      (match (createPromise env txn data none (.acquire pid ttl)).1.getTask
        (createPromise env txn data none (.acquire pid ttl)).2.record.id with
      | some task => doneView (createPromise env txn data none (.acquire pid ttl)).1 task
      | none => expectFailed (createPromise env txn data none (.acquire pid ttl)).1 message) := by
  have named : (createPromise env txn data none (.acquire pid ttl)).2.record.id = data.id := by
    rw [createPromise_promise]
    exact newPromise_id data none txn.now
  have stored := getTask_createPromise env txn data none (.acquire pid ttl) data.id
  rw [if_pos rfl, taskOf, targeted, Option.map_some, Option.some_or] at stored
  rw [named, stored] at replied ⊢
  dsimp only at replied ⊢
  obtain ⟨rfl, exit⟩ := doneView_reply replied
  have early := early_of_acquired acquired
  refine .created _ exit (created_version early) ?_ ?_
  · rw [doneView_txn]
    exact createPromise_created data target pid ttl targeted early unenqueued unfollowed
  · rw [doneView_txn]
    exact isOpen_created data _ early

theorem taskCreate_acquires (keyed : txn.Keyed) (coupled : ∀ id, Coupled (txn.cell id))
    (unenqueued : txn.enqueues = []) (unfollowed : txn.after = [])
    (data : TaskCreateData) {record : TaskRecord} {promise : PromiseRecord}
    {siblings : List PromiseRecord}
    (replied : (taskCreate env txn data).reply = .ok 200 (.taskView record promise siblings))
    (acquired : record.state = .acquired) :
    Acquires env txn data.action.data.id record.version (leaseOf data.ttl)
      (taskCreate env txn data) := by
  have timed := tryTimeout_keyed env [data.action.data.id] keyed
  unfold taskCreate at replied ⊢
  dsimp only at replied ⊢
  split at replied
  · cases replied
  · rename_i kind
    rw [if_neg kind]
    split at replied
    · cases replied
    · rename_i process
      rw [if_neg process]
      split at replied
      · cases replied
      · rename_i positive
        rw [if_neg positive]
        split at replied
        · rename_i refused
          obtain ⟨message, rfl⟩ := validateCreate_refusal refused
          cases replied
        · split at replied
          · cases replied
          · rename_i targeted
            rw [if_neg targeted]
            split at replied
            · cases replied
            · rename_i undelayed
              rw [if_neg undelayed]
              cases stored : (tryTimeout env txn [data.action.data.id]).getTask
                  data.action.data.id with
              | some task =>
                  rw [stored] at replied
                  dsimp only at replied ⊢
                  have own : task.id = data.action.data.id := timed.task _ _ stored
                  by_cases ended : task.state = .fulfilled
                  · unfold taskCreateExisting at replied
                    rw [ended] at replied
                    obtain ⟨rfl, _⟩ := doneView_reply replied
                    exact absurd (ended.symm.trans acquired) (by simp)
                  · obtain ⟨same, opened⟩ := tryTimeout_open keyed coupled stored ended
                    rw [same] at replied ⊢
                    rw [← own] at opened ⊢
                    exact taskCreateExisting_acquires data task (fun _ => opened) replied acquired
              | none =>
                  rw [stored] at replied
                  dsimp only at replied ⊢
                  cases promised : (tryTimeout env txn [data.action.data.id]).getPromise
                      data.action.data.id with
                  | some stored =>
                      rw [promised] at replied
                      cases replied
                  | none =>
                      have same : tryTimeout env txn [data.action.data.id] = txn := by
                        refine tryTimeout_absent fun id member => ?_
                        rw [List.mem_singleton.mp member]
                        rw [getPromise_tryTimeout _ keyed] at promised
                        simpa using promised
                      rw [promised] at replied
                      rw [same] at replied ⊢
                      cases tagged : data.action.data.tags[tagTarget]? with
                      | none =>
                          rw [tagged] at targeted
                          exact absurd rfl targeted
                      | some target =>
                          exact createTask_acquires _ target _ _ _ tagged unenqueued unfollowed
                            replied acquired

end Kernel

/-! ## The state an acquisition leaves -/

/-- The time to live a request acquires its task for. -/
def Request.ttl : Request → Option Int
  | .taskAcquire data => some data.ttl
  | .taskCreate data => some data.ttl
  | _ => none

/-- The state after a request and the work that follows its commit under the lock. -/
def Completes (env : Env) (before : System) (request : Request) (stored : Bool)
    (after : System) : Prop :=
  ∃ steps, Machine.run (step env) before
    (.request request stored :: List.replicate steps .finish) = some after ∧ after.after = []

/-- The store holds a live claim of the task's job, so the holder of `version` can fulfil the task
and suspend it on promises that are external and open. -/
structure Usable (env : Env) (system : System) (id : String) (version : Int) : Prop where
  claim : ∃ task claim, system.task id = some task ∧ task.isAcquiredAt version = true ∧
    system.held[id]? = some claim ∧ task.job = some claim.id ∧
    (system.txn env).live claim = true
  fulfil : ∀ data : TaskFulfillData, data.id = id → data.version = version →
    data.action.kind = "promise.settle" → data.action.data.id = id →
    ∃ reply, answer env system (.taskFulfill data) true = .ok 200 reply
  suspend : ∀ data : TaskSuspendData, data.id = id → data.version = version → WellFormed data →
    (∀ action ∈ data.actions, ∃ promise, system.promise action.data.awaited = some promise ∧
      promise.record.isExternal = true ∧ promise.record.isPending = true ∧
      system.now < promise.record.timeoutAt) →
    answer env system (.taskSuspend data) true = .ok 200 .empty

section

variable {env : Env} {before after system : System} {request : Request} {id : String}
  {version : Int}

/-- A claim held under a live lease is of the job its task records. -/
theorem Txn.Leased.job_of_task {claim : Claim} {leaseEnd : Nat} {task : StoredTask}
    (leased : (system.txn env).Leased id claim leaseEnd) (reached : Reachable env system)
    (stored : system.task id = some task) : task.job = some claim.id := by
  have sound := (Reachable.booked reached).sound
  obtain ⟨job, found, _⟩ := leased.job
  obtain ⟨matched, executes⟩ := sound.held id claim leased.held
  have contents : (system.view env).queue.contents claim.id = some (job.queue, job.payload, job.runAt) :=
    congrArg (Option.map _) found
  have payload : job.payload = .execute id := by
    have same := matched.contents _ contents
    rw [← executes]
    exact congrArg (·.2.1) same
  obtain ⟨other, known, recorded, _⟩ :=
    sound.ledger.named claim.id id (.inl ⟨_, contents, payload⟩)
  rw [view_getTask, stored] at known
  cases known
  exact recorded

theorem usable_of_granted (reached : Reachable env system)
    (granted : (system.txn env).Granted id version) : Usable env system id version := by
  have keyed := Reachable.keyed reached
  refine ⟨?_, ?_, ?_⟩
  · obtain ⟨⟨task, stored, acquired⟩, ⟨claim, leaseEnd, leased, live⟩, _⟩ := granted
    rw [System.getTask_txn] at stored
    exact ⟨task, claim, stored, acquired, leased.held, leased.job_of_task reached stored, live⟩
  · intro data named versioned kind own
    exact taskFulfill_granted keyed granted data named versioned kind own
  · intro data named versioned formed awaitable
    refine taskSuspend_granted keyed granted data named versioned formed ?_
    intro action member
    obtain ⟨promise, stored, external, pending, early⟩ := awaitable action member
    rw [← System.getPromise_txn env] at stored
    exact ⟨(Txn.isOpen_iff _ _).mpr ⟨promise, stored, pending, early⟩, promise, stored, external⟩

/-- The work that follows a commit, in order. -/
def performAll : Queue Payload → Held → List After → Queue Payload × Held
  | queue, held, [] => (queue, held)
  | queue, held, action :: rest =>
      performAll (action.perform queue held).1 (action.perform queue held).2 rest

/-- A run that finishes the work of a commit has performed all of it and nothing else. -/
theorem run_finish {steps : Nat}
    (ran : Machine.run (step env) before (List.replicate steps .finish) = some after)
    (unlocked : after.after = []) :
    after.kv = before.kv ∧ (after.queue, after.held) =
      performAll before.queue before.held before.after := by
  induction steps generalizing before with
  | zero =>
      cases ran
      rw [unlocked]
      exact ⟨rfl, rfl⟩
  | succ steps ih =>
      rw [List.replicate_succ, Machine.run_cons] at ran
      obtain ⟨next, taken, remaining⟩ := Option.bind_eq_some_iff.mp ran
      change stepFinish before = some next at taken
      unfold stepFinish at taken
      cases pending : before.after with
      | nil =>
          rw [pending] at taken
          cases taken
      | cons action rest =>
          rw [pending] at taken
          dsimp only at taken
          obtain ⟨kv, performed⟩ := ih remaining
          have left : next.kv = before.kv ∧
              next.queue = (action.perform before.queue before.held).1 ∧
              next.held = (action.perform before.queue before.held).2 ∧ next.after = rest := by
            split at taken
            · rename_i last
              cases taken
              exact ⟨rfl, rfl, rfl, rfl⟩
            · cases taken
              exact ⟨rfl, rfl, rfl, rfl⟩
          obtain ⟨records, queue, held, later⟩ := left
          rw [queue, held, later] at performed
          exact ⟨kv.trans records, performed⟩

/-- What the state an acquisition leaves holds of its task. -/
structure Obtained (env : Env) (before after : System) (id : String) (version : Int)
    (lease : Nat) : Prop where
  clock : after.queue.clock = before.queue.clock
  task : ∃ task, after.task id = some task ∧ task.isAcquiredAt version = true
  opened : (after.txn env).isOpen id = true
  leased : ∃ claim, (after.txn env).Leased id claim (before.queue.clock + lease)

theorem isOpen_stored {txn : Txn} (stores : Stores txn system) (now : system.now = txn.now)
    (id : String) : (system.txn env).isOpen id = txn.isOpen id := by
  unfold Txn.isOpen
  rw [System.getPromise_txn, stores.promise]
  exact congrArg (fun time => (txn.getPromise id).any fun promise =>
    promise.record.isPending && decide (time < promise.record.timeoutAt)) now

/-- A task acquired with the claim it was delivered with. -/
theorem obtained_renewed {txn : Txn} {lease : Nat}
    (renewed : (before.txn env).Renewed txn id version lease) (opened : txn.isOpen id = true)
    (kv : after.kv = txn.kv.apply txn.writes) (queue : after.queue = txn.commit.queue)
    (held : after.held = txn.held) : Obtained env before after id version lease := by
  have stores : Stores txn after := stores_of_kv kv
  have same : after.queue = txn.queue := by
    rw [queue]
    unfold Txn.commit
    rw [renewed.enqueues]
    rfl
  obtain ⟨task, stored, acquired⟩ := renewed.task
  obtain ⟨claim, leased⟩ := renewed.leased
  have clock : after.queue.clock = before.queue.clock := by
    rw [same]
    exact renewed.clock
  refine ⟨clock, ⟨task, ?_, acquired⟩, ?_, claim, ?_, ?_⟩
  · rw [stores.task]
    exact stored
  · rw [isOpen_stored stores ((now_of_clock clock).trans renewed.now.symm)]
    exact opened
  · change after.held[id]? = _
    rw [held]
    exact leased.held
  · change ∃ job, after.queue.jobs[claim.id]? = some job ∧ _
    rw [same]
    exact leased.job

/-- A task that is created acquired, once its job is claimed. -/
theorem obtained_created {txn : Txn} {lease : Nat}
    (created : Created env (before.txn env) txn id lease) (opened : txn.isOpen id = true)
    (kv : after.kv = txn.kv.apply txn.writes)
    (queue : after.queue = ((After.claim id before.queue.nextJob lease).perform txn.commit.queue
      txn.held).1)
    (held : after.held = ((After.claim id before.queue.nextJob lease).perform txn.commit.queue
      txn.held).2) : Obtained env before after id 1 lease := by
  have stores : Stores txn after := stores_of_kv kv
  obtain ⟨target, runAt, timers, enqueues, unnamed⟩ := created.enqueues
  have nextJob : (before.txn env).queue.nextJob = before.queue.nextJob := rfl
  rw [nextJob] at enqueues
  have committed : txn.commit.queue =
      (Queue.enqueue ((before.queue.nextJobId.2.enqueueOne
        (Txn.executeRequest env target id before.queue.nextJob runAt)).2) timers).2 := by
    unfold Txn.commit
    rw [enqueues, created.queue]
    rfl
  have clock : txn.commit.queue.clock = before.queue.clock := by
    rw [committed, Queue.enqueue_clock, Queue.enqueueOne_clock]
    rfl
  obtain ⟨job, found, unclaimed⟩ : ∃ job, txn.commit.queue.jobs[before.queue.nextJob]? = some job ∧
      job.state.isClaimed = false := by
    refine ⟨LeaseQueue.Queue.placed before.queue.nextJobId.2.clock
      (Txn.executeRequest env target id before.queue.nextJob runAt), ?_, ?_⟩
    · rw [committed, Queue.enqueue_unnamed unnamed]
      · rw [Queue.enqueueOne_jobs, Table.find_insert]
        exact if_pos rfl
      · exact Nat.lt_of_lt_of_le (Nat.lt_succ_self _)
          (Queue.enqueueOne_nextJob_le before.queue.nextJobId.2 _)
    · unfold LeaseQueue.Queue.placed
      dsimp only
      split <;> rfl
  have granted : txn.commit.queue.claimById before.queue.nextJob lease =
      some (txn.commit.queue.grant before.queue.nextJob job lease) := by
    unfold Queue.claimById
    rw [found]
    dsimp only
    rw [if_neg (by simp [unclaimed])]
  unfold After.perform at queue held
  dsimp only at queue held
  rw [granted] at queue held
  obtain ⟨task, stored, acquired⟩ := created.task
  have same : after.queue.clock = before.queue.clock := by
    rw [queue]
    exact clock
  refine ⟨same, ⟨task, ?_, acquired⟩, ?_,
    (txn.commit.queue.grant before.queue.nextJob job lease).1, ?_, ?_⟩
  · rw [stores.task]
    exact stored
  · rw [isOpen_stored stores ((now_of_clock same).trans created.now.symm)]
    exact opened
  · change after.held[id]? = _
    rw [held, Table.find_insert]
    exact if_pos rfl
  · refine ⟨{ job with state := .claimed txn.commit.queue.nextToken (txn.commit.queue.clock + lease) },
      ?_, ?_⟩
    · change after.queue.jobs[before.queue.nextJob]? = _
      rw [queue]
      change (txn.commit.queue.jobs.insert _ _)[before.queue.nextJob]? = _
      rw [Table.find_insert]
      exact if_pos rfl
    · rw [clock]
      rfl

/-- A granted acquisition that completes leaves its task under a lease that starts now. -/
theorem acquires_obtained {lease : Nat}
    (acquires : Acquires env (before.txn env) id version lease (handle env (before.txn env) request))
    (completed : Completes env before request true after) :
    Obtained env before after id version lease := by
  obtain ⟨steps, ran, unlocked⟩ := completed
  obtain ⟨next, taken, remaining⟩ := Option.bind_eq_some_iff.mp ran
  change stepRequest env before request true = some next at taken
  unfold stepRequest at taken
  split at taken
  · generalize handle env (before.txn env) request = response at acquires taken
    cases acquires with
    | renewed exit renewed opened =>
        simp only [conclude, exit, Option.some.injEq] at taken
        obtain ⟨kv, performed⟩ := run_finish remaining unlocked
        have free : next.after = [] := by
          rw [← taken]
          exact renewed.after
        rw [free] at performed
        rw [← taken] at kv performed
        exact obtained_renewed renewed opened kv (congrArg Prod.fst performed)
          (congrArg Prod.snd performed)
    | created exit first created opened =>
        simp only [conclude, exit, Option.some.injEq] at taken
        have last : next.after = [.claim id before.queue.nextJob lease] := by
          rw [← taken]
          exact created.after
        obtain ⟨kv, performed⟩ := run_finish remaining unlocked
        rw [last] at performed
        rw [← taken] at kv performed
        rw [first]
        exact obtained_created created opened kv (congrArg Prod.fst performed)
          (congrArg Prod.snd performed)
  · cases taken

/-- What was obtained can be used exactly when the lease outlasts the current time. -/
theorem Obtained.usable_iff {lease : Nat} (obtained : Obtained env before after id version lease)
    (reached : Reachable env after) :
    Usable env after id version ↔ 1 ≤ lease ∧ before.now < Text.i64Max := by
  obtain ⟨clock, ⟨task, stored, acquired⟩, opened, claim, leased⟩ := obtained
  have live : (after.txn env).live claim = true ↔ 1 ≤ lease ∧ before.now < Text.i64Max := by
    have now : (after.txn env).now = min (before.queue.clock : Int) Text.i64Max := by
      change min (after.queue.clock : Int) Text.i64Max = _
      rw [clock]
    have start : before.now = min (before.queue.clock : Int) Text.i64Max := rfl
    rw [leased.live_iff, now, start]
    omega
  constructor
  · intro usable
    obtain ⟨_, other, _, _, held, _, running⟩ := usable.claim
    have same : other = claim := by
      have known : after.held[id]? = some claim := leased.held
      rw [held] at known
      exact Option.some.inj known
    exact live.mp (same ▸ running)
  · intro lasting
    refine usable_of_granted reached ⟨⟨task, ?_, acquired⟩, ⟨claim, _, leased, live.mpr lasting⟩,
      opened⟩
    rw [System.getTask_txn]
    exact stored

theorem Completes.reachable {stored : Bool} (completed : Completes env before request stored after)
    (reached : Reachable env before) : Reachable env after := by
  obtain ⟨steps, ran, _⟩ := completed
  obtain ⟨past, history⟩ := reached
  obtain ⟨newer, extended⟩ := Machine.History.append_run history ran
  exact ⟨_, extended⟩

end

/-- An acquisition that is granted can be used exactly when it asked for a positive lease and the
clock has not run out: then the store holds a live claim of the task's job, and the holder can
fulfil the task or suspend it. -/
theorem acquisition_usable {env : Env} {before after : System} {request : Request} {stored : Bool}
    {ttl : Int} {record : TaskRecord} {promise : PromiseRecord} {siblings : List PromiseRecord}
    (reached : Reachable env before) (asked : request.ttl = some ttl)
    (completed : Completes env before request stored after)
    (replied : answer env before request stored = .ok 200 (.taskView record promise siblings))
    (acquired : record.state = .acquired) :
    Usable env after record.id record.version ↔ 1 ≤ ttl ∧ before.now < Text.i64Max := by
  have keyed := Reachable.keyed reached
  have coupled (id : String) : Coupled ((before.txn env).cell id) := by
    rw [System.cell_txn]
    exact Reachable.coupled reached id
  have handled := (conclude_ok replied).1
  have last := ((handle_outcome env keyed request).trail keyed).keyed keyed
  have named (id : String) (viewed : request.viewed = some id) : record.id = id := by
    obtain ⟨task, own, others, same, first, _⟩ :=
      (handle_answered env keyed request).paired last 200 _ handled id viewed
    cases same
    exact first
  obtain ⟨id, viewed, acquires⟩ : ∃ id, request.viewed = some id ∧
      Acquires env (before.txn env) id record.version (leaseOf ttl)
        (handle env (before.txn env) request) := by
    cases request with
    | taskAcquire data =>
        cases asked
        exact ⟨data.id, rfl, taskAcquire_acquires keyed coupled data handled⟩
    | taskCreate data =>
        cases asked
        exact ⟨data.action.data.id, rfl,
          taskCreate_acquires keyed coupled rfl rfl data handled acquired⟩
    | _ => cases asked
  have committed : stored = true := by
    cases stored with
    | true => rfl
    | false =>
        have exit : (handle env (before.txn env) request).exit = .commit := by
          cases acquires with
          | renewed exit renewed opened => exact exit
          | created exit first created opened => exact exit
        unfold answer conclude at replied
        rw [exit] at replied
        cases replied
  subst committed
  rw [named id viewed, (acquires_obtained acquires completed).usable_iff
    (completed.reachable reached)]
  unfold leaseOf
  omega

/-- A dispatched task that was delivered and not yet acquired. -/
def deliveredRun : List Event :=
  [.clock 1, .request (.promiseCreate .sample) true, .take 0 0, .deliver (.sample 0 0) true, .finish]

theorem deliveredRun_ends : (Machine.run (step .sample) .empty deliveredRun).isSome = true := by
  decide

def delivered : System := (Machine.run (step .sample) .empty deliveredRun).get deliveredRun_ends

theorem delivered_reachable : Reachable .sample delivered :=
  Machine.reachable_of_run (Option.some_get deliveredRun_ends).symm

/-- The acquisition of the delivered task. -/
def acquireRoot (ttl : Int) : Request := .taskAcquire ⟨"root", 0, "p", ttl⟩

/-- A task acquired for a hundred milliseconds can be used. -/
theorem acquisition_usable_acquired :
    ∃ after, Completes .sample delivered (acquireRoot 100) true after ∧
      Usable .sample after "root" 1 := by
  have enabled : (step .sample delivered (.request (acquireRoot 100) true)).any
      (fun after => after.after = []) = true := by
    decide
  obtain ⟨after, taken, unlocked⟩ := (Option.any_eq_true _ _).mp enabled
  have completed : Completes .sample delivered (acquireRoot 100) true after := by
    refine ⟨0, ?_, of_decide_eq_true unlocked⟩
    change (step .sample delivered _).bind _ = _
    rw [taken]
    rfl
  have replied : answer .sample delivered (acquireRoot 100) true =
      .ok 200 (.taskView ⟨"root", .acquired, 1, 0, some 100, some "p"⟩
        (newPromise .sample none 1).record []) := by
    decide
  exact ⟨after, completed, (acquisition_usable delivered_reachable rfl completed replied rfl).mpr
    (by decide)⟩

/-- A task acquired for no time at all is acquired, and its holder cannot fulfil it. -/
theorem acquisition_without_lease :
    ∃ before after, Reachable .sample before ∧
      Completes .sample before (acquireRoot 0) true after ∧
      (∃ promise siblings, answer .sample before (acquireRoot 0) true =
        .ok 200 (.taskView ⟨"root", .acquired, 1, 0, some 0, some "p"⟩ promise siblings)) ∧
      after.now = before.now ∧
      answer .sample after (.taskFulfill ⟨"root", 1, ⟨"promise.settle", ⟨"root", .resolved, {}⟩⟩⟩)
        true = .err 409 "Task version mismatch or invalid state" := by
  have enabled : (step .sample delivered (.request (acquireRoot 0) true)).any (fun after =>
      after.after = [] ∧ after.now = delivered.now ∧
      answer .sample after (.taskFulfill ⟨"root", 1, ⟨"promise.settle", ⟨"root", .resolved, {}⟩⟩⟩)
        true = .err 409 "Task version mismatch or invalid state") = true := by
    decide
  obtain ⟨after, taken, checked⟩ := (Option.any_eq_true _ _).mp enabled
  obtain ⟨unlocked, now, refused⟩ := of_decide_eq_true checked
  refine ⟨delivered, after, delivered_reachable, ⟨0, ?_, unlocked⟩,
    ⟨(newPromise .sample none 1).record, [], by decide⟩, now, refused⟩
  change (step .sample delivered _).bind _ = _
  rw [taken]
  rfl

end Resonate
