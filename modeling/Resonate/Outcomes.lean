import Resonate.Deadlines

set_option autoImplicit false

/-! Every handler is a trail of moves its request permits. -/

namespace Resonate

open Kernel

/-- What a request does to its transaction: nothing, or the deadlines of the promises it names
and then moves it permits. -/
inductive Outcome (env : Env) (request : Request) (txn : Txn) : Txn → Prop
  | refused : Outcome env request txn txn
  | applied {next : Txn}
      (trail : Trail env request.permits (tryTimeout env txn request.named) next) :
      Outcome env request txn next

theorem Outcome.trail {env : Env} {request : Request} {txn next : Txn}
    (outcome : Outcome env request txn next) (keyed : txn.Keyed) :
    Trail env request.permits txn next := by
  cases outcome with
  | refused => exact .refl txn
  | applied trail =>
      exact (tryTimeout_trail request.named keyed fun promise member => member).trans trail

theorem Outcome.timeouts {env : Env} {request : Request} {txn : Txn} :
    Outcome env request txn (tryTimeout env txn request.named) := .applied (.refl _)

theorem Outcome.one {env : Env} {request : Request} {txn next : Txn} (label : Label)
    (permitted : request.permits label)
    (move : Move env (tryTimeout env txn request.named) label next) :
    Outcome env request txn next := .applied (.one label permitted move)

namespace Kernel

variable {env : Env} {txn : Txn}

@[simp] theorem doneView_txn (task : StoredTask) : (doneView txn task).txn = txn := by
  unfold doneView
  split <;> rfl

/-! ## Promises -/

theorem promiseCreate_outcome (data : PromiseCreateData) :
    Outcome env (.promiseCreate data) txn (promiseCreate env txn data).txn := by
  unfold promiseCreate
  split
  · exact .refused
  · rename_i valid
    dsimp only
    split
    · exact .timeouts
    · rename_i absent
      exact .one (.create data none .dispatch) ⟨rfl, rfl⟩
        (.create data none .dispatch absent (.dispatched data valid))

theorem promiseGet_outcome (id : String) :
    Outcome env (.promiseGet id) txn (promiseGet env txn id).txn := by
  unfold promiseGet
  dsimp only
  split <;> exact .timeouts

theorem promiseSettle_outcome (keyed : txn.Keyed) (data : PromiseSettleData) :
    Outcome env (.promiseSettle data) txn (promiseSettle env txn data).txn := by
  have timed := tryTimeout_keyed env [data.id] keyed
  unfold promiseSettle
  dsimp only
  split
  · exact .timeouts
  · rename_i promise stored
    have own : promise.record.id = data.id := timed.promise _ _ stored
    split
    · rename_i pending
      have early := tryTimeout_early [data.id] keyed data.id List.mem_cons_self promise stored
        pending
      refine .one (.settle promise data.state data.value) ?_
        (.settle promise data.state data.value (own ▸ stored) pending early)
      rw [Request.permits, own]
      rfl
    · exact .timeouts

theorem promiseRegisterCallback_outcome (keyed : txn.Keyed) (data : CallbackData) :
    Outcome env (.promiseRegisterCallback data) txn (promiseRegisterCallback env txn data).txn := by
  have timed := tryTimeout_keyed env [data.awaited, data.awaiter] keyed
  unfold promiseRegisterCallback
  split
  · exact .refused
  · rename_i valid
    dsimp only
    split
    · exact .timeouts
    · rename_i awaited stored
      have own : awaited.record.id = data.awaited := timed.promise _ _ stored
      split
      · exact .timeouts
      · rename_i awaiter awaiting
        split
        · exact .timeouts
        · rename_i targeted
          split
          · exact .timeouts
          · rename_i external
            have external : awaited.record.isExternal = true := by simpa using external
            change Outcome env _ txn (if awaiter.record.isPending = true then _ else _)
            split
            · rename_i awaiterPending
              split
              · rename_i pending
                unfold registerCallback
                split
                · exact .timeouts
                · rename_i unlisted
                  refine .one (.register awaited data.awaiter) ?_
                    (.register awaited data.awaiter ⟨own ▸ stored, pending, external⟩
                      (own ▸ valid) (.inr ?_) unlisted)
                  · rw [Request.permits, own]
                    exact List.mem_cons_self
                  · change Option.any _ ((tryTimeout env txn [data.awaited, data.awaiter]).getPromise
                      data.awaiter) = true
                    rw [awaiting, Option.any_some]
                    simpa [Option.isNone_iff_eq_none, Option.isSome_iff_ne_none] using targeted
              · rename_i settled
                have opened : (tryTimeout env txn [data.awaited, data.awaiter]).isOpen
                    data.awaiter = true := by
                  rw [Txn.isOpen_iff]
                  exact ⟨awaiter, awaiting, awaiterPending,
                    tryTimeout_early _ keyed data.awaiter (by simp) awaiter awaiting
                      awaiterPending⟩
                have move : Move env (tryTimeout env txn [data.awaited, data.awaiter])
                    (.resume awaited data.awaiter) _ :=
                  .resume awaited data.awaiter (own ▸ stored) (by simpa using settled) external
                    (own ▸ valid) opened
                rw [own] at move
                refine .one (.resume awaited data.awaiter) ?_ move
                rw [Request.permits, own]
            · exact .timeouts

theorem promiseRegisterListener_outcome (keyed : txn.Keyed) (data : ListenerData) :
    Outcome env (.promiseRegisterListener data) txn (promiseRegisterListener env txn data).txn := by
  have timed := tryTimeout_keyed env [data.awaited] keyed
  unfold promiseRegisterListener
  split
  · exact .refused
  · rename_i valid
    have valid : env.isUrl data.address = true := by simpa using valid
    dsimp only
    split
    · exact .timeouts
    · rename_i awaited stored
      have own : awaited.record.id = data.awaited := timed.promise _ _ stored
      split
      · exact .timeouts
      · rename_i external
        have external : awaited.record.isExternal = true := by simpa using external
        change Outcome env _ txn (if _ then _ else _)
        split
        · rename_i listed
          refine .one (.listen awaited data.address) ?_
            (.listen awaited data.address ⟨own ▸ stored, listed.1, external⟩ valid listed.2)
          rw [Request.permits, own]
        · exact .timeouts

theorem promiseSearch_outcome (data : PromiseSearchData) :
    Outcome env (.promiseSearch data) txn (promiseSearch txn data).txn := by
  unfold promiseSearch
  split <;> exact .refused

/-! ## Tasks -/

/-- Acquiring a pending task is a renewal, and an acquisition when the renewal succeeds. -/
theorem acquire_trail {permits : Label → Prop} (task : StoredTask) (pid : String) (ttl : Int)
    (stored : txn.getTask task.id = some task) (pending : task.state = .pending)
    (renewing : permits (.renew task.id (leaseOf ttl)))
    (acquiring : permits (.acquire task pid ttl)) :
    Trail env permits txn (acquire txn task pid ttl).1 := by
  unfold acquire
  split
  · rename_i next refused
    have renewed : next = (txn.renew task.id (leaseOf ttl)).1 := by rw [refused]
    exact renewed ▸ .one _ renewing (.renew task.id (leaseOf ttl))
  · rename_i next granted
    have renewed : next = (txn.renew task.id (leaseOf ttl)).1 := by rw [granted]
    have move : Move env txn (.acquire task pid ttl) _ :=
      .acquire task pid ttl stored pending (by rw [granted])
    rw [granted] at move
    exact .one _ acquiring move

/-- The claim of a pending task's job: held, or taken from the queue by id. -/
def claimed (txn : Txn) (task : StoredTask) (lease : Nat) : Txn × Bool :=
  match txn.holds task.id with
  | (txn, true) => (txn, true)
  | (txn, false) =>
      match task.job with
      | some job => txn.claimJob task.id job lease
      | none => (txn, false)

theorem taskCreateExisting_pending (data : TaskCreateData) (task : StoredTask)
    (pending : task.state = .pending) :
    taskCreateExisting txn data task =
      if ¬ (claimed txn task (leaseOf data.ttl)).2 then
        done (claimed txn task (leaseOf data.ttl)).1 (.err 409 "Already exists")
      else
        match acquire (claimed txn task (leaseOf data.ttl)).1 task data.pid data.ttl with
        | (txn, none) => done txn (.err 409 "Already exists")
        | (txn, some task) => doneView txn task := by
  obtain ⟨id, state, version, target, job, pid, ttl, resumes⟩ := task
  cases pending
  unfold taskCreateExisting claimed
  cases txn.holds id with
  | mk next result =>
      cases result with
      | true => rfl
      | false => cases job <;> rfl

theorem claimed_touches (txn : Txn) (task : StoredTask) (lease : Nat) :
    Txn.Touches txn (claimed txn task lease).1 := by
  unfold claimed
  have touched := Txn.holds_touches txn task.id
  cases held : txn.holds task.id with
  | mk next result =>
      rw [held] at touched
      cases result with
      | true => exact touched
      | false =>
          dsimp only
          split
          · exact touched.trans (Txn.claimJob_touches _ _ _ _)
          · exact touched

theorem claimed_trail {permits : Label → Prop} (task : StoredTask) (lease : Nat)
    (stored : txn.getTask task.id = some task) (pending : task.state = .pending)
    (checking : permits (.check task.id)) (claiming : permits (.claim task lease)) :
    Trail env permits txn (claimed txn task lease).1 := by
  unfold claimed
  have touched := Txn.holds_touches txn task.id
  have checked : Trail env permits txn (txn.holds task.id).1 :=
    .one _ checking (.check task.id)
  cases held : txn.holds task.id with
  | mk next result =>
      rw [held] at touched checked
      cases result with
      | true => exact checked
      | false =>
          dsimp only
          split
          · rename_i job dispatched
            refine checked.trans (.one _ claiming (.claim task job lease ?_ pending dispatched))
            rw [touched.getTask]
            exact stored
          · exact checked

theorem taskCreateExisting_trail (data : TaskCreateData) (task : StoredTask)
    (stored : txn.getTask task.id = some task) (own : data.action.data.id = task.id) :
    Trail env (Request.taskCreate data).permits txn (taskCreateExisting txn data task).txn := by
  by_cases pending : task.state = .pending
  · have touched := claimed_touches txn task (leaseOf data.ttl)
    have claiming : Trail env (Request.taskCreate data).permits txn
        (claimed txn task (leaseOf data.ttl)).1 :=
      claimed_trail task _ stored pending trivial ⟨data, rfl, own, rfl⟩
    rw [taskCreateExisting_pending data task pending]
    generalize claimed txn task (leaseOf data.ttl) = next at touched claiming
    split
    · exact claiming
    · have granted : Trail env (Request.taskCreate data).permits txn
          (acquire next.1 task data.pid data.ttl).1 :=
        claiming.trans (acquire_trail task data.pid data.ttl (touched.getTask ▸ stored) pending
          trivial ⟨own, rfl, rfl⟩)
      split
      · rename_i refused
        rw [refused] at granted
        exact granted
      · rename_i taken
        rw [taken] at granted
        rw [doneView_txn]
        exact granted
  · unfold taskCreateExisting
    split
    · rename_i state
      exact absurd state pending
    · rw [doneView_txn]
      exact .refl txn
    all_goals exact .refl txn

theorem taskCreate_outcome (keyed : txn.Keyed) (data : TaskCreateData) :
    Outcome env (.taskCreate data) txn (taskCreate env txn data).txn := by
  have timed := tryTimeout_keyed env [data.action.data.id] keyed
  unfold taskCreate
  dsimp only
  split
  · exact .refused
  · split
    · exact .refused
    · rename_i named
      split
      · exact .refused
      · rename_i positive
        split
        · exact .refused
        · rename_i valid
          split
          · exact .refused
          · rename_i targeted
            split
            · exact .refused
            · rename_i undelayed
              split
              · rename_i task stored
                have own : task.id = data.action.data.id := timed.task _ _ stored
                exact .applied (taskCreateExisting_trail data task (own ▸ stored) own.symm)
              · split
                · exact .timeouts
                · rename_i absent
                  have created : Outcome env (.taskCreate data) txn
                      (createPromise env (tryTimeout env txn [data.action.data.id])
                        data.action.data none (.acquire data.pid data.ttl)).1 :=
                    .one (.create data.action.data none (.acquire data.pid data.ttl))
                      ⟨rfl, rfl⟩
                      (.create _ _ _ absent (.acquired _ _ _ valid
                        (by simpa [Option.isNone_iff_eq_none, Option.isSome_iff_ne_none]
                          using targeted)
                        (by simpa [Option.isNone_iff_eq_none] using undelayed)
                        named (by omega)))
                  split
                  · rw [doneView_txn]
                    exact created
                  · exact created

theorem taskAcquire_outcome (keyed : txn.Keyed) (data : TaskAcquireData) :
    Outcome env (.taskAcquire data) txn (taskAcquire env txn data).txn := by
  have timed := tryTimeout_keyed env [data.id] keyed
  unfold taskAcquire
  dsimp only
  split
  · exact .timeouts
  · rename_i task stored
    have own : task.id = data.id := timed.task _ _ stored
    split
    · exact .timeouts
    · rename_i pending
      have pending : task.state = .pending := by simpa using pending
      split
      · exact .timeouts
      · rename_i version
        have version : task.version = data.version := by simpa using version
        have trail : Trail env (Request.taskAcquire data).permits (tryTimeout env txn [data.id])
            (acquire (tryTimeout env txn [data.id]) task data.pid data.ttl).1 := by
          refine acquire_trail task data.pid data.ttl (own ▸ stored) pending trivial ?_
          change data = ⟨task.id, task.version, data.pid, data.ttl⟩
          rw [own, version]
        split
        · rename_i refused
          rw [refused] at trail
          exact .applied trail
        · rename_i granted
          rw [granted] at trail
          rw [doneView_txn]
          exact .applied trail

theorem acquired_of_isAcquiredAt {task : StoredTask} {version : Int}
    (acquired : task.isAcquiredAt version = true) :
    task.state = .acquired ∧ task.version = version := by
  simpa [StoredTask.isAcquiredAt] using acquired

theorem taskRelease_outcome (keyed : txn.Keyed) (data : TaskVersionData) :
    Outcome env (.taskRelease data) txn (taskRelease env txn data).txn := by
  have timed := tryTimeout_keyed env [data.id] keyed
  unfold taskRelease
  dsimp only
  split
  · exact .timeouts
  · rename_i task stored
    have own : task.id = data.id := timed.task _ _ stored
    split
    · exact .timeouts
    · rename_i acquired
      obtain ⟨acquired, version⟩ := acquired_of_isAcquiredAt (not_not.mp acquired)
      refine .one (.release task) ?_ (.release task (own ▸ stored) acquired)
      rw [Request.permits, own, version]

theorem taskFulfill_outcome (keyed : txn.Keyed) (data : TaskFulfillData) :
    Outcome env (.taskFulfill data) txn (taskFulfill env txn data).txn := by
  have timed := tryTimeout_keyed env [data.id] keyed
  unfold taskFulfill
  dsimp only
  split
  · exact .refused
  · split
    · exact .refused
    · rename_i sameId
      have sameId : data.action.data.id = data.id := by simpa using sameId
      split
      · exact .timeouts
      · rename_i task stored
        split
        · exact .timeouts
        · split
          · exact .timeouts
          · rename_i promise promised
            have own : promise.record.id = data.id := timed.promise _ _ promised
            have touched := Txn.holds_touches (tryTimeout env txn [data.id]) task.id
            have checked : Trail env (Request.taskFulfill data).permits
                (tryTimeout env txn [data.id])
                ((tryTimeout env txn [data.id]).holds task.id).1 :=
              .one (.check task.id) trivial (.check task.id)
            split
            · rename_i next lost
              rw [lost] at checked
              exact .applied checked
            · rename_i next held
              rw [held] at checked touched
              refine .applied (checked.trans ?_)
              change Trail env _ next (if promise.record.isPending = true then _ else _ : Txn × _).1
              split
              · rename_i pending
                have early := tryTimeout_early [data.id] keyed data.id List.mem_cons_self promise
                  promised pending
                refine .one (.settle promise data.action.data.state
                  data.action.data.value) ?_ (.settle promise _ _ ?_ pending ?_)
                · rw [Request.permits, own, ← sameId]
                  rfl
                · rw [touched.getPromise, own]
                  exact promised
                · rw [touched.now]
                  exact early
              · exact .refl next

/-! ### Suspension -/

theorem suspendIds_ok (id : String) (actions : List (Action CallbackData))
    (checked awaited : List String) (accepted : suspendIds id checked actions = .ok awaited) :
    awaited = checked ++ actions.map (·.data.awaited) ∧
      (∀ action ∈ actions, validateCallback action.data.awaited id = none) ∧
      (checked.Nodup → awaited.Nodup) := by
  induction actions generalizing checked with
  | nil =>
      cases accepted
      simp
  | cons action rest ih =>
      unfold suspendIds at accepted
      split at accepted
      · cases accepted
      · split at accepted
        · cases accepted
        · rename_i awaiter
          have awaiter : action.data.awaiter = id := by simpa using awaiter
          split at accepted
          · cases accepted
          · rename_i valid
            split at accepted
            · cases accepted
            · rename_i fresh
              obtain ⟨listed, valids, distinct⟩ := ih _ accepted
              refine ⟨?_, ?_, ?_⟩
              · rw [listed, List.map_cons, List.append_assoc, List.singleton_append]
              · intro other member
                rcases List.mem_cons.mp member with rfl | member
                · rw [← awaiter]
                  exact valid
                · exact valids other member
              · intro nodup
                apply distinct
                rw [List.nodup_append]
                refine ⟨nodup, List.nodup_singleton _, ?_⟩
                intro first member second single same
                rw [List.mem_singleton.mp single] at same
                exact fresh (same ▸ member)

theorem suspendAwaited_ok (ids : List String) (promises : List StoredPromise)
    (accepted : suspendAwaited txn ids = .ok promises) :
    List.Forall₂ (fun id promise => txn.getPromise id = some promise ∧
      promise.record.isExternal = true) ids promises := by
  induction ids generalizing promises with
  | nil =>
      cases accepted
      exact .nil
  | cons id rest ih =>
      unfold suspendAwaited at accepted
      split at accepted
      · cases accepted
      · rename_i promise stored
        split at accepted
        · cases accepted
        · rename_i external
          cases others : suspendAwaited txn rest with
          | error reply =>
              rw [others] at accepted
              cases accepted
          | ok found =>
              rw [others] at accepted
              cases accepted
              exact .cons ⟨stored, by simpa using external⟩ (ih found others)

/-- Each awaited id has its promise among those found, and each of these is one awaited. -/
theorem suspendAwaited_known {ids : List String} {promises : List StoredPromise}
    (accepted : suspendAwaited txn ids = .ok promises) :
    (∀ id ∈ ids, ∃ promise ∈ promises, txn.getPromise id = some promise) ∧
      ∀ promise ∈ promises, ∃ id ∈ ids, txn.getPromise id = some promise ∧
        promise.record.isExternal = true := by
  have pairs := suspendAwaited_ok ids promises accepted
  clear accepted
  induction pairs with
  | nil => simp
  | cons head _ ih =>
      refine ⟨?_, ?_⟩
      · intro id member
        rcases List.mem_cons.mp member with rfl | member
        · exact ⟨_, List.mem_cons_self, head.1⟩
        · obtain ⟨promise, inside, found⟩ := ih.1 id member
          exact ⟨promise, List.mem_cons_of_mem _ inside, found⟩
      · intro promise member
        rcases List.mem_cons.mp member with rfl | member
        · exact ⟨_, List.mem_cons_self, head⟩
        · obtain ⟨id, inside, holds⟩ := ih.2 promise member
          exact ⟨id, List.mem_cons_of_mem _ inside, holds⟩

/-- A promise with a callback registered. -/
def registered (awaited : StoredPromise) (awaiter : String) : StoredPromise :=
  if awaiter ∈ awaited.callbacks then awaited
  else { awaited with callbacks := awaited.callbacks ++ [awaiter] }

theorem registered_record (awaited : StoredPromise) (awaiter : String) :
    (registered awaited awaiter).record = awaited.record := by
  unfold registered
  split <;> rfl

theorem mem_registered (awaited : StoredPromise) (awaiter : String) :
    awaiter ∈ (registered awaited awaiter).callbacks := by
  unfold registered
  split
  · assumption
  · simp

theorem getPromise_registerCallback (awaited : StoredPromise) (awaiter : String)
    (stored : txn.getPromise awaited.record.id = some awaited) (id : String) :
    (registerCallback txn awaited awaiter).getPromise id =
      if awaited.record.id = id then some (registered awaited awaiter) else txn.getPromise id := by
  unfold registerCallback registered
  split
  · split
    · rename_i same
      rw [← same, stored]
    · rfl
  · exact Txn.getPromise_putPromise _ _ _

theorem getTask_registerCallback (awaited : StoredPromise) (awaiter : String) :
    (registerCallback txn awaited awaiter).getTask = txn.getTask := by
  unfold registerCallback
  split <;> rfl

theorem registerCallback_trail {permits : Label → Prop} (awaited : StoredPromise)
    (awaiter : String) (awaitable : Awaitable txn awaited)
    (valid : validateCallback awaited.record.id awaiter = none)
    (known : (txn.getTask awaiter).isSome = true) (permitted : permits (.register awaited awaiter)) :
    Trail env permits txn (registerCallback txn awaited awaiter) := by
  unfold registerCallback
  split
  · exact .refl txn
  · rename_i unlisted
    exact .one _ permitted (.register awaited awaiter awaitable valid (.inl known) unlisted)

/-- Registering a task on distinct promises leaves it listed on each. -/
theorem registerAll_trail (env : Env) (permits : Label → Prop) (awaiter : String)
    (promises : List StoredPromise) (txn : Txn)
    (distinct : (promises.map (·.record.id)).Nodup)
    (awaitable : ∀ promise ∈ promises, Awaitable txn promise)
    (valid : ∀ promise ∈ promises, validateCallback promise.record.id awaiter = none)
    (known : (txn.getTask awaiter).isSome = true)
    (permitted : ∀ promise ∈ promises, permits (.register promise awaiter)) :
    Trail env permits txn
        (promises.foldl (fun txn promise => registerCallback txn promise awaiter) txn) ∧
      (promises.foldl (fun txn promise => registerCallback txn promise awaiter) txn).getTask =
        txn.getTask ∧
      (∀ id, id ∉ promises.map (·.record.id) →
        (promises.foldl (fun txn promise => registerCallback txn promise awaiter) txn).getPromise
          id = txn.getPromise id) ∧
      ∀ promise ∈ promises,
        (promises.foldl (fun txn promise => registerCallback txn promise awaiter) txn).getPromise
          promise.record.id = some (registered promise awaiter) := by
  induction promises generalizing txn with
  | nil => exact ⟨.refl txn, rfl, fun _ _ => rfl, fun _ member => nomatch member⟩
  | cons first rest ih =>
      obtain ⟨apart, distinct⟩ := List.nodup_cons.mp distinct
      have head := awaitable first List.mem_cons_self
      have kept : ∀ promise ∈ rest, Awaitable (registerCallback txn first awaiter) promise := by
        intro promise member
        obtain ⟨stored, pending, external⟩ := awaitable promise (List.mem_cons_of_mem _ member)
        refine ⟨?_, pending, external⟩
        rw [getPromise_registerCallback first awaiter head.stored, if_neg]
        · exact stored
        · intro same
          exact apart (List.mem_map.mpr ⟨promise, member, same.symm⟩)
      obtain ⟨trail, tasks, others, listed⟩ := ih (registerCallback txn first awaiter) distinct kept
        (fun promise member => valid promise (List.mem_cons_of_mem _ member))
        (by rw [getTask_registerCallback]; exact known)
        (fun promise member => permitted promise (List.mem_cons_of_mem _ member))
      rw [List.foldl_cons]
      refine ⟨?_, ?_, ?_, ?_⟩
      · exact (registerCallback_trail first awaiter head (valid first List.mem_cons_self) known
          (permitted first List.mem_cons_self)).trans trail
      · rw [tasks, getTask_registerCallback]
      · intro id absent
        rw [List.map_cons, List.mem_cons, not_or] at absent
        rw [others id absent.2, getPromise_registerCallback first awaiter head.stored,
          if_neg (Ne.symm absent.1)]
      · intro promise member
        rcases List.mem_cons.mp member with rfl | member
        · rw [others _ apart, getPromise_registerCallback _ awaiter head.stored, if_pos rfl]
        · exact listed promise member

/-- What a suspend comes to: its moves leave the task awake, or its last one suspends the task and
the reply waits for the acknowledgement of the task's claim. -/
inductive Suspension (env : Env) (data : TaskSuspendData) (txn : Txn) : Response → Prop
  | refused (reply : Reply) : Suspension env data txn (refuse txn reply)
  | awake (response : Response) (exit : ∀ task, response.exit ≠ .commitAck task)
      (trail : Trail env
        (fun label => (Request.taskSuspend data).permits label ∧ ¬ label.Suspends)
        (tryTimeout env txn (Request.taskSuspend data).named) response.txn) :
      Suspension env data txn response
  | asleep (earlier next : Txn) (task : StoredTask) (awaited : List String) (reply : Reply)
      (own : task.id = data.id)
      (trail : Trail env
        (fun label => (Request.taskSuspend data).permits label ∧ ¬ label.Suspends)
        (tryTimeout env txn (Request.taskSuspend data).named) earlier)
      (permitted : (Request.taskSuspend data).permits (.suspend task awaited))
      (move : Move env earlier (.suspend task awaited) next) :
      Suspension env data txn ⟨next, .commitAck data.id, reply⟩

theorem taskSuspend_cases (env : Env) (keyed : txn.Keyed) (data : TaskSuspendData) :
    Suspension env data txn (taskSuspend env txn data) := by
  unfold taskSuspend
  split
  · exact .refused _
  · rename_i nonempty
    split
    · exact .refused _
    · rename_i awaitedIds accepted
      obtain ⟨listed, valid, distinct⟩ := suspendIds_ok data.id data.actions [] awaitedIds accepted
      rw [List.nil_append] at listed
      have names : data.id :: awaitedIds = (Request.taskSuspend data).named := by
        rw [listed]
        rfl
      dsimp only
      rw [names]
      have timed := tryTimeout_keyed env (Request.taskSuspend data).named keyed
      generalize timeouts : tryTimeout env txn (Request.taskSuspend data).named = base at timed
      let waking (label : Label) : Prop :=
        (Request.taskSuspend data).permits label ∧ ¬ label.Suspends
      have answered (next : Txn) (reply : Reply) (trail : Trail env waking base next) :
          Suspension env data txn (done next reply) :=
        .awake (done next reply) nofun (timeouts ▸ trail)
      split
      · exact answered _ _ (.refl base)
      · rename_i task stored
        have own : task.id = data.id := timed.task _ _ stored
        by_cases acquired : task.isAcquiredAt data.version = true
        · rw [if_pos acquired]
          obtain ⟨acquired, version⟩ := acquired_of_isAcquiredAt acquired
          have touched := Txn.holds_touches base task.id
          have checked : Trail env waking base (base.holds task.id).1 :=
            .one (.check task.id) ⟨trivial, nofun⟩ (.check task.id)
          generalize base.holds task.id = next at touched checked
          have still : next.1.getTask task.id = some task := by
            rw [touched.getTask, own]
            exact stored
          split
          · exact answered _ _ checked
          · split
            · exact answered _ _ checked
            · rename_i awaited found
              have pairs := suspendAwaited_ok awaitedIds awaited found
              split
              · have cleared : Trail env waking next.1
                    (next.1.putTask { task with resumes := ∅ }) :=
                  .one (.clear task) ⟨⟨data, rfl, own.symm, version.symm⟩, nofun⟩
                    (.clear task still acquired)
                split
                · exact .awake _ nofun (timeouts ▸ checked.trans cleared)
                · exact answered _ _ (checked.trans cleared)
              · rename_i unsettled
                have keyedNext := touched.keyed timed
                have ids : awaited.map (·.record.id) = awaitedIds := by
                  clear * - pairs keyedNext
                  induction pairs with
                  | nil => rfl
                  | cons head _ ih =>
                      rw [List.map_cons, ih, keyedNext.promise _ _ head.1]
                have awaitable : ∀ promise ∈ awaited, Awaitable next.1 promise := by
                  intro promise member
                  obtain ⟨id, _, promised, external⟩ := (suspendAwaited_known found).2 promise member
                  refine ⟨?_, ?_, external⟩
                  · rw [keyedNext.promise _ _ promised]
                    exact promised
                  · by_contra settled
                    exact unsettled (List.any_eq_true.mpr ⟨promise, member, by simpa using settled⟩)
                have named : ∀ promise ∈ awaited, ∃ action ∈ data.actions,
                    action.data.awaited = promise.record.id := by
                  intro promise member
                  have inside : promise.record.id ∈ awaitedIds :=
                    ids ▸ List.mem_map_of_mem member
                  rw [listed] at inside
                  exact List.mem_map.mp inside
                obtain ⟨trail, tasks, _, lists⟩ := registerAll_trail env waking data.id awaited next.1
                  (ids ▸ distinct List.nodup_nil) awaitable
                  (by
                    intro promise member
                    obtain ⟨action, inside, same⟩ := named promise member
                    exact same ▸ valid action inside)
                  (by rw [← own, still]; rfl)
                  (by
                    intro promise member
                    obtain ⟨action, inside, same⟩ := named promise member
                    exact ⟨List.mem_map.mpr ⟨action, inside, by rw [same]⟩, nofun⟩)
                have nonempty : awaitedIds ≠ [] := by
                  intro empty
                  rw [listed, List.map_eq_nil_iff] at empty
                  rw [empty] at nonempty
                  exact nonempty rfl
                refine .asleep _ _ task awaitedIds (ok .empty) own
                  (timeouts ▸ checked.trans trail)
                  ⟨data, rfl, own.symm, version.symm, listed⟩
                  (.suspend task awaitedIds ((congrFun tasks _).trans still) acquired nonempty ?_)
                · intro id member
                  rw [← ids] at member
                  obtain ⟨promise, inside, rfl⟩ := List.mem_map.mp member
                  refine ⟨_, lists promise inside, ?_, ?_⟩
                  · rw [registered_record]
                    exact (awaitable promise inside).pending
                  · rw [own]
                    exact mem_registered promise data.id
        · rw [if_neg acquired]
          exact answered _ _ (.refl base)

theorem taskSuspend_outcome (keyed : txn.Keyed) (data : TaskSuspendData) :
    Outcome env (.taskSuspend data) txn (taskSuspend env txn data).txn := by
  have suspension := taskSuspend_cases env keyed data
  generalize taskSuspend env txn data = response at suspension
  cases suspension with
  | refused reply => exact .refused
  | awake response exit trail => exact .applied (trail.mono fun _ permitted => permitted.1)
  | asleep earlier next task awaited reply own trail permitted move =>
      exact .applied ((trail.mono fun _ permitted => permitted.1).trans (.one _ permitted move))

/-! ### Fenced actions -/

theorem fenceAction_trail {permits : Label → Prop} (keyed : txn.Keyed)
    (action : Action ActionValue)
    (early : ∀ promise, action.data.id = some promise.record.id →
      txn.getPromise promise.record.id = some promise → promise.record.isPending = true →
      txn.now < promise.record.timeoutAt)
    (creates : ∀ create, action.kind = "promise.create" → action.data.create = .ok create →
      permits (.create create none .dispatch))
    (settles : ∀ promise settled, action.kind = "promise.settle" →
      action.data.settle = .ok settled → promise.record.id = settled.id →
      permits (.settle promise settled.state settled.value))
    (next : Txn) (status : Nat) (inner : PromiseRecord ⊕ String)
    (performed : fenceAction env txn action = .ok (next, status, inner)) :
    Trail env permits txn next := by
  unfold fenceAction at performed
  split at performed
  · rename_i create
    split at performed
    · cases performed
    · rename_i data decoded
      split at performed
      · cases performed
      · rename_i valid
        split at performed
        · cases performed
          exact .refl _
        · rename_i absent
          cases performed
          exact .one _ (creates data create decoded)
            (.create data none .dispatch absent (.dispatched data valid))
  · split at performed
    · rename_i settle
      split at performed
      · cases performed
      · rename_i data decoded
        split at performed
        · cases performed
          exact .refl _
        · rename_i promise stored
          have own : promise.record.id = data.id := keyed.promise _ _ stored
          split at performed
          · rename_i pending
            cases performed
            have named : action.data.id = some promise.record.id := by
              rw [own]
              exact action.data.settle_id data decoded
            exact .one _ (settles promise data settle decoded own)
              (.settle promise data.state data.value (own ▸ stored) pending
                (early promise named (own ▸ stored) pending))
          · cases performed
            exact .refl _
    · cases performed

theorem taskFence_outcome (keyed : txn.Keyed) (data : TaskFenceData) (corrId : String) :
    Outcome env (.taskFence data corrId) txn (taskFence env txn data corrId).txn := by
  unfold taskFence
  split
  · exact .refused
  · rename_i actionId decoded
    split
    · exact .refused
    · split
      · exact .refused
      · have names : [data.id, actionId] = (Request.taskFence data corrId).named := by
          rw [Request.named, decoded]
          rfl
        dsimp only
        rw [names]
        have timed := tryTimeout_keyed env (Request.taskFence data corrId).named keyed
        split
        · exact .timeouts
        · split
          · exact .timeouts
          · split
            · exact .timeouts
            · rename_i next status inner performed
              have trail : Trail env (Request.taskFence data corrId).permits
                  (tryTimeout env txn (Request.taskFence data corrId).named) next := by
                refine fenceAction_trail timed data.action ?_ ?_ ?_ next status inner performed
                · intro promise named stored pending
                  refine tryTimeout_early _ keyed promise.record.id ?_ promise stored pending
                  rw [← names]
                  rw [decoded] at named
                  cases named
                  simp
                · intro create kind parsed
                  refine ⟨rfl, ?_⟩
                  rw [Request.creation, if_pos kind, parsed]
                  rfl
                · intro promise settled kind parsed own
                  rw [Request.permits, Request.settlement, if_pos kind, parsed, own]
                  rfl
              split
              · exact .applied trail
              · exact .applied trail

/-! ### The other task requests -/

theorem heartbeatOne_trail {permits : Label → Prop} (renewing : ∀ id lease, permits (.renew id lease))
    (pid : String) (txn : Txn) (entry : TaskVersionData) :
    Trail env permits txn (heartbeatOne pid txn entry) := by
  unfold heartbeatOne
  split
  · exact .refl txn
  · split
    · exact .one _ (renewing _ _) (.renew _ _)
    · exact .refl txn

theorem taskHeartbeat_outcome (data : TaskHeartbeatData) :
    Outcome env (.taskHeartbeat data) txn (taskHeartbeat txn data).txn := by
  refine .applied ?_
  change Trail env (Request.taskHeartbeat data).permits txn
    (data.tasks.foldl (heartbeatOne data.pid) txn)
  have renewing : ∀ id lease, (Request.taskHeartbeat data).permits (.renew id lease) :=
    fun _ _ => trivial
  generalize data.tasks = entries
  induction entries generalizing txn with
  | nil => exact .refl txn
  | cons entry rest ih =>
      exact (heartbeatOne_trail renewing data.pid txn entry).trans ih

theorem taskGet_outcome (id : String) :
    Outcome env (.taskGet id) txn (taskGet env txn id).txn := by
  unfold taskGet
  dsimp only
  split <;> exact .timeouts

theorem taskHalt_outcome (keyed : txn.Keyed) (id : String) :
    Outcome env (.taskHalt id) txn (taskHalt env txn id).txn := by
  have timed := tryTimeout_keyed env [id] keyed
  have halted (task : StoredTask) (stored : (tryTimeout env txn [id]).getTask id = some task)
      (unfulfilled : task.state ≠ .fulfilled) (unhalted : task.state ≠ .halted) :
      Outcome env (.taskHalt id) txn
        (((tryTimeout env txn [id]).putTask (task.transition .halted)).release task.id) := by
    have own : task.id = id := timed.task _ _ stored
    refine .one (.halt task) ?_ (.halt task (own ▸ stored) unfulfilled unhalted)
    rw [Request.permits, own]
  unfold taskHalt
  dsimp only
  split
  · exact .timeouts
  · rename_i task stored
    split
    · exact .timeouts
    · exact .timeouts
    all_goals
      rename_i state
      exact halted task stored (by simp [state]) (by simp [state])

theorem taskContinue_outcome (keyed : txn.Keyed) (id : String) :
    Outcome env (.taskContinue id) txn (taskContinue env txn id).txn := by
  have timed := tryTimeout_keyed env [id] keyed
  unfold taskContinue
  dsimp only
  split
  · exact .timeouts
  · rename_i task stored
    have own : task.id = id := timed.task _ _ stored
    split
    · exact .timeouts
    · rename_i halted
      have halted : task.state = .halted := by simpa using halted
      refine .one (.proceed task) ?_ (.proceed task (own ▸ stored) halted)
      rw [Request.permits, own]

theorem taskSearch_outcome (data : TaskSearchData) :
    Outcome env (.taskSearch data) txn (taskSearch txn data).txn := by
  unfold taskSearch
  split <;> exact .refused

/-! ## Schedules -/

theorem scheduleCreate_outcome (data : ScheduleCreateData) :
    Outcome env (.scheduleCreate data) txn (scheduleCreate env txn data).txn := by
  unfold scheduleCreate
  split
  · exact .refused
  · rename_i named
    split
    · exact .refused
    · rename_i plain
      split
      · exact .refused
      · rename_i target tagged
        split
        · exact .refused
        · rename_i url
          split
          · exact .refused
          · rename_i timeout
            split
            · exact .refused
            · rename_i absent
              split
              · exact .refused
              · rename_i next computed
                refine .one (.addSchedule _) ?_
                  (.addSchedule _ absent computed rfl rfl named (by simpa using plain) ?_
                    (by simpa using timeout))
                · exact ⟨data, rfl, rfl⟩
                · rw [tagged, Option.any_some]
                  simpa using url

theorem scheduleGet_outcome (id : String) :
    Outcome env (.scheduleGet id) txn (scheduleGet txn id).txn := by
  unfold scheduleGet
  split <;> exact .refused

theorem scheduleDelete_outcome (id : String) :
    Outcome env (.scheduleDelete id) txn (scheduleDelete txn id).txn := by
  unfold scheduleDelete
  split
  · exact .refused
  · exact .one (.dropSchedule id) rfl (.dropSchedule id)

theorem scheduleSearch_outcome (data : ScheduleSearchData) :
    Outcome env (.scheduleSearch data) txn (scheduleSearch txn data).txn := by
  unfold scheduleSearch
  split <;> exact .refused

/-- Every request applies the deadlines of the promises it names and moves it permits. -/
theorem handle_outcome (env : Env) (keyed : txn.Keyed) (request : Request) :
    Outcome env request txn (handle env txn request).txn := by
  cases request with
  | promiseCreate data => exact promiseCreate_outcome data
  | promiseGet id => exact promiseGet_outcome id
  | promiseSettle data => exact promiseSettle_outcome keyed data
  | promiseRegisterCallback data => exact promiseRegisterCallback_outcome keyed data
  | promiseRegisterListener data => exact promiseRegisterListener_outcome keyed data
  | promiseSearch data => exact promiseSearch_outcome data
  | taskCreate data => exact taskCreate_outcome keyed data
  | taskAcquire data => exact taskAcquire_outcome keyed data
  | taskRelease data => exact taskRelease_outcome keyed data
  | taskFulfill data => exact taskFulfill_outcome keyed data
  | taskSuspend data => exact taskSuspend_outcome keyed data
  | taskFence data corrId => exact taskFence_outcome keyed data corrId
  | taskHeartbeat data => exact taskHeartbeat_outcome data
  | taskGet id => exact taskGet_outcome id
  | taskHalt id => exact taskHalt_outcome keyed id
  | taskContinue id => exact taskContinue_outcome keyed id
  | taskSearch data => exact taskSearch_outcome data
  | scheduleCreate data => exact scheduleCreate_outcome data
  | scheduleGet id => exact scheduleGet_outcome id
  | scheduleDelete id => exact scheduleDelete_outcome id
  | scheduleSearch data => exact scheduleSearch_outcome data
  | invalid message => exact .refused
  | unknown kind => exact .refused

/-! ## Deliveries and firings -/

/-- A delivery expires or takes back its task and ends in the claim being acknowledged or held. -/
theorem deliver_moves {permits : Label → Prop} (keyed : txn.Keyed) (claim : Claim) (next : Txn)
    (message : Option Message) (delivered : deliver env txn claim = some (next, message))
    (expires : ∀ promise, claim.payload = .execute promise.record.id → permits (.expire promise))
    (loses : ∀ task, claim.payload = .execute task.id → permits (.lose task))
    (acks : permits (.ack claim))
    (holds : ∀ id task, claim.payload = .execute id →
      (tryTimeout env txn [id]).getTask id = some task →
      task.state = .pending ∨ task.state = .acquired → permits (.hold id claim)) :
    Trail env permits txn next := by
  unfold deliver at delivered
  split at delivered
  · cases delivered
  · rename_i message payload
    cases delivered
    exact .one (.ack claim) acks
      (.ack claim fun id task executes => by rw [payload] at executes; cases executes)
  · rename_i id payload
    have timed := tryTimeout_keyed env [id] keyed
    have timeouts : Trail env permits txn (tryTimeout env txn [id]) := by
      refine tryTimeout_trail [id] keyed fun promise member => expires promise ?_
      rw [List.mem_singleton.mp member]
      exact payload
    refine timeouts.trans ?_
    have acked (dead : ∀ task, (tryTimeout env txn [id]).getTask id = some task →
          task.state ≠ .pending ∧ task.state ≠ .acquired) :
        Trail env permits (tryTimeout env txn [id])
          ((tryTimeout env txn [id]).ackAfterCommit claim) := by
      refine .one (.ack claim) acks (.ack claim fun other task executes stored => ?_)
      rw [payload] at executes
      cases executes
      exact dead task stored
    dsimp only at delivered
    split at delivered
    · rename_i absent
      cases delivered
      refine acked fun task stored => ?_
      rw [absent] at stored
      cases stored
    · rename_i task stored
      have own : task.id = id := timed.task _ _ stored
      have payload_own : claim.payload = .execute task.id := by rw [payload, own]
      split at delivered
      · rename_i state
        cases delivered
        refine .step (.lose task) (loses task payload_own) (.lose task (own ▸ stored) state) ?_
        have move : Move env ((tryTimeout env txn [id]).putTask (task.transition .pending))
            (.hold task.id claim) _ :=
          .hold (task.transition .pending) claim payload_own (by simp) rfl
        have same : (task.transition .pending).id = id := own
        rw [own, same] at move
        exact .one (.hold id claim) (holds id task payload stored (.inr state)) move
      · rename_i state
        cases delivered
        have move : Move env (tryTimeout env txn [id]) (.hold task.id claim) _ :=
          .hold task claim payload_own (own ▸ stored) state
        rw [own] at move
        exact .one (.hold id claim) (holds id task payload stored (.inl state)) move
      all_goals
        rename_i state
        cases delivered
        refine acked fun other found => ?_
        rw [stored] at found
        cases found
        simp [state]

theorem deliver_trail (keyed : txn.Keyed) (claim : Claim) (next : Txn) (message : Option Message)
    (delivered : deliver env txn claim = some (next, message)) :
    Trail env (deliveryPermits claim) txn next :=
  deliver_moves keyed claim next message delivered (fun _ payload => payload)
    (fun _ payload => payload) rfl fun _ _ _ _ _ => rfl

theorem fireSchedule_eq (schedule : ScheduleRecord) :
    fireSchedule env txn schedule =
      advanceSchedule env
        (match txn.getPromise (firedId schedule) with
          | some _ => txn
          | none => (createPromise env txn (firedData schedule) (some schedule.nextRunAt)
              .dispatch).1) schedule := by
  unfold fireSchedule advanceSchedule
  cases txn.getPromise (firedId schedule) with
  | none => rfl
  | some existing => rfl

theorem fire_trail (env : Env) (keyed : txn.Keyed) (timer : Timer) :
    Trail env (firingPermits timer) txn (fire env txn timer).1 := by
  unfold fire
  split
  · split
    · exact .refl txn
    · rename_i id _ promise stored
      have own : promise.record.id = id := keyed.promise _ _ stored
      split
      · exact .refl txn
      · rename_i pending
        refine .one (.strike promise) ?_ (.strike promise (own ▸ stored) ?_)
        · rw [firingPermits, own]
        · simpa using pending
  · split
    · exact .refl txn
    · rename_i id at_ _ schedule stored
      have own : schedule.id = id := keyed.schedule _ _ stored
      split
      · exact .refl txn
      · rename_i current
        have current : schedule.nextRunAt = at_ := by simpa using current
        change Trail env _ txn (fireSchedule env txn schedule)
        rw [fireSchedule_eq]
        have advanced : firingPermits (.schedule id at_) (.advance schedule) := by
          rw [firingPermits, own, current]
        split
        · exact .one _ advanced (.advance schedule (own ▸ stored))
        · rename_i absent
          refine .step (.create (firedData schedule) (some schedule.nextRunAt) .dispatch)
            ?_ (.create _ _ _ absent (.fired schedule (own ▸ stored))) (.one _ advanced ?_)
          · exact ⟨schedule, at_, by rw [own], current, rfl, by rw [current], rfl⟩
          · refine .advance schedule ?_
            rw [getSchedule_createPromise, own]
            exact stored

end Kernel

end Resonate
