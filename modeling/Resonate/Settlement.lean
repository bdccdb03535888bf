import Resonate.TxnFacts

set_option autoImplicit false

/-! What one settlement does to every record: its promise and own task, the tasks it wakes, the
jobs it enqueues and the claims it releases. -/

namespace Resonate

open LeaseQueue (EnqueueRequest)

/-- The task after a settled awaited promise reached it. `job` is the id a new dispatch
takes. -/
def StoredTask.resumed (awaited : String) (wake : Kernel.Wake) (job : Nat) (task : StoredTask) :
    StoredTask :=
  match task.state with
  | .suspended => { task.transition .pending with resumes := {awaited}, job := some job }
  | .pending | .acquired => { task with resumes := insert awaited task.resumes }
  | .halted =>
      if wake = .fanout then { task with resumes := insert awaited task.resumes } else task
  | .fulfilled => task

/-- The task once its own promise has settled. -/
def StoredTask.fulfilled (task : StoredTask) : StoredTask :=
  if task.state ≠ .fulfilled then { task.transition .fulfilled with resumes := ∅ } else task

/-- The promise a settlement stores: no registration is left. -/
def StoredPromise.cleared (promise : StoredPromise) : StoredPromise :=
  { promise with callbacks := [], listeners := [] }

/-- The dispatch a wake-up enqueues: one for a suspended task. -/
def StoredTask.redispatch (env : Env) (job : Nat) (task : StoredTask) :
    List (EnqueueRequest Payload) :=
  if task.state = .suspended then [Txn.executeRequest env task.target task.id job none] else []

/-- The dispatches of one task among enqueued jobs. -/
def dispatchesOf (task : String) (enqueues : List (EnqueueRequest Payload)) :
    List (EnqueueRequest Payload) :=
  enqueues.filter (·.payload = .execute task)

theorem dispatchesOf_append (task : String) (first second : List (EnqueueRequest Payload)) :
    dispatchesOf task (first ++ second) = dispatchesOf task first ++ dispatchesOf task second :=
  List.filter_append first second

theorem dispatchesOf_execute (env : Env) (target task other : String) (job : Nat)
    (runAt : Option Int) :
    dispatchesOf other [Txn.executeRequest env target task job runAt] =
      if task = other then [Txn.executeRequest env target task job runAt] else [] := by
  unfold dispatchesOf Txn.executeRequest
  by_cases same : task = other
  · simp [same]
  · simp [same]

namespace StoredTask

@[simp] theorem resumed_id (awaited : String) (wake : Kernel.Wake) (job : Nat)
    (task : StoredTask) : (task.resumed awaited wake job).id = task.id := by
  unfold resumed
  split
  · rfl
  · rfl
  · rfl
  · split <;> rfl
  · rfl

@[simp] theorem fulfilled_id (task : StoredTask) : task.fulfilled.id = task.id := by
  unfold fulfilled
  split <;> rfl

/-- A second wake-up by the same promise changes nothing, whatever job it would take. -/
theorem resumed_resumed (awaited : String) (first second : Nat) (task : StoredTask) :
    (task.resumed awaited .fanout first).resumed awaited .fanout second =
      task.resumed awaited .fanout first := by
  cases state : task.state <;> simp [resumed, state, transition]

theorem resumed_ne_suspended (awaited : String) (job : Nat) (task : StoredTask) :
    (task.resumed awaited .fanout job).state ≠ .suspended := by
  cases state : task.state <;> simp [resumed, state, transition]

theorem mem_resumed (awaited : String) (job : Nat) (task : StoredTask)
    (unfulfilled : task.state ≠ .fulfilled) :
    awaited ∈ (task.resumed awaited .fanout job).resumes := by
  cases state : task.state <;> simp_all [resumed]

end StoredTask

namespace Txn

/-- Whether a promise is pending and not past its deadline. -/
def isOpen (txn : Txn) (id : String) : Bool :=
  (txn.getPromise id).any fun promise =>
    promise.record.isPending && decide (txn.now < promise.record.timeoutAt)

theorem isOpen_congr {first second : Txn} {id : String}
    (promises : second.getPromise id = first.getPromise id) (now : second.now = first.now) :
    second.isOpen id = first.isOpen id := by
  unfold isOpen
  rw [promises, now]

theorem isOpen_iff (txn : Txn) (id : String) :
    txn.isOpen id = true ↔ ∃ promise, txn.getPromise id = some promise ∧
      promise.record.isPending = true ∧ txn.now < promise.record.timeoutAt := by
  simp [isOpen, Option.any_eq_true]

end Txn

namespace Kernel

variable {env : Env} {txn : Txn}

theorem wakeAwaiter_eq (awaited awaiter : String) :
    wakeAwaiter env awaited txn awaiter =
      if txn.isOpen awaiter then resumeAwaiter env txn awaiter awaited .fanout else txn := by
  unfold wakeAwaiter Txn.isOpen
  cases txn.getPromise awaiter with
  | none => rfl
  | some awaiting => simp

/-! ## One awaiter -/

theorem resumeAwaiter_buffers (awaiter awaited : String) (wake : Wake) :
    Txn.Buffers txn (resumeAwaiter env txn awaiter awaited wake) := by
  unfold resumeAwaiter
  split
  · exact .refl txn
  · split
    · exact Txn.dispatch_buffers _ _ _ _
    · exact Txn.putTask_buffers _ _
    · exact Txn.putTask_buffers _ _
    · split
      · exact Txn.putTask_buffers _ _
      · exact .refl txn
    · exact .refl txn

@[simp] theorem getPromise_resumeAwaiter (awaiter awaited : String) (wake : Wake) :
    (resumeAwaiter env txn awaiter awaited wake).getPromise = txn.getPromise := by
  unfold resumeAwaiter
  split
  · rfl
  · split <;> first | rfl | (split <;> rfl)

@[simp] theorem getSchedule_resumeAwaiter (awaiter awaited : String) (wake : Wake) :
    (resumeAwaiter env txn awaiter awaited wake).getSchedule = txn.getSchedule := by
  unfold resumeAwaiter
  split
  · rfl
  · split <;> first | rfl | (split <;> rfl)

theorem resumeAwaiter_after (awaiter awaited : String) (wake : Wake) :
    (resumeAwaiter env txn awaiter awaited wake).after = txn.after := by
  unfold resumeAwaiter
  split
  · rfl
  · split <;> first | rfl | (split <;> rfl)

theorem getTask_resumeAwaiter (keyed : txn.Keyed) (awaiter awaited : String) (wake : Wake)
    (id : String) :
    (resumeAwaiter env txn awaiter awaited wake).getTask id =
      if awaiter = id then
        (txn.getTask id).map (StoredTask.resumed awaited wake txn.queue.nextJob)
      else txn.getTask id := by
  unfold resumeAwaiter
  cases found : txn.getTask awaiter with
  | none =>
      by_cases same : awaiter = id
      · subst same
        simp [found]
      · simp [same]
  | some task =>
      have own : task.id = awaiter := keyed.task _ _ found
      by_cases same : awaiter = id
      · subst same
        cases state : task.state <;>
          simp [found, state, StoredTask.resumed, StoredTask.transition, own]
        split <;> simp [found]
      · cases state : task.state <;>
          simp [state, StoredTask.transition, own, same]
        split <;> simp [same]

theorem enqueues_resumeAwaiter (awaiter awaited : String) (wake : Wake) :
    (resumeAwaiter env txn awaiter awaited wake).enqueues =
      txn.enqueues ++
        ((txn.getTask awaiter).map (StoredTask.redispatch env txn.queue.nextJob)).getD [] := by
  unfold resumeAwaiter
  cases txn.getTask awaiter with
  | none => exact (List.append_nil _).symm
  | some task =>
      dsimp only
      split
      · rename_i state
        rw [Option.map_some, Option.getD_some, StoredTask.redispatch, if_pos state]
        rfl
      all_goals
        rename_i state
        simp only [Option.map_some, Option.getD_some, StoredTask.redispatch, state, reduceCtorEq,
          ↓reduceIte, List.append_nil]
      · rfl
      · rfl
      · split <;> rfl

theorem dispatches_resumeAwaiter (keyed : txn.Keyed) (awaiter awaited : String) (wake : Wake)
    (id : String) :
    dispatchesOf id (resumeAwaiter env txn awaiter awaited wake).enqueues =
      dispatchesOf id txn.enqueues ++
        if awaiter = id then
          ((txn.getTask id).map (StoredTask.redispatch env txn.queue.nextJob)).getD []
        else [] := by
  rw [enqueues_resumeAwaiter, dispatchesOf_append]
  congr 1
  cases found : txn.getTask awaiter with
  | none =>
      by_cases same : awaiter = id
      · subst same
        simp [found, dispatchesOf]
      · simp [same, dispatchesOf]
  | some task =>
      rw [Option.map_some, Option.getD_some]
      have own : task.id = awaiter := keyed.task _ _ found
      by_cases same : awaiter = id
      · subst same
        rw [if_pos rfl, found, Option.map_some, Option.getD_some]
        unfold StoredTask.redispatch
        split
        · rw [dispatchesOf_execute, if_pos own]
        · rfl
      · rw [if_neg same]
        unfold StoredTask.redispatch
        split
        · rw [dispatchesOf_execute, own, if_neg same]
        · rfl

/-! ## Every awaiter -/

section WakeAll

variable (env) (awaited : String)

theorem foldl_wakeAwaiter_buffers (callbacks : List String) (txn : Txn) :
    Txn.Buffers txn (callbacks.foldl (wakeAwaiter env awaited) txn) := by
  apply Txn.foldl_buffers
  intro txn awaiter
  rw [wakeAwaiter_eq]
  split
  · exact resumeAwaiter_buffers _ _ _
  · exact .refl txn

theorem wakeAwaiter_same {α : Type} (observe : Txn → α)
    (same : ∀ txn awaiter, observe (resumeAwaiter env txn awaiter awaited .fanout) = observe txn)
    (callbacks : List String) (txn : Txn) :
    observe (callbacks.foldl (wakeAwaiter env awaited) txn) = observe txn := by
  induction callbacks generalizing txn with
  | nil => rfl
  | cons awaiter rest ih =>
      rw [List.foldl_cons, ih, wakeAwaiter_eq]
      split
      · exact same txn awaiter
      · rfl

theorem getPromise_wakeAll (callbacks : List String) (txn : Txn) :
    (callbacks.foldl (wakeAwaiter env awaited) txn).getPromise = txn.getPromise :=
  wakeAwaiter_same env awaited Txn.getPromise
    (fun _ awaiter => getPromise_resumeAwaiter awaiter awaited .fanout) callbacks txn

theorem getSchedule_wakeAll (callbacks : List String) (txn : Txn) :
    (callbacks.foldl (wakeAwaiter env awaited) txn).getSchedule = txn.getSchedule :=
  wakeAwaiter_same env awaited Txn.getSchedule
    (fun _ awaiter => getSchedule_resumeAwaiter awaiter awaited .fanout) callbacks txn

theorem after_wakeAll (callbacks : List String) (txn : Txn) :
    (callbacks.foldl (wakeAwaiter env awaited) txn).after = txn.after :=
  wakeAwaiter_same env awaited Txn.after
    (fun _ awaiter => resumeAwaiter_after awaiter awaited .fanout) callbacks txn

theorem wakeAwaiter_keyed {txn : Txn} (keyed : txn.Keyed) (awaiter : String) :
    (wakeAwaiter env awaited txn awaiter).Keyed := by
  rw [wakeAwaiter_eq]
  split
  · refine ⟨?_, ?_, ?_⟩
    · rw [getPromise_resumeAwaiter]
      exact keyed.promise
    · intro id task found
      rw [getTask_resumeAwaiter keyed] at found
      split at found
      · obtain ⟨old, stored, rfl⟩ := Option.map_eq_some_iff.mp found
        rw [StoredTask.resumed_id]
        exact keyed.task id old stored
      · exact keyed.task id task found
    · rw [getSchedule_resumeAwaiter]
      exact keyed.schedule
  · exact keyed

/-- What waking every registered awaiter does to one task and to its dispatches. A task listed
twice is woken once. -/
theorem wakeAll_task (callbacks : List String) (txn : Txn) (keyed : txn.Keyed) (id : String) :
    ∃ job, txn.queue.nextJob ≤ job ∧
      (callbacks.foldl (wakeAwaiter env awaited) txn).getTask id =
        (if id ∈ callbacks ∧ txn.isOpen id = true then
          (txn.getTask id).map (StoredTask.resumed awaited .fanout job)
        else txn.getTask id) ∧
      dispatchesOf id (callbacks.foldl (wakeAwaiter env awaited) txn).enqueues =
        dispatchesOf id txn.enqueues ++
          if id ∈ callbacks ∧ txn.isOpen id = true then
            ((txn.getTask id).map (StoredTask.redispatch env job)).getD []
          else [] := by
  induction callbacks generalizing txn with
  | nil => exact ⟨txn.queue.nextJob, Nat.le_refl _, by simp, by simp⟩
  | cons awaiter rest ih =>
      rw [List.foldl_cons]
      obtain ⟨job, later, task, dispatches⟩ :=
        ih (wakeAwaiter env awaited txn awaiter) (wakeAwaiter_keyed env awaited keyed awaiter)
      have buffers : Txn.Buffers txn (wakeAwaiter env awaited txn awaiter) :=
        foldl_wakeAwaiter_buffers env awaited [awaiter] txn
      have opened : (wakeAwaiter env awaited txn awaiter).isOpen id = txn.isOpen id :=
        Txn.isOpen_congr (congrFun (getPromise_wakeAll env awaited [awaiter] txn) id) buffers.now
      rw [opened] at task dispatches
      by_cases woken : awaiter = id ∧ txn.isOpen id = true
      · obtain ⟨rfl, live⟩ := woken
        rw [wakeAwaiter_eq, if_pos live, getTask_resumeAwaiter keyed, if_pos rfl] at task
        rw [wakeAwaiter_eq, if_pos live, getTask_resumeAwaiter keyed, if_pos rfl,
          dispatches_resumeAwaiter keyed, if_pos rfl] at dispatches
        refine ⟨txn.queue.nextJob, Nat.le_refl _, ?_, ?_⟩
        · rw [wakeAwaiter_eq, if_pos live, task]
          simp only [List.mem_cons, true_or, live, and_self, ↓reduceIte, and_true]
          split
          · rw [Option.map_map]
            congr 1
            funext task
            exact StoredTask.resumed_resumed awaited _ _ task
          · rfl
        · rw [wakeAwaiter_eq, if_pos live, dispatches]
          simp only [List.mem_cons, true_or, live, and_self, ↓reduceIte, and_true]
          rw [List.append_assoc]
          congr 1
          cases txn.getTask awaiter with
          | none => simp
          | some task =>
              have awake := StoredTask.resumed_ne_suspended awaited txn.queue.nextJob task
              simp [StoredTask.redispatch, awake]
      · have untouched : (wakeAwaiter env awaited txn awaiter).getTask id = txn.getTask id ∧
            dispatchesOf id (wakeAwaiter env awaited txn awaiter).enqueues =
              dispatchesOf id txn.enqueues := by
          rw [wakeAwaiter_eq]
          split
          · rename_i live
            have other : awaiter ≠ id := fun same => woken ⟨same, same ▸ live⟩
            rw [getTask_resumeAwaiter keyed, dispatches_resumeAwaiter keyed, if_neg other,
              if_neg other, List.append_nil]
            exact ⟨rfl, rfl⟩
          · exact ⟨rfl, rfl⟩
        rw [untouched.1] at task dispatches
        rw [untouched.2] at dispatches
        have listed : (id ∈ awaiter :: rest ∧ txn.isOpen id = true) ↔
            (id ∈ rest ∧ txn.isOpen id = true) := by
          constructor
          · rintro ⟨member, live⟩
            rcases List.mem_cons.mp member with rfl | member
            · exact absurd ⟨rfl, live⟩ woken
            · exact ⟨member, live⟩
          · rintro ⟨member, live⟩
            exact ⟨List.mem_cons_of_mem _ member, live⟩
        refine ⟨job, Nat.le_trans buffers.nextJob later, ?_, ?_⟩
        · rw [task]
          simp only [listed]
        · rw [dispatches]
          simp only [listed]

end WakeAll

/-! ## The chain -/

theorem wakeAll_enqueues (env : Env) (awaited : String) (callbacks : List String) (txn : Txn) :
    ∃ executes, (callbacks.foldl (wakeAwaiter env awaited) txn).enqueues =
        txn.enqueues ++ executes ∧
      ∀ request ∈ executes, ∃ task, request.payload = .execute task := by
  induction callbacks generalizing txn with
  | nil => exact ⟨[], (List.append_nil _).symm, by simp⟩
  | cons awaiter rest ih =>
      obtain ⟨later, enqueued, executes⟩ := ih (wakeAwaiter env awaited txn awaiter)
      rw [List.foldl_cons, enqueued, wakeAwaiter_eq]
      split
      · rw [enqueues_resumeAwaiter, List.append_assoc]
        refine ⟨_, rfl, ?_⟩
        intro request member
        rcases List.mem_append.mp member with first | second
        · cases found : txn.getTask awaiter with
          | none => simp [found] at first
          | some task =>
              simp only [found, Option.map_some, Option.getD_some, StoredTask.redispatch] at first
              split at first
              · cases List.mem_singleton.mp first
                exact ⟨task.id, rfl⟩
              · cases first
        · exact executes request second
      · exact ⟨later, rfl, executes⟩

theorem fulfillOwnTask_buffers (txn : Txn) (id : String) :
    Txn.Buffers txn (fulfillOwnTask txn id) := by
  unfold fulfillOwnTask
  split
  · split
    · exact (Txn.putTask_buffers _ _).trans (Txn.follow_buffers _ _)
    · exact .refl txn
  · exact .refl txn

@[simp] theorem getPromise_fulfillOwnTask (txn : Txn) (id : String) :
    (fulfillOwnTask txn id).getPromise = txn.getPromise := by
  unfold fulfillOwnTask
  split
  · split <;> rfl
  · rfl

@[simp] theorem getSchedule_fulfillOwnTask (txn : Txn) (id : String) :
    (fulfillOwnTask txn id).getSchedule = txn.getSchedule := by
  unfold fulfillOwnTask
  split
  · split <;> rfl
  · rfl

@[simp] theorem enqueues_fulfillOwnTask (txn : Txn) (id : String) :
    (fulfillOwnTask txn id).enqueues = txn.enqueues := by
  unfold fulfillOwnTask
  split
  · split <;> rfl
  · rfl

theorem getTask_fulfillOwnTask (keyed : txn.Keyed) (own id : String) :
    (fulfillOwnTask txn own).getTask id =
      if own = id then (txn.getTask id).map StoredTask.fulfilled else txn.getTask id := by
  unfold fulfillOwnTask
  cases found : txn.getTask own with
  | none =>
      by_cases same : own = id
      · subst same
        simp [found]
      · simp [same]
  | some task =>
      have key : task.id = own := keyed.task _ _ found
      dsimp only
      split
      · rename_i unfulfilled
        by_cases same : own = id
        · subst same
          simp [found, Txn.release, StoredTask.fulfilled, unfulfilled, key,
            StoredTask.transition]
        · simp [Txn.release, key, StoredTask.transition, same]
      · rename_i fulfilled
        by_cases same : own = id
        · subst same
          rw [found, if_pos rfl, Option.map_some, StoredTask.fulfilled, if_neg fulfilled]
        · rw [if_neg same]

/-- The claims a settlement of `id` releases. -/
def releasesOf (txn : Txn) (id : String) : List After :=
  match txn.getTask id with
  | some task => if task.state ≠ .fulfilled then [.release task.id] else []
  | none => []

theorem after_fulfillOwnTask (txn : Txn) (id : String) :
    (fulfillOwnTask txn id).after = txn.after ++ releasesOf txn id := by
  unfold fulfillOwnTask releasesOf
  cases txn.getTask id with
  | none => exact (List.append_nil _).symm
  | some task =>
      dsimp only
      split
      · rfl
      · exact (List.append_nil _).symm

theorem fulfillOwnTask_keyed (keyed : txn.Keyed) (own : String) :
    (fulfillOwnTask txn own).Keyed := by
  refine ⟨?_, ?_, ?_⟩
  · rw [getPromise_fulfillOwnTask]
    exact keyed.promise
  · intro id task found
    rw [getTask_fulfillOwnTask keyed] at found
    split at found
    · obtain ⟨old, stored, rfl⟩ := Option.map_eq_some_iff.mp found
      rw [StoredTask.fulfilled_id]
      exact keyed.task id old stored
    · exact keyed.task id task found
  · rw [getSchedule_fulfillOwnTask]
    exact keyed.schedule

theorem putPromise_keyed (keyed : txn.Keyed) (promise : StoredPromise) :
    (txn.putPromise promise).Keyed := by
  refine ⟨?_, keyed.task, keyed.schedule⟩
  intro id stored found
  rw [Txn.getPromise_putPromise] at found
  split at found
  · rename_i own
    cases found
    exact own
  · exact keyed.promise id stored found

/-- The messages of a settlement only add to the enqueued jobs. -/
theorem sendAll (env : Env) (message : Message) (listeners : List String) (txn : Txn) :
    listeners.foldl (fun txn address => txn.sendUnblock env address message) txn =
      { txn with enqueues :=
          txn.enqueues ++ listeners.map fun address => Txn.unblockRequest env address message } := by
  induction listeners generalizing txn with
  | nil => simp
  | cons address rest ih =>
      rw [List.foldl_cons, ih]
      simp [Txn.sendUnblock, Txn.enqueue]

/-- The transaction of a settlement before its messages are enqueued. -/
def woken (env : Env) (txn : Txn) (promise : StoredPromise) : Txn :=
  promise.callbacks.foldl (wakeAwaiter env promise.record.id)
    ((fulfillOwnTask txn promise.record.id).putPromise promise.cleared)

theorem settleChain_eq (env : Env) (txn : Txn) (promise : StoredPromise) :
    settleChain env txn promise =
      ({ woken env txn promise with
          enqueues := (woken env txn promise).enqueues ++ promise.listeners.map fun address =>
            Txn.unblockRequest env address (.unblock promise.record) }, promise.cleared) := by
  unfold settleChain
  dsimp only
  rw [sendAll]
  rfl

section Settled

variable (env) (txn) (promise : StoredPromise)

theorem woken_buffers : Txn.Buffers txn (woken env txn promise) :=
  ((fulfillOwnTask_buffers _ _).trans (Txn.putPromise_buffers _ _)).trans
    (foldl_wakeAwaiter_buffers _ _ _ _)

theorem settleChain_buffers : Txn.Buffers txn (settleChain env txn promise).1 := by
  rw [settleChain_eq]
  obtain ⟨kv, held, now, limit, jobs, token, clock, job⟩ := woken_buffers env txn promise
  exact ⟨kv, held, now, limit, jobs, token, clock, job⟩

theorem settleChain_promise : (settleChain env txn promise).2 = promise.cleared := by
  rw [settleChain_eq]

theorem getPromise_settleChain (id : String) :
    (settleChain env txn promise).1.getPromise id =
      if promise.record.id = id then some promise.cleared else txn.getPromise id := by
  rw [settleChain_eq]
  change (woken env txn promise).getPromise id = _
  rw [woken, getPromise_wakeAll, Txn.getPromise_putPromise, getPromise_fulfillOwnTask]
  rfl

theorem getSchedule_settleChain :
    (settleChain env txn promise).1.getSchedule = txn.getSchedule := by
  rw [settleChain_eq]
  change (woken env txn promise).getSchedule = _
  rw [woken, getSchedule_wakeAll, Txn.getSchedule_putPromise, getSchedule_fulfillOwnTask]

theorem after_settleChain :
    (settleChain env txn promise).1.after = txn.after ++ releasesOf txn promise.record.id := by
  rw [settleChain_eq]
  change (woken env txn promise).after = _
  rw [woken, after_wakeAll]
  exact after_fulfillOwnTask txn promise.record.id

/-- A settlement enqueues dispatches of awaiters and then one message for each listener. -/
theorem enqueues_settleChain :
    ∃ executes, (settleChain env txn promise).1.enqueues =
        txn.enqueues ++ executes ++ promise.listeners.map (fun address =>
          Txn.unblockRequest env address (.unblock promise.record)) ∧
      ∀ request ∈ executes, ∃ task, request.payload = .execute task := by
  obtain ⟨executes, enqueued, dispatches⟩ := wakeAll_enqueues env promise.record.id
    promise.callbacks ((fulfillOwnTask txn promise.record.id).putPromise promise.cleared)
  refine ⟨executes, ?_, dispatches⟩
  rw [settleChain_eq]
  change (woken env txn promise).enqueues ++ _ = _
  rw [woken, enqueued]
  change (fulfillOwnTask txn promise.record.id).enqueues ++ executes ++ _ = _
  rw [enqueues_fulfillOwnTask]

theorem dispatchesOf_unblocks (id : String) (message : Message) (listeners : List String) :
    dispatchesOf id (listeners.map fun address => Txn.unblockRequest env address message) =
      [] := by
  simp [dispatchesOf, Txn.unblockRequest]

end Settled

/-- What a settlement does to each task and to its dispatches: the promise's own task is
fulfilled, and every registered awaiter that is open is woken. -/
theorem settleChain_task (env : Env) (keyed : txn.Keyed) (promise : StoredPromise)
    (settled : promise.record.isPending = false) (id : String) :
    ∃ job, txn.queue.nextJob ≤ job ∧
      (settleChain env txn promise).1.getTask id =
        (if promise.record.id = id then (txn.getTask id).map StoredTask.fulfilled
        else if id ∈ promise.callbacks ∧ txn.isOpen id = true then
          (txn.getTask id).map (StoredTask.resumed promise.record.id .fanout job)
        else txn.getTask id) ∧
      dispatchesOf id (settleChain env txn promise).1.enqueues =
        dispatchesOf id txn.enqueues ++
          if promise.record.id ≠ id ∧ id ∈ promise.callbacks ∧ txn.isOpen id = true then
            ((txn.getTask id).map (StoredTask.redispatch env job)).getD []
          else [] := by
  have prepared := putPromise_keyed (fulfillOwnTask_keyed keyed promise.record.id)
    promise.cleared
  obtain ⟨job, later, task, dispatches⟩ := wakeAll_task env promise.record.id promise.callbacks
    ((fulfillOwnTask txn promise.record.id).putPromise promise.cleared) prepared id
  have started := (fulfillOwnTask_buffers txn promise.record.id).trans
    (Txn.putPromise_buffers _ promise.cleared)
  have opened : ((fulfillOwnTask txn promise.record.id).putPromise promise.cleared).isOpen id =
      if promise.record.id = id then false else txn.isOpen id := by
    unfold Txn.isOpen
    rw [Txn.getPromise_putPromise, getPromise_fulfillOwnTask, started.now]
    change Option.any _ (if promise.record.id = id then _ else _) = _
    split
    · simp [StoredPromise.cleared, settled]
    · rfl
  rw [opened, Txn.getTask_putPromise, getTask_fulfillOwnTask keyed] at task dispatches
  refine ⟨job, Nat.le_trans started.nextJob later, ?_, ?_⟩
  · rw [settleChain_eq]
    change (woken env txn promise).getTask id = _
    rw [woken, task]
    by_cases own : promise.record.id = id
    · simp [own]
    · simp [own]
  · rw [settleChain_eq]
    change dispatchesOf id ((woken env txn promise).enqueues ++ _) = _
    rw [dispatchesOf_append, dispatchesOf_unblocks, List.append_nil, woken, dispatches]
    change dispatchesOf id (fulfillOwnTask txn promise.record.id).enqueues ++ _ = _
    rw [enqueues_fulfillOwnTask]
    by_cases own : promise.record.id = id
    · simp [own]
    · simp [own]

theorem settleChain_keyed (keyed : txn.Keyed) (promise : StoredPromise)
    (settled : promise.record.isPending = false) :
    (settleChain env txn promise).1.Keyed := by
  refine ⟨?_, ?_, ?_⟩
  · intro id stored found
    rw [getPromise_settleChain] at found
    split at found
    · rename_i own
      cases found
      exact own
    · exact keyed.promise id stored found
  · intro id task found
    obtain ⟨job, _, changed, _⟩ := settleChain_task env keyed promise settled id
    rw [changed] at found
    split at found
    · obtain ⟨old, stored, rfl⟩ := Option.map_eq_some_iff.mp found
      rw [StoredTask.fulfilled_id]
      exact keyed.task id old stored
    · split at found
      · obtain ⟨old, stored, rfl⟩ := Option.map_eq_some_iff.mp found
        rw [StoredTask.resumed_id]
        exact keyed.task id old stored
      · exact keyed.task id task found
  · rw [getSchedule_settleChain]
    exact keyed.schedule

end Kernel

end Resonate
