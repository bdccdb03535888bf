import Resonate.Invariants

set_option autoImplicit false

/-! A promise with a target and its task are stored together and end together, so no handler
fails to find the one where it has the other. -/

namespace Resonate

open Kernel

/-- The task of a cell exists exactly for a promise with a target, at that target, and is
unfulfilled exactly while the promise is pending. -/
structure Coupled (cell : Cell) : Prop where
  target : cell.task.map (·.target) = cell.promise.bind (·.record.target)
  pending : ∀ promise task, cell.promise = some promise → cell.task = some task →
    (promise.record.isPending = true ↔ task.state ≠ .fulfilled)

namespace StoredTask

@[simp] theorem resumed_target (awaited : String) (wake : Wake) (job : Nat) (task : StoredTask) :
    (task.resumed awaited wake job).target = task.target := by
  unfold resumed
  split
  · rfl
  · rfl
  · rfl
  · split <;> rfl
  · rfl

@[simp] theorem resumed_fulfilled (awaited : String) (wake : Wake) (job : Nat)
    (task : StoredTask) :
    (task.resumed awaited wake job).state = .fulfilled ↔ task.state = .fulfilled := by
  cases state : task.state <;> simp [resumed, state, transition]
  split <;> simp [state]

@[simp] theorem fulfilled_target (task : StoredTask) : task.fulfilled.target = task.target := by
  unfold fulfilled
  split <;> rfl

@[simp] theorem fulfilled_state (task : StoredTask) : task.fulfilled.state = .fulfilled := by
  unfold fulfilled
  split
  · rfl
  · rename_i state
    exact not_not.mp state

end StoredTask

/-- A settlement changes the state, value and settlement time of a promise only. -/
theorem Label.settles_final {label : Label} {now : Int} {promise final : StoredPromise}
    (settles : label.settles now = some (promise, final)) :
    final.record.isPending = false ∧ final.record.id = promise.record.id ∧
      final.record.tags = promise.record.tags ∧ final.callbacks = promise.callbacks ∧
      final.listeners = promise.listeners ∧ final.record.param = promise.record.param ∧
      final.record.timeoutAt = promise.record.timeoutAt ∧
      final.record.createdAt = promise.record.createdAt := by
  cases label with
  | expire stored =>
      cases settles
      exact ⟨expiredPromise_settled promise, rfl, rfl, rfl, rfl, rfl, rfl, rfl⟩
  | strike stored =>
      cases settles
      exact ⟨expiredPromise_settled promise, rfl, rfl, rfl, rfl, rfl, rfl, rfl⟩
  | settle stored state value =>
      cases settles
      exact ⟨settledPromise_settled promise state value now, rfl, rfl, rfl, rfl, rfl, rfl, rfl⟩
  | _ => cases settles

theorem target_of_tags {first second : PromiseRecord} (same : second.tags = first.tags) :
    second.target = first.target := by
  unfold PromiseRecord.target
  rw [same]

namespace TaskMove

variable {label : Label} {before after : StoredTask}

theorem target (move : TaskMove label before after) : after.target = before.target := by
  cases move <;> rfl

theorem unfulfilled (move : TaskMove label before after) :
    before.state ≠ .fulfilled ∧ after.state ≠ .fulfilled := by
  cases move with
  | acquire task pid ttl pending => simp [pending, acquiredTask]
  | release task acquired => simp [acquired, StoredTask.transition]
  | lose task acquired => simp [acquired, StoredTask.transition]
  | suspend task awaited acquired => simp [acquired, StoredTask.transition]
  | clear task acquired => simp [acquired]
  | halt task unfulfilled unhalted => simp [unfulfilled, StoredTask.transition]
  | proceed task job halted => simp [halted, StoredTask.transition]

end TaskMove

theorem createdTask_state (promise : PromiseRecord) (target : String) (mode : CreateMode)
    (now : Int) (job : Nat) :
    (createdTask promise target mode now job).state ≠ .fulfilled ↔ now < promise.timeoutAt := by
  unfold createdTask
  dsimp only
  split
  · rename_i passed
    simp only [ne_eq, not_true_eq_false, false_iff]
    omega
  · rename_i ahead
    cases mode <;> simp only [StoredTask.new, ne_eq, reduceCtorEq, not_false_eq_true, true_iff] <;>
      omega

/-- Every change keeps a promise and its task together. -/
theorem Change.coupled {env : Env} {now : Int} {id : String} {label : Label} {before after : Cell}
    (change : Change env now id label before after) (coupled : Coupled before) :
    Coupled after := by
  obtain ⟨target, pending⟩ := coupled
  cases change with
  | settled label promise final task settles own open_ timely =>
      obtain ⟨settled, _, tags, _⟩ := Label.settles_final settles
      refine ⟨?_, ?_⟩
      · rw [Option.map_map]
        change task.map (fun task => task.fulfilled.target) = final.record.target
        rw [target_of_tags tags]
        simpa using target
      · intro stored other promised tasked
        cases promised
        obtain ⟨old, _, rfl⟩ := Option.map_eq_some_iff.mp tasked
        change final.record.isPending = true ↔ _
        simp [settled]
  | woken label promise final awaiter task job settles other listed open_ early =>
      refine ⟨?_, ?_⟩
      · simpa [Function.comp_def] using target
      · intro stored woken promised tasked
        obtain ⟨old, found, rfl⟩ := Option.map_eq_some_iff.mp tasked
        rw [ne_eq, StoredTask.resumed_fulfilled]
        exact pending stored old promised found
  | spared label promise final cell settles other asleep => exact ⟨target, pending⟩
  | created data createdAt mode task job own =>
      have absent : task = none := by simpa using target
      subst absent
      refine ⟨?_, ?_⟩
      · change Option.map _ (Option.or _ none) = (newPromise data createdAt now).record.target
        rw [Option.or_none, Option.map_map]
        unfold PromiseRecord.target
        rw [newPromise_tags]
        simp [Function.comp_def]
      · intro stored other promised tasked
        cases promised
        change Option.or _ none = some other at tasked
        rw [Option.or_none] at tasked
        obtain ⟨address, _, rfl⟩ := Option.map_eq_some_iff.mp tasked
        rw [newPromise_pending, createdTask_state, newPromise_timeoutAt, decide_eq_true_iff]
  | registered awaited awaiter task own open_ external valid unlisted =>
      refine ⟨target, ?_⟩
      intro stored other promised tasked
      cases promised
      exact pending awaited other rfl tasked
  | listened awaited address task own open_ external unlisted =>
      refine ⟨target, ?_⟩
      intro stored other promised tasked
      cases promised
      exact pending awaited other rfl tasked
  | resumed awaited awaiter task job open_ early =>
      refine ⟨?_, ?_⟩
      · simpa [Function.comp_def] using target
      · intro stored woken promised tasked
        obtain ⟨old, found, rfl⟩ := Option.map_eq_some_iff.mp tasked
        rw [ne_eq, StoredTask.resumed_fulfilled]
        exact pending stored old promised found
  | moved label promise task later own move =>
      refine ⟨?_, ?_⟩
      · change some later.target = _
        rw [move.target]
        exact target
      · intro stored other promised tasked
        cases tasked
        have both := pending stored task promised rfl
        simp only [move.unfulfilled.1, move.unfulfilled.2, ne_eq, not_false_eq_true,
          iff_true] at both ⊢
        exact both
  | same label cell unsettling apart => exact ⟨target, pending⟩

theorem empty_coupled : Coupled ⟨none, none⟩ := by
  refine ⟨rfl, ?_⟩
  intro promise task promised
  cases promised

section

variable {env : Env} {txn : Txn}

theorem Reachable.coupled {system : System} (reached : Reachable env system) (id : String) :
    Coupled (system.cell id) :=
  reached.cell_invariant (fun _ cell => Coupled cell) (fun _ => empty_coupled)
    (fun _ _ _ _ _ change coupled => change.coupled coupled) id

theorem Trail.coupled {permits : Label → Prop} {next : Txn} (trail : Trail env permits txn next)
    (keyed : txn.Keyed) (coupled : ∀ id, Coupled (txn.cell id)) (id : String) :
    Coupled (next.cell id) :=
  (trail.cells keyed id).preserves Coupled (coupled id)
    fun _ _ _ _ change holds => change.coupled holds

theorem tryTimeout_coupled (env : Env) (ids : List String) (keyed : txn.Keyed)
    (coupled : ∀ id, Coupled (txn.cell id)) (id : String) :
    Coupled ((tryTimeout env txn ids).cell id) := by
  have trail : Trail env (fun _ => True) txn (tryTimeout env txn ids) :=
    tryTimeout_trail ids keyed fun _ _ => trivial
  exact trail.coupled keyed coupled id

theorem Coupled.promise_of_task {id : String} {task : StoredTask} (coupled : Coupled (txn.cell id))
    (stored : txn.getTask id = some task) : ∃ promise, txn.getPromise id = some promise := by
  have target := coupled.target
  change (txn.getTask id).map _ = (txn.getPromise id).bind _ at target
  rw [stored] at target
  cases promised : txn.getPromise id with
  | none =>
      rw [promised] at target
      cases target
  | some promise => exact ⟨promise, rfl⟩

/-- A task that its deadline leaves unfulfilled had not passed it, and nothing was changed. -/
theorem tryTimeout_open {id : String} {task : StoredTask} (keyed : txn.Keyed)
    (coupled : ∀ id, Coupled (txn.cell id))
    (stored : (tryTimeout env txn [id]).getTask id = some task)
    (unfulfilled : task.state ≠ .fulfilled) :
    tryTimeout env txn [id] = txn ∧ txn.isOpen id = true := by
  have paired := tryTimeout_coupled env [id] keyed coupled id
  obtain ⟨promise, promised⟩ := paired.promise_of_task stored
  have pending := (paired.pending promise task promised stored).mpr unfulfilled
  have before : (tryTimeout env txn [id]).getPromise id = _ := getPromise_tryTimeout [id] keyed id
  rw [if_pos List.mem_cons_self, promised] at before
  obtain ⟨old, found, rfl⟩ := Option.map_eq_some_iff.mp before.symm
  obtain ⟨same, early⟩ := lapsed_early txn.now old pending
  rw [same] at pending
  refine ⟨?_, (txn.isOpen_iff id).mpr ⟨old, found, pending, early⟩⟩
  refine tryTimeout_same [id] txn fun other member => ?_
  rw [List.mem_singleton.mp member]
  intro stored present _
  rw [found] at present
  cases present
  exact early

/-! ## No handler fails an expectation -/

/-- Whether a handler drops its transaction or commits it without an acknowledgement. -/
def Kernel.Exit.Plain : Exit → Prop
  | .drop | .commit => True
  | .commitAck _ | .panic => False

theorem Kernel.Exit.Plain.ne_panic {exit : Exit} (plain : exit.Plain) : exit ≠ .panic := by
  rintro rfl
  exact plain

theorem Kernel.Exit.Plain.ne_commitAck {exit : Exit} (plain : exit.Plain) (id : String) :
    exit ≠ .commitAck id := by
  rintro rfl
  exact plain

theorem doneView_exit (task : StoredTask)
    (promised : ∃ promise, txn.getPromise task.id = some promise) :
    (doneView txn task).exit = .commit := by
  obtain ⟨promise, promised⟩ := promised
  unfold doneView taskView
  rw [promised]
  rfl

theorem acquire_cases (txn : Txn) (task : StoredTask) (pid : String) (ttl : Int) :
    (acquire txn task pid ttl).2 = none ∨
      (acquire txn task pid ttl).2 = some (acquiredTask task pid ttl) ∧
        (acquire txn task pid ttl).1.getTask task.id = some (acquiredTask task pid ttl) ∧
        (acquire txn task pid ttl).1.getPromise = txn.getPromise := by
  unfold acquire
  have touched := Txn.renew_touches txn task.id (leaseOf ttl)
  split
  · exact .inl rfl
  · rename_i next renewed
    rw [renewed] at touched
    refine .inr ⟨rfl, ?_, ?_⟩
    · rw [Txn.getTask_putTask, if_pos rfl]
      rfl
    · exact (Txn.getPromise_putTask _ _).trans touched.getPromise

/-- A handler that acquires a stored task finds the task's promise. -/
theorem acquire_exit (task : StoredTask) (pid : String) (ttl : Int) (message : String)
    (promised : ∃ promise, txn.getPromise task.id = some promise) :
    (match acquire txn task pid ttl with
      | (txn, none) => done txn (.err 409 message)
      | (txn, some task) => doneView txn task).exit = .commit := by
  rcases acquire_cases txn task pid ttl with refused | ⟨granted, _, promises⟩
  · cases result : acquire txn task pid ttl with
    | mk next outcome =>
        rw [result] at refused
        cases refused
        rfl
  · cases result : acquire txn task pid ttl with
    | mk next outcome =>
        rw [result] at granted promises
        cases granted
        exact doneView_exit (acquiredTask task pid ttl) (promises ▸ promised)

theorem taskCreateExisting_exit (data : TaskCreateData) (task : StoredTask)
    (promised : ∃ promise, txn.getPromise task.id = some promise) :
    (taskCreateExisting txn data task).exit = .commit := by
  by_cases pending : task.state = .pending
  · have touched := claimed_touches txn task (leaseOf data.ttl)
    rw [taskCreateExisting_pending data task pending]
    generalize claimed txn task (leaseOf data.ttl) = next at touched
    split
    · rfl
    · exact acquire_exit task data.pid data.ttl _ (touched.getPromise ▸ promised)
  · unfold taskCreateExisting
    split
    · rename_i state
      exact absurd state pending
    · exact doneView_exit task promised
    all_goals rfl

theorem taskCreate_exit (keyed : txn.Keyed) (coupled : ∀ id, Coupled (txn.cell id))
    (data : TaskCreateData) : (taskCreate env txn data).exit.Plain := by
  have timed := tryTimeout_keyed env [data.action.data.id] keyed
  have paired := tryTimeout_coupled env [data.action.data.id] keyed coupled
  unfold taskCreate
  dsimp only
  split
  · trivial
  · split
    · trivial
    · split
      · trivial
      · split
        · trivial
        · split
          · trivial
          · rename_i targeted
            split
            · trivial
            · split
              · rename_i task stored
                have own : task.id = data.action.data.id := timed.task _ _ stored
                rw [taskCreateExisting_exit data task (own ▸ (paired _).promise_of_task stored)]
                trivial
              · split
                · trivial
                · generalize tryTimeout env txn [data.action.data.id] = base
                  obtain ⟨task, started, own⟩ : ∃ task, (createPromise env base data.action.data
                      none (.acquire data.pid data.ttl)).1.getTask data.action.data.id =
                        some task ∧ task.id = data.action.data.id := by
                    rw [getTask_createPromise, if_pos rfl]
                    unfold taskOf
                    cases tagged : data.action.data.tags[tagTarget]? with
                    | none =>
                        rw [tagged] at targeted
                        exact absurd rfl targeted
                    | some target =>
                        refine ⟨_, rfl, ?_⟩
                        rw [createdTask_id, newPromise_id]
                  have named : (createPromise env base data.action.data none
                      (.acquire data.pid data.ttl)).2.record.id = data.action.data.id := by
                    rw [createPromise_promise, newPromise_id]
                  rw [named, started]
                  dsimp only
                  rw [doneView_exit task]
                  · trivial
                  · rw [own, getPromise_createPromise, if_pos rfl]
                    exact ⟨_, rfl⟩

theorem taskAcquire_exit (keyed : txn.Keyed) (coupled : ∀ id, Coupled (txn.cell id))
    (data : TaskAcquireData) : (taskAcquire env txn data).exit.Plain := by
  have timed := tryTimeout_keyed env [data.id] keyed
  have paired := tryTimeout_coupled env [data.id] keyed coupled
  unfold taskAcquire
  dsimp only
  split
  · trivial
  · rename_i task stored
    have own : task.id = data.id := timed.task _ _ stored
    split
    · trivial
    · split
      · trivial
      · have promised : ∃ promise,
            (tryTimeout env txn [data.id]).getPromise task.id = some promise := by
          rw [own]
          exact (paired data.id).promise_of_task stored
        have exit := acquire_exit task data.pid data.ttl "Task is not pending" promised
        exact (congrArg Kernel.Exit.Plain exit).mpr trivial

theorem taskSuspend_exit (env : Env) (keyed : txn.Keyed) (coupled : ∀ id, Coupled (txn.cell id))
    (data : TaskSuspendData) : (taskSuspend env txn data).exit ≠ .panic := by
  unfold taskSuspend
  split
  · nofun
  · split
    · nofun
    · rename_i awaitedIds accepted
      dsimp only
      have paired := tryTimeout_coupled env (data.id :: awaitedIds) keyed coupled
      generalize tryTimeout env txn (data.id :: awaitedIds) = base at paired
      split
      · nofun
      · rename_i task stored
        have touched : Txn.Touches base
            (if task.isAcquiredAt data.version then base.holds task.id else (base, false)).1 := by
          split
          · exact Txn.holds_touches _ _
          · exact .refl _
        generalize (if task.isAcquiredAt data.version then base.holds task.id
          else (base, false)) = next at touched
        split
        · nofun
        · split
          · nofun
          · split
            · split
              · rename_i absent
                obtain ⟨promise, promised⟩ := (paired data.id).promise_of_task stored
                rw [Txn.getPromise_putTask, touched.getPromise, promised] at absent
                cases absent
              · nofun
            · nofun

theorem fenceAction_promise (action : Action ActionValue) (next : Txn) (status : Nat)
    (inner : PromiseRecord ⊕ String) (id : String)
    (performed : fenceAction env txn action = .ok (next, status, inner))
    (promised : ∃ promise, txn.getPromise id = some promise) :
    ∃ promise, next.getPromise id = some promise := by
  unfold fenceAction at performed
  split at performed
  · split at performed
    · cases performed
    · rename_i create _
      split at performed
      · cases performed
      · split at performed
        · cases performed
          exact promised
        · cases performed
          change ∃ promise, (createPromise env txn create none .dispatch).1.getPromise id =
            some promise
          rw [getPromise_createPromise]
          split
          · exact ⟨_, rfl⟩
          · exact promised
  · split at performed
    · split at performed
      · cases performed
      · rename_i settled _
        split at performed
        · cases performed
          exact promised
        · rename_i promise _
          split at performed
          · cases performed
            change ∃ final, (settle env txn promise settled.state settled.value).1.getPromise id =
              some final
            rw [settle_eq, getPromise_settleChain]
            split
            · exact ⟨_, rfl⟩
            · exact promised
          · cases performed
            exact promised
    · cases performed

theorem taskFence_exit (keyed : txn.Keyed) (coupled : ∀ id, Coupled (txn.cell id))
    (data : TaskFenceData) (corrId : String) : (taskFence env txn data corrId).exit.Plain := by
  unfold taskFence
  split
  · trivial
  · rename_i actionId decoded
    split
    · trivial
    · split
      · trivial
      · dsimp only
        have paired := tryTimeout_coupled env [data.id, actionId] keyed coupled
        generalize tryTimeout env txn [data.id, actionId] = base at paired
        split
        · trivial
        · rename_i task stored
          split
          · trivial
          · split
            · trivial
            · rename_i next status inner performed
              obtain ⟨promise, promised⟩ := fenceAction_promise data.action next status inner
                data.id performed ((paired data.id).promise_of_task stored)
              rw [promised]
              trivial

/-- Over coupled records only a fulfilment and a suspension acknowledge a claim as they commit,
and no handler fails an expectation. -/
theorem handle_exits (env : Env) (keyed : txn.Keyed) (coupled : ∀ id, Coupled (txn.cell id))
    (request : Request) :
    (handle env txn request).exit.Plain ∨ (handle env txn request).exit ≠ .panic ∧
      ((∃ data, request = .taskFulfill data) ∨ ∃ data, request = .taskSuspend data) := by
  cases request with
  | promiseCreate data =>
      left
      unfold handle promiseCreate
      dsimp only
      repeat' split
      all_goals trivial
  | promiseGet id =>
      left
      unfold handle promiseGet
      dsimp only
      repeat' split
      all_goals trivial
  | promiseSettle data =>
      left
      unfold handle promiseSettle
      dsimp only
      repeat' split
      all_goals trivial
  | promiseRegisterCallback data =>
      left
      unfold handle promiseRegisterCallback
      dsimp only
      repeat' split
      all_goals trivial
  | promiseRegisterListener data =>
      left
      unfold handle promiseRegisterListener
      dsimp only
      repeat' split
      all_goals trivial
  | promiseSearch data =>
      left
      unfold handle promiseSearch
      dsimp only
      repeat' split
      all_goals trivial
  | taskCreate data => exact .inl (taskCreate_exit keyed coupled data)
  | taskAcquire data => exact .inl (taskAcquire_exit keyed coupled data)
  | taskRelease data =>
      left
      unfold handle taskRelease
      dsimp only
      repeat' split
      all_goals trivial
  | taskFulfill data =>
      refine .inr ⟨?_, .inl ⟨data, rfl⟩⟩
      unfold handle taskFulfill
      dsimp only
      repeat' split
      all_goals nofun
  | taskSuspend data => exact .inr ⟨taskSuspend_exit env keyed coupled data, .inr ⟨data, rfl⟩⟩
  | taskFence data corrId => exact .inl (taskFence_exit keyed coupled data corrId)
  | taskHeartbeat data => exact .inl trivial
  | taskGet id =>
      left
      unfold handle taskGet
      dsimp only
      repeat' split
      all_goals trivial
  | taskHalt id =>
      left
      unfold handle taskHalt
      dsimp only
      repeat' split
      all_goals trivial
  | taskContinue id =>
      left
      unfold handle taskContinue
      dsimp only
      repeat' split
      all_goals trivial
  | taskSearch data =>
      left
      unfold handle taskSearch
      dsimp only
      repeat' split
      all_goals trivial
  | scheduleCreate data =>
      left
      unfold handle scheduleCreate
      dsimp only
      repeat' split
      all_goals trivial
  | scheduleGet id =>
      left
      unfold handle scheduleGet
      dsimp only
      repeat' split
      all_goals trivial
  | scheduleDelete id =>
      left
      unfold handle scheduleDelete
      dsimp only
      repeat' split
      all_goals trivial
  | scheduleSearch data =>
      left
      unfold handle scheduleSearch
      dsimp only
      repeat' split
      all_goals trivial
  | invalid message => exact .inl trivial
  | unknown kind => exact .inl trivial

theorem handle_exit (keyed : txn.Keyed) (coupled : ∀ id, Coupled (txn.cell id))
    (request : Request) : (handle env txn request).exit ≠ .panic :=
  (handle_exits env keyed coupled request).elim Exit.Plain.ne_panic And.left

/-- A fulfilment that acknowledges its job leaves its promise settled. -/
theorem taskFulfill_settles (keyed : txn.Keyed) (data : TaskFulfillData) (taskId : String)
    (exit : (taskFulfill env txn data).exit = .commitAck taskId) :
    ∃ promise, (taskFulfill env txn data).txn.getPromise taskId = some promise ∧
      promise.record.isPending = false := by
  have timed := tryTimeout_keyed env [data.id] keyed
  unfold taskFulfill at exit ⊢
  dsimp only at exit ⊢
  split at exit
  · cases exit
  · rename_i kind
    split at exit
    · cases exit
    · rename_i sameId
      rw [if_neg kind, if_neg sameId]
      generalize tryTimeout env txn [data.id] = base at timed exit ⊢
      split at exit
      · cases exit
      · rename_i task stored
        have own : task.id = data.id := timed.task _ _ stored
        split at exit
        · cases exit
        · rename_i acquired
          split at exit
          · cases exit
          · rename_i promise promised
            have named : promise.record.id = data.id := timed.promise _ _ promised
            have touched := Txn.holds_touches base task.id
            split at exit
            · cases exit
            · rename_i next held
              rw [held] at touched
              cases exit
              simp only [if_neg acquired]
              change ∃ final, (if promise.record.isPending = true then
                (settle env next promise data.action.data.state data.action.data.value)
                else (next, promise)).1.getPromise task.id = some final ∧ _
              rw [own]
              split
              · rw [settle_eq, getPromise_settleChain]
                change ∃ final, (if promise.record.id = data.id then _ else _) = some final ∧ _
                rw [if_pos named]
                exact ⟨_, rfl, settledPromise_settled promise _ _ _⟩
              · rename_i settled
                refine ⟨promise, ?_, by simpa using settled⟩
                change next.getPromise data.id = some promise
                rw [touched.getPromise]
                exact promised

/-- In every reachable state a task exists exactly for a promise with a target, at that target,
and is unfulfilled exactly while the promise is pending. So no handler fails an expectation, and
a fulfilment never acknowledges a job while its promise stays pending. -/
theorem promise_task_coupling {system : System} (reached : Reachable env system) :
    (∀ id, (∃ task, system.task id = some task) ↔
      ∃ promise, system.promise id = some promise ∧ promise.record.target.isSome = true) ∧
    (∀ id task promise, system.task id = some task → system.promise id = some promise →
      task.id = id ∧ promise.record.id = id ∧ promise.record.target = some task.target ∧
        (promise.record.isPending = true ↔ task.state ≠ .fulfilled)) ∧
    (∀ request, (handle env (system.txn env) request).exit ≠ .panic) ∧
    (∀ data taskId commit, (taskFulfill env (system.txn env) data).exit = .commitAck taskId →
      (taskFulfill env (system.txn env) data).txn.commitAck taskId = (commit, true) →
      ∃ promise, commit.kv.promises[taskId]? = some promise ∧
        promise.record.isPending = false) := by
  have keyed := reached.keyed
  have coupled (id : String) : Coupled ((system.txn env).cell id) :=
    (system.cell_txn env id).symm ▸ reached.coupled id
  refine ⟨?_, ?_, ?_, ?_⟩
  · intro id
    have target := (reached.coupled id).target
    change (system.task id).map _ = (system.promise id).bind _ at target
    constructor
    · rintro ⟨task, stored⟩
      rw [stored] at target
      obtain ⟨promise, promised, tagged⟩ := Option.bind_eq_some_iff.mp target.symm
      exact ⟨promise, promised, by rw [tagged]; rfl⟩
    · rintro ⟨promise, promised, tagged⟩
      rw [promised] at target
      cases stored : system.task id with
      | some task => exact ⟨task, rfl⟩
      | none =>
          rw [stored] at target
          change none = promise.record.target at target
          rw [← target] at tagged
          cases tagged
  · intro id task promise stored promised
    have both := reached.coupled id
    have target := both.target
    change (system.task id).map _ = (system.promise id).bind _ at target
    rw [stored, promised] at target
    refine ⟨keyed.task id task ?_, keyed.promise id promise ?_, target.symm,
      both.pending promise task promised stored⟩
    · rw [System.getTask_txn]
      exact stored
    · rw [System.getPromise_txn]
      exact promised
  · intro request
    exact handle_exit keyed coupled request
  · intro data taskId commit exit acked
    obtain ⟨promise, promised, settled⟩ := taskFulfill_settles keyed data taskId exit
    refine ⟨promise, ?_, settled⟩
    rw [commitAck_kv acked]
    exact (Table.find_apply _ _ _).trans promised

end

/-- A promise with a target, created, delivered and acquired. -/
def acquiredRun : List Event :=
  [.clock 1, .request (.promiseCreate .sample) true, .take 0 0, .deliver (.sample 0 0) true,
    .finish, .request (.taskAcquire ⟨"root", 0, "p", 100⟩) true]

theorem acquiredRun_ends : (Machine.trace (step .sample) [] .empty acquiredRun).isSome = true := by
  decide

def acquiredTrace : List (Machine.Entry System Event) × System :=
  (Machine.trace (step .sample) [] .empty acquiredRun).get acquiredRun_ends

theorem acquired_history : History .sample acquiredTrace.1 acquiredTrace.2 :=
  Machine.history_of_trace acquiredRun_ends

theorem acquired_reachable : Reachable .sample acquiredTrace.2 := ⟨_, acquired_history⟩

theorem promise_task_coupling_acquired :
    ((∃ task, acquiredTrace.2.task "root" = some task) ↔
      ∃ promise, acquiredTrace.2.promise "root" = some promise ∧
        promise.record.target.isSome = true) ∧
    (acquiredTrace.2.task "root").isSome = true ∧
    ∀ request, (handle .sample (acquiredTrace.2.txn .sample) request).exit ≠ .panic :=
  ⟨(promise_task_coupling acquired_reachable).1 "root", by decide,
    (promise_task_coupling acquired_reachable).2.2.1⟩

end Resonate
