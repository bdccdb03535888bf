import Resonate.Settlement

set_option autoImplicit false

/-! What the creation of a promise writes, indexes and enqueues. -/

namespace Resonate

open LeaseQueue (EnqueueRequest)

namespace Kernel

variable {env : Env} {txn : Txn}

/-- The task of a created promise. `job` is the id its dispatch takes. -/
def createdTask (promise : PromiseRecord) (target : String) (mode : CreateMode) (now : Int)
    (job : Nat) : StoredTask :=
  let task := StoredTask.new promise.id target .pending
  if now ≥ promise.timeoutAt then { task with state := .fulfilled }
  else
    match mode with
    | .acquire pid ttl =>
        { task with state := .acquired, version := 1, pid := some pid, ttl := some ttl,
                    job := some job }
    | .dispatch => { task with job := some job }

/-- The jobs the task of a created promise starts with. -/
def startRequests (env : Env) (promise : PromiseRecord) (target : String) (mode : CreateMode)
    (now : Int) (job : Nat) : List (EnqueueRequest Payload) :=
  if now ≥ promise.timeoutAt then []
  else
    match mode with
    | .acquire _ ttl =>
        [Txn.executeRequest env target promise.id job (some (Text.saturatingAdd now ttl))]
    | .dispatch => [Txn.executeRequest env target promise.id job (delayOf promise.tags now)]

def startFollows (promise : PromiseRecord) (mode : CreateMode) (now : Int) (job : Nat) :
    List After :=
  if now ≥ promise.timeoutAt then []
  else
    match mode with
    | .acquire _ ttl => [.claim promise.id job (leaseOf ttl)]
    | .dispatch => []

section StartTask

variable (promise : PromiseRecord) (target : String) (mode : CreateMode)

theorem startTask_buffers : Txn.Buffers txn (startTask env txn promise target mode) := by
  unfold startTask
  dsimp only
  split
  · exact Txn.putTask_buffers _ _
  · split
    · exact (Txn.dispatch_buffers _ _ _ _).trans (Txn.claimAfterCommit_buffers _ _ _)
    · exact Txn.dispatch_buffers _ _ _ _

theorem getPromise_startTask :
    (startTask env txn promise target mode).getPromise = txn.getPromise := by
  unfold startTask
  dsimp only
  split
  · rfl
  · split <;> rfl

theorem getSchedule_startTask :
    (startTask env txn promise target mode).getSchedule = txn.getSchedule := by
  unfold startTask
  dsimp only
  split
  · rfl
  · split <;> rfl

theorem getTask_startTask (id : String) :
    (startTask env txn promise target mode).getTask id =
      if promise.id = id then
        some (createdTask promise target mode txn.now txn.queue.nextJob)
      else txn.getTask id := by
  unfold startTask createdTask
  dsimp only
  split
  · exact Txn.getTask_putTask _ _ _
  · cases mode with
    | dispatch => exact Txn.getTask_dispatch _ _ _ _ _
    | acquire pid ttl =>
        exact Txn.getTask_dispatch env txn _ (some (Text.saturatingAdd txn.now ttl)) id

theorem enqueues_startTask :
    (startTask env txn promise target mode).enqueues =
      txn.enqueues ++ startRequests env promise target mode txn.now txn.queue.nextJob := by
  unfold startTask startRequests
  dsimp only
  split
  · exact (List.append_nil _).symm
  · cases mode <;> rfl

theorem after_startTask :
    (startTask env txn promise target mode).after =
      txn.after ++ startFollows promise mode txn.now txn.queue.nextJob := by
  unfold startTask startFollows
  dsimp only
  split
  · exact (List.append_nil _).symm
  · cases mode with
    | dispatch => exact (List.append_nil _).symm
    | acquire pid ttl => rfl

end StartTask

/-! ## The whole creation -/

section Create

variable (env) (txn) (data : PromiseCreateData) (createdAt : Option Int) (mode : CreateMode)

@[simp] theorem newPromise_id (now : Int) : (newPromise data createdAt now).record.id = data.id := by
  unfold newPromise
  dsimp only
  split <;> rfl

@[simp] theorem newPromise_tags (now : Int) :
    (newPromise data createdAt now).record.tags = data.tags := by
  unfold newPromise
  dsimp only
  split <;> rfl

@[simp] theorem newPromise_timeoutAt (now : Int) :
    (newPromise data createdAt now).record.timeoutAt = data.timeoutAt := by
  unfold newPromise
  dsimp only
  split <;> rfl

/-- A created promise is pending exactly when its deadline lies ahead. -/
theorem newPromise_pending (now : Int) :
    (newPromise data createdAt now).record.isPending = decide (now < data.timeoutAt) := by
  unfold newPromise
  dsimp only
  split
  · rename_i expired
    have passed : ¬ now < data.timeoutAt := by omega
    simp only [PromiseRecord.isPending, PromiseRecord.timeoutState, passed, decide_false]
    split <;> rfl
  · rename_i early
    have ahead : now < data.timeoutAt := by omega
    simp only [PromiseRecord.isPending, ahead, decide_true, beq_self_eq_true]

/-- The task a creation adds, when the promise has a target. -/
def taskOf : Option StoredTask :=
  data.tags[tagTarget]?.map fun target =>
    createdTask (newPromise data createdAt txn.now).record target mode txn.now txn.queue.nextJob

/-- The dispatch and the deadline a creation enqueues. -/
def createRequests : List (EnqueueRequest Payload) :=
  let promise := (newPromise data createdAt txn.now).record
  (match promise.target with
    | some target => startRequests env promise target mode txn.now txn.queue.nextJob
    | none => []) ++
  if promise.isPending ∧ promise.isExternal then
    [Txn.timerRequest (.promiseTimeout promise.id) promise.timeoutAt]
  else []

def createFollows : List After :=
  match data.tags[tagTarget]? with
  | some _ =>
      startFollows (newPromise data createdAt txn.now).record mode txn.now txn.queue.nextJob
  | none => []

/-- The creation before its deadline is scheduled. -/
def started : Txn :=
  let promise := newPromise data createdAt txn.now
  let txn := (txn.indexBranch promise.record).putPromise promise
  match promise.record.target with
  | some target => startTask env txn promise.record target mode
  | none => txn

theorem createPromise_eq :
    createPromise env txn data createdAt mode =
      let promise := newPromise data createdAt txn.now
      (if promise.record.isPending ∧ promise.record.isExternal then
        (started env txn data createdAt mode).scheduleTimer
          (.promiseTimeout promise.record.id) promise.record.timeoutAt
      else started env txn data createdAt mode, promise) := rfl

theorem createPromise_promise :
    (createPromise env txn data createdAt mode).2 = newPromise data createdAt txn.now := rfl

theorem indexed_now (promise : PromiseRecord) : (txn.indexBranch promise).now = txn.now :=
  (Txn.indexBranch_buffers txn promise).now

theorem indexed_queue (promise : PromiseRecord) :
    (txn.indexBranch promise).queue = txn.queue := by
  unfold Txn.indexBranch
  split <;> rfl

theorem indexed_enqueues (promise : PromiseRecord) :
    (txn.indexBranch promise).enqueues = txn.enqueues := by
  unfold Txn.indexBranch
  split <;> rfl

theorem indexed_after (promise : PromiseRecord) :
    (txn.indexBranch promise).after = txn.after := by
  unfold Txn.indexBranch
  split <;> rfl

theorem started_buffers : Txn.Buffers txn (started env txn data createdAt mode) := by
  unfold started
  dsimp only
  have written := (Txn.indexBranch_buffers txn (newPromise data createdAt txn.now).record).trans
    (Txn.putPromise_buffers _ (newPromise data createdAt txn.now))
  split
  · exact written.trans (startTask_buffers _ _ _)
  · exact written

theorem createPromise_buffers :
    Txn.Buffers txn (createPromise env txn data createdAt mode).1 := by
  rw [createPromise_eq]
  dsimp only
  split
  · exact (started_buffers env txn data createdAt mode).trans (Txn.enqueue_buffers _ _)
  · exact started_buffers env txn data createdAt mode

theorem getPromise_createPromise (id : String) :
    (createPromise env txn data createdAt mode).1.getPromise id =
      if data.id = id then some (newPromise data createdAt txn.now) else txn.getPromise id := by
  have started : (started env txn data createdAt mode).getPromise id =
      if data.id = id then some (newPromise data createdAt txn.now) else txn.getPromise id := by
    unfold started
    dsimp only
    split
    · rw [getPromise_startTask]
      simp only [Txn.getPromise_putPromise, newPromise_id, Txn.getPromise_indexBranch]
    · simp only [Txn.getPromise_putPromise, newPromise_id, Txn.getPromise_indexBranch]
  rw [createPromise_eq]
  dsimp only
  split
  · exact started
  · exact started

theorem getTask_createPromise (id : String) :
    (createPromise env txn data createdAt mode).1.getTask id =
      if data.id = id then
        (taskOf txn data createdAt mode).or (txn.getTask id)
      else txn.getTask id := by
  have started : (started env txn data createdAt mode).getTask id =
      if data.id = id then (taskOf txn data createdAt mode).or (txn.getTask id)
      else txn.getTask id := by
    unfold started taskOf
    dsimp only
    have target : (newPromise data createdAt txn.now).record.target = data.tags[tagTarget]? := by
      rw [PromiseRecord.target, newPromise_tags]
    rw [target]
    cases data.tags[tagTarget]? with
    | none =>
        simp only [Option.map_none, Option.none_or, ite_self, Txn.getTask_putPromise,
          Txn.getTask_indexBranch]
    | some address =>
        dsimp only
        rw [getTask_startTask, newPromise_id, Txn.getTask_putPromise, Txn.getTask_indexBranch]
        change (if data.id = id then some (createdTask _ _ _ (txn.indexBranch _).now
          (txn.indexBranch _).queue.nextJob) else _) = _
        rw [indexed_now, indexed_queue]
        simp
  rw [createPromise_eq]
  dsimp only
  split
  · exact started
  · exact started

theorem getSchedule_createPromise :
    (createPromise env txn data createdAt mode).1.getSchedule = txn.getSchedule := by
  have started : (started env txn data createdAt mode).getSchedule = txn.getSchedule := by
    unfold started
    dsimp only
    split
    · rw [getSchedule_startTask]
      simp only [Txn.getSchedule_putPromise, Txn.getSchedule_indexBranch]
    · simp only [Txn.getSchedule_putPromise, Txn.getSchedule_indexBranch]
  rw [createPromise_eq]
  dsimp only
  split
  · exact started
  · exact started

theorem enqueues_createPromise :
    (createPromise env txn data createdAt mode).1.enqueues =
      txn.enqueues ++ createRequests env txn data createdAt mode := by
  have started : (started env txn data createdAt mode).enqueues = txn.enqueues ++
      match (newPromise data createdAt txn.now).record.target with
      | some target =>
          startRequests env (newPromise data createdAt txn.now).record target mode txn.now
            txn.queue.nextJob
      | none => [] := by
    unfold started
    dsimp only
    split
    · rw [enqueues_startTask]
      change (txn.indexBranch _).enqueues ++ startRequests env _ _ _ (txn.indexBranch _).now
        (txn.indexBranch _).queue.nextJob = _
      rw [indexed_enqueues, indexed_now, indexed_queue]
    · change (txn.indexBranch _).enqueues = _
      rw [indexed_enqueues, List.append_nil]
  rw [createPromise_eq]
  unfold createRequests
  dsimp only
  split
  · change (Kernel.started env txn data createdAt mode).enqueues ++ [_] = _
    rw [started, List.append_assoc]
  · rw [started, List.append_nil]

theorem after_createPromise :
    (createPromise env txn data createdAt mode).1.after =
      txn.after ++ createFollows txn data createdAt mode := by
  have started : (started env txn data createdAt mode).after =
      txn.after ++ createFollows txn data createdAt mode := by
    unfold started createFollows
    dsimp only
    have target : (newPromise data createdAt txn.now).record.target = data.tags[tagTarget]? := by
      rw [PromiseRecord.target, newPromise_tags]
    rw [target]
    split
    · rw [after_startTask]
      change (txn.indexBranch _).after ++ startFollows _ _ (txn.indexBranch _).now
        (txn.indexBranch _).queue.nextJob = _
      rw [indexed_after, indexed_now, indexed_queue]
    · change (txn.indexBranch _).after = _
      rw [indexed_after, List.append_nil]
  rw [createPromise_eq]
  dsimp only
  split
  · exact started
  · exact started

@[simp] theorem createdTask_id (promise : PromiseRecord) (target : String) (now : Int)
    (job : Nat) : (createdTask promise target mode now job).id = promise.id := by
  unfold createdTask
  dsimp only
  split
  · rfl
  · split <;> rfl

@[simp] theorem createdTask_target (promise : PromiseRecord) (target : String) (now : Int)
    (job : Nat) : (createdTask promise target mode now job).target = target := by
  unfold createdTask
  dsimp only
  split
  · rfl
  · split <;> rfl

theorem createPromise_keyed (keyed : txn.Keyed) :
    (createPromise env txn data createdAt mode).1.Keyed := by
  refine ⟨?_, ?_, ?_⟩
  · intro id promise found
    rw [getPromise_createPromise] at found
    split at found
    · rename_i own
      cases found
      rw [newPromise_id]
      exact own
    · exact keyed.promise id promise found
  · intro id task found
    rw [getTask_createPromise] at found
    split at found
    · rename_i own
      unfold taskOf at found
      cases target : data.tags[tagTarget]? with
      | none =>
          rw [target] at found
          exact keyed.task id task found
      | some address =>
          rw [target] at found
          cases found
          rw [createdTask_id, newPromise_id]
          exact own
    · exact keyed.task id task found
  · rw [getSchedule_createPromise]
    exact keyed.schedule

end Create

end Kernel

end Resonate
