import Resonate.Handlers

set_option autoImplicit false

/-! What the reads of a transaction see after each of its writes. -/

namespace Resonate

namespace Txn

/-- Whether an index entry is visible to the request. -/
def indexed (txn : Txn) (key : String) : Prop :=
  Table.read txn.kv.branches txn.writes.branches key = some ()

@[simp] theorem getPromise_putPromise (txn : Txn) (promise : StoredPromise) (id : String) :
    (txn.putPromise promise).getPromise id =
      if promise.record.id = id then some promise else txn.getPromise id :=
  Table.read_insert _ _ _ _ _

@[simp] theorem getTask_putTask (txn : Txn) (task : StoredTask) (id : String) :
    (txn.putTask task).getTask id = if task.id = id then some task else txn.getTask id :=
  Table.read_insert _ _ _ _ _

@[simp] theorem getSchedule_putSchedule (txn : Txn) (schedule : ScheduleRecord) (id : String) :
    (txn.putSchedule schedule).getSchedule id =
      if schedule.id = id then some schedule else txn.getSchedule id :=
  Table.read_insert _ _ _ _ _

@[simp] theorem getSchedule_deleteSchedule (txn : Txn) (id other : String) :
    (txn.deleteSchedule id).getSchedule other =
      if id = other then none else txn.getSchedule other :=
  Table.read_insert _ _ _ _ _

@[simp] theorem getTask_putPromise (txn : Txn) (promise : StoredPromise) :
    (txn.putPromise promise).getTask = txn.getTask := rfl

@[simp] theorem getSchedule_putPromise (txn : Txn) (promise : StoredPromise) :
    (txn.putPromise promise).getSchedule = txn.getSchedule := rfl

@[simp] theorem getPromise_putTask (txn : Txn) (task : StoredTask) :
    (txn.putTask task).getPromise = txn.getPromise := rfl

@[simp] theorem getSchedule_putTask (txn : Txn) (task : StoredTask) :
    (txn.putTask task).getSchedule = txn.getSchedule := rfl

@[simp] theorem getPromise_putSchedule (txn : Txn) (schedule : ScheduleRecord) :
    (txn.putSchedule schedule).getPromise = txn.getPromise := rfl

@[simp] theorem getTask_putSchedule (txn : Txn) (schedule : ScheduleRecord) :
    (txn.putSchedule schedule).getTask = txn.getTask := rfl

@[simp] theorem getPromise_deleteSchedule (txn : Txn) (id : String) :
    (txn.deleteSchedule id).getPromise = txn.getPromise := rfl

@[simp] theorem getTask_deleteSchedule (txn : Txn) (id : String) :
    (txn.deleteSchedule id).getTask = txn.getTask := rfl

@[simp] theorem getPromise_indexBranch (txn : Txn) (promise : PromiseRecord) :
    (txn.indexBranch promise).getPromise = txn.getPromise := by
  unfold indexBranch
  split <;> rfl

@[simp] theorem getTask_indexBranch (txn : Txn) (promise : PromiseRecord) :
    (txn.indexBranch promise).getTask = txn.getTask := by
  unfold indexBranch
  split <;> rfl

@[simp] theorem getSchedule_indexBranch (txn : Txn) (promise : PromiseRecord) :
    (txn.indexBranch promise).getSchedule = txn.getSchedule := by
  unfold indexBranch
  split <;> rfl

@[simp] theorem getPromise_enqueue (txn : Txn)
    (request : LeaseQueue.EnqueueRequest Payload) :
    (txn.enqueue request).getPromise = txn.getPromise := rfl

@[simp] theorem getTask_enqueue (txn : Txn) (request : LeaseQueue.EnqueueRequest Payload) :
    (txn.enqueue request).getTask = txn.getTask := rfl

@[simp] theorem getSchedule_enqueue (txn : Txn)
    (request : LeaseQueue.EnqueueRequest Payload) :
    (txn.enqueue request).getSchedule = txn.getSchedule := rfl

@[simp] theorem getPromise_follow (txn : Txn) (after : After) :
    (txn.follow after).getPromise = txn.getPromise := rfl

@[simp] theorem getTask_follow (txn : Txn) (after : After) :
    (txn.follow after).getTask = txn.getTask := rfl

@[simp] theorem getSchedule_follow (txn : Txn) (after : After) :
    (txn.follow after).getSchedule = txn.getSchedule := rfl

@[simp] theorem getPromise_dispatch (env : Env) (txn : Txn) (task : StoredTask)
    (runAt : Option Int) :
    (txn.dispatch env task runAt).1.getPromise = txn.getPromise := rfl

@[simp] theorem getSchedule_dispatch (env : Env) (txn : Txn) (task : StoredTask)
    (runAt : Option Int) :
    (txn.dispatch env task runAt).1.getSchedule = txn.getSchedule := rfl

@[simp] theorem getTask_dispatch (env : Env) (txn : Txn) (task : StoredTask)
    (runAt : Option Int) (id : String) :
    (txn.dispatch env task runAt).1.getTask id =
      if task.id = id then some { task with job := some txn.queue.nextJob }
      else txn.getTask id :=
  Table.read_insert _ _ _ _ _

/-- Writes through which every record reads as it is stored leave the store as it is. -/
theorem kv_unchanged {kv : Kv} {writes : Writes}
    (promises : ∀ id, Table.read kv.promises writes.promises id = kv.promises[id]?)
    (tasks : ∀ id, Table.read kv.tasks writes.tasks id = kv.tasks[id]?)
    (schedules : ∀ id, Table.read kv.schedules writes.schedules id = kv.schedules[id]?)
    (branches : ∀ key, Table.read kv.branches writes.branches key = kv.branches[key]?) :
    kv.apply writes = kv := by
  unfold Kv.apply
  rw [Table.apply_unchanged promises, Table.apply_unchanged tasks,
    Table.apply_unchanged schedules, Table.apply_unchanged branches]

/-- Every stored record lies under its own id. -/
structure Keyed (txn : Txn) : Prop where
  promise : ∀ id promise, txn.getPromise id = some promise → promise.record.id = id
  task : ∀ id task, txn.getTask id = some task → task.id = id
  schedule : ∀ id schedule, txn.getSchedule id = some schedule → schedule.id = id

/-- `later` differs from `earlier` by buffered writes, enqueued jobs, work after the commit
and job ids handed out only: the store, the claims and the time are the same. -/
structure Buffers (earlier later : Txn) : Prop where
  kv : later.kv = earlier.kv
  held : later.held = earlier.held
  now : later.now = earlier.now
  preloadLimit : later.preloadLimit = earlier.preloadLimit
  jobs : later.queue.jobs = earlier.queue.jobs
  nextToken : later.queue.nextToken = earlier.queue.nextToken
  clock : later.queue.clock = earlier.queue.clock
  nextJob : earlier.queue.nextJob ≤ later.queue.nextJob

theorem Buffers.refl (txn : Txn) : Buffers txn txn :=
  ⟨rfl, rfl, rfl, rfl, rfl, rfl, rfl, Nat.le_refl _⟩

theorem Buffers.trans {first second third : Txn} (left : Buffers first second)
    (right : Buffers second third) : Buffers first third :=
  ⟨right.kv.trans left.kv, right.held.trans left.held, right.now.trans left.now,
    right.preloadLimit.trans left.preloadLimit, right.jobs.trans left.jobs,
    right.nextToken.trans left.nextToken, right.clock.trans left.clock,
    Nat.le_trans left.nextJob right.nextJob⟩

theorem putPromise_buffers (txn : Txn) (promise : StoredPromise) :
    Buffers txn (txn.putPromise promise) :=
  ⟨rfl, rfl, rfl, rfl, rfl, rfl, rfl, Nat.le_refl _⟩

theorem putTask_buffers (txn : Txn) (task : StoredTask) : Buffers txn (txn.putTask task) :=
  ⟨rfl, rfl, rfl, rfl, rfl, rfl, rfl, Nat.le_refl _⟩

theorem putSchedule_buffers (txn : Txn) (schedule : ScheduleRecord) :
    Buffers txn (txn.putSchedule schedule) :=
  ⟨rfl, rfl, rfl, rfl, rfl, rfl, rfl, Nat.le_refl _⟩

theorem enqueue_buffers (txn : Txn) (request : LeaseQueue.EnqueueRequest Payload) :
    Buffers txn (txn.enqueue request) :=
  ⟨rfl, rfl, rfl, rfl, rfl, rfl, rfl, Nat.le_refl _⟩

theorem follow_buffers (txn : Txn) (after : After) : Buffers txn (txn.follow after) :=
  ⟨rfl, rfl, rfl, rfl, rfl, rfl, rfl, Nat.le_refl _⟩

theorem indexBranch_buffers (txn : Txn) (promise : PromiseRecord) :
    Buffers txn (txn.indexBranch promise) := by
  unfold indexBranch
  split
  · exact ⟨rfl, rfl, rfl, rfl, rfl, rfl, rfl, Nat.le_refl _⟩
  · exact .refl txn

theorem dispatch_buffers (env : Env) (txn : Txn) (task : StoredTask) (runAt : Option Int) :
    Buffers txn (txn.dispatch env task runAt).1 :=
  ⟨rfl, rfl, rfl, rfl, rfl, rfl, rfl, Nat.le_succ _⟩

theorem claimAfterCommit_buffers (txn : Txn) (task : StoredTask) (lease : Nat) :
    Buffers txn (txn.claimAfterCommit task lease) := by
  unfold claimAfterCommit
  split
  · exact follow_buffers _ _
  · exact .refl txn

/-- A fold of steps that only buffer only buffers. -/
theorem foldl_buffers {α : Type} (advance : Txn → α → Txn)
    (each : ∀ txn item, Buffers txn (advance txn item)) (items : List α) (txn : Txn) :
    Buffers txn (items.foldl advance txn) := by
  induction items generalizing txn with
  | nil => exact .refl txn
  | cons item rest ih => exact (each txn item).trans (ih (advance txn item))

end Txn

end Resonate
