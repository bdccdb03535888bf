import Resonate.Outcomes

set_option autoImplicit false

/-! What a move does to one id: its promise and its task. -/

namespace Resonate

open Kernel

/-- The records under one id. -/
@[ext] structure Cell where
  promise : Option StoredPromise
  task : Option StoredTask

/-- Whether a promise of the cell is pending and not past its deadline. -/
def Cell.isOpen (cell : Cell) (now : Int) : Bool :=
  cell.promise.any fun promise =>
    promise.record.isPending && decide (now < promise.record.timeoutAt)

def Txn.cell (txn : Txn) (id : String) : Cell := ⟨txn.getPromise id, txn.getTask id⟩

/-- The promise a move settles and what it becomes, its registrations apart. -/
def Label.settles (now : Int) : Label → Option (StoredPromise × StoredPromise)
  | .expire promise => some (promise, expiredPromise promise)
  | .strike promise => some (promise, expiredPromise promise)
  | .settle promise state value => some (promise, settledPromise promise state value now)
  | _ => none

/-- A deadline is applied when it has passed and a client settles before it. -/
def Label.Timely (now : Int) : Label → Prop
  | .expire promise => promise.record.timeoutAt ≤ now
  | .settle promise _ _ => now < promise.record.timeoutAt
  | _ => True

/-- The id whose records a move that settles nothing can change. -/
def Label.subject : Label → Option String
  | .create data _ _ => some data.id
  | .register awaited _ => some awaited.record.id
  | .listen awaited _ => some awaited.record.id
  | .resume _ awaiter => some awaiter
  | .acquire task _ _ => some task.id
  | .release task => some task.id
  | .lose task => some task.id
  | .suspend task _ => some task.id
  | .clear task => some task.id
  | .halt task => some task.id
  | .proceed task => some task.id
  | _ => none

/-- The moves of one task by its holder and by clients. -/
inductive TaskMove : Label → StoredTask → StoredTask → Prop
  | acquire (task : StoredTask) (pid : String) (ttl : Int) (pending : task.state = .pending) :
      TaskMove (.acquire task pid ttl) task (acquiredTask task pid ttl)
  | release (task : StoredTask) (acquired : task.state = .acquired) :
      TaskMove (.release task) task (task.transition .pending)
  | lose (task : StoredTask) (acquired : task.state = .acquired) :
      TaskMove (.lose task) task (task.transition .pending)
  | suspend (task : StoredTask) (awaited : List String) (acquired : task.state = .acquired) :
      TaskMove (.suspend task awaited) task { task.transition .suspended with resumes := ∅ }
  | clear (task : StoredTask) (acquired : task.state = .acquired) :
      TaskMove (.clear task) task { task with resumes := ∅ }
  | halt (task : StoredTask) (unfulfilled : task.state ≠ .fulfilled)
      (unhalted : task.state ≠ .halted) : TaskMove (.halt task) task (task.transition .halted)
  | proceed (task : StoredTask) (job : Option Nat) (halted : task.state = .halted) :
      TaskMove (.proceed task) task { task.transition .pending with job }

/-- What a move made at `now` does to the cell of `id`. -/
inductive Change (env : Env) (now : Int) (id : String) : Label → Cell → Cell → Prop
  | settled (label : Label) (promise final : StoredPromise) (task : Option StoredTask)
      (settles : label.settles now = some (promise, final)) (own : promise.record.id = id)
      (pending : promise.record.isPending = true) (timely : label.Timely now) :
      Change env now id label ⟨some promise, task⟩
        ⟨some final.cleared, task.map StoredTask.fulfilled⟩
  | woken (label : Label) (promise final awaiter : StoredPromise) (task : Option StoredTask)
      (job : Nat) (settles : label.settles now = some (promise, final))
      (other : promise.record.id ≠ id) (listed : id ∈ promise.callbacks)
      (pending : awaiter.record.isPending = true) (early : now < awaiter.record.timeoutAt) :
      Change env now id label ⟨some awaiter, task⟩
        ⟨some awaiter, task.map (StoredTask.resumed promise.record.id .fanout job)⟩
  | spared (label : Label) (promise final : StoredPromise) (cell : Cell)
      (settles : label.settles now = some (promise, final)) (other : promise.record.id ≠ id)
      (asleep : ¬ (id ∈ promise.callbacks ∧ cell.isOpen now = true)) :
      Change env now id label cell cell
  | created (data : PromiseCreateData) (createdAt : Option Int) (mode : CreateMode)
      (task : Option StoredTask) (job : Nat) (own : data.id = id) :
      Change env now id (.create data createdAt mode) ⟨none, task⟩
        ⟨some (newPromise data createdAt now),
          (data.tags[tagTarget]?.map fun target =>
            createdTask (newPromise data createdAt now).record target mode now job).or task⟩
  | registered (awaited : StoredPromise) (awaiter : String) (task : Option StoredTask)
      (own : awaited.record.id = id) (pending : awaited.record.isPending = true)
      (external : awaited.record.isExternal = true)
      (valid : validateCallback id awaiter = none) (unlisted : awaiter ∉ awaited.callbacks) :
      Change env now id (.register awaited awaiter) ⟨some awaited, task⟩
        ⟨some { awaited with callbacks := awaited.callbacks ++ [awaiter] }, task⟩
  | listened (awaited : StoredPromise) (address : String) (task : Option StoredTask)
      (own : awaited.record.id = id) (pending : awaited.record.isPending = true)
      (external : awaited.record.isExternal = true) (unlisted : address ∉ awaited.listeners) :
      Change env now id (.listen awaited address) ⟨some awaited, task⟩
        ⟨some { awaited with listeners := awaited.listeners ++ [address] }, task⟩
  | resumed (awaited awaiter : StoredPromise) (task : Option StoredTask) (job : Nat)
      (pending : awaiter.record.isPending = true) (early : now < awaiter.record.timeoutAt) :
      Change env now id (.resume awaited id) ⟨some awaiter, task⟩
        ⟨some awaiter, task.map (StoredTask.resumed awaited.record.id .registration job)⟩
  | moved (label : Label) (promise : Option StoredPromise) (before after : StoredTask)
      (own : before.id = id) (move : TaskMove label before after) :
      Change env now id label ⟨promise, some before⟩ ⟨promise, some after⟩
  | same (label : Label) (cell : Cell) (unsettling : label.settles now = none)
      (apart : label.subject ≠ some id) : Change env now id label cell cell

section

variable {env : Env} {txn : Txn}

theorem cell_isOpen (id : String) : (txn.cell id).isOpen txn.now = txn.isOpen id := rfl

/-- A settlement reaches the promise's cell and those of the awaiters it wakes. -/
theorem settleChain_change (keyed : txn.Keyed) (label : Label) (promise final : StoredPromise)
    (settles : label.settles txn.now = some (promise, final))
    (stored : txn.getPromise promise.record.id = some promise)
    (pending : promise.record.isPending = true) (timely : label.Timely txn.now)
    (settled : final.record.isPending = false) (sameId : final.record.id = promise.record.id)
    (sameCallbacks : final.callbacks = promise.callbacks) (id : String) :
    Change env txn.now id label (txn.cell id) ((settleChain env txn final).1.cell id) := by
  obtain ⟨job, _, task, _⟩ := settleChain_task env keyed final settled id
  rw [sameId, sameCallbacks] at task
  have promised := getPromise_settleChain env txn final id
  rw [sameId] at promised
  unfold Txn.cell
  by_cases own : promise.record.id = id
  · rw [if_pos own] at promised task
    rw [promised, task, ← own, stored]
    exact .settled label promise final _ settles rfl pending timely
  · rw [if_neg own] at promised task
    rw [promised]
    by_cases waking : id ∈ promise.callbacks ∧ txn.isOpen id = true
    · rw [if_pos waking] at task
      rw [task]
      obtain ⟨awaiter, awaiting, awaiterPending, early⟩ := (txn.isOpen_iff id).mp waking.2
      rw [awaiting]
      exact .woken label promise final awaiter _ job settles own waking.1 awaiterPending early
    · rw [if_neg waking] at task
      rw [task]
      exact .spared label promise final _ settles own waking

theorem putPromise_change {label : Label} (before after : StoredPromise)
    (stored : txn.getPromise before.record.id = some before)
    (sameId : after.record.id = before.record.id)
    (unsettling : label.settles txn.now = none) (subject : label.subject = some before.record.id)
    (own : ∀ task, Change env txn.now before.record.id label ⟨some before, task⟩ ⟨some after, task⟩)
    (id : String) :
    Change env txn.now id label (txn.cell id) ((txn.putPromise after).cell id) := by
  unfold Txn.cell
  rw [Txn.getPromise_putPromise, Txn.getTask_putPromise, sameId]
  by_cases self : before.record.id = id
  · subst self
    rw [if_pos rfl, stored]
    exact own _
  · rw [if_neg self]
    exact .same label _ unsettling fun found => self (Option.some.inj (subject.symm.trans found))

/-- A move that writes one task reaches that task only. -/
theorem putTask_change {label : Label} {next : Txn} (before after : StoredTask)
    (stored : txn.getTask before.id = some before)
    (promises : next.getPromise = txn.getPromise)
    (tasks : ∀ id, next.getTask id = if before.id = id then some after else txn.getTask id)
    (unsettling : label.settles txn.now = none) (subject : label.subject = some before.id)
    (move : TaskMove label before after) (id : String) :
    Change env txn.now id label (txn.cell id) (next.cell id) := by
  unfold Txn.cell
  rw [promises, tasks id]
  by_cases self : before.id = id
  · subst self
    rw [if_pos rfl, stored]
    exact .moved label _ before after rfl move
  · rw [if_neg self]
    exact .same label _ unsettling fun found => self (Option.some.inj (subject.symm.trans found))

theorem views_change {label : Label} {next : Txn} (promises : next.getPromise = txn.getPromise)
    (tasks : next.getTask = txn.getTask) (unsettling : label.settles txn.now = none)
    (apart : label.subject = none) (id : String) :
    Change env txn.now id label (txn.cell id) (next.cell id) := by
  unfold Txn.cell
  rw [promises, tasks]
  refine .same label _ unsettling ?_
  rw [apart]
  exact nofun

theorem getTask_proceed (env : Env) (txn : Txn) (task : StoredTask) :
    ∃ job, ∀ id, (Kernel.proceed env txn task).getTask id =
      if task.id = id then some { task.transition .pending with job } else txn.getTask id := by
  unfold Kernel.proceed
  dsimp only
  split
  · exact ⟨task.job, fun id => Txn.getTask_putTask _ _ _⟩
  · refine ⟨some txn.queue.nextJob, fun id => ?_⟩
    rw [Txn.getTask_dispatch, Txn.getTask_putTask]
    change (if task.id = id then _ else if task.id = id then _ else _) = _
    split
    · rfl
    · rfl

theorem getPromise_proceed (task : StoredTask) :
    (Kernel.proceed env txn task).getPromise = txn.getPromise := by
  unfold Kernel.proceed
  dsimp only
  split <;> rfl

/-- Every move changes each cell in one of the listed ways. -/
theorem Move.change {label : Label} {next : Txn} (move : Move env txn label next)
    (keyed : txn.Keyed) (id : String) :
    Change env txn.now id label (txn.cell id) (next.cell id) := by
  cases move with
  | expire promise stored pending due =>
      exact settleChain_change keyed (.expire promise) promise _ rfl stored pending due
        (expiredPromise_settled promise) rfl rfl id
  | strike promise stored pending =>
      exact settleChain_change keyed (.strike promise) promise _ rfl stored pending trivial
        (expiredPromise_settled promise) rfl rfl id
  | settle promise state value stored pending early =>
      exact settleChain_change keyed (.settle promise state value) promise _ rfl stored pending early
        (settledPromise_settled promise state value txn.now) rfl rfl id
  | create data createdAt mode absent admitted =>
      unfold Txn.cell
      rw [getPromise_createPromise, getTask_createPromise]
      by_cases own : data.id = id
      · subst own
        rw [if_pos rfl, if_pos rfl, absent]
        exact .created data createdAt mode _ _ rfl
      · rw [if_neg own, if_neg own]
        exact .same _ _ rfl fun found => own (Option.some.inj found)
  | register awaited awaiter awaitable valid known unlisted =>
      refine putPromise_change awaited _ awaitable.stored ?_ rfl rfl ?_ id
      · rfl
      · intro task
        exact .registered awaited awaiter task rfl awaitable.pending awaitable.external valid
          unlisted
  | listen awaited address awaitable valid unlisted =>
      refine putPromise_change awaited _ awaitable.stored ?_ rfl rfl ?_ id
      · rfl
      · intro task
        exact .listened awaited address task rfl awaitable.pending awaitable.external unlisted
  | resume awaited awaiter stored settled external valid opened =>
      unfold Txn.cell
      rw [getPromise_resumeAwaiter, getTask_resumeAwaiter keyed]
      by_cases own : awaiter = id
      · subst own
        obtain ⟨awaiting, found, pending, early⟩ := (txn.isOpen_iff awaiter).mp opened
        rw [if_pos rfl, found]
        exact .resumed awaited awaiting _ _ pending early
      · rw [if_neg own]
        exact .same _ _ rfl fun found => own (Option.some.inj found)
  | acquire task pid ttl stored pending renewed =>
      have touched := Txn.renew_touches txn task.id (leaseOf ttl)
      refine putTask_change task _ stored ?_ ?_ rfl rfl (.acquire task pid ttl pending) id
      · rw [Txn.getPromise_putTask, touched.getPromise]
      · intro other
        rw [Txn.getTask_putTask, touched.getTask]
        rfl
  | release task stored acquired =>
      refine putTask_change task _ stored ?_ ?_ rfl rfl (.release task acquired) id
      · rfl
      · exact fun other => Txn.getTask_putTask _ _ _
  | lose task stored acquired =>
      refine putTask_change task _ stored ?_ ?_ rfl rfl (.lose task acquired) id
      · rfl
      · exact fun other => Txn.getTask_putTask _ _ _
  | suspend task awaited stored acquired some_awaited listed =>
      refine putTask_change task _ stored ?_ ?_ rfl rfl (.suspend task awaited acquired) id
      · rfl
      · exact fun other => Txn.getTask_putTask _ _ _
  | clear task stored acquired =>
      refine putTask_change task _ stored ?_ ?_ rfl rfl (.clear task acquired) id
      · rfl
      · exact fun other => Txn.getTask_putTask _ _ _
  | halt task stored unfulfilled unhalted =>
      refine putTask_change task _ stored ?_ ?_ rfl rfl (.halt task unfulfilled unhalted) id
      · rfl
      · exact fun other => Txn.getTask_putTask _ _ _
  | proceed task stored halted =>
      obtain ⟨job, tasks⟩ := getTask_proceed env txn task
      exact putTask_change task _ stored (getPromise_proceed task) tasks rfl rfl
        (.proceed task job halted) id
  | addSchedule schedule absent next created unfired named plain targeted timeout =>
      exact views_change rfl rfl rfl rfl id
  | advance schedule stored =>
      refine views_change ?_ ?_ rfl rfl id
      · unfold advanceSchedule
        split <;> rfl
      · unfold advanceSchedule
        split <;> rfl
  | dropSchedule id => exact views_change rfl rfl rfl rfl _
  | check task =>
      have touched := Txn.holds_touches txn task
      exact views_change touched.getPromise touched.getTask rfl rfl id
  | renew task lease =>
      have touched := Txn.renew_touches txn task lease
      exact views_change touched.getPromise touched.getTask rfl rfl id
  | claim task job lease stored pending dispatched =>
      have touched := Txn.claimJob_touches txn task.id job lease
      exact views_change touched.getPromise touched.getTask rfl rfl id
  | ack claim dead => exact views_change rfl rfl rfl rfl id
  | hold task claim executes stored pending => exact views_change rfl rfl rfl rfl id

end

end Resonate
