import Resonate.Registrations

set_option autoImplicit false

/-! The fields of a task agree with its state in every reachable state. -/

namespace Resonate

open Kernel

/-- The holder, version, job and resumes of a task are those its state allows. -/
structure StoredTask.Consistent (task : StoredTask) : Prop where
  pid : task.pid.isSome = true ↔ task.state = .acquired
  ttl : task.ttl.isSome = true ↔ task.state = .acquired
  counted : 0 ≤ task.version
  version : task.state = .acquired ∨ task.state = .suspended → 1 ≤ task.version
  job : task.state = .pending ∨ task.state = .acquired ∨ task.state = .suspended →
    task.job.isSome = true
  resumes : task.state = .suspended ∨ task.state = .fulfilled → task.resumes = ∅

/-- A promise that can be awaited, has settled, and can have woken the task of `id`. -/
def Views.Observed (views : Views) (id awaited : String) : Prop :=
  awaited ≠ id ∧ originOf awaited = originOf id ∧
    ∃ promise, views.promise awaited = some promise ∧ promise.record.isPending = false ∧
      promise.record.isExternal = true

namespace StoredTask

variable {task : StoredTask}

theorem Consistent.resumed (consistent : task.Consistent) (awaited : String) (wake : Wake)
    (job : Nat) : (task.resumed awaited wake job).Consistent := by
  obtain ⟨pid, ttl, counted, version, recorded, resumes⟩ := consistent
  cases state : task.state with
  | pending =>
      simp only [StoredTask.resumed, state]
      constructor <;> simp_all
  | acquired =>
      simp only [StoredTask.resumed, state]
      constructor <;> simp_all
  | suspended =>
      simp only [StoredTask.resumed, state]
      constructor <;> simp_all [transition]
  | halted =>
      simp only [StoredTask.resumed, state]
      split
      · constructor <;> simp_all
      · constructor <;> simp_all
  | fulfilled =>
      simp only [StoredTask.resumed, state]
      constructor <;> simp_all

theorem Consistent.fulfilled (consistent : task.Consistent) : task.fulfilled.Consistent := by
  unfold StoredTask.fulfilled
  split
  · constructor <;> simp [transition, consistent.counted]
  · exact consistent

theorem mem_resumed_cases {awaited other : String} {wake : Wake} {job : Nat}
    (member : other ∈ (task.resumed awaited wake job).resumes) :
    other = awaited ∨ other ∈ task.resumes := by
  cases state : task.state with
  | pending => simpa [resumed, state] using member
  | acquired => simpa [resumed, state] using member
  | suspended =>
      simp only [resumed, state, Finset.mem_singleton] at member
      exact .inl member
  | halted =>
      simp only [resumed, state] at member
      split at member
      · simpa using member
      · exact .inr member
  | fulfilled =>
      simp only [resumed, state] at member
      exact .inr member

theorem mem_fulfilled {other : String} (member : other ∈ task.fulfilled.resumes) :
    other ∈ task.resumes := by
  unfold fulfilled at member
  split at member
  · simp at member
  · exact member

end StoredTask

theorem createdTask_consistent (promise : PromiseRecord) (target : String) (mode : CreateMode)
    (now : Int) (job : Nat) : (createdTask promise target mode now job).Consistent := by
  unfold createdTask
  dsimp only
  split
  · constructor <;> simp [StoredTask.new]
  · cases mode with
    | acquire pid ttl => constructor <;> simp [StoredTask.new]
    | dispatch => constructor <;> simp [StoredTask.new]

theorem createdTask_resumes (promise : PromiseRecord) (target : String) (mode : CreateMode)
    (now : Int) (job : Nat) : (createdTask promise target mode now job).resumes = ∅ := by
  unfold createdTask
  dsimp only
  split
  · rfl
  · cases mode <;> rfl

namespace TaskMove

variable {label : Label} {before after : StoredTask}

/-- A move of a task whose continuation records a job keeps its fields consistent. -/
theorem consistent (move : TaskMove label before after) (consistent : before.Consistent)
    (recorded : before.state = .halted → after.state = .pending → after.job.isSome = true) :
    after.Consistent := by
  obtain ⟨pid, ttl, counted, version, job, resumes⟩ := consistent
  cases move with
  | acquire task pid ttl pending =>
      constructor <;> simp_all [acquiredTask]
      omega
  | release task acquired => constructor <;> simp_all [StoredTask.transition]
  | lose task acquired => constructor <;> simp_all [StoredTask.transition]
  | suspend task awaited acquired => constructor <;> simp_all [StoredTask.transition]
  | clear task acquired => constructor <;> simp_all
  | halt task unfulfilled unhalted => constructor <;> simp_all [StoredTask.transition]
  | proceed task job halted => constructor <;> simp_all [StoredTask.transition]

theorem resumes (move : TaskMove label before after) {awaited : String}
    (member : awaited ∈ after.resumes) : awaited ∈ before.resumes := by
  cases move with
  | acquire task pid ttl pending => simp [acquiredTask] at member
  | suspend task awaited acquired => simp at member
  | clear task acquired => simp at member
  | _ => exact member

end TaskMove

section

variable {env : Env} {now : Int} {id : String} {label : Label} {before after : Cell}

/-- Every change keeps the fields of its task consistent, if a continued task records a job. -/
theorem Change.consistent (change : Change env now id label before after)
    (consistent : ∀ task, before.task = some task → task.Consistent)
    (recorded : ∀ old new, TaskMove label old new → old.id = id → after.task = some new →
      old.state = .halted → new.job.isSome = true) :
    ∀ task, after.task = some task → task.Consistent := by
  intro task found
  cases change with
  | settled label promise final old settles own pending timely =>
      obtain ⟨earlier, stored, rfl⟩ := Option.map_eq_some_iff.mp found
      exact (consistent earlier stored).fulfilled
  | woken label promise final awaiter old job settles other listed pending early =>
      obtain ⟨earlier, stored, rfl⟩ := Option.map_eq_some_iff.mp found
      exact (consistent earlier stored).resumed _ _ _
  | spared label promise final cell settles other asleep => exact consistent task found
  | created data createdAt mode old job own =>
      rcases Option.or_eq_some_iff.mp found with made | ⟨_, kept⟩
      · obtain ⟨target, _, rfl⟩ := Option.map_eq_some_iff.mp made
        exact createdTask_consistent _ target mode now job
      · exact consistent task kept
  | registered awaited awaiter old own pending external valid unlisted =>
      exact consistent task found
  | listened awaited address old own pending external unlisted => exact consistent task found
  | resumed awaited awaiter old job pending early =>
      obtain ⟨earlier, stored, rfl⟩ := Option.map_eq_some_iff.mp found
      exact (consistent earlier stored).resumed _ _ _
  | moved label promise old new own move =>
      cases found
      apply move.consistent (consistent old rfl)
      intro halted pending
      exact recorded old task move own rfl halted
  | same label cell unsettling apart => exact consistent task found

/-- Where a resume of a task comes from: it was there, its promise settles, or it had settled when
the task registered. -/
theorem Change.resumes (change : Change env now id label before after) {task : StoredTask}
    (found : after.task = some task) {awaited : String} (member : awaited ∈ task.resumes) :
    (∃ old, before.task = some old ∧ awaited ∈ old.resumes) ∨
    (∃ promise final, label.settles now = some (promise, final) ∧ promise.record.id = awaited ∧
      id ∈ promise.callbacks) ∨
    ∃ promise, label = .resume promise id ∧ promise.record.id = awaited := by
  cases change with
  | settled label promise final old settles own pending timely =>
      obtain ⟨earlier, stored, rfl⟩ := Option.map_eq_some_iff.mp found
      exact .inl ⟨earlier, stored, StoredTask.mem_fulfilled member⟩
  | woken label promise final awaiter old job settles other listed pending early =>
      obtain ⟨earlier, stored, rfl⟩ := Option.map_eq_some_iff.mp found
      rcases StoredTask.mem_resumed_cases member with same | kept
      · exact .inr (.inl ⟨promise, final, settles, same.symm, listed⟩)
      · exact .inl ⟨earlier, stored, kept⟩
  | spared label promise final cell settles other asleep => exact .inl ⟨task, found, member⟩
  | created data createdAt mode old job own =>
      rcases Option.or_eq_some_iff.mp found with made | ⟨_, kept⟩
      · obtain ⟨target, _, rfl⟩ := Option.map_eq_some_iff.mp made
        simp [createdTask_resumes] at member
      · exact .inl ⟨task, kept, member⟩
  | registered promise awaiter old own pending external valid unlisted =>
      exact .inl ⟨task, found, member⟩
  | listened promise address old own pending external unlisted => exact .inl ⟨task, found, member⟩
  | resumed promise awaiter old job pending early =>
      obtain ⟨earlier, stored, rfl⟩ := Option.map_eq_some_iff.mp found
      rcases StoredTask.mem_resumed_cases member with same | kept
      · exact .inr (.inr ⟨promise, rfl, same.symm⟩)
      · exact .inl ⟨earlier, stored, kept⟩
  | moved label promise old new own move =>
      cases found
      exact .inl ⟨old, rfl, move.resumes member⟩
  | same label cell unsettling apart => exact .inl ⟨task, found, member⟩

end

/-! ## Moves -/

section

variable {env : Env} {txn next : Txn} {label : Label} {system : System}

theorem proceed_recorded (task new : StoredTask)
    (found : (Kernel.proceed env txn task).getTask task.id = some new) :
    new.job.isSome = true := by
  unfold Kernel.proceed at found
  dsimp only at found
  split at found
  · rename_i exists_
    rw [Txn.getTask_putTask] at found
    change (if task.id = task.id then _ else _) = some new at found
    rw [if_pos rfl] at found
    cases found
    obtain ⟨job, recorded, _⟩ := (Option.any_eq_true _ _).mp exists_
    rw [recorded]
    rfl
  · rw [Txn.getTask_dispatch] at found
    change (if task.id = task.id then _ else _) = some new at found
    rw [if_pos rfl] at found
    cases found
    rfl

/-- A continued task records a job. -/
theorem Move.recorded (move : Move env txn label next) {old new : StoredTask}
    (moved : TaskMove label old new) (found : next.getTask old.id = some new)
    (halted : old.state = .halted) : new.job.isSome = true := by
  cases moved with
  | acquire task pid ttl pending => simp [pending] at halted
  | release task acquired => simp [acquired] at halted
  | lose task acquired => simp [acquired] at halted
  | suspend task awaited acquired => simp [acquired] at halted
  | clear task acquired => simp [acquired] at halted
  | halt task unfulfilled unhalted => exact absurd halted unhalted
  | proceed task job _ =>
      cases move with
      | proceed task stored _ => exact proceed_recorded old _ found

/-- A settlement replaces its promise. -/
theorem Move.settled (move : Move env txn label next) {promise final : StoredPromise}
    (settles : label.settles txn.now = some (promise, final)) :
    txn.getPromise promise.record.id = some promise ∧
      next.getPromise promise.record.id = some final.cleared := by
  cases move with
  | expire old stored pending due =>
      cases settles
      refine ⟨stored, ?_⟩
      rw [expirePromise_eq, getPromise_settleChain]
      exact if_pos rfl
  | strike old stored pending =>
      cases settles
      refine ⟨stored, ?_⟩
      rw [expirePromise_eq, getPromise_settleChain]
      exact if_pos rfl
  | settle old state value stored pending early =>
      cases settles
      refine ⟨stored, ?_⟩
      rw [settle_eq, getPromise_settleChain]
      exact if_pos rfl
  | _ => cases settles

/-- A promise that a task has observed stays settled. -/
theorem Move.observed (move : Move env txn label next) (keyed : txn.Keyed) {id awaited : String}
    (observed : txn.views.Observed id awaited) : next.views.Observed id awaited := by
  obtain ⟨differ, origin, promise, found, settled, external⟩ := observed
  obtain ⟨later, stored, persists⟩ := (move.change keyed awaited).promise.persists promise found
  have same := persists.settled settled
  refine ⟨differ, origin, later, stored, ?_, ?_⟩
  · rw [same]
    exact settled
  · rw [same]
    exact external

/-- The fields of every task agree with its state, and its resumes with the promises stored. -/
structure Views.Consistent (views : Views) : Prop where
  task : ∀ id task, views.task id = some task → task.Consistent
  resumes : ∀ id task, views.task id = some task → ∀ awaited ∈ task.resumes,
    views.Observed id awaited

theorem isExternal_of_tags {first second : PromiseRecord} (same : second.tags = first.tags) :
    second.isExternal = first.isExternal := by
  unfold PromiseRecord.isExternal PromiseRecord.target PromiseRecord.isTimer
  rw [same]

theorem Move.consistent (move : Move env txn label next) (keyed : txn.Keyed)
    (registered : txn.views.Registered) (consistent : txn.views.Consistent) :
    next.views.Consistent := by
  constructor
  · intro id task found
    apply (move.change keyed id).consistent (consistent.task id) ?_ task found
    intro old new moved own stored halted
    subst own
    exact move.recorded moved stored halted
  · intro id task found awaited member
    rcases (move.change keyed id).resumes found member with
      ⟨old, stored, kept⟩ | ⟨promise, final, settles, rfl, listed⟩ | ⟨promise, rfl, rfl⟩
    · apply move.observed keyed
      exact consistent.resumes id old stored awaited kept
    · obtain ⟨stored, replaced⟩ := move.settled settles
      obtain ⟨settled, _, tags, _⟩ := Label.settles_final settles
      have enlisted : promise.Enlisted := registered.enlisted _ promise stored
      refine ⟨(enlisted.apart id listed).symm, (enlisted.origin id listed).symm, final.cleared,
        replaced, settled, ?_⟩
      change final.record.isExternal = true
      rw [isExternal_of_tags tags]
      exact (enlisted.awaited listed).2
    · cases move with
      | resume awaited awaiter stored settled external valid opened =>
          obtain ⟨differ, origin⟩ := validateCallback_valid valid
          have resumes : Move env txn (.resume promise id)
              (resumeAwaiter env txn id promise.record.id .registration) :=
            .resume promise id stored settled external valid opened
          apply resumes.observed keyed
          exact ⟨differ.symm, origin.symm, promise, stored, settled, external⟩

theorem Reachable.consistent (reached : Reachable env system) : system.views.Consistent := by
  have both : system.views.Registered ∧ system.views.Consistent := by
    apply Reachable.records_invariant (fun views => views.Registered ∧ views.Consistent) reached
    · constructor
      · constructor
        · intro id promise found
          cases found
        · intro id promise found
          cases found
      · constructor
        · intro id task found
          cases found
        · intro id task found
          cases found
    · intro txn label next keyed coupled move holds
      exact ⟨move.registered keyed coupled holds.1, move.consistent keyed holds.1 holds.2⟩
  exact both.2

/-- Task records are consistent with their state, and every resume names another settled promise of
the task's origin that it could await. -/
theorem task_records_consistent (reached : Reachable env system) (id : String) (task : StoredTask)
    (stored : system.task id = some task) :
    (task.pid.isSome = true ↔ task.state = .acquired) ∧
    (task.ttl.isSome = true ↔ task.state = .acquired) ∧
    (task.state = .acquired ∨ task.state = .suspended → 1 ≤ task.version) ∧
    (task.state = .pending ∨ task.state = .acquired ∨ task.state = .suspended →
      task.job.isSome = true) ∧
    (task.state = .suspended ∨ task.state = .fulfilled → task.resumes = ∅) ∧
    ∀ awaited ∈ task.resumes, awaited ≠ id ∧ originOf awaited = originOf id ∧
      ∃ promise, system.promise awaited = some promise ∧ promise.record.isPending = false ∧
        promise.record.isExternal = true := by
  have consistent : system.views.Consistent := Reachable.consistent reached
  obtain ⟨pid, ttl, _, version, job, resumes⟩ := consistent.task id task stored
  refine ⟨pid, ttl, version, job, resumes, ?_⟩
  intro awaited member
  exact consistent.resumes id task stored awaited member

end

/-- A pending task that has not yet observed the promise it awaited. -/
def wokenRun : List Event :=
  [.request (.promiseCreate .sample) true,
    .request (.promiseCreate .awaitedSample) true,
    .request (.promiseRegisterCallback ⟨"root:0", "root"⟩) true,
    .request (.promiseSettle ⟨"root:0", .resolved, {}⟩) true]

theorem wokenRun_ends : (Machine.run (step .sample) .empty wokenRun).isSome = true := by
  decide

def woken : System := (Machine.run (step .sample) .empty wokenRun).get wokenRun_ends

theorem woken_reachable : Reachable .sample woken :=
  Machine.reachable_of_run (Option.some_get wokenRun_ends).symm

theorem task_records_consistent_woken :
    ∃ task, woken.task "root" = some task ∧ task.state = .pending ∧ task.resumes = {"root:0"} ∧
      task.job.isSome = true ∧ ∃ promise, woken.promise "root:0" = some promise ∧
        promise.record.isPending = false := by
  have stored : (woken.task "root").any (fun task =>
      task.state = .pending ∧ task.resumes = {"root:0"}) = true := by
    decide
  obtain ⟨task, found, both⟩ := (Option.any_eq_true _ _).mp stored
  obtain ⟨state, resumes⟩ := of_decide_eq_true both
  obtain ⟨_, _, _, job, _, observed⟩ := task_records_consistent woken_reachable "root" task found
  obtain ⟨_, _, promise, present, settled, _⟩ := observed "root:0" (by simp [resumes])
  exact ⟨task, found, state, resumes, job (.inl state), promise, present, settled⟩

end Resonate
