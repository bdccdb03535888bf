import Resonate.Fencing
import Resonate.Confluence
import Resonate.TaskRecords

set_option autoImplicit false

/-! No wake-up is lost: a task falls asleep on pending promises that list it, and the settlement
of each of them reaches it. -/

namespace Resonate

open Kernel
open LeaseQueue (Queue EnqueueRequest)

/-- The clock does not go back. -/
def Event.isForward (before : System) : Event → Bool
  | .clock time => decide (before.queue.clock ≤ time)
  | _ => true

/-- A pending promise lists `awaiter` in its callbacks. -/
def Listed (promise : Option StoredPromise) (awaiter : String) : Prop :=
  ∃ stored, promise = some stored ∧ stored.record.isPending = true ∧ awaiter ∈ stored.callbacks

/-- A pending promise lists every task that sleeps before the deadline of its own promise. -/
def Views.Wakeable (now : Int) (views : Views) : Prop :=
  ∀ id task, views.task id = some task → task.state = .suspended →
    (∀ own, views.promise id = some own → now < own.record.timeoutAt) →
    ∃ awaited, Listed (views.promise awaited) id

/-- A move of the task of `id` by its holder or by clients. -/
def Label.Spares (id : String) (label : Label) : Prop :=
  ∀ before after, TaskMove label before after → before.id ≠ id

/-- If its promise is open, the task of a cell is awake and has `awaited` among its resumes. -/
def Cell.Roused (awaited : String) (now : Int) (cell : Cell) : Prop :=
  cell.isOpen now = true →
    ∃ task, cell.task = some task ∧ task.state ≠ .suspended ∧ awaited ∈ task.resumes

section

variable {env : Env} {now : Int} {id awaited : String} {label : Label} {before after : Cell}
  {promise final : StoredPromise}

theorem StoredTask.mem_resumed_of_mem {task : StoredTask} (other : String) (wake : Wake) (job : Nat)
    (awake : task.state ≠ .suspended) (member : awaited ∈ task.resumes) :
    (task.resumed other wake job).state ≠ .suspended ∧
      awaited ∈ (task.resumed other wake job).resumes := by
  cases state : task.state with
  | suspended => exact absurd state awake
  | halted =>
      simp only [resumed, state]
      split
      · simp [member]
      · simp [member, state]
  | _ => simp [resumed, state, member]

/-- A callback stays listed until its promise settles. -/
theorem PromiseChange.listed {first second : Option StoredPromise}
    (change : PromiseChange now id label first second) {awaiter : String}
    (listed : Listed first awaiter) :
    Listed second awaiter ∨ ∃ promise final, first = some promise ∧ awaiter ∈ promise.callbacks ∧
      label.settles now = some (promise, final) ∧ promise.record.id = id := by
  obtain ⟨stored, found, pending, member⟩ := listed
  cases change with
  | kept promise => exact .inl ⟨stored, found, pending, member⟩
  | settled promise final settles own open_ timely =>
      cases found
      exact .inr ⟨stored, final, rfl, member, settles, own⟩
  | created data createdAt mode creates own => cases found
  | registered promise other registers own open_ external =>
      cases found
      exact .inl ⟨_, rfl, pending, by simp [member]⟩
  | listened promise address listens own open_ external =>
      cases found
      exact .inl ⟨_, rfl, pending, member⟩

/-- A settlement wakes the awaiters it lists whose promise is open. -/
theorem Change.wakes (change : Change env now id label before after)
    (settles : label.settles now = some (promise, final)) (apart : promise.record.id ≠ id)
    (listed : id ∈ promise.callbacks) (opened : before.isOpen now = true) :
    ∃ job, after = ⟨before.promise,
      before.task.map (StoredTask.resumed promise.record.id .fanout job)⟩ := by
  cases change with
  | settled label other final task settled own pending timely =>
      rw [settles] at settled
      cases settled
      exact absurd own apart
  | woken label other final awaiter task job settled differs member pending early =>
      rw [settles] at settled
      cases settled
      exact ⟨job, rfl⟩
  | spared label other final cell settled differs asleep =>
      rw [settles] at settled
      cases settled
      exact absurd ⟨listed, opened⟩ asleep
  | moved label promise old new own move =>
      rw [move.unsettling] at settles
      cases settles
  | same label cell unsettling other =>
      rw [unsettling] at settles
      cases settles
  | _ => cases settles

/-- A change leaves a task asleep that was asleep, unless it puts it to sleep. -/
theorem Change.asleep (change : Change env now id label before after) {task : StoredTask}
    (found : after.task = some task) (asleep : task.state = .suspended) :
    (∃ old, before.task = some old ∧ old.state = .suspended) ∨
      ∃ old awaited, label = .suspend old awaited ∧ old.id = id := by
  cases change with
  | settled label promise final old settles own pending timely =>
      obtain ⟨earlier, _, rfl⟩ := Option.map_eq_some_iff.mp found
      cases state : earlier.state <;>
        simp [StoredTask.fulfilled, state, StoredTask.transition] at asleep
  | woken label promise final awaiter old job settles other listed pending early =>
      obtain ⟨earlier, _, rfl⟩ := Option.map_eq_some_iff.mp found
      exact absurd asleep (StoredTask.resumed_ne_suspended _ _ _)
  | spared label promise final cell settles other spared => exact .inl ⟨task, found, asleep⟩
  | created data createdAt mode old job own =>
      rcases Option.or_eq_some_iff.mp found with made | ⟨_, kept⟩
      · obtain ⟨target, _, rfl⟩ := Option.map_eq_some_iff.mp made
        unfold createdTask at asleep
        dsimp only at asleep
        split at asleep
        · simp at asleep
        · cases mode <;> simp [StoredTask.new] at asleep
      · exact .inl ⟨task, kept, asleep⟩
  | registered promise awaiter old own pending external valid unlisted =>
      exact .inl ⟨task, found, asleep⟩
  | listened promise address old own pending external unlisted => exact .inl ⟨task, found, asleep⟩
  | resumed promise awaiter old job pending early =>
      obtain ⟨earlier, _, rfl⟩ := Option.map_eq_some_iff.mp found
      cases state : earlier.state <;>
        simp [StoredTask.resumed, state, StoredTask.transition] at asleep
  | moved label promise old new own move =>
      cases found
      cases move with
      | suspend task awaited acquired => exact .inr ⟨_, awaited, rfl, own⟩
      | clear task acquired => simp [acquired] at asleep
      | acquire => simp [acquiredTask] at asleep
      | _ => simp [StoredTask.transition] at asleep
  | same label cell unsettling apart => exact .inl ⟨task, found, asleep⟩

/-- A task that is roused stays so while only settlements and registrations reach it. -/
theorem Change.roused (change : Change env now id label before after) (spares : label.Spares id)
    (known : before.promise.isSome = true) (roused : before.Roused awaited now) :
    after.Roused awaited now := by
  intro opened
  have resumed (other : String) (wake : Wake) (job : Nat) {task : StoredTask}
      (awake : task.state ≠ .suspended) (member : awaited ∈ task.resumes) :
      ∃ later, (some task).map (StoredTask.resumed other wake job) = some later ∧
        later.state ≠ .suspended ∧ awaited ∈ later.resumes :=
    ⟨_, rfl, StoredTask.mem_resumed_of_mem other wake job awake member⟩
  cases change with
  | settled label promise final old settles own pending timely =>
      have closed : final.cleared.record.isPending = false := (Label.settles_final settles).1
      simp [Cell.isOpen, closed] at opened
  | woken label promise final awaiter old job settles other listed pending early =>
      obtain ⟨task, found, awake, member⟩ := roused opened
      change old = some task at found
      rw [found]
      exact resumed _ _ _ awake member
  | spared label promise final cell settles other spared => exact roused opened
  | created data createdAt mode old job own => cases known
  | registered promise awaiter old own pending external valid unlisted => exact roused opened
  | listened promise address old own pending external unlisted => exact roused opened
  | resumed promise awaiter old job pending early =>
      obtain ⟨task, found, awake, member⟩ := roused opened
      change old = some task at found
      rw [found]
      exact resumed _ _ _ awake member
  | moved label promise old new own move => exact absurd own (spares old new move)
  | same label cell unsettling apart => exact roused opened

/-- A settlement rouses the awaiters it lists. -/
theorem Change.rouses (change : Change env now id label before after) (coupled : Coupled before)
    (settles : label.settles now = some (promise, final)) (apart : promise.record.id ≠ id)
    (listed : id ∈ promise.callbacks) (tasked : before.task.isSome = true) :
    after.Roused promise.record.id now := by
  intro opened
  by_cases ready : before.isOpen now = true
  · obtain ⟨job, rfl⟩ := change.wakes settles apart listed ready
    obtain ⟨task, found⟩ := Option.isSome_iff_exists.mp tasked
    obtain ⟨own, present, pending⟩ := (Option.any_eq_true _ _).mp ready
    have live : task.state ≠ .fulfilled :=
      (coupled.pending own task present found).mp (Bool.and_eq_true_iff.mp pending).1
    refine ⟨task.resumed promise.record.id .fanout job, ?_, ?_, ?_⟩
    · simp [found]
    · exact StoredTask.resumed_ne_suspended _ _ _
    · exact StoredTask.mem_resumed _ _ _ live
  · exfalso
    cases change with
    | settled label other final task settled own pending timely =>
        rw [settles] at settled
        cases settled
        exact apart own
    | woken label other final awaiter task job settled differs member pending early =>
        exact ready opened
    | spared label other final cell settled differs asleep => exact ready opened
    | moved label promise old new own move =>
        rw [move.unsettling] at settles
        cases settles
    | same label cell unsettling other => exact ready opened
    | _ => cases settles

end

/-! ## Sleep -/

section

variable {env : Env} {txn next first last : Txn} {label : Label} {permits : Label → Prop}
  {id awaited : String} {system : System}

/-- A move keeps every sleeper listed, or wakes it. -/
theorem Move.wakeable (move : Move env txn label next) (keyed : txn.Keyed)
    (coupled : ∀ id, Coupled (txn.cell id)) (wakeable : txn.views.Wakeable txn.now) :
    next.views.Wakeable txn.now := by
  intro id task found asleep early
  rcases (move.change keyed id).asleep found asleep with
    ⟨old, stored, slept⟩ | ⟨old, awaited, rfl, own⟩
  · have ahead (own : StoredPromise) (present : txn.getPromise id = some own) :
        txn.now < own.record.timeoutAt := by
      obtain ⟨later, kept, persists⟩ := (move.change keyed id).promise.persists own present
      have same := persists.timeoutAt
      have before := early later kept
      omega
    obtain ⟨awaited, listed⟩ := wakeable id old stored slept ahead
    rcases (move.change keyed awaited).promise.listed listed with
      kept | ⟨promise, final, _, member, settles, named⟩
    · exact ⟨awaited, kept⟩
    · exfalso
      obtain ⟨own, present⟩ := (coupled id).promise_of_task stored
      have pending : own.record.isPending = true :=
        ((coupled id).pending own old present stored).mpr (by simp [slept])
      have opened : txn.isOpen id = true :=
        (txn.isOpen_iff id).mpr ⟨own, present, pending, ahead own present⟩
      by_cases self : promise.record.id = id
      · obtain ⟨_, replaced⟩ := move.settled settles
        rw [self] at replaced
        have closed : final.cleared.record.isPending = false := (Label.settles_final settles).1
        have unsettled := (((move.change keyed id).coupled (coupled id)).pending _ _ replaced
          found).mpr (by simp [asleep])
        rw [closed] at unsettled
        cases unsettled
      · obtain ⟨job, same⟩ := (move.change keyed id).wakes settles self member opened
        have woken : next.getTask id = (txn.getTask id).map
            (StoredTask.resumed promise.record.id .fanout job) := congrArg Cell.task same
        rw [show next.getTask id = some task from found,
          show txn.getTask id = some old from stored] at woken
        cases woken
        exact StoredTask.resumed_ne_suspended _ _ _ asleep
  · cases move with
    | suspend task awaited stored acquired some_awaited listed =>
        obtain ⟨first, member⟩ := List.exists_mem_of_ne_nil awaited some_awaited
        subst own
        exact ⟨first, listed first member⟩

theorem Views.Wakeable.later {views : Views} {now time : Int} (wakeable : views.Wakeable now)
    (forward : now ≤ time) : views.Wakeable time := by
  intro id task found asleep early
  apply wakeable id task found asleep
  intro own present
  have ahead := early own present
  omega

theorem History.wakeable {past : List (Machine.Entry System Event)}
    (history : History env past system)
    (forward : Machine.Meets (fun before event => event.isForward before = true) past) :
    system.views.Wakeable system.now := by
  have both : (∀ id, Coupled ⟨system.views.promise id, system.views.task id⟩) ∧
      system.views.Wakeable system.now := by
    refine History.views_invariant (fun now views =>
      (∀ id, Coupled ⟨views.promise id, views.task id⟩) ∧ views.Wakeable now) history forward
      ?_ ?_ ?_
    · refine ⟨fun _ => empty_coupled, ?_⟩
      intro id task found
      cases found
    · intro before time onward holds
      refine ⟨holds.1, holds.2.later ?_⟩
      have advances : before.queue.clock ≤ time := of_decide_eq_true onward
      unfold System.now
      omega
    · intro event txn label next keyed permitted move holds
      exact ⟨fun id => (move.change keyed id).coupled (holds.1 id),
        move.wakeable keyed holds.1 holds.2⟩
  exact both.2

/-! ## Settlements -/

theorem Trail.persists (trail : Trail env permits first last) (keyed : first.Keyed) (id : String) :
    Persists (first.getPromise id) (last.getPromise id) := by
  induction trail with
  | refl txn => exact .refl _
  | step label permitted move rest ih =>
      exact (move.change keyed id).promise.persists.trans (ih (move.keyed keyed))

/-- A promise that a trail settles is settled by one of its moves, in time. -/
theorem Trail.settler (trail : Trail env permits first last) (keyed : first.Keyed)
    {promise settled : StoredPromise} (found : first.getPromise awaited = some promise)
    (pending : promise.record.isPending = true) (left : last.getPromise awaited = some settled)
    (closed : settled.record.isPending = false) :
    ∃ label old final, permits label ∧ label.settles first.now = some (old, final) ∧
      old.record.id = awaited ∧ label.Timely first.now ∧
      old.record.timeoutAt = promise.record.timeoutAt := by
  induction trail generalizing promise with
  | refl txn =>
      rw [found] at left
      cases left
      rw [pending] at closed
      cases closed
  | step label permitted move rest ih =>
      rename_i start middle finish
      have change := (move.change keyed awaited).promise
      change PromiseChange _ _ _ (start.getPromise awaited) (middle.getPromise awaited) at change
      rw [found] at change
      have onward {later : StoredPromise} (kept : middle.getPromise awaited = some later)
          (open_ : later.record.isPending = true)
          (same : later.record.timeoutAt = promise.record.timeoutAt) :
          ∃ label old final, permits label ∧ label.settles start.now = some (old, final) ∧
            old.record.id = awaited ∧ label.Timely start.now ∧
            old.record.timeoutAt = promise.record.timeoutAt := by
        rw [← move.fixed.now, ← same]
        exact ih (move.keyed keyed) kept open_ left
      generalize reached : middle.getPromise awaited = later at change
      cases change with
      | kept same => exact onward reached pending rfl
      | settled promise final settles own open_ timely =>
          exact ⟨label, promise, final, permitted, settles, own, timely, rfl⟩
      | registered promise awaiter registers own open_ external => exact onward reached open_ rfl
      | listened promise address listens own open_ external => exact onward reached open_ rfl

/-- A trail that settles a promise rouses every awaiter it does not otherwise move. -/
theorem Trail.rouses (trail : Trail env permits first last) (keyed : first.Keyed)
    (coupled : ∀ id, Coupled (first.cell id)) (spares : ∀ label, permits label → label.Spares id)
    (targeted : first.views.Targeted id) (apart : awaited ≠ id)
    (reached : Listed (first.getPromise awaited) id ∨ (first.cell id).Roused awaited first.now)
    {settled : StoredPromise} (left : last.getPromise awaited = some settled)
    (closed : settled.record.isPending = false) : (last.cell id).Roused awaited last.now := by
  induction trail with
  | refl txn =>
      rcases reached with ⟨promise, found, pending, _⟩ | roused
      · rw [found] at left
        cases left
        rw [pending] at closed
        cases closed
      · exact roused
  | step label permitted move rest ih =>
      rename_i start middle finish
      obtain ⟨own, present, target⟩ := targeted
      have change := move.change keyed id
      apply ih (move.keyed keyed) (fun id => (move.change keyed id).coupled (coupled id))
        (move.targeted keyed ⟨own, present, target⟩) ?_ left
      rw [move.fixed.now]
      rcases reached with listed | roused
      · rcases (move.change keyed awaited).promise.listed listed with
          kept | ⟨promise, final, _, member, settles, rfl⟩
        · exact .inl kept
        · obtain ⟨task, tasked⟩ := (coupled id).task_of_target present target
          exact .inr (change.rouses (coupled id) settles apart member (by simp [tasked]))
      · refine .inr (change.roused (spares label permitted) ?_ roused)
        change (start.getPromise id).isSome = true
        rw [show start.getPromise id = some own from present]
        rfl

/-! ## Dispatches -/

/-- A task that slept when `count` of its dispatches were enqueued: none was since while it sleeps,
and one once it is pending. -/
def Txn.Recalled (id : String) (count : Nat) (txn : Txn) : Prop :=
  ∃ task, txn.getTask id = some task ∧
    (task.state = .suspended ∧ (dispatchesOf id txn.enqueues).length = count ∨
      task.state = .pending ∧ (dispatchesOf id txn.enqueues).length = count + 1 ∨
      task.state = .fulfilled ∧ (dispatchesOf id txn.enqueues).length ≤ count + 1)

theorem Txn.Recalled.same {count : Nat} (recalled : txn.Recalled id count)
    (task : next.getTask id = txn.getTask id)
    (dispatches : dispatchesOf id next.enqueues = dispatchesOf id txn.enqueues) :
    next.Recalled id count := by
  unfold Txn.Recalled
  rw [task, dispatches]
  exact recalled

/-- A wake-up dispatches the task if it slept, and not otherwise. -/
theorem Txn.Recalled.woken {count : Nat} (recalled : txn.Recalled id count) (awaited : String)
    (wake : Wake) (job : Nat)
    (task : next.getTask id = (txn.getTask id).map (StoredTask.resumed awaited wake job))
    (dispatches : dispatchesOf id next.enqueues = dispatchesOf id txn.enqueues ++
      ((txn.getTask id).map (StoredTask.redispatch env job)).getD []) :
    next.Recalled id count := by
  obtain ⟨old, found, stands⟩ := recalled
  rw [found] at task dispatches
  refine ⟨_, task, ?_⟩
  rw [dispatches]
  rcases stands with ⟨state, counted⟩ | ⟨state, counted⟩ | ⟨state, counted⟩
  · simp [StoredTask.resumed, StoredTask.redispatch, StoredTask.transition, state, counted]
  · simp [StoredTask.resumed, StoredTask.redispatch, state, counted]
  · simp [StoredTask.resumed, StoredTask.redispatch, state, counted]

theorem settleChain_recalls {count : Nat} (keyed : txn.Keyed) (recalled : txn.Recalled id count)
    (final : StoredPromise) (settled : final.record.isPending = false) :
    (settleChain env txn final).1.Recalled id count := by
  obtain ⟨job, _, task, dispatches⟩ := settleChain_task env keyed final settled id
  by_cases own : final.record.id = id
  · rw [if_pos own] at task
    rw [if_neg (fun apart => apart.1 own), List.append_nil] at dispatches
    obtain ⟨old, found, stands⟩ := recalled
    rw [found] at task
    refine ⟨_, task, .inr (.inr ⟨?_, ?_⟩)⟩
    · unfold StoredTask.fulfilled
      split
      · rfl
      · rename_i ended
        simpa using ended
    · rw [dispatches]
      omega
  · rw [if_neg own] at task
    by_cases reached : id ∈ final.callbacks ∧ txn.isOpen id = true
    · rw [if_pos reached] at task
      rw [if_pos ⟨own, reached⟩] at dispatches
      exact recalled.woken _ _ _ task dispatches
    · rw [if_neg reached] at task
      rw [if_neg (fun both => reached both.2), List.append_nil] at dispatches
      exact recalled.same task dispatches

/-- A move that leaves a task to settlements and registrations dispatches it when it wakes it. -/
theorem Move.recalled {count : Nat} (move : Move env txn label next) (keyed : txn.Keyed)
    (coupled : ∀ id, Coupled (txn.cell id)) (spares : label.Spares id)
    (recalled : txn.Recalled id count) : next.Recalled id count := by
  have other {task new : StoredTask} (move : TaskMove label task new) : ¬ task.id = id :=
    spares task new move
  cases move with
  | expire promise stored pending due =>
      exact settleChain_recalls keyed recalled _ (expiredPromise_settled promise)
  | strike promise stored pending =>
      exact settleChain_recalls keyed recalled _ (expiredPromise_settled promise)
  | settle promise state value stored pending early =>
      exact settleChain_recalls keyed recalled _
        (settledPromise_settled promise state value txn.now)
  | create data createdAt mode absent admitted =>
      have apart : ¬ data.id = id := by
        rintro rfl
        obtain ⟨task, found, _⟩ := recalled
        obtain ⟨promise, stored⟩ := (coupled data.id).promise_of_task found
        rw [show txn.getPromise data.id = some promise from stored] at absent
        cases absent
      apply recalled.same
      · rw [getTask_createPromise, if_neg apart]
      · rcases dispatches_created data createdAt mode id with same | ⟨_, _, _, reason, _⟩
        · exact same
        · exact absurd reason.1 apart
  | resume awaited awaiter stored settled external valid opened =>
      have task : (resumeAwaiter env txn awaiter awaited.record.id .registration).getTask id = _ :=
        getTask_resumeAwaiter keyed awaiter awaited.record.id .registration id
      have dispatches : dispatchesOf id
          (resumeAwaiter env txn awaiter awaited.record.id .registration).enqueues = _ :=
        dispatches_resumeAwaiter keyed awaiter awaited.record.id .registration id
      by_cases own : awaiter = id
      · rw [if_pos own] at task dispatches
        exact recalled.woken _ _ _ task dispatches
      · rw [if_neg own] at task dispatches
        exact recalled.same task (dispatches.trans (List.append_nil _))
  | acquire task pid ttl stored pending renewed =>
      have touched := Txn.renew_touches txn task.id (leaseOf ttl)
      apply recalled.same
      · rw [Txn.getTask_putTask, touched.getTask]
        exact if_neg (other (.acquire task pid ttl pending))
      · exact congrArg (dispatchesOf id) touched.enqueues
  | release task stored acquired =>
      apply recalled.same
      · exact (Txn.getTask_putTask _ _ _).trans (if_neg (other (.release task acquired)))
      · rfl
  | lose task stored acquired =>
      apply recalled.same
      · exact (Txn.getTask_putTask _ _ _).trans (if_neg (other (.lose task acquired)))
      · rfl
  | suspend task awaited stored acquired some_awaited listed =>
      apply recalled.same
      · exact (Txn.getTask_putTask _ _ _).trans (if_neg (other (.suspend task awaited acquired)))
      · rfl
  | clear task stored acquired =>
      apply recalled.same
      · exact (Txn.getTask_putTask _ _ _).trans (if_neg (other (.clear task acquired)))
      · rfl
  | halt task stored unfulfilled unhalted =>
      apply recalled.same
      · exact (Txn.getTask_putTask _ _ _).trans (if_neg (other (.halt task unfulfilled unhalted)))
      · rfl
  | proceed task stored halted =>
      have apart := other (.proceed task task.job halted)
      obtain ⟨job, tasks⟩ := getTask_proceed env txn task
      apply recalled.same
      · rw [tasks, if_neg apart]
      · rcases dispatches_proceed task halted id with same | ⟨_, _, _, reason, _⟩
        · exact same
        · exact absurd reason.1 apart
  | addSchedule schedule absent following created unfired named plain targeted timeout =>
      apply recalled.same
      · rfl
      · change dispatchesOf id (txn.enqueues ++ [_]) = _
        rw [dispatchesOf_append]
        simp [dispatchesOf, Txn.timerRequest]
  | advance schedule stored =>
      apply recalled.same
      · unfold advanceSchedule
        split <;> rfl
      · rw [enqueues_advanceSchedule, dispatchesOf_append]
        cases env.nextAfter schedule.cron schedule.nextRunAt with
        | some following => simp [dispatchesOf, Txn.timerRequest]
        | none => simp [dispatchesOf]
  | check task =>
      have touched := Txn.holds_touches txn task
      exact recalled.same (congrFun touched.getTask id) (congrArg (dispatchesOf id) touched.enqueues)
  | renew task lease =>
      have touched := Txn.renew_touches txn task lease
      exact recalled.same (congrFun touched.getTask id) (congrArg (dispatchesOf id) touched.enqueues)
  | claim task job lease stored pending dispatched =>
      have touched := Txn.claimJob_touches txn task.id job lease
      exact recalled.same (congrFun touched.getTask id) (congrArg (dispatchesOf id) touched.enqueues)
  | _ => exact recalled.same rfl rfl

theorem Trail.recalled {count : Nat} (trail : Trail env permits first last) (keyed : first.Keyed)
    (coupled : ∀ id, Coupled (first.cell id)) (spares : ∀ label, permits label → label.Spares id)
    (recalled : first.Recalled id count) : last.Recalled id count := by
  induction trail with
  | refl txn => exact recalled
  | step label permitted move rest ih =>
      apply ih (move.keyed keyed)
      · intro id
        exact (move.change keyed id).coupled (coupled id)
      · exact move.recalled keyed coupled (spares label permitted) recalled

end

/-! ## Suspensions -/

/-- What a suspend leaves: nothing, the deadlines it applied, its task awake with its resumes
cleared, or its task asleep. -/
inductive SuspendLeaves (env : Env) (txn : Txn) (data : TaskSuspendData) : Response → Prop
  | refused (reply : Reply) : SuspendLeaves env txn data (refuse txn reply)
  | failed (next : Txn) (reply : Reply) : SuspendLeaves env txn data ⟨next, .panic, reply⟩
  | timed (response : Response)
      (promise : response.txn.getPromise =
        (tryTimeout env txn (Request.taskSuspend data).named).getPromise)
      (task : response.txn.getTask = (tryTimeout env txn (Request.taskSuspend data).named).getTask)
      (enqueues : response.txn.enqueues =
        (tryTimeout env txn (Request.taskSuspend data).named).enqueues) :
      SuspendLeaves env txn data response
  | awake (next : Txn) (siblings : List PromiseRecord) (task : StoredTask)
      (promise : next.getPromise =
        (tryTimeout env txn (Request.taskSuspend data).named).getPromise)
      (stored : (tryTimeout env txn (Request.taskSuspend data).named).getTask data.id = some task)
      (acquired : task.state = .acquired)
      (cleared : next.getTask data.id = some { task with resumes := ∅ }) :
      SuspendLeaves env txn data ⟨next, .commit, .ok 300 (.preload siblings)⟩
  | asleep (next : Txn) (reply : Reply) :
      SuspendLeaves env txn data ⟨next, .commitAck data.id, reply⟩

section

variable {env : Env} {txn : Txn} {id : String}

theorem taskSuspend_leaves (keyed : txn.Keyed) (data : TaskSuspendData) :
    SuspendLeaves env txn data (taskSuspend env txn data) := by
  unfold taskSuspend
  split
  · exact .refused _
  · split
    · exact .refused _
    · rename_i awaitedIds accepted
      obtain ⟨listed, _, _⟩ := suspendIds_ok data.id data.actions [] awaitedIds accepted
      have named : data.id :: awaitedIds = (Request.taskSuspend data).named := by
        rw [listed]
        rfl
      rw [named]
      have timed := tryTimeout_keyed env (Request.taskSuspend data).named keyed
      generalize timeouts : tryTimeout env txn (Request.taskSuspend data).named = start at timed
      have applied (response : Response) (touches : Txn.Touches start response.txn) :
          SuspendLeaves env txn data response := by
        apply SuspendLeaves.timed
        · rw [timeouts, touches.getPromise]
        · rw [timeouts, touches.getTask]
        · rw [timeouts, touches.enqueues]
      dsimp only
      split
      · exact applied _ (.refl start)
      · rename_i task stored
        have own : task.id = data.id := timed.task _ _ stored
        by_cases acquired : task.isAcquiredAt data.version = true
        · rw [if_pos acquired]
          have touches := Txn.holds_touches start task.id
          generalize start.holds task.id = held at touches
          split
          · exact applied _ touches
          · split
            · exact applied _ touches
            · split
              · split
                · exact .failed _ _
                · refine .awake _ _ task ?_ ?_ (acquired_of_isAcquiredAt acquired).1 ?_
                  · rw [timeouts]
                    exact touches.getPromise
                  · rw [timeouts]
                    exact stored
                  · rw [Txn.getTask_putTask]
                    exact if_pos own
              · exact .asleep _ _
        · rw [if_neg acquired]
          exact applied _ (.refl start)

/-- Where a move settles a promise, only the suspend of a task that awaits it moves that task. -/
theorem Event.spares_of_settles {event : Event} {settling label : Label} {now : Int}
    {promise final : StoredPromise} (permitted : event.permits settling)
    (settles : settling.settles now = some (promise, final)) (apart : promise.record.id ≠ id)
    (unsuspended : ∀ data stored, event = .request (.taskSuspend data) stored → data.id = id →
      promise.record.id ∉ data.actions.map (·.data.awaited))
    (allowed : event.permits label) : label.Spares id := by
  rintro before after move rfl
  cases event with
  | request asked stored =>
      have named : promise.record.id ∈ asked.named ∨
          ∃ state value, asked.settlement = some ⟨promise.record.id, state, value⟩ := by
        cases settling with
        | expire _ =>
            cases settles
            exact .inl permitted
        | settle _ state value =>
            cases settles
            exact .inr ⟨state, value, permitted⟩
        | strike _ => exact False.elim permitted
        | _ => cases settles
      change asked.permits label at allowed
      have asleep (data : TaskSuspendData) (same : asked = .taskSuspend data)
          (own : data.id = before.id) : False := by
        subst same
        have other := unsuspended data stored rfl own
        simp [Request.named, Request.settlement, own, apart] at named
        simp [named] at other
      cases move with
      | acquire task pid ttl pending =>
          cases asked with
          | taskCreate data =>
              obtain ⟨own, _⟩ := allowed
              simp [Request.named, Request.settlement, own, apart] at named
          | taskAcquire data =>
              have same : data = ⟨before.id, before.version, pid, ttl⟩ := allowed
              simp [Request.named, Request.settlement, same, apart] at named
          | _ => exact allowed
      | release task acquired =>
          have same : asked = .taskRelease ⟨before.id, before.version⟩ := allowed
          simp [same, Request.named, Request.settlement, apart] at named
      | lose task acquired => exact allowed
      | suspend task awaited acquired =>
          obtain ⟨data, same, own, _⟩ := allowed
          exact asleep data same own
      | clear task acquired =>
          obtain ⟨data, same, own, _⟩ := allowed
          exact asleep data same own
      | halt task unfulfilled unhalted =>
          have same : asked = .taskHalt before.id := allowed
          simp [same, Request.named, Request.settlement, apart] at named
      | proceed task job halted =>
          have same : asked = .taskContinue before.id := allowed
          simp [same, Request.named, Request.settlement, apart] at named
  | deliver claim stored =>
      cases settling with
      | expire _ =>
          cases settles
          have settled : claim.payload = .execute promise.record.id := permitted
          cases move with
          | lose task acquired =>
              have own : claim.payload = .execute before.id := allowed
              rw [settled] at own
              exact apart (Payload.execute.inj own)
          | _ => exact allowed
      | settle _ _ _ => exact permitted
      | strike _ => exact permitted
      | _ => cases settles
  | fire claim stored =>
      apply fire_permits_task claim stored ?_ allowed
      intro timer fires
      cases move <;> exact fires
  | _ => exact permitted

end

/-! ## Steps -/

/-- A suspend of the task of `awaiter` finds `awaited` past its deadline and answers with the
siblings. -/
def Interrupted (env : Env) (before : System) (event : Event) (awaited awaiter : String) : Prop :=
  ∃ data siblings, event = .request (.taskSuspend data) true ∧ data.id = awaiter ∧
    awaited ∈ data.actions.map (·.data.awaited) ∧
    (∀ promise, before.promise awaited = some promise → promise.record.timeoutAt ≤ before.now) ∧
    answer env before (.taskSuspend data) true = .ok 300 (.preload siblings)

section

variable {env : Env} {before after system : System} {event : Event} {txn : Txn}
  {middle : Queue Payload} {awaited awaiter : String} {promise settled : StoredPromise}

theorem Enqueued.dispatches (enqueued : Enqueued env before event txn middle after) (id : String) :
    dispatchCount after.emitted id =
      dispatchCount before.emitted id + (dispatchesOf id txn.enqueues).length := by
  unfold System.emitted
  rw [enqueued.log, List.map_append, dispatchCount_append, unblocks_enqueue, dispatchCount_requests]

/-- A task that slept and is awake under an open promise was dispatched once. -/
theorem Txn.Recalled.once {id : String} (recalled : txn.Recalled id 0)
    (coupled : Coupled (txn.cell id)) (opened : txn.isOpen id = true)
    (awake : ∀ task, txn.getTask id = some task → task.state ≠ .suspended) :
    (dispatchesOf id txn.enqueues).length = 1 := by
  obtain ⟨task, found, stands⟩ := recalled
  obtain ⟨own, present, pending, _⟩ := (txn.isOpen_iff id).mp opened
  have live := (coupled.pending own task present found).mp pending
  rcases stands with ⟨asleep, _⟩ | ⟨_, counted⟩ | ⟨ended, _⟩
  · exact absurd asleep (awake task found)
  · exact counted
  · exact absurd ended live

/-- Where the moves of a commit spare the awaiter, its task is roused and dispatched if it slept. -/
theorem Trail.wakes {permits : Label → Prop} (trail : Trail env permits (before.txn env) txn)
    (reached : Reachable env before) (spares : ∀ label, permits label → label.Spares awaiter)
    (found : before.promise awaited = some promise) (pending : promise.record.isPending = true)
    (listed : awaiter ∈ promise.callbacks) (left : txn.getPromise awaited = some settled)
    (closed : settled.record.isPending = false) (opened : txn.isOpen awaiter = true) :
    (∃ task, txn.getTask awaiter = some task ∧ task.state ≠ .suspended ∧ awaited ∈ task.resumes) ∧
      ((∃ task, before.task awaiter = some task ∧ task.state = .suspended) →
        (dispatchesOf awaiter txn.enqueues).length = 1) := by
  have keyed : (before.txn env).Keyed := Reachable.keyed reached
  have coupled (id : String) : Coupled ((before.txn env).cell id) := by
    rw [System.cell_txn]
    exact Reachable.coupled reached id
  have registered : before.views.Registered := Reachable.registered reached
  have own : promise.record.id = awaited := by
    apply keyed.promise awaited promise
    rw [System.getPromise_txn]
    exact found
  have apart : awaited ≠ awaiter := by
    rw [← own]
    exact ((registered.enlisted awaited promise found).apart awaiter listed).symm
  have targeted : (before.txn env).views.Targeted awaiter := by
    rw [views_txn]
    exact registered.known awaited promise found awaiter listed
  have stored : Listed ((before.txn env).getPromise awaited) awaiter := by
    rw [System.getPromise_txn]
    exact ⟨promise, found, pending, listed⟩
  have roused := trail.rouses keyed coupled spares targeted apart (.inl stored) left closed opened
  refine ⟨roused, ?_⟩
  rintro ⟨task, slept, asleep⟩
  have start : (before.txn env).Recalled awaiter 0 := by
    refine ⟨task, ?_, .inl ⟨asleep, rfl⟩⟩
    rw [System.getTask_txn]
    exact slept
  apply (trail.recalled keyed coupled spares start).once (trail.coupled keyed coupled awaiter) opened
  intro other present suspended
  obtain ⟨woken, same, awake, _⟩ := roused
  rw [show (txn.cell awaiter).task = some other from present] at same
  cases same
  exact awake suspended

theorem suspend_wakes {data : TaskSuspendData} (reached : Reachable env before)
    (named : awaited ∈ data.actions.map (·.data.awaited)) (own : data.id = awaiter)
    (found : before.promise awaited = some promise) (pending : promise.record.isPending = true)
    (listed : awaiter ∈ promise.callbacks)
    (left : (handle env (before.txn env) (.taskSuspend data)).txn.getPromise awaited = some settled)
    (closed : settled.record.isPending = false)
    (opened : (handle env (before.txn env) (.taskSuspend data)).txn.isOpen awaiter = true) :
    (∃ task, (handle env (before.txn env) (.taskSuspend data)).txn.getTask awaiter = some task ∧
      task.state ≠ .suspended ∧ (awaited ∈ task.resumes ∨ task.resumes = ∅ ∧
        Interrupted env before (.request (.taskSuspend data) true) awaited awaiter)) ∧
      ((∃ task, before.task awaiter = some task ∧ task.state = .suspended) →
        (dispatchesOf awaiter
          (handle env (before.txn env) (.taskSuspend data)).txn.enqueues).length = 1) := by
  have keyed : (before.txn env).Keyed := Reachable.keyed reached
  have coupled (id : String) : Coupled ((before.txn env).cell id) := by
    rw [System.cell_txn]
    exact Reachable.coupled reached id
  have returned : (handle env (before.txn env) (.taskSuspend data)).exit ≠ .panic :=
    taskSuspend_exit env keyed coupled data
  have leaves : SuspendLeaves env (before.txn env) data
      (handle env (before.txn env) (.taskSuspend data)) := taskSuspend_leaves keyed data
  have suspension : Suspension env data (before.txn env)
      (handle env (before.txn env) (.taskSuspend data)) := taskSuspend_cases env keyed data
  have replied : answer env before (.taskSuspend data) true =
      (conclude (handle env (before.txn env) (.taskSuspend data)) true).2 := rfl
  have timeouts : Trail env (fun label => ∃ promise, label = .expire promise) (before.txn env)
      (tryTimeout env (before.txn env) (Request.taskSuspend data).named) :=
    tryTimeout_trail _ keyed fun promise _ => ⟨promise, rfl⟩
  have spares (label : Label) : (∃ promise, label = .expire promise) → label.Spares awaiter := by
    rintro ⟨promise, rfl⟩ task later move
    cases move
  have now := ((handle_outcome env keyed (.taskSuspend data)).trail keyed).fixed.now
  generalize handle env (before.txn env) (.taskSuspend data) = response at *
  cases leaves with
  | refused reply =>
      have same : (before.txn env).getPromise awaited = some settled := left
      rw [System.getPromise_txn, found] at same
      cases same
      rw [pending] at closed
      cases closed
  | failed next reply => exact absurd rfl returned
  | timed response promises tasks enqueues =>
      have ready : (tryTimeout env (before.txn env) (Request.taskSuspend data).named).isOpen awaiter
          = true := by
        rw [Txn.isOpen_congr (congrFun promises awaiter) (now.trans timeouts.fixed.now.symm)] at opened
        exact opened
      rw [promises] at left
      obtain ⟨⟨task, stored, awake, member⟩, once⟩ :=
        timeouts.wakes reached spares found pending listed left closed ready
      rw [tasks, enqueues]
      exact ⟨⟨task, stored, awake, .inl member⟩, once⟩
  | awake next siblings task promises stored acquired cleared =>
      subst own
      refine ⟨⟨_, cleared, ?_, .inr ⟨rfl, data, siblings, rfl, rfl, named, ?_, replied⟩⟩, ?_⟩
      · simp [acquired]
      · intro other present
        have same : next.getPromise awaited = some settled := left
        rw [promises, getPromise_tryTimeout _ keyed, System.getPromise_txn, present] at same
        have among : awaited ∈ (Request.taskSuspend data).named := List.mem_cons_of_mem _ named
        rw [if_pos among] at same
        cases same
        rw [found] at present
        cases present
        by_contra late
        have early : before.now < promise.record.timeoutAt := by omega
        have unsettled := (lapsed_pending_iff before.now promise).mpr ⟨pending, early⟩
        change (lapsed before.now promise).record.isPending = false at closed
        rw [unsettled] at closed
        cases closed
      · rintro ⟨sleeper, slept, asleep⟩
        have start : (before.txn env).Recalled data.id 0 := by
          refine ⟨sleeper, ?_, .inl ⟨asleep, rfl⟩⟩
          rw [System.getTask_txn]
          exact slept
        obtain ⟨other, present, stands⟩ := timeouts.recalled keyed coupled spares start
        rw [stored] at present
        cases present
        simp [acquired] at stands
  | asleep next reply =>
      cases suspension with
      | awake response exit trail => exact absurd rfl (exit data.id)
      | asleep earlier next task ids reply same trail permitted move =>
          obtain ⟨_, asked, _, _, all⟩ := permitted
          cases asked
          cases move with
          | suspend _ _ stored acquired some_awaited listing =>
              obtain ⟨other, present, unsettled, _⟩ := listing awaited (all ▸ named)
              have same : earlier.getPromise awaited = some settled := left
              rw [present] at same
              cases same
              rw [unsettled] at closed
              cases closed

/-- A request for a settlement that names another promise past its deadline does nothing but apply
deadlines. -/
theorem deadlines_of_due {request : Request} (reached : Reachable env before)
    (apart : awaited ≠ awaiter) {state : SettleState} {value : PromiseValue}
    (asked : request.settlement = some ⟨awaiter, state, value⟩) (named : awaited ∈ request.named)
    (due : ∀ promise, before.promise awaited = some promise →
      promise.record.isPending = true → promise.record.timeoutAt ≤ before.now)
    (settles : ∀ data, request.settlement = some data → data.id ∈ request.named) :
    DeadlinesOnly env (before.txn env) request (handle env (before.txn env) request) := by
  have keyed : (before.txn env).Keyed := Reachable.keyed reached
  have coupled (id : String) : Coupled ((before.txn env).cell id) := by
    rw [System.cell_txn]
    exact Reachable.coupled reached id
  have among := settles _ asked
  cases request with
  | promiseSettle data =>
      simp [Request.named] at among named
      exact absurd (named.trans among.symm) apart
  | taskFulfill data =>
      simp [Request.named] at among named
      exact absurd (named.trans among.symm) apart
  | taskFence data corrId =>
      rcases handle_holder (Request.taskFence data corrId) ⟨data.id, data.version⟩ rfl with
        ⟨task, stored, acquired⟩ | ⟨_, only⟩
      · exfalso
        have own : awaited = data.id := by
          simp only [Request.settlement] at asked
          split at asked
          · cases decoded : data.action.data.settle with
            | error message => simp [decoded, Except.toOption] at asked
            | ok settle =>
                simp [decoded, Except.toOption] at asked
                have actionId := data.action.data.settle_id settle decoded
                simp [Request.named, actionId, asked] at named
                exact named.resolve_right apart
          · cases asked
        have paired := tryTimeout_coupled env (Request.taskFence data corrId).named keyed coupled
          data.id
        obtain ⟨promise, present⟩ := paired.promise_of_task stored
        have unsettled : promise.record.isPending = true :=
          (paired.pending promise task present stored).mpr (by
            simp [(acquired_of_isAcquiredAt acquired).1])
        have read : (tryTimeout env (before.txn env) (Request.taskFence data corrId).named).getPromise
            data.id = some promise := present
        rw [getPromise_tryTimeout _ keyed, if_pos (own ▸ named), System.getPromise_txn] at read
        obtain ⟨old, found, rfl⟩ := Option.map_eq_some_iff.mp read
        obtain ⟨pending, early⟩ := (lapsed_pending_iff _ old).mp unsettled
        have late := due old (own ▸ found) pending
        change before.now < old.record.timeoutAt at early
        omega
      · exact only
  | _ => cases asked

/-- A commit that settles a promise leaves the others open that were. -/
theorem Enqueued.opened (enqueued : Enqueued env before event txn middle after)
    (reached : Reachable env before) (apart : awaited ≠ awaiter)
    (found : before.promise awaited = some promise) (pending : promise.record.isPending = true)
    (left : txn.getPromise awaited = some settled) (closed : settled.record.isPending = false)
    (opened : (before.txn env).isOpen awaiter = true) : txn.isOpen awaiter = true := by
  have keyed : (before.txn env).Keyed := Reachable.keyed reached
  have trail := enqueued.committed.trail
  have now : txn.now = (before.txn env).now := trail.fixed.now
  obtain ⟨own, present, open_, early⟩ := (Txn.isOpen_iff _ _).mp opened
  obtain ⟨later, kept, persists⟩ := (trail.persists keyed awaiter) own present
  have same := persists.timeoutAt
  by_contra shut
  have ended : later.record.isPending = false := by
    by_contra unsettled
    refine shut ((Txn.isOpen_iff _ _).mpr ⟨later, kept, by simpa using unsettled, ?_⟩)
    omega
  have stored : (before.txn env).getPromise awaited = some promise := by
    rw [System.getPromise_txn]
    exact found
  obtain ⟨first, old, final, permitted, settles, named, timely, deadline⟩ :=
    trail.settler keyed stored pending left closed
  obtain ⟨second, other, last, allowed, settles', named', timely', deadline'⟩ :=
    trail.settler keyed present open_ kept ended
  cases event with
  | request asked taken =>
      obtain ⟨rfl, rfl⟩ := enqueued.runs
      change asked.permits first at permitted
      change asked.permits second at allowed
      cases second with
      | expire _ =>
          cases settles'
          have late : other.record.timeoutAt ≤ (before.txn env).now := timely'
          omega
      | settle _ state value =>
          cases settles'
          have asks : asked.settlement = some ⟨awaiter, state, value⟩ := by
            rw [← named']
            exact allowed
          cases first with
          | expire _ =>
              cases settles
              have late : old.record.timeoutAt ≤ before.now := timely
              have listed : awaited ∈ asked.named := named ▸ permitted
              rcases handle_settles keyed asked with ⟨message, refused⟩ | settling
              · rw [refused] at left
                have same : (before.txn env).getPromise awaited = some settled := left
                rw [stored] at same
                cases same
                rw [pending] at closed
                cases closed
              · have only := deadlines_of_due reached apart asks listed (by
                  intro stale present_ _
                  rw [found] at present_
                  cases present_
                  omega) settling.settles
                have untouched (ids : List String) :
                    (tryTimeout env (before.txn env) ids).getPromise awaiter = some own := by
                  rw [getPromise_tryTimeout ids keyed, present]
                  split
                  · have ahead := (lapsed_pending_iff (before.txn env).now own).mpr ⟨open_, early⟩
                    rw [Option.map_some, (lapsed_early _ own ahead).1]
                  · rfl
                rcases only with ⟨same, _⟩ | ⟨same, _⟩
                · rw [same, present] at kept
                  cases kept
                  rw [open_] at ended
                  cases ended
                · rw [same, untouched] at kept
                  cases kept
                  rw [open_] at ended
                  cases ended
          | settle _ state' value' =>
              cases settles
              have both : asked.settlement = some ⟨old.record.id, state', value'⟩ := permitted
              rw [asks] at both
              cases both
              exact apart named.symm
          | strike _ => exact permitted
          | _ => cases settles
      | strike _ => exact allowed
      | _ => cases settles'
  | deliver claim taken =>
      change deliveryPermits claim first at permitted
      change deliveryPermits claim second at allowed
      cases first with
      | expire _ =>
          cases settles
          cases second with
          | expire _ =>
              cases settles'
              have executes : claim.payload = .execute old.record.id := permitted
              have again : claim.payload = .execute other.record.id := allowed
              rw [executes, named, named'] at again
              exact apart (Payload.execute.inj again)
          | settle _ _ _ => exact allowed
          | strike _ => exact allowed
          | _ => cases settles'
      | settle _ _ _ => exact permitted
      | strike _ => exact permitted
      | _ => cases settles
  | fire claim taken =>
      obtain ⟨_, timer, payload, _⟩ := enqueued.runs
      rw [fire_permits claim taken timer payload] at permitted allowed
      cases first with
      | strike _ =>
          cases settles
          cases second with
          | strike _ =>
              cases settles'
              have fires : timer = .promiseTimeout old.record.id := permitted
              have again : timer = .promiseTimeout other.record.id := allowed
              rw [fires, named, named'] at again
              exact apart (Timer.promiseTimeout.inj again)
          | settle _ _ _ => exact allowed
          | expire _ => exact allowed
          | _ => cases settles'
      | settle _ _ _ => exact permitted
      | expire _ => exact permitted
      | _ => cases settles
  | _ => exact permitted

/-- What a step that settles a promise does for one that awaits it. -/
theorem Reachable.wakes (reached : Reachable env before) (taken : step env before event = some after)
    (found : before.promise awaited = some promise) (pending : promise.record.isPending = true)
    (left : after.promise awaited = some settled) (closed : settled.record.isPending = false)
    (listed : awaiter ∈ promise.callbacks)
    (opened : (before.cell awaiter).isOpen before.now = true ∨
      (after.cell awaiter).isOpen after.now = true) :
    (∃ task, after.task awaiter = some task ∧ task.state ≠ .suspended ∧
      (awaited ∈ task.resumes ∨ task.resumes = ∅ ∧
        Interrupted env before event awaited awaiter)) ∧
      ((∃ task, before.task awaiter = some task ∧ task.state = .suspended) →
        dispatchCount after.emitted awaiter = dispatchCount before.emitted awaiter + 1) := by
  have keyed : (before.txn env).Keyed := Reachable.keyed reached
  rcases Reachable.enqueued reached taken with ⟨kv, _⟩ | ⟨txn, middle, enqueued⟩
  · have same : after.promise awaited = before.promise awaited := by
      unfold System.promise
      rw [kv]
    rw [same, found] at left
    cases left
    rw [pending] at closed
    cases closed
  · have stores := enqueued.committed.stores
    have now : after.now = txn.now :=
      enqueued.committed.now.trans enqueued.committed.trail.fixed.now.symm
    have registered : before.views.Registered := Reachable.registered reached
    have stored : (before.txn env).getPromise awaited = some promise := by
      rw [System.getPromise_txn]
      exact found
    have named : promise.record.id = awaited := keyed.promise awaited promise stored
    have apart : awaited ≠ awaiter := by
      rw [← named]
      exact ((registered.enlisted awaited promise found).apart awaiter listed).symm
    rw [stores.promise] at left
    have ready : txn.isOpen awaiter = true := by
      rcases opened with opened | opened
      · apply enqueued.opened reached apart found pending left closed
        rw [← System.cell_txn env] at opened
        exact opened
      · unfold System.cell at opened
        rw [stores.promise, stores.task, now] at opened
        exact opened
    rw [stores.task, enqueued.dispatches]
    by_cases suspends : ∃ data stored, event = .request (.taskSuspend data) stored ∧
        data.id = awaiter ∧ awaited ∈ data.actions.map (·.data.awaited)
    · obtain ⟨data, stored, rfl, own, named⟩ := suspends
      obtain ⟨rfl, rfl⟩ := enqueued.runs
      obtain ⟨task, once⟩ := suspend_wakes reached named own found pending listed left closed ready
      refine ⟨task, ?_⟩
      intro asleep
      rw [once asleep]
    · have spares : ∀ label, event.permits label → label.Spares awaiter := by
        intro label allowed
        obtain ⟨settling, old, final, permitted, settles, own, _, _⟩ :=
          enqueued.committed.trail.settler keyed stored pending left closed
        apply Event.spares_of_settles permitted settles ?_ ?_ allowed
        · rw [own]
          exact apart
        · intro data taken_ same other awaits
          rw [own] at awaits
          exact suspends ⟨data, taken_, same, other, awaits⟩
      obtain ⟨⟨task, present, awake, member⟩, once⟩ := enqueued.committed.trail.wakes reached spares
        found pending listed left closed ready
      refine ⟨⟨task, present, awake, .inl member⟩, ?_⟩
      intro asleep
      rw [once asleep]

end

/-- No wake-up is lost. While the clock does not go back, a pending promise lists every task that
sleeps before the deadline of its own promise. However a promise settles, the same commit leaves
every task that awaits it under an open promise awake and with that promise among its resumes,
unless its own suspend found the deadline and was answered instead, and it dispatches those that
slept once. -/
theorem wake_ups_kept {env : Env} {past : List (Machine.Entry System Event)} {system : System}
    (history : History env past system)
    (forward : Machine.Meets (fun before event => event.isForward before = true) past) :
    (∀ id task, system.task id = some task → task.state = .suspended →
      (∀ own, system.promise id = some own → system.now < own.record.timeoutAt) →
      ∃ awaited promise, system.promise awaited = some promise ∧
        promise.record.isPending = true ∧ id ∈ promise.callbacks) ∧
    ∀ event after, step env system event = some after →
      ∀ awaited promise settled, system.promise awaited = some promise →
        promise.record.isPending = true → after.promise awaited = some settled →
        settled.record.isPending = false →
        ∀ awaiter ∈ promise.callbacks, ((system.cell awaiter).isOpen system.now = true ∨
            (after.cell awaiter).isOpen after.now = true) →
          (∃ task, after.task awaiter = some task ∧ task.state ≠ .suspended ∧
            (awaited ∈ task.resumes ∨ task.resumes = ∅ ∧
              Interrupted env system event awaited awaiter)) ∧
          ((∃ task, system.task awaiter = some task ∧ task.state = .suspended) →
            dispatchCount after.emitted awaiter = dispatchCount system.emitted awaiter + 1) := by
  constructor
  · intro id task found asleep early
    obtain ⟨awaited, promise, stored, pending, listed⟩ :=
      (History.wakeable history forward) id task found asleep early
    exact ⟨awaited, promise, stored, pending, listed⟩
  · intro event after taken awaited promise settled found pending left closed awaiter listed opened
    exact Reachable.wakes ⟨past, history⟩ taken found pending left closed listed opened

/-- A task that sleeps on a promise until a client settles it. -/
def asleepRun : List Event :=
  [.clock 1, .request (.promiseCreate .sample) true,
    .request (.promiseCreate .awaitedSample) true, .take 0 0, .deliver (.sample 0 0) true, .finish,
    .request (.taskAcquire ⟨"root", 0, "p", 100⟩) true,
    .request (.taskSuspend ⟨"root", 1,
      [⟨"promise.register_callback", ⟨"root:0", "root"⟩⟩]⟩) true]

theorem asleepRun_ends : (Machine.trace (step .sample) [] .empty asleepRun).isSome = true := by
  decide

def asleepTrace : List (Machine.Entry System Event) × System :=
  (Machine.trace (step .sample) [] .empty asleepRun).get asleepRun_ends

theorem asleep_history : History .sample asleepTrace.1 asleepTrace.2 :=
  Machine.history_of_trace asleepRun_ends

theorem wake_ups_kept_asleep :
    ∃ after, step .sample asleepTrace.2 (.request (.promiseSettle ⟨"root:0", .resolved, {}⟩) true) =
        some after ∧
      (∃ task, after.task "root" = some task ∧ task.state ≠ .suspended) ∧
      dispatchCount after.emitted "root" = dispatchCount asleepTrace.2.emitted "root" + 1 := by
  have forward : Machine.Meets (fun before event => Event.isForward before event = true)
      asleepTrace.1 := by
    decide
  have slept : (asleepTrace.2.task "root").any (fun task => task.state = .suspended) = true := by
    decide
  have awaited : (asleepTrace.2.promise "root:0").any (fun promise =>
      promise.record.isPending = true ∧ "root" ∈ promise.callbacks) = true := by
    decide
  have enabled : (step .sample asleepTrace.2
      (.request (.promiseSettle ⟨"root:0", .resolved, {}⟩) true)).any (fun after =>
        (after.promise "root:0").any (fun promise => promise.record.isPending = false) = true) =
        true := by
    decide
  have opened : (asleepTrace.2.cell "root").isOpen asleepTrace.2.now = true := by decide
  obtain ⟨task, found, asleep⟩ := (Option.any_eq_true _ _).mp slept
  obtain ⟨promise, stored, both⟩ := (Option.any_eq_true _ _).mp awaited
  obtain ⟨pending, listed⟩ := of_decide_eq_true both
  obtain ⟨after, taken, ended⟩ := (Option.any_eq_true _ _).mp enabled
  obtain ⟨settled, left, closed⟩ := (Option.any_eq_true _ _).mp (of_decide_eq_true ended)
  obtain ⟨⟨woken, present, awake, _⟩, once⟩ := (wake_ups_kept asleep_history forward).2 _ after taken
    "root:0" promise settled stored pending left (of_decide_eq_true closed) "root" listed
    (.inl opened)
  exact ⟨after, taken, ⟨woken, present, awake⟩, once ⟨task, found, of_decide_eq_true asleep⟩⟩

end Resonate
