import Resonate.Lifetimes

set_option autoImplicit false

/-! Tasks whose dispatch is deferred: what may reach their job before its time. -/

namespace Resonate

open Kernel
open LeaseQueue (Queue Job EnqueueRequest)

/-- The time a promise's `resonate:delay` tag defers its task to. -/
def PromiseRecord.delay (record : PromiseRecord) : Option Int :=
  record.tags[tagDelay]?.bind Text.parseI64

theorem parseI64_le {text : String} {value : Int} (parsed : Text.parseI64 text = some value) :
    value ≤ Text.i64Max := by
  obtain ⟨_, range⟩ := Option.filter_eq_some_iff.mp parsed
  simp only [decide_eq_true_eq] at range
  exact range.2

/-- Every job of a task is scheduled at `due` or later, and no claim of it is held. -/
structure Unreached (queue : Queue Payload) (held : Held) (id : String) (due : Int) : Prop where
  jobs : ∀ (number : Nat) (job : Job Payload), queue.jobs[number]? = some job →
    job.payload = .execute id →
      job.state = .scheduled ∧ ∃ time, job.runAt = some time ∧ due ≤ (time : Int)
  unheld : held[id]? = none

/-- A transaction leaves a task to its deferred dispatch. -/
structure Txn.Rests (txn : Txn) (id : String) (due : Int) : Prop where
  enqueues : ∀ request ∈ txn.enqueues, request.payload = .execute id →
    ∃ time, request.runAt = some time ∧ due ≤ (time : Int)
  after : ∀ action ∈ txn.after, ∀ number, action.takes ≠ some (id, number)
  task : ∀ task, txn.getTask id = some task → task.state ≠ .acquired ∧ task.state ≠ .suspended ∧
    (task.state ≠ .fulfilled → ∃ number, task.job = some number ∧ txn.Carries number (.execute id))

section

variable {env : Env} {txn next : Txn} {label : Label} {id : String} {due : Int}

/-- Where the jobs of the task are spared they stay unreached. -/
theorem Unreached.spared {exempt : Job Payload → Prop} {earlier later : Queue Payload}
    {held kept : Held} (unreached : Unreached earlier held id due)
    (spares : Queue.Spares exempt earlier later)
    (ordinary : ∀ (number : Nat) (job : Job Payload), earlier.jobs[number]? = some job →
      job.payload = .execute id → ¬ exempt job) (unheld : kept[id]? = none) :
    Unreached later kept id due := by
  refine ⟨?_, unheld⟩
  intro number job found executes
  obtain ⟨old, stored, contents, same | ⟨reached, _⟩⟩ := spares.origin found
  · exact unreached.jobs number job (same ▸ stored) executes
  · have payload : old.payload = .execute id := (congrArg (·.2.1) contents).trans executes
    have scheduled := (unreached.jobs number old stored payload).1
    rcases reached with busy | excepted
    · exact absurd scheduled busy
    · exact absurd excepted (ordinary number old stored payload)

/-- Moves that claim another task's job leave this one's unreached. -/
theorem Trail.unreached {permits : Label → Prop} {floor : Nat} {strict : Prop}
    {taken : Claim → Prop} (trail : Trail env permits txn next) (keyed : txn.Keyed)
    (coupled : ∀ id, Coupled (txn.cell id)) (sound : txn.Sound floor strict)
    (allowed : ∀ label, permits label → label.Allowed strict taken)
    (granted : ∀ claim, taken claim →
      Matches txn.queue.contents floor claim ∧ ∀ timer, claim.payload ≠ .timer timer)
    (apart : ∀ task lease, permits (.claim task lease) → task.id ≠ id)
    (unreached : Unreached txn.queue txn.held id due) :
    Unreached next.queue next.held id due := by
  have spares : Queue.Spares (·.payload ≠ .execute id) txn.queue next.queue := by
    refine trail.spares keyed coupled sound allowed granted ?_
    intro task lease permitted job executes same
    rw [executes] at same
    exact apart task lease permitted (Payload.execute.inj same)
  refine unreached.spared spares (fun _ _ _ executes other => other executes) ?_
  have unheld := unreached.unheld
  clear spares unreached
  induction trail with
  | refl txn => exact unheld
  | step label permitted move rest ih =>
      refine ih (move.keyed keyed) (fun id => (move.change keyed id).coupled (coupled id))
        (move.sound keyed coupled sound (allowed label permitted) granted) ?_ ?_
      · rw [move.fixed.contents]
        exact granted
      · apply Option.eq_none_iff_forall_not_mem.mpr
        intro claim found
        rcases move.held found with old | ⟨task, lease, rfl, own, _⟩
        · rw [unheld] at old
          cases old
        · exact apart task lease permitted own

/-- A change keeps a task from being acquired or put to sleep, unless it acquires the task. -/
theorem Change.rests {now : Int} {before after : Cell} (change : Change env now id label before after)
    (coupled : Coupled before)
    (rests : ∀ task, before.task = some task → task.state ≠ .acquired ∧ task.state ≠ .suspended)
    (unacquired : ∀ task pid ttl, label = .acquire task pid ttl → task.id ≠ id)
    (uncreated : ∀ data createdAt pid ttl, label = .create data createdAt (.acquire pid ttl) →
      data.id ≠ id) :
    ∀ task, after.task = some task → task.state ≠ .acquired ∧ task.state ≠ .suspended ∧
      (task.state = .halted → ∃ old, before.task = some old ∧ old.job = task.job ∧
        old.state ≠ .fulfilled) := by
  have kept (task : StoredTask) (found : before.task = some task) : task.state ≠ .acquired ∧
      task.state ≠ .suspended ∧ (task.state = .halted → ∃ old, before.task = some old ∧
        old.job = task.job ∧ old.state ≠ .fulfilled) := by
    refine ⟨(rests task found).1, (rests task found).2, fun halted => ⟨task, found, rfl, ?_⟩⟩
    rw [halted]
    exact TaskState.noConfusion
  have woken (old : StoredTask) (stored : before.task = some old) (awaited : String) (wake : Wake)
      (job : Nat) : (old.resumed awaited wake job).state ≠ .acquired ∧
        (old.resumed awaited wake job).state ≠ .suspended ∧
        ((old.resumed awaited wake job).state = .halted → ∃ other, before.task = some other ∧
          other.job = (old.resumed awaited wake job).job ∧ other.state ≠ .fulfilled) := by
    obtain ⟨sameJob, sameState⟩ := resumed_awake awaited wake job old (rests old stored).2
    rw [sameJob, sameState]
    exact kept old stored
  intro task found
  cases change with
  | settled label promise final old settles own pending timely =>
      obtain ⟨stored, present, rfl⟩ := Option.map_eq_some_iff.mp found
      simp
  | woken label promise final awaiter old job settles other listed pending early =>
      obtain ⟨stored, present, rfl⟩ := Option.map_eq_some_iff.mp found
      exact woken stored present _ _ _
  | spared label promise final cell settles other asleep => exact kept task found
  | created data createdAt mode old job own =>
      have absent : old = none := by simpa using coupled.target
      subst absent
      rw [Option.or_none] at found
      obtain ⟨target, tagged, rfl⟩ := Option.map_eq_some_iff.mp found
      cases mode with
      | dispatch =>
          unfold createdTask
          dsimp only
          split
          · simp
          · simp [StoredTask.new]
      | acquire pid ttl => exact absurd own (uncreated data createdAt pid ttl rfl)
  | registered awaited awaiter old own pending external valid unlisted => exact kept task found
  | listened awaited address old own pending external unlisted => exact kept task found
  | resumed awaited awaiter old job pending early =>
      obtain ⟨stored, present, rfl⟩ := Option.map_eq_some_iff.mp found
      exact woken stored present _ _ _
  | moved label promise old later own move =>
      cases found
      have state := rests old rfl
      cases move with
      | acquire task pid ttl pending => exact absurd own (unacquired old pid ttl rfl)
      | release task acquired => exact absurd acquired state.1
      | lose task acquired => exact absurd acquired state.1
      | suspend task awaited acquired => exact absurd acquired state.1
      | clear task acquired => exact absurd acquired state.1
      | halt task unfulfilled unhalted =>
          exact ⟨TaskState.noConfusion, TaskState.noConfusion, fun _ => ⟨old, rfl, rfl, unfulfilled⟩⟩
      | proceed task job halted => simp [StoredTask.transition]
  | same label cell unsettling apart => exact kept task found

/-- An acquisition needs the claim of its task held. -/
theorem renew_unheld (txn : Txn) (lease : Nat) (unheld : txn.held[id]? = none) :
    (txn.renew id lease).2 = false := by
  unfold Txn.renew Txn.holds
  rw [unheld]

/-- The dispatch of a created task with a delay is deferred to it. -/
theorem delayOf_due {tags : Tags} {now : Int} (delayed : tags[tagDelay]?.bind Text.parseI64 = some due)
    (early : now < due) : delayOf tags now = some due := by
  unfold delayOf
  rw [delayed]
  simp [Option.filter, early]

theorem carries_enqueued {number : Nat}
    (carries : txn.Carries number (.execute id)) (contents : next.queue.contents = txn.queue.contents)
    (grown : ∀ request ∈ dispatchesOf id txn.enqueues, request ∈ dispatchesOf id next.enqueues) :
    next.Carries number (.execute id) := by
  rcases carries with ⟨found, queued, executes⟩ | ⟨request, member, own, executes⟩
  · exact .inl ⟨found, by rw [contents]; exact queued, executes⟩
  · have kept := grown request (mem_dispatchesOf.mpr ⟨member, executes⟩)
    exact .inr ⟨request, (mem_dispatchesOf.mp kept).1, own, executes⟩

/-- A move that neither claims the task's job nor holds such a claim leaves the task to its deferred
dispatch, when the promise it leaves has the delay. -/
theorem Move.rests {floor : Nat} {strict : Prop} {taken : Claim → Prop}
    (move : Move env txn label next) (keyed : txn.Keyed) (coupled : ∀ id, Coupled (txn.cell id))
    (sound : txn.Sound floor strict) (allowed : label.Allowed strict taken)
    (granted : ∀ claim, taken claim →
      Matches txn.queue.contents floor claim ∧ ∀ timer, claim.payload ≠ .timer timer)
    (apart : ∀ claim, taken claim → claim.payload ≠ .execute id)
    (unreached : Unreached txn.queue txn.held id due) (early : txn.now < due)
    (delayed : ∀ promise, next.getPromise id = some promise → promise.record.delay = some due)
    (rests : txn.Rests id due) : next.Rests id due := by
  have later := move.sound keyed coupled sound allowed granted
  have undelayed (data : PromiseCreateData) (createdAt : Option Int) (mode : CreateMode)
      (creates : label = .create data createdAt mode) (own : data.id = id) :
      data.tags[tagDelay]?.bind Text.parseI64 = some due := by
    subst creates
    have created : next.getPromise id = some (newPromise data createdAt txn.now) := by
      cases move with
      | create data createdAt mode absent admitted =>
          rw [getPromise_createPromise, if_pos own]
    have delay := delayed _ created
    unfold PromiseRecord.delay at delay
    rw [newPromise_tags] at delay
    exact delay
  have unacquired (data : PromiseCreateData) (createdAt : Option Int) (pid : String) (ttl : Int)
      (creates : label = .create data createdAt (.acquire pid ttl)) : data.id ≠ id := by
    intro own
    have delay := undelayed data createdAt _ creates own
    subst creates
    cases move with
    | create data createdAt mode absent admitted =>
        cases admitted with
        | acquired data pid ttl valid targeted none named positive =>
            rw [none] at delay
            cases delay
  have dispatched := move.dispatches keyed id
  refine ⟨?_, ?_, ?_⟩
  · intro request member executes
    have inside := mem_dispatchesOf.mpr ⟨member, executes⟩
    have old (inside : request ∈ dispatchesOf id txn.enqueues) :=
      rests.enqueues request (mem_dispatchesOf.mp inside).1 executes
    rcases dispatched with same | ⟨target, job, runAt, reason, added⟩
    · exact old (same ▸ inside)
    · rw [added, List.mem_append] at inside
      rcases inside with before | new
      · exact old before
      · cases List.mem_singleton.mp new
        have asleep (suspended : ∃ task, txn.getTask id = some task ∧ task.state = .suspended) :
            False := by
          obtain ⟨task, stored, state⟩ := suspended
          exact (rests.task task stored).2.1 state
        cases label with
        | create data createdAt mode =>
            obtain ⟨own, _, timed⟩ := reason
            cases mode with
            | acquire pid ttl => exact absurd own (unacquired data createdAt pid ttl rfl)
            | dispatch =>
                have delay := undelayed data createdAt _ rfl own
                rw [delayOf_due delay early] at timed
                refine ⟨due.toNat, ?_, Int.self_le_toNat due⟩
                change runAt.map Int.toNat = _
                rw [timed]
                rfl
        | proceed task =>
            obtain ⟨own, halted, missing⟩ := reason
            exfalso
            cases move with
            | proceed task stored _ =>
                rw [own] at stored
                obtain ⟨number, recorded, carries⟩ := (rests.task task stored).2.2 (by
                  rw [halted]
                  exact TaskState.noConfusion)
                rcases carries with ⟨contents, queued, _⟩ | ⟨request, inside, _, executes⟩
                · rw [Txn.jobs_of_contents.mpr (missing number recorded)] at queued
                  cases queued
                · exact sound.unhalted allowed request inside id task executes stored halted
        | _ => exact (asleep reason.2).elim
  · rw [move.after]
    intro action member number takes
    rcases List.mem_append.mp member with old | new
    · exact rests.after action old number takes
    · cases label with
      | create data createdAt mode =>
          change action ∈ createFollows txn data createdAt mode at new
          unfold createFollows startFollows at new
          split at new
          · split at new
            · cases new
            · cases mode with
              | dispatch => cases new
              | acquire pid ttl =>
                  cases List.mem_singleton.mp new
                  rw [newPromise_id] at takes
                  exact unacquired data createdAt pid ttl rfl
                    (congrArg Prod.fst (Option.some.inj takes))
          · cases new
      | hold task claim =>
          cases List.mem_singleton.mp new
          cases move with
          | hold task claim executes stored pending =>
              have own : task.id = id := congrArg Prod.fst (Option.some.inj takes)
              rw [own] at executes
              exact apart claim allowed executes
      | expire promise =>
          rw [releasesOf_takes _ _ action new] at takes
          cases takes
      | strike promise =>
          rw [releasesOf_takes _ _ action new] at takes
          cases takes
      | settle promise state value =>
          rw [releasesOf_takes _ _ action new] at takes
          cases takes
      | release task =>
          cases List.mem_singleton.mp new
          cases takes
      | halt task =>
          cases List.mem_singleton.mp new
          cases takes
      | ack claim =>
          cases List.mem_singleton.mp new
          cases takes
      | _ => cases new
  · intro task stored
    have unheld : ∀ task pid ttl, label = .acquire task pid ttl → task.id ≠ id := by
      rintro task pid ttl rfl own
      cases move with
      | acquire task pid ttl stored pending renewed =>
          rw [renew_unheld txn _ (own ▸ unreached.unheld)] at renewed
          cases renewed
    obtain ⟨unacquired, awake, halts⟩ := (move.change keyed id).rests (coupled id)
      (fun task found => ⟨(rests.task task found).1, (rests.task task found).2.1⟩) unheld unacquired
      task stored
    refine ⟨unacquired, awake, fun unfulfilled => ?_⟩
    cases state : task.state with
    | pending => exact later.ledger.covered id task stored (.inl state)
    | acquired => exact absurd state unacquired
    | suspended => exact absurd state awake
    | halted =>
        obtain ⟨old, present, sameJob, before⟩ := halts state
        obtain ⟨number, recorded, carries⟩ := (rests.task old present).2.2 before
        refine ⟨number, sameJob.symm.trans recorded, carries_enqueued carries move.fixed.contents ?_⟩
        intro request inside
        rcases dispatched with same | ⟨target, job, runAt, reason, added⟩
        · rw [same]
          exact inside
        · rw [added]
          exact List.mem_append_left _ inside
    | fulfilled => exact absurd state unfulfilled

/-- A trail of such moves leaves the task to its deferred dispatch. -/
theorem Trail.rests {permits : Label → Prop} {floor : Nat} {strict : Prop}
    {taken : Claim → Prop} (trail : Trail env permits txn next) (keyed : txn.Keyed)
    (coupled : ∀ id, Coupled (txn.cell id)) (sound : txn.Sound floor strict)
    (allowed : ∀ label, permits label → label.Allowed strict taken)
    (granted : ∀ claim, taken claim →
      Matches txn.queue.contents floor claim ∧ ∀ timer, claim.payload ≠ .timer timer)
    (apart : ∀ claim, taken claim → claim.payload ≠ .execute id)
    (unclaimed : ∀ task lease, permits (.claim task lease) → task.id ≠ id)
    (unreached : Unreached txn.queue txn.held id due) (early : txn.now < due)
    (delayed : ∀ promise, next.getPromise id = some promise → promise.record.delay = some due)
    (rests : txn.Rests id due) : next.Rests id due := by
  induction trail with
  | refl txn => exact rests
  | @step first second third label permitted move rest ih =>
      have rekeyed := move.keyed keyed
      have matched := granted
      rw [← move.fixed.contents] at matched
      have middle (promise : StoredPromise)
          (found : second.getPromise id = some promise) : promise.record.delay = some due := by
        obtain ⟨final, stored, persists⟩ := (rest.cells rekeyed id).respects
          (fun first second => Persists first.promise second.promise) (fun cell => .refl cell.promise)
          (fun _ _ _ => .trans) (fun _ _ _ _ change => change.promise.persists) promise found
        have delay := delayed final stored
        unfold PromiseRecord.delay at delay ⊢
        rw [← persists.tags]
        exact delay
      have one : Trail env permits first second := .step label permitted move (.refl _)
      refine ih rekeyed (fun id => (move.change keyed id).coupled (coupled id))
        (move.sound keyed coupled sound (allowed label permitted) granted) matched
        (one.unreached keyed coupled sound allowed granted unclaimed unreached) ?_ delayed
        (move.rests keyed coupled sound (allowed label permitted) granted apart unreached early middle
          rests)
      rw [move.fixed.now]
      exact early

end

end Resonate
