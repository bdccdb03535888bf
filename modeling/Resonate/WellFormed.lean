import Resonate.Lapses
import Resonate.Lineage
import Resonate.Schedules

set_option autoImplicit false

/-! What validation demands of promises, and the promises of schedules. -/

namespace Resonate

open Kernel

/-- What a promise was created with. -/
def PromiseRecord.creation (record : PromiseRecord) : PromiseCreateData where
  id := record.id
  timeoutAt := record.timeoutAt
  param := record.param
  tags := record.tags

/-- A promise that satisfies all that a creation is checked for. -/
def PromiseRecord.WellFormed (env : Env) (record : PromiseRecord) : Prop :=
  validateCreate env record.creation = none

/-- All that the data of a creation is checked for. -/
structure PromiseCreateData.Valid (env : Env) (data : PromiseCreateData) : Prop where
  named : data.id ≠ ""
  unbroken : Text.contains data.id '\x00' = false
  timely : 0 ≤ data.timeoutAt
  target : ∀ target, data.tags[tagTarget]? = some target → env.isUrl target = true
  origin : ∀ origin, data.tags[tagOrigin]? = some origin →
    Text.contains origin ':' = false ∧ originOf data.id = origin
  branch : ∀ branch, data.tags[tagBranch]? = some branch → isAncestor branch data.id = true
  parent : ∀ parent, data.tags[tagParent]? = some parent → isAncestor parent data.id = true
  pre : ∀ pre, data.tags[tagPrefix]? = some pre → Text.contains pre ':' = false
  delay : ∀ delay, data.tags[tagDelay]? = some delay → data.tags[tagTarget]?.isSome = true ∧
    ∃ due, Text.parseI64 delay = some due ∧ 0 ≤ due ∧ due < data.timeoutAt

theorem ancestorTagValid_iff {data : PromiseCreateData} {tag : String} :
    ancestorTagValid data tag = true ↔
      ∀ ancestor, data.tags[tag]? = some ancestor → isAncestor ancestor data.id = true :=
  Option.all_eq_true _ _

theorem delayTagValid_iff {data : PromiseCreateData} :
    delayTagValid data = true ↔ ∀ delay, data.tags[tagDelay]? = some delay →
      data.tags[tagTarget]?.isSome = true ∧
        ∃ due, Text.parseI64 delay = some due ∧ 0 ≤ due ∧ due < data.timeoutAt := by
  unfold delayTagValid
  rw [Option.all_eq_true]
  refine forall₂_congr fun delay _ => ?_
  rw [Bool.and_eq_true, Option.any_eq_true, and_comm]
  simp only [decide_eq_true_eq]

/-- A chain of checks accepts what every check lets through. -/
theorem check_eq_none {failed : Prop} [Decidable failed] {reply : Reply} {rest : Option Reply} :
    (if failed then some reply else rest) = none ↔ ¬ failed ∧ rest = none := by
  by_cases fails : failed <;> simp [fails]

/-- The validator accepts the data that satisfy every check. -/
theorem validateCreate_iff {env : Env} {data : PromiseCreateData} :
    validateCreate env data = none ↔ data.Valid env := by
  unfold validateCreate
  simp only [check_eq_none, and_true, not_not]
  constructor
  · rintro ⟨named, unbroken, timely, target, origin, branch, parent, pre, delay⟩
    refine ⟨named, by simpa using unbroken, by omega, (Option.all_eq_true _ _).mp target, ?_,
      ancestorTagValid_iff.mp branch, ancestorTagValid_iff.mp parent, ?_, delayTagValid_iff.mp delay⟩
    · intro root tagged
      simpa [tagged] using origin
    · intro root tagged
      simpa [tagged] using pre
  · rintro ⟨named, unbroken, timely, target, origin, branch, parent, pre, delay⟩
    refine ⟨named, by simp [unbroken], by omega, (Option.all_eq_true _ _).mpr target, ?_,
      ancestorTagValid_iff.mpr branch, ancestorTagValid_iff.mpr parent, ?_,
      delayTagValid_iff.mpr delay⟩
    · rw [Option.any_eq_true]
      rintro ⟨root, tagged, foreign⟩
      simp [origin root tagged] at foreign
    · rw [Option.any_eq_true]
      rintro ⟨root, tagged, foreign⟩
      simp [pre root tagged] at foreign

theorem PromiseRecord.wellFormed_iff {env : Env} {record : PromiseRecord} :
    record.WellFormed env ↔ record.creation.Valid env := validateCreate_iff

/-- Whether a firing expands to an id without separators and null bytes, and defers its dispatch by
a valid delay if at all. -/
def ScheduleRecord.expands (schedule : ScheduleRecord) : Bool :=
  firedId schedule ≠ "" && !Text.contains (firedId schedule) '\x00' &&
    !Text.contains (firedId schedule) ':' && delayTagValid (firedData schedule)

theorem newPromise_creation (data : PromiseCreateData) (createdAt : Option Int) (now : Int) :
    (newPromise data createdAt now).record.creation = data := by
  unfold newPromise PromiseRecord.creation
  dsimp only
  split <;> rfl

/-! ## Firings -/

theorem firedTags_target (schedule : ScheduleRecord) (id : String) :
    (firedTags schedule id)[tagTarget]? = schedule.promiseTags[tagTarget]? := by
  simp only [firedTags, List.foldl_cons, List.foldl_nil, Table.find_insert]
  simp [tagTarget, tagOrigin, tagBranch, tagParent, tagPrefix, tagSchedule]

/-- The lineage tags of a schedule's promise name the promise itself. -/
theorem firedTags_lineage (schedule : ScheduleRecord) (id : String) {tag : String}
    (lineage : tag ∈ [tagOrigin, tagBranch, tagParent, tagPrefix]) :
    (firedTags schedule id)[tag]? = some id := by
  simp only [List.mem_cons, List.not_mem_nil, or_false] at lineage
  simp only [firedTags, List.foldl_cons, List.foldl_nil, Table.find_insert]
  rcases lineage with rfl | rfl | rfl | rfl
  all_goals simp [tagOrigin, tagBranch, tagParent, tagPrefix]

theorem firedData_timeoutAt {env : Env} {schedule : ScheduleRecord} (sound : schedule.Sound env) :
    0 ≤ (firedData schedule).timeoutAt := by
  have started := sound.started
  have ahead := sound.ahead
  have timeout := sound.timeout
  have limit : (0 : Int) ≤ Text.i64Max := by decide
  change 0 ≤ Text.saturatingAdd schedule.nextRunAt schedule.promiseTimeout
  unfold Text.saturatingAdd
  omega

theorem originOf_plain {id : String} (plain : Text.contains id ':' = false) : originOf id = id := by
  have unsplit : ':' ∉ id.toList := by
    intro member
    simp [Text.contains, member] at plain
  unfold originOf
  rw [Text.splitOnce_none.mpr unsplit]

/-- An id is its own ancestor. -/
theorem isAncestor_self (id : String) : isAncestor id id = true := by
  simp [isAncestor]

theorem firedData_target {env : Env} {schedule : ScheduleRecord} (sound : schedule.Sound env) :
    (firedData schedule).tags[tagTarget]?.all env.isUrl = true := by
  have targeted := sound.targeted
  change (firedTags schedule (firedId schedule))[tagTarget]?.all env.isUrl = true
  rw [firedTags_target]
  cases target : schedule.promiseTags[tagTarget]? with
  | none => rfl
  | some address =>
      rw [target] at targeted
      exact targeted

/-- The promise of a firing is well formed exactly when the firing expands well. -/
theorem firedData_valid_iff {env : Env} {schedule : ScheduleRecord} (sound : schedule.Sound env) :
    validateCreate env (firedData schedule) = none ↔ schedule.expands = true := by
  have lineage (tag : String) (member : tag ∈ [tagOrigin, tagBranch, tagParent, tagPrefix]) :
      (firedData schedule).tags[tag]? = some (firedId schedule) :=
    firedTags_lineage schedule (firedId schedule) member
  have ancestors (tag : String) (member : tag ∈ [tagOrigin, tagBranch, tagParent, tagPrefix]) :
      ∀ ancestor, (firedData schedule).tags[tag]? = some ancestor →
        isAncestor ancestor (firedId schedule) = true := by
    intro ancestor tagged
    rw [← Option.some.inj ((lineage tag member).symm.trans tagged)]
    exact isAncestor_self _
  rw [validateCreate_iff]
  unfold ScheduleRecord.expands
  simp only [Bool.and_eq_true, Bool.not_eq_true', decide_eq_true_eq, and_assoc]
  constructor
  · intro valid
    exact ⟨valid.named, valid.unbroken, (valid.origin _ (lineage tagOrigin (by simp))).1,
      delayTagValid_iff.mpr valid.delay⟩
  · rintro ⟨named, unbroken, plain, delay⟩
    refine ⟨named, unbroken, firedData_timeoutAt sound,
      (Option.all_eq_true _ _).mp (firedData_target sound), ?_, ancestors tagBranch (by simp),
      ancestors tagParent (by simp), ?_, delayTagValid_iff.mp delay⟩
    · intro origin tagged
      rw [← Option.some.inj ((lineage tagOrigin (by simp)).symm.trans tagged)]
      exact ⟨plain, originOf_plain plain⟩
    · intro pre tagged
      rw [← Option.some.inj ((lineage tagPrefix (by simp)).symm.trans tagged)]
      exact plain

/-! ## Moves -/

section

variable {env : Env} {txn next : Txn} {label : Label} {before after system : System}
  {event : Event}

/-- What holds of the data of every promise created by a client is kept by a move that creates no
promise of a schedule. -/
theorem Move.creations (move : Move env txn label next) (keyed : txn.Keyed)
    {good : PromiseCreateData → Prop} (admits : ∀ data, validateCreate env data = none → good data)
    (unfired : ∀ data time mode, label ≠ .create data (some time) mode)
    (holds : ∀ id promise, txn.getPromise id = some promise → good promise.record.creation) :
    ∀ id promise, next.getPromise id = some promise → good promise.record.creation := by
  intro id promise found
  have change := (move.change keyed id).promise
  change PromiseChange txn.now id label (txn.getPromise id) (next.getPromise id) at change
  rw [found] at change
  generalize before : txn.getPromise id = first at change
  cases change with
  | kept same => exact holds id promise before
  | settled old final settles own pending timely =>
      obtain ⟨_, sameId, tags, _, _, param, timeoutAt, _⟩ := Label.settles_final settles
      have same : final.cleared.record.creation = old.record.creation := by
        change final.record.creation = old.record.creation
        unfold PromiseRecord.creation
        rw [sameId, tags, param, timeoutAt]
      rw [same]
      exact holds id old before
  | created data createdAt mode creates own =>
      subst creates
      rw [newPromise_creation]
      cases move with
      | create data createdAt mode absent admitted =>
          cases admitted with
          | dispatched data valid => exact admits data valid
          | acquired data pid ttl valid targeted undelayed named positive => exact admits data valid
          | fired schedule stored => exact absurd rfl (unfired _ _ _)
  | registered awaited awaiter registers own pending external => exact holds id awaited before
  | listened awaited address listens own pending external => exact holds id awaited before

/-- The promise a schedule's firing finds under an id, or creates. -/
theorem getPromise_fireSchedule (schedule : ScheduleRecord) (id : String) :
    (fireSchedule env txn schedule).getPromise id =
      if firedId schedule = id ∧ txn.getPromise (firedId schedule) = none then
        some (newPromise (firedData schedule) (some schedule.nextRunAt) txn.now)
      else txn.getPromise id := by
  have advanced (txn : Txn) : (advanceSchedule env txn schedule).getPromise = txn.getPromise := by
    unfold advanceSchedule
    split <;> rfl
  rw [fireSchedule_eq, advanced]
  cases stored : txn.getPromise (firedId schedule) with
  | some promise => simp
  | none =>
      dsimp only
      rw [getPromise_createPromise]
      change (if firedId schedule = id then _ else _) = _
      simp

/-- The firing of a schedule that commits. -/
theorem fire_schedule {id : String} {time : Int}
    (fired : fire env txn (.schedule id time) = (next, .commit)) :
    ∃ schedule, txn.getSchedule id = some schedule ∧ time = schedule.nextRunAt ∧
      next = fireSchedule env txn schedule := by
  unfold fire at fired
  dsimp only at fired
  split at fired
  · cases fired
  · rename_i schedule stored
    split at fired
    · cases fired
    · rename_i current
      cases fired
      exact ⟨schedule, stored, (not_not.mp current).symm, rfl⟩

theorem fireSchedule_creations {schedule : ScheduleRecord} {good : PromiseCreateData → Prop}
    (created : txn.getPromise (firedId schedule) = none → good (firedData schedule))
    (holds : ∀ id promise, txn.getPromise id = some promise → good promise.record.creation) :
    ∀ id promise, (fireSchedule env txn schedule).getPromise id = some promise →
      good promise.record.creation := by
  intro id promise found
  rw [getPromise_fireSchedule] at found
  split at found
  · rename_i absent
    cases found
    rw [newPromise_creation]
    exact created absent.2
  · exact holds id promise found

/-! ## Runs -/

/-- Whether an event that fires a schedule creates a promise only where the schedule expands well. -/
def Event.expandsWell (before : System) : Event → Bool
  | .fire claim _ =>
      match claim.payload with
      | .timer (.schedule id time) => (before.schedule id).all fun schedule =>
          schedule.nextRunAt ≠ time || (before.promise (firedId schedule)).isSome ||
            schedule.expands
      | _ => true
  | _ => true

theorem Event.expands_of_fire {claim : Claim} {stored : Bool} {id : String}
    {schedule : ScheduleRecord} (expands : Event.expandsWell before (.fire claim stored) = true)
    (payload : claim.payload = .timer (.schedule id schedule.nextRunAt))
    (found : before.schedule id = some schedule)
    (absent : before.promise (firedId schedule) = none) : schedule.expands = true := by
  simpa [Event.expandsWell, payload, found, absent] using expands

/-- What holds of the data of every promise created by a client, and of that of the promises the
step's firing creates, is kept. -/
theorem creations_step {good : PromiseCreateData → Prop}
    (admits : ∀ data, validateCreate env data = none → good data) (reached : Reachable env before)
    (taken : step env before event = some after)
    (fires : ∀ claim stored id schedule, event = .fire claim stored →
      claim.payload = .timer (.schedule id schedule.nextRunAt) →
      before.schedule id = some schedule → before.promise (firedId schedule) = none →
      good (firedData schedule))
    (holds : ∀ id promise, before.promise id = some promise → good promise.record.creation) :
    ∀ id promise, after.promise id = some promise → good promise.record.creation := by
  have keyed : (before.txn env).Keyed := Reachable.keyed reached
  rcases Reachable.enqueued reached taken with ⟨same, _⟩ | ⟨txn, middle, enqueued⟩
  · unfold System.promise at holds ⊢
    rw [same]
    exact holds
  · rw [enqueued.committed.stores.promise]
    have start : ∀ id promise, (before.txn env).getPromise id = some promise →
        good promise.record.creation := by
      rw [System.getPromise_txn]
      exact holds
    have unscheduled (unfired : ∀ data time mode, ¬ event.permits (.create data (some time) mode)) :
        ∀ id promise, txn.getPromise id = some promise → good promise.record.creation := by
      apply enqueued.committed.trail.preserves (fun txn => ∀ id promise,
        txn.getPromise id = some promise → good promise.record.creation) keyed start
      intro first label second keyed permitted move holds
      apply move.creations keyed admits ?_ holds
      rintro data time mode rfl
      exact unfired data time mode permitted
    cases event with
    | request asked stored =>
        apply unscheduled
        intro data time mode permitted
        cases permitted.1
    | deliver claim stored =>
        apply unscheduled
        intro data time mode permitted
        exact permitted
    | fire claim stored =>
        obtain ⟨_, timer, payload, fired⟩ := enqueued.runs
        cases timer with
        | promiseTimeout id =>
            apply unscheduled
            intro data time mode permitted
            rw [fire_permits claim stored _ payload] at permitted
            obtain ⟨schedule, at_, same, _⟩ := permitted
            cases same
        | schedule id time =>
            obtain ⟨schedule, found, current, rfl⟩ := fire_schedule fired
            rw [System.getSchedule_txn] at found
            rw [current] at payload
            apply fireSchedule_creations ?_ start
            rw [System.getPromise_txn]
            exact fires claim stored id schedule rfl payload found
    | _ => exact enqueued.runs.elim

theorem wellFormed_step (forward : env.Forward) (reached : Reachable env before)
    (taken : step env before event = some after) (expands : event.expandsWell before = true)
    (holds : ∀ id promise, before.promise id = some promise → promise.record.WellFormed env) :
    ∀ id promise, after.promise id = some promise → promise.record.WellFormed env := by
  refine @creations_step env before after event (fun data => validateCreate env data = none)
    (fun data valid => valid) reached taken ?_ holds
  rintro claim stored id schedule rfl payload found absent
  have sound := Reachable.schedules reached forward id schedule found
  exact (firedData_valid_iff sound).mpr (Event.expands_of_fire expands payload found absent)

/-- In every run whose firings of schedules expand well, every promise is well formed. -/
theorem promises_well_formed {past : List (Machine.Entry System Event)}
    (history : History env past system) (forward : env.Forward)
    (expands : Machine.Meets (fun before event => event.expandsWell before = true) past) (id : String)
    (promise : StoredPromise) (stored : system.promise id = some promise) :
    promise.record.WellFormed env := by
  have invariant := Machine.History.invariant (fun system => ∀ id promise,
    system.promise id = some promise → promise.record.WellFormed env) history expands ?_ ?_
  · exact invariant id promise stored
  · intro id promise found
    cases found
  · intro before event after reached holds expands taken
    exact wellFormed_step forward reached taken expands holds

end

/-! ## Examples -/

theorem sample_forward : Env.sample.Forward := by
  intro cron time next following
  change (if cron = "* * * * *" then some ((time / 60000 + 1) * 60000) else none) = _ at following
  split at following
  · cases following
    omega
  · cases following

/-- A schedule for every minute with a template for its promises. -/
def ScheduleCreateData.sample (promiseId : String) : ScheduleCreateData where
  id := "tick"
  cron := "* * * * *"
  promiseId := promiseId
  promiseTimeout := 1000
  promiseParam := {}
  promiseTags := (∅ : Tags).insert tagTarget "poll://any@g"

/-- The first firing of a schedule with this template. -/
def firedRun (promiseId : String) : List Event :=
  [.request (.scheduleCreate (.sample promiseId)) true, .clock 60000, .promote 0, .take 0 100,
    .fire ⟨0, Keys.timerQueue, .timer (.schedule "tick" 60000), some 60000, 0⟩ true]

theorem brokenRun_ends :
    (Machine.run (step .sample) .empty (firedRun "a\x00b")).isSome = true := by
  decide

def broken : System := (Machine.run (step .sample) .empty (firedRun "a\x00b")).get brokenRun_ends

theorem broken_reachable : Reachable .sample broken :=
  Machine.reachable_of_run (Option.some_get brokenRun_ends).symm

/-- A schedule whose template holds a null byte stores a promise under an id that validation
refuses. -/
theorem ill_formed_promise_stored :
    ∃ env : Env, env.Forward ∧ ∃ system id promise, Reachable env system ∧
      system.promise id = some promise ∧ ¬ promise.record.WellFormed env := by
  have stored : (broken.promise "a\x00b").any (fun promise =>
      Text.contains promise.record.id '\x00') = true := by
    decide
  obtain ⟨promise, found, separated⟩ := (Option.any_eq_true _ _).mp stored
  refine ⟨.sample, sample_forward, broken, "a\x00b", promise, broken_reachable, found, ?_⟩
  intro wellFormed
  have unbroken : Text.contains promise.record.id '\x00' = false :=
    (PromiseRecord.wellFormed_iff.mp wellFormed).unbroken
  rw [unbroken] at separated
  cases separated

theorem tickRun_ends : (Machine.trace (step .sample) [] .empty
    (firedRun "{{.id}}-{{.timestamp}}")).isSome = true := by
  decide

def tickTrace : List (Machine.Entry System Event) × System :=
  (Machine.trace (step .sample) [] .empty (firedRun "{{.id}}-{{.timestamp}}")).get tickRun_ends

theorem tick_history : History .sample tickTrace.1 tickTrace.2 :=
  Machine.history_of_trace tickRun_ends

theorem promises_well_formed_tick :
    ∃ promise, tickTrace.2.promise "tick-60000" = some promise ∧
      promise.record.WellFormed .sample := by
  have stored : (tickTrace.2.promise "tick-60000").isSome = true := by decide
  obtain ⟨promise, found⟩ := Option.isSome_iff_exists.mp stored
  have wellFormed := promises_well_formed tick_history sample_forward (by decide) "tick-60000"
    promise found
  exact ⟨promise, found, wellFormed⟩

end Resonate
