import Resonate.Templates
import Resonate.WellFormed
import Resonate.Coverage
import Resonate.Fencing

set_option autoImplicit false

/-! A schedule fires at each occurrence of its cron expression once, in order. -/

namespace Resonate

open Kernel
open LeaseQueue (Queue Job EnqueueRequest)

/-- The occurrences of a cron expression after a time. -/
def Env.occurrence (env : Env) (cron : String) (start : Int) : Nat → Option Int
  | 0 => env.nextAfter cron start
  | index + 1 => (env.occurrence cron start index).bind (env.nextAfter cron)

/-- The promise id a schedule expands to at a time. -/
def ScheduleRecord.expandedAt (schedule : ScheduleRecord) (time : Int) : String :=
  firedId { schedule with nextRunAt := time }

/-- A schedule with no later occurrence, whose `nextRunAt` has fired. -/
def ScheduleRecord.Ended (env : Env) (schedule : ScheduleRecord) : Prop :=
  env.nextAfter schedule.cron schedule.nextRunAt = none ∧
    schedule.lastRunAt = some schedule.nextRunAt

/-- A schedule has fired at these times, newest first. -/
structure ScheduleRecord.Fired (env : Env) (schedule : ScheduleRecord) (times : List Int) :
    Prop where
  occurrences : times.reverse.map some =
    (List.range times.length).map (env.occurrence schedule.cron schedule.createdAt)
  descending : times.Pairwise fun later earlier => earlier < later
  last : schedule.lastRunAt = times.head?
  next : (env.occurrence schedule.cron schedule.createdAt times.length =
      some schedule.nextRunAt ∧ ∀ time ∈ times, time < schedule.nextRunAt) ∨ schedule.Ended env

section

variable {env : Env} {schedule : ScheduleRecord} {times : List Int} {now : Int}

theorem ScheduleRecord.Admitted.fired (admitted : schedule.Admitted env now) :
    schedule.Fired env [] := by
  refine ⟨rfl, .nil, admitted.unfired, .inl ⟨?_, by simp⟩⟩
  change env.nextAfter schedule.cron schedule.createdAt = _
  rw [admitted.created]
  exact admitted.next

/-- A schedule that has ended stays as it is when it fires again. -/
theorem ScheduleRecord.Ended.advanced (ended : schedule.Ended env) :
    schedule.advanced env = schedule := by
  obtain ⟨none_, last⟩ := ended
  unfold ScheduleRecord.advanced
  rw [none_, ← last]
  rfl

theorem ScheduleRecord.ended_of_advanced (forward : env.Forward)
    (same : schedule.advanced env = schedule) : schedule.Ended env := by
  have last := congrArg ScheduleRecord.lastRunAt same
  have next := congrArg ScheduleRecord.nextRunAt same
  refine ⟨?_, last.symm⟩
  cases following : env.nextAfter schedule.cron schedule.nextRunAt with
  | none => rfl
  | some time =>
      have later := forward _ _ _ following
      simp only [ScheduleRecord.advanced, following, Option.getD_some] at next
      omega

/-- A firing that changes the schedule is the one of the next occurrence. -/
theorem ScheduleRecord.Fired.advanced (fired : schedule.Fired env times) (forward : env.Forward)
    (changed : schedule.advanced env ≠ schedule) :
    (schedule.advanced env).Fired env (schedule.nextRunAt :: times) := by
  obtain ⟨occurrences, descending, last, next⟩ := fired
  rcases next with ⟨next, ahead⟩ | ended
  · constructor
    · rw [List.reverse_cons, List.map_append, List.length_cons, List.range_succ, List.map_append]
      change _ = List.map (env.occurrence schedule.cron schedule.createdAt) _ ++
        List.map (env.occurrence schedule.cron schedule.createdAt) _
      rw [occurrences]
      simp [next]
    · exact List.pairwise_cons.mpr ⟨ahead, descending⟩
    · rfl
    · cases following : env.nextAfter schedule.cron schedule.nextRunAt with
      | none =>
          refine .inr ⟨?_, ?_⟩
          · simp [ScheduleRecord.advanced, following]
          · simp [ScheduleRecord.advanced, following]
      | some time =>
          have later := forward _ _ _ following
          refine .inl ⟨?_, ?_⟩
          · simp [ScheduleRecord.advanced, Env.occurrence, next, following]
          · intro earlier member
            simp only [ScheduleRecord.advanced, following, Option.getD_some]
            rcases List.mem_cons.mp member with rfl | member
            · exact later
            · have before := ahead earlier member
              omega
  · exact absurd ended.advanced changed

/-- The ids a schedule expands to differ when its template holds the timestamp. -/
theorem expandedAt_injective (stamped : Text.holds schedule.promiseId "{{.timestamp}}")
    {left right : Int} (same : schedule.expandedAt left = schedule.expandedAt right) :
    left = right := by
  have survives : Text.holds (Text.replace schedule.promiseId "{{.id}}" schedule.id)
      "{{.timestamp}}" :=
    Text.holds_replace (by decide) (by decide) stamped
  have stamps := Text.replace_injective (by decide) survives same
  rw [Int.toString_eq_repr, Int.toString_eq_repr] at stamps
  exact Int.repr_injective stamps

theorem ScheduleRecord.Fired.distinct (fired : schedule.Fired env times)
    (stamped : Text.holds schedule.promiseId "{{.timestamp}}") :
    (times.map schedule.expandedAt).Nodup := by
  apply List.Nodup.map (fun _ _ same => expandedAt_injective stamped same)
  apply fired.descending.imp
  intro later earlier apart same
  omega

end

/-! ## Steps -/

/-- A step enqueues the timer of a schedule for a time. -/
def Primes (before after : System) (id : String) (time : Int) : Prop :=
  ∃ number, before.queue.nextJob ≤ number ∧
    after.queue.contents number = some (timerContents (.schedule id time) time)

/-- What a step does to the schedule under `id`. -/
inductive ScheduleStep (env : Env) (before : System) (event : Event) (after : System)
    (id : String) : Prop
  | kept (same : after.schedule id = before.schedule id)
  | added (schedule : ScheduleRecord) (absent : before.schedule id = none)
      (found : after.schedule id = some schedule) (admitted : schedule.Admitted env before.now)
      (primed : Primes before after id schedule.nextRunAt)
  | fired (schedule : ScheduleRecord) (claim : Claim) (fires : event = .fire claim true)
      (payload : claim.payload = .timer (.schedule id schedule.nextRunAt))
      (found : before.schedule id = some schedule)
      (advanced : after.schedule id = some (schedule.advanced env))
      (promised : (after.promise (firedId schedule)).isSome = true)
      (primed : ∀ time, env.nextAfter schedule.cron schedule.nextRunAt = some time →
        Primes before after id time)
  | dropped (absent : after.schedule id = none)

section

variable {env : Env} {before after : System} {event : Event} {start txn : Txn}

theorem not_addSchedule_of_dropSchedule {id : String} {schedule : ScheduleRecord}
    (drops : event.permits (.dropSchedule id)) : ¬ event.permits (.addSchedule schedule) := by
  intro adds
  cases event with
  | request asked stored =>
      obtain ⟨data, creates, _⟩ := adds
      have deletes : asked = .scheduleDelete id := drops
      rw [deletes] at creates
      cases creates
  | fire claim stored =>
      have unfit (timer : Timer) : ¬ firingPermits timer (.addSchedule schedule) := False.elim
      exact fire_permits_task claim stored unfit adds
  | _ => exact adds

/-- Moves other than a schedule's firing keep it, add it with its timer or delete it. -/
theorem Trail.scheduled (trail : Trail env event.permits start txn) (keyed : start.Keyed)
    (unfired : ∀ schedule, ¬ event.permits (.advance schedule)) (id : String) :
    txn.getSchedule id = start.getSchedule id ∨
      (txn.getSchedule id = none ∧ event.permits (.dropSchedule id)) ∨
      ∃ schedule, start.getSchedule id = none ∧ txn.getSchedule id = some schedule ∧
        schedule.Admitted env start.now ∧
        Txn.timerRequest (.schedule id schedule.nextRunAt) schedule.nextRunAt ∈ txn.enqueues := by
  have result := trail.preserves (fun txn => txn.now = start.now ∧
    (txn.getSchedule id = start.getSchedule id ∨
      (txn.getSchedule id = none ∧ event.permits (.dropSchedule id)) ∨
      ∃ schedule, start.getSchedule id = none ∧ txn.getSchedule id = some schedule ∧
        schedule.Admitted env start.now ∧
        Txn.timerRequest (.schedule id schedule.nextRunAt) schedule.nextRunAt ∈ txn.enqueues))
    keyed ⟨rfl, .inl rfl⟩ ?_
  · exact result.2
  · intro first label second _ permitted move holds
    obtain ⟨still, holds⟩ := holds
    refine ⟨move.fixed.now.trans still, ?_⟩
    have change := move.schedule id
    generalize earlier : first.getSchedule id = old at change holds
    generalize later : second.getSchedule id = new at change
    cases change with
    | kept label schedule =>
        rcases holds with same | dropped | ⟨schedule, absent, found, admitted, member⟩
        · exact .inl same
        · exact .inr (.inl dropped)
        · exact .inr (.inr ⟨schedule, absent, found, admitted, move.enqueued rfl member⟩)
    | added schedule own admitted =>
        rcases holds with same | ⟨_, drops⟩ | ⟨schedule, _, found, _⟩
        · subst own
          rw [still] at admitted
          refine .inr (.inr ⟨schedule, same.symm, rfl, admitted, ?_⟩)
          cases move with
          | addSchedule schedule absent next created unfired named plain targeted timeout =>
              exact List.mem_append_right _ (List.mem_singleton_self _)
        · exact absurd permitted (not_addSchedule_of_dropSchedule drops)
        · cases found
    | advanced schedule own => exact absurd permitted (unfired schedule)
    | dropped schedule => exact .inr (.inl ⟨rfl, permitted⟩)

theorem getSchedule_fireSchedule (schedule : ScheduleRecord) (id : String) :
    (fireSchedule env txn schedule).getSchedule id =
      if schedule.id = id then some (schedule.advanced env) else txn.getSchedule id := by
  rw [fireSchedule_eq, getSchedule_advanceSchedule]
  cases txn.getPromise (firedId schedule) with
  | some promise => rfl
  | none =>
      dsimp only
      rw [getSchedule_createPromise]

theorem promised_fireSchedule (schedule : ScheduleRecord) :
    ((fireSchedule env txn schedule).getPromise (firedId schedule)).isSome = true := by
  rw [getPromise_fireSchedule]
  split
  · rfl
  · rename_i present
    simpa [Option.isSome_iff_ne_none] using present

theorem timer_fireSchedule (schedule : ScheduleRecord) {time : Int}
    (next : env.nextAfter schedule.cron schedule.nextRunAt = some time) :
    Txn.timerRequest (.schedule schedule.id time) time ∈
      (fireSchedule env txn schedule).enqueues := by
  rw [fireSchedule_eq, enqueues_advanceSchedule, next]
  simp

/-- Every step does one of these to a schedule. -/
theorem Reachable.scheduled (reached : Reachable env before)
    (taken : step env before event = some after) (id : String) :
    ScheduleStep env before event after id := by
  have keyed : (before.txn env).Keyed := Reachable.keyed reached
  rcases Reachable.enqueued reached taken with ⟨same, _⟩ | ⟨txn, middle, enqueued⟩
  · apply ScheduleStep.kept
    unfold System.schedule
    rw [same]
  · have stores := enqueued.committed.stores
    have unfired (unfired : ∀ schedule, ¬ event.permits (.advance schedule)) :
        ScheduleStep env before event after id := by
      have scheduled := enqueued.committed.trail.scheduled keyed unfired id
      rw [← stores.schedule, System.getSchedule_txn] at scheduled
      rcases scheduled with same | ⟨absent, _⟩ | ⟨schedule, absent, found, admitted, member⟩
      · exact .kept same
      · exact .dropped absent
      · exact .added schedule absent found admitted (enqueued.timer member)
    cases event with
    | request asked stored => exact unfired fun schedule permitted => permitted
    | deliver claim stored => exact unfired fun schedule permitted => permitted
    | fire claim stored =>
        obtain ⟨rfl, timer, payload, fired⟩ := enqueued.runs
        cases timer with
        | promiseTimeout name =>
            apply unfired
            intro schedule permitted
            rw [fire_permits claim true _ payload] at permitted
            cases permitted
        | schedule name time =>
            obtain ⟨schedule, present, current, rfl⟩ := fire_schedule fired
            have named : schedule.id = name := keyed.schedule _ _ present
            rw [System.getSchedule_txn] at present
            by_cases own : name = id
            · subst own
              apply ScheduleStep.fired schedule claim rfl (current ▸ payload) present
              · rw [stores.schedule, getSchedule_fireSchedule, if_pos named]
              · rw [stores.promise]
                exact promised_fireSchedule schedule
              · intro time next
                apply enqueued.timer
                rw [← named]
                exact timer_fireSchedule schedule next
            · apply ScheduleStep.kept
              rw [stores.schedule, getSchedule_fireSchedule, named, if_neg own,
                System.getSchedule_txn]
    | _ => exact enqueued.runs.elim

/-- A firing of a schedule's next timer that returned has advanced the schedule. -/
theorem Step.fired_advances {claim : Claim} {stored : Bool} {id : String}
    {schedule : ScheduleRecord} (step : Step env before (.fire claim stored) after)
    (keyed : (before.txn env).Keyed)
    (payload : claim.payload = .timer (.schedule id schedule.nextRunAt))
    (found : before.schedule id = some schedule)
    (returned : stored = true ∨ claim ∈ after.fired ∧ claim ∉ before.fired) :
    after.schedule id = some (schedule.advanced env) := by
  have present : (before.txn env).getSchedule id = some schedule := by
    rw [System.getSchedule_txn]
    exact found
  have runs : fire env (before.txn env) (.schedule id schedule.nextRunAt) =
      (fireSchedule env (before.txn env) schedule, .commit) := by
    simp [fire, present]
  cases step with
  | unfired claim timer txn unlocked member timed own fired =>
      rcases returned with stored | ⟨fresh, absent⟩
      · cases stored
      · exact absurd fresh absent
  | fired claim timer txn unlocked member timed own fired =>
      rw [payload] at own
      cases own
      rw [runs] at fired
      cases fired
      have stores : Stores _
          (before.absorb (fireSchedule env (before.txn env) schedule).commit) :=
        stores_of_kv rfl
      change (before.absorb (fireSchedule env (before.txn env) schedule).commit).schedule id = _
      rw [stores.schedule, getSchedule_fireSchedule, if_pos (keyed.schedule _ _ present)]
  | outlived claim stored timer txn exit unlocked member timed own fired idle =>
      rw [payload] at own
      cases own
      rw [runs] at fired
      cases fired
      exact absurd rfl idle

end

/-! ## Runs -/

/-- The time of a firing that changed the schedule under `id`. -/
def firingOf (id : String) (entry : Machine.Entry System Event) : Option Int :=
  match entry.label with
  | .fire claim _ =>
      match claim.payload with
      | .timer (.schedule name time) =>
          if name = id ∧ entry.after.schedule id ≠ entry.before.schedule id then some time else none
      | _ => none
  | _ => none

/-- The times of the firings that changed the schedule under `id` since its creation, newest
first. -/
def firings (id : String) (past : List (Machine.Entry System Event)) : List Int :=
  (past.takeWhile fun entry => (entry.before.schedule id).isSome).filterMap (firingOf id)

/-- Every schedule has a timer for its `nextRunAt` whose firing did not return, or has ended. -/
def System.Primed (env : Env) (system : System) : Prop :=
  ∀ id schedule, system.schedule id = some schedule → schedule.Ended env ∨
    ∃ number, system.queue.contents number =
        some (timerContents (.schedule id schedule.nextRunAt) schedule.nextRunAt) ∧
      ∀ claim ∈ system.fired, claim.id ≠ number

section

variable {env : Env} {before after system : System} {event : Event} {id : String}
  {past : List (Machine.Entry System Event)}

theorem firings_created (absent : before.schedule id = none) :
    firings id (⟨before, event, after⟩ :: past) = [] := by
  simp [firings, absent]

theorem firings_kept {schedule : ScheduleRecord} (found : before.schedule id = some schedule)
    (same : after.schedule id = before.schedule id) :
    firings id (⟨before, event, after⟩ :: past) = firings id past := by
  have none_ : firingOf id ⟨before, event, after⟩ = none := by
    unfold firingOf
    simp only [same, ne_eq, not_true_eq_false, and_false, if_false]
    split
    · split <;> rfl
    · rfl
  simp [firings, found, none_]

theorem firings_fired {schedule : ScheduleRecord} {claim : Claim} {stored : Bool} {time : Int}
    (found : before.schedule id = some schedule)
    (payload : claim.payload = .timer (.schedule id time))
    (changed : after.schedule id ≠ before.schedule id) :
    firings id (⟨before, .fire claim stored, after⟩ :: past) = time :: firings id past := by
  have some_ : firingOf id ⟨before, .fire claim stored, after⟩ = some time := by
    simp [firingOf, payload, changed]
  simp [firings, found, some_]

theorem promised_step (reached : Reachable env before)
    (taken : step env before event = some after)
    (promised : (before.promise id).isSome = true) : (after.promise id).isSome = true := by
  obtain ⟨promise, found⟩ := Option.isSome_iff_exists.mp promised
  obtain ⟨final, present, _⟩ := step_persists reached taken id promise found
  simp [present]

/-- In every run a schedule has fired at the first occurrences since its creation, and the
promise of each firing exists. -/
theorem History.fired (history : History env past system) (forward : env.Forward) (id : String) :
    ∀ schedule, system.schedule id = some schedule → schedule.Fired env (firings id past) ∧
      ∀ time ∈ firings id past, (system.promise (schedule.expandedAt time)).isSome = true := by
  apply Machine.History.induct (fun past system => ∀ schedule,
    system.schedule id = some schedule → schedule.Fired env (firings id past) ∧
      ∀ time ∈ firings id past, (system.promise (schedule.expandedAt time)).isSome = true) history
  · intro schedule found
    cases found
  · intro past before event after previous ih taken schedule found
    have reached : Reachable env before := ⟨past, previous⟩
    have kept (same : after.schedule id = before.schedule id) :
        schedule.Fired env (firings id (⟨before, event, after⟩ :: past)) ∧
          ∀ time ∈ firings id (⟨before, event, after⟩ :: past),
            (after.promise (schedule.expandedAt time)).isSome = true := by
      rw [same] at found
      obtain ⟨fired, promised⟩ := ih schedule found
      rw [firings_kept found same]
      refine ⟨fired, ?_⟩
      intro time member
      exact promised_step reached taken (promised time member)
    cases Reachable.scheduled reached taken id with
    | kept same => exact kept same
    | added added absent present admitted primed =>
        rw [found] at present
        cases present
        rw [firings_created absent]
        exact ⟨admitted.fired, by simp⟩
    | fired old claim fires payload present advanced promised primed =>
        by_cases changed : old.advanced env = old
        · apply kept
          rw [advanced, present, changed]
        · subst fires
          rw [found] at advanced
          cases advanced
          obtain ⟨fired, earlier⟩ := ih old present
          rw [firings_fired present payload (by simpa [found, present] using changed)]
          refine ⟨fired.advanced forward changed, ?_⟩
          intro time member
          rcases List.mem_cons.mp member with rfl | member
          · exact promised
          · exact promised_step reached taken (earlier time member)
    | dropped absent =>
        rw [found] at absent
        cases absent

theorem primed_step (reached : Reachable env before) (forward : env.Forward)
    (taken : step env before event = some after) (primed : before.Primed env) :
    after.Primed env := by
  have booked : Booked env before := Reachable.booked reached
  have keyed : (before.txn env).Keyed := Reachable.keyed reached
  have step := step_cases taken
  -- a timer the step enqueues is of no claim there is
  have unfired {number : Nat} (fresh : before.queue.nextJob ≤ number) :
      ∀ claim ∈ after.fired, claim.id ≠ number := by
    intro claim member own
    have low : claim.id < before.queue.nextJob := by
      rcases step.fired_claims claim member with old | ⟨stored, _, claimed⟩
      · exact (booked.fired claim old).1.below
      · exact (booked.claims claim claimed).below
    omega
  intro id schedule found
  have kept (same : after.schedule id = before.schedule id) : schedule.Ended env ∨
      ∃ number, after.queue.contents number =
          some (timerContents (.schedule id schedule.nextRunAt) schedule.nextRunAt) ∧
        ∀ claim ∈ after.fired, claim.id ≠ number := by
    have present : before.schedule id = some schedule := same.symm.trans found
    rcases primed id schedule present with ended | ⟨number, queued, waiting⟩
    · exact .inl ended
    · by_cases returned : ∃ claim ∈ after.fired, claim.id = number
      · obtain ⟨claim, member, rfl⟩ := returned
        rcases step.fired_claims claim member with old | ⟨stored, rfl, claimed⟩
        · exact absurd rfl (waiting claim old)
        · have payload := booked.claimed_payload claimed queued
          have fresh : claim ∉ before.fired := fun old => waiting claim old rfl
          have advanced := step.fired_advances keyed payload present (.inr ⟨member, fresh⟩)
          rw [found] at advanced
          exact .inl (ScheduleRecord.ended_of_advanced forward (Option.some.inj advanced).symm)
      · refine .inr ⟨number, ?_, fun claim member own => returned ⟨claim, member, own⟩⟩
        rcases Reachable.timers reached taken number _ _ _ queued with same | ⟨claim, member, _, own⟩
        · exact same
        · exact absurd own (waiting claim member)
  cases Reachable.scheduled reached taken id with
  | kept same => exact kept same
  | added added absent present admitted primed =>
      rw [found] at present
      cases present
      obtain ⟨number, fresh, queued⟩ := primed
      exact .inr ⟨number, queued, unfired fresh⟩
  | fired old claim fires payload present advanced promised primed =>
      rw [found] at advanced
      cases advanced
      cases following : env.nextAfter old.cron old.nextRunAt with
      | none =>
          refine .inl ⟨?_, ?_⟩
          · simp [ScheduleRecord.advanced, following]
          · simp [ScheduleRecord.advanced, following]
      | some time =>
          obtain ⟨number, fresh, queued⟩ := primed time following
          refine .inr ⟨number, ?_, unfired fresh⟩
          simpa [ScheduleRecord.advanced, following] using queued
  | dropped absent =>
      rw [found] at absent
      cases absent

theorem Reachable.primed (reached : Reachable env system) (forward : env.Forward) :
    system.Primed env := by
  apply Machine.Reachable.invariant (System.Primed env) reached
  · intro id schedule found
    cases found
  · intro before event after reached primed taken
    exact primed_step reached forward taken primed

/-! ## Stale timers -/

/-- Firing a schedule that has ended writes it as it is. -/
theorem fireSchedule_ended {txn : Txn} {schedule : ScheduleRecord} (ended : schedule.Ended env)
    (promised : (txn.getPromise (firedId schedule)).isSome = true) :
    fireSchedule env txn schedule = txn.putSchedule schedule := by
  obtain ⟨promise, found⟩ := Option.isSome_iff_exists.mp promised
  obtain ⟨none_, last⟩ := ended
  rw [fireSchedule_eq, found]
  unfold advanceSchedule
  rw [none_, ← last]

theorem kv_putSchedule {schedule : ScheduleRecord}
    (found : before.schedule schedule.id = some schedule) :
    ((before.txn env).putSchedule schedule).commit.kv = before.kv := by
  apply Txn.kv_unchanged
  · exact Table.read_empty before.kv.promises
  · exact Table.read_empty before.kv.tasks
  · intro id
    have same := Txn.getSchedule_putSchedule (before.txn env) schedule id
    rw [System.getSchedule_txn] at same
    apply same.trans
    split
    · rename_i own
      rw [← own]
      exact found.symm
    · rfl
  · exact Table.read_empty before.kv.branches

/-- A timer for another time than `nextRunAt`, or for a time that has fired, changes nothing. -/
theorem Step.fired_stale {claim : Claim} {stored : Bool} {schedule : ScheduleRecord}
    {times : List Int} {time : Int} (step : Step env before (.fire claim stored) after)
    (keyed : (before.txn env).Keyed) (fired : schedule.Fired env times)
    (promised : ∀ time ∈ times, (before.promise (schedule.expandedAt time)).isSome = true)
    (found : before.schedule id = some schedule)
    (payload : claim.payload = .timer (.schedule id time))
    (stale : time ∈ times ∨ time ≠ schedule.nextRunAt) :
    after.kv = before.kv ∧ after.queue = before.queue ∧ after.held = before.held ∧
      after.log = before.log := by
  have present : (before.txn env).getSchedule id = some schedule := by
    rw [System.getSchedule_txn]
    exact found
  by_cases current : schedule.nextRunAt = time
  · subst current
    have member : schedule.nextRunAt ∈ times := stale.resolve_right (by simp)
    have ended : schedule.Ended env := by
      rcases fired.next with ⟨_, ahead⟩ | ended
      · have before_ := ahead _ member
        omega
      · exact ended
    have named : schedule.id = id := keyed.schedule _ _ present
    have runs : fire env (before.txn env) (.schedule id schedule.nextRunAt) =
        ((before.txn env).putSchedule schedule, .commit) := by
      have promised : ((before.txn env).getPromise (firedId schedule)).isSome = true := by
        rw [System.getPromise_txn]
        exact promised _ member
      simp [fire, present, fireSchedule_ended ended promised]
    cases step with
    | unfired claim timer txn unlocked inside timed own fired =>
        rw [payload] at own
        cases own
        rw [runs] at fired
        cases fired
        exact ⟨rfl, rfl, rfl, List.append_nil _⟩
    | fired claim timer txn unlocked inside timed own fired =>
        rw [payload] at own
        cases own
        rw [runs] at fired
        cases fired
        refine ⟨kv_putSchedule ?_, rfl, rfl, List.append_nil _⟩
        rw [named]
        exact found
    | outlived claim stored timer txn exit unlocked inside timed own fired idle =>
        rw [payload] at own
        cases own
        rw [runs] at fired
        cases fired
        exact absurd rfl idle
  · have runs : fire env (before.txn env) (.schedule id time) = (before.txn env, .drop) := by
      simp [fire, present, current]
    cases step with
    | unfired claim timer txn unlocked inside timed own fired =>
        rw [payload] at own
        cases own
        rw [runs] at fired
        cases fired
    | fired claim timer txn unlocked inside timed own fired =>
        rw [payload] at own
        cases own
        rw [runs] at fired
        cases fired
    | outlived claim stored timer txn exit unlocked inside timed own fired idle =>
        rw [payload] at own
        cases own
        rw [runs] at fired
        cases fired
        exact ⟨rfl, rfl, rfl, List.append_nil _⟩

/-- In every run each schedule has fired at its first occurrences, in order and once each, with a
promise for each firing, and has a job in the queue of timers for the next one unless it has ended.
Only a timer for `nextRunAt` advances it, and a repeat changes nothing. -/
theorem schedules_fire_once (history : History env past system) (forward : env.Forward)
    (schedule : ScheduleRecord) (found : system.schedule id = some schedule) :
    (firings id past).reverse.map some = (List.range (firings id past).length).map
        (env.occurrence schedule.cron schedule.createdAt) ∧
    (schedule.Ended env ∨ env.occurrence schedule.cron schedule.createdAt
        (firings id past).length = some schedule.nextRunAt) ∧
    schedule.lastRunAt = (firings id past).head? ∧
    (∀ time ∈ firings id past, (system.promise (schedule.expandedAt time)).isSome = true) ∧
    (Text.holds schedule.promiseId "{{.timestamp}}" →
      ((firings id past).map schedule.expandedAt).Nodup) ∧
    (schedule.Ended env ∨ ∃ (number : Nat) (job : Job Payload) (runAt : Nat),
      system.queue.jobs[number]? = some job ∧ job.queue = Keys.timerQueue ∧
        job.payload = .timer (.schedule id schedule.nextRunAt) ∧ job.runAt = some runAt ∧
        (runAt : Int) = schedule.nextRunAt) ∧
    ∀ claim stored after time, step env system (.fire claim stored) = some after →
      claim.payload = .timer (.schedule id time) →
      (stored = true → time = schedule.nextRunAt →
        after.schedule id = some (schedule.advanced env)) ∧
      (time ∈ firings id past ∨ time ≠ schedule.nextRunAt → after.kv = system.kv ∧
        after.queue = system.queue ∧ after.held = system.held ∧ after.log = system.log) := by
  have reached : Reachable env system := ⟨past, history⟩
  have keyed : (system.txn env).Keyed := Reachable.keyed reached
  obtain ⟨fired, promised⟩ := History.fired history forward id schedule found
  refine ⟨fired.occurrences, ?_, fired.last, promised, fired.distinct, ?_, ?_⟩
  · rcases fired.next with ⟨next, _⟩ | ended
    · exact .inr next
    · exact .inl ended
  · rcases Reachable.primed reached forward id schedule found with ended | ⟨number, queued, _⟩
    · exact .inl ended
    · have sound := Reachable.schedules reached forward id schedule found
      have started := sound.started
      have ahead := sound.ahead
      obtain ⟨job, stored, contents⟩ := Option.map_eq_some_iff.mp queued
      refine .inr ⟨number, job, schedule.nextRunAt.toNat, stored, congrArg (·.1) contents,
        congrArg (·.2.1) contents, congrArg (·.2.2) contents, ?_⟩
      omega
  · intro claim stored after time taken payload
    have step := step_cases taken
    constructor
    · rintro committed rfl
      exact step.fired_advances keyed payload found (.inl committed)
    · intro stale
      exact step.fired_stale keyed fired promised found payload stale

end

theorem schedules_fire_once_tick :
    ∃ schedule, tickTrace.2.schedule "tick" = some schedule ∧
      schedule.lastRunAt = some 60000 ∧ schedule.nextRunAt = 120000 ∧
      (tickTrace.2.promise (schedule.expandedAt 60000)).isSome = true ∧
      ∃ (number : Nat) (job : Job Payload), tickTrace.2.queue.jobs[number]? = some job ∧
        job.payload = .timer (.schedule "tick" 120000) := by
  have stored : (tickTrace.2.schedule "tick").any (fun schedule =>
      schedule.nextRunAt = 120000 ∧ schedule.cron = "* * * * *") = true := by
    decide
  have once : firings "tick" tickTrace.1 = [60000] := by decide
  obtain ⟨schedule, found, holds⟩ := (Option.any_eq_true _ _).mp stored
  obtain ⟨next, cron⟩ := of_decide_eq_true holds
  obtain ⟨_, _, last, promised, _, primed, _⟩ :=
    schedules_fire_once tick_history sample_forward schedule found
  rw [once] at last promised
  refine ⟨schedule, found, last, next, promised 60000 (by simp), ?_⟩
  rcases primed with ended | ⟨number, job, runAt, queued, _, payload, _⟩
  · rw [ScheduleRecord.Ended, cron, next] at ended
    exact absurd ended.1 (by decide)
  · rw [next] at payload
    exact ⟨number, job, queued, payload⟩

end Resonate
