import Resonate.Outstanding

set_option autoImplicit false

/-! What moves do to the stored schedules. -/

namespace Resonate

open Kernel
open LeaseQueue (Queue Job EnqueueRequest)

/-- The schedule after its firing at `nextRunAt`. -/
def ScheduleRecord.advanced (env : Env) (schedule : ScheduleRecord) : ScheduleRecord :=
  { schedule with
    lastRunAt := some schedule.nextRunAt
    nextRunAt := (env.nextAfter schedule.cron schedule.nextRunAt).getD schedule.nextRunAt }

/-- A schedule as it is created at `now`. -/
structure ScheduleRecord.Admitted (env : Env) (now : Int) (schedule : ScheduleRecord) : Prop where
  next : env.nextAfter schedule.cron now = some schedule.nextRunAt
  created : schedule.createdAt = now
  unfired : schedule.lastRunAt = none
  named : schedule.id ≠ ""
  plain : Text.contains schedule.id ':' = false
  targeted : schedule.promiseTags[tagTarget]?.any env.isUrl = true
  timeout : 0 ≤ schedule.promiseTimeout

/-- What a move made at `now` does to the schedule under `id`. -/
inductive ScheduleChange (env : Env) (now : Int) (id : String) :
    Label → Option ScheduleRecord → Option ScheduleRecord → Prop
  | kept (label : Label) (schedule : Option ScheduleRecord) :
      ScheduleChange env now id label schedule schedule
  | added (schedule : ScheduleRecord) (own : schedule.id = id)
      (admitted : schedule.Admitted env now) :
      ScheduleChange env now id (.addSchedule schedule) none (some schedule)
  | advanced (schedule : ScheduleRecord) (own : schedule.id = id) :
      ScheduleChange env now id (.advance schedule) (some schedule) (some (schedule.advanced env))
  | dropped (schedule : Option ScheduleRecord) :
      ScheduleChange env now id (.dropSchedule id) schedule none

section

variable {env : Env} {txn next : Txn} {label : Label}

theorem getSchedule_advanceSchedule (schedule : ScheduleRecord) (id : String) :
    (advanceSchedule env txn schedule).getSchedule id =
      if schedule.id = id then some (schedule.advanced env) else txn.getSchedule id := by
  unfold advanceSchedule ScheduleRecord.advanced
  dsimp only
  cases env.nextAfter schedule.cron schedule.nextRunAt with
  | some following => exact Txn.getSchedule_putSchedule _ _ _
  | none => exact Txn.getSchedule_putSchedule _ _ _

theorem getSchedule_proceed (task : StoredTask) :
    (Kernel.proceed env txn task).getSchedule = txn.getSchedule := by
  unfold Kernel.proceed
  dsimp only
  split <;> rfl

/-- Every move changes each schedule in one of the listed ways. -/
theorem Move.schedule (move : Move env txn label next) (id : String) :
    ScheduleChange env txn.now id label (txn.getSchedule id) (next.getSchedule id) := by
  have kept (same : next.getSchedule = txn.getSchedule) :
      ScheduleChange env txn.now id label (txn.getSchedule id) (next.getSchedule id) := by
    rw [same]
    exact .kept label _
  cases move with
  | expire promise stored pending due => exact kept (getSchedule_settleChain _ _ _)
  | strike promise stored pending => exact kept (getSchedule_settleChain _ _ _)
  | settle promise state value stored pending early => exact kept (getSchedule_settleChain _ _ _)
  | create data createdAt mode absent admitted => exact kept (getSchedule_createPromise _ _ _ _ _)
  | register awaited awaiter awaitable valid known unlisted => exact kept rfl
  | listen awaited address awaitable valid unlisted => exact kept rfl
  | resume awaited awaiter stored settled external valid opened =>
      exact kept (getSchedule_resumeAwaiter _ _ _)
  | acquire task pid ttl stored pending renewed =>
      exact kept (Txn.renew_touches txn task.id (leaseOf ttl)).getSchedule
  | proceed task stored halted => exact kept (getSchedule_proceed task)
  | addSchedule schedule absent following created unfired named plain targeted timeout =>
      change ScheduleChange env txn.now id _ _ ((txn.putSchedule schedule).getSchedule id)
      rw [Txn.getSchedule_putSchedule]
      by_cases own : schedule.id = id
      · subst own
        rw [if_pos rfl, absent]
        exact .added schedule rfl ⟨following, created, unfired, named, plain, targeted, timeout⟩
      · rw [if_neg own]
        exact .kept _ _
  | advance schedule stored =>
      rw [getSchedule_advanceSchedule]
      by_cases own : schedule.id = id
      · subst own
        rw [if_pos rfl, stored]
        exact .advanced schedule rfl
      · rw [if_neg own]
        exact .kept _ _
  | dropSchedule dropped =>
      rw [Txn.getSchedule_deleteSchedule]
      by_cases own : dropped = id
      · subst own
        rw [if_pos rfl]
        exact .dropped _
      · rw [if_neg own]
        exact .kept _ _
  | check task => exact kept (Txn.holds_touches txn task).getSchedule
  | renew task lease => exact kept (Txn.renew_touches txn task lease).getSchedule
  | claim task job lease stored pending dispatched =>
      exact kept (Txn.claimJob_touches txn task.id job lease).getSchedule
  | _ => exact kept rfl

/-! ## Sound schedules -/

/-- Whether the next occurrence of a cron expression always lies ahead. -/
def Env.Forward (env : Env) : Prop :=
  ∀ cron time next, env.nextAfter cron time = some next → time < next

/-- A schedule fires from its creation on, for a target that is a URL. -/
structure ScheduleRecord.Sound (env : Env) (schedule : ScheduleRecord) : Prop where
  started : 0 ≤ schedule.createdAt
  ahead : schedule.createdAt < schedule.nextRunAt
  timeout : 0 ≤ schedule.promiseTimeout
  targeted : schedule.promiseTags[tagTarget]?.any env.isUrl = true
  named : schedule.id ≠ ""
  plain : Text.contains schedule.id ':' = false

theorem ScheduleRecord.Sound.advanced {schedule : ScheduleRecord} (sound : schedule.Sound env)
    (forward : env.Forward) : (schedule.advanced env).Sound env := by
  obtain ⟨started, ahead, timeout, targeted, named, plain⟩ := sound
  refine ⟨started, ?_, timeout, targeted, named, plain⟩
  unfold ScheduleRecord.advanced
  dsimp only
  cases following : env.nextAfter schedule.cron schedule.nextRunAt with
  | none => exact ahead
  | some next =>
      have later := forward _ _ _ following
      simp only [Option.getD_some]
      omega

theorem ScheduleChange.sound {now : Int} {id : String} {before after : Option ScheduleRecord}
    (change : ScheduleChange env now id label before after) (forward : env.Forward)
    (started : 0 ≤ now) (sound : ∀ schedule, before = some schedule → schedule.Sound env) :
    ∀ schedule, after = some schedule → schedule.Sound env := by
  intro schedule found
  cases change with
  | kept label schedule => exact sound _ found
  | added added own admitted =>
      cases found
      have later := forward _ _ _ admitted.next
      have created := admitted.created
      exact ⟨by omega, by omega, admitted.timeout, admitted.targeted, admitted.named,
        admitted.plain⟩
  | advanced old own =>
      cases found
      exact (sound old rfl).advanced forward
  | dropped old => cases found

variable {system : System}

/-- In every reachable state each schedule is sound and under its own id. -/
theorem Reachable.schedules (reached : Reachable env system) (forward : env.Forward) (id : String)
    (schedule : ScheduleRecord) (found : system.schedule id = some schedule) :
    schedule.Sound env := by
  obtain ⟨past, history⟩ := reached
  have invariant := History.views_invariant (fun now views => 0 ≤ now ∧
    ∀ id schedule, views.schedule id = some schedule → schedule.Sound env) history
    (Machine.meets_true past) ?_ ?_ ?_
  · exact invariant.2 id schedule found
  · refine ⟨by decide, ?_⟩
    intro id schedule found
    cases found
  · intro before time _ holds
    refine ⟨?_, holds.2⟩
    have limit : (0 : Int) ≤ Text.i64Max := by decide
    omega
  · intro event txn label next keyed permitted move holds
    refine ⟨holds.1, ?_⟩
    intro id schedule found
    exact (move.schedule id).sound forward holds.1 (holds.2 id) schedule found

end

end Resonate
