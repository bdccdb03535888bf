import Resonate.Runs

set_option autoImplicit false

/-! The jobs a move enqueues: the dispatches of tasks, and the messages and timers. -/

namespace Resonate

open Kernel
open LeaseQueue (EnqueueRequest)

/-- Whether a request is for a message or a timer. -/
def announces (request : EnqueueRequest Payload) : Bool :=
  match request.payload with
  | .execute _ => false
  | .unblock _ | .timer _ => true

/-- The messages and timers among enqueued jobs. -/
def announcementsOf (enqueues : List (EnqueueRequest Payload)) : List (EnqueueRequest Payload) :=
  enqueues.filter announces

theorem announcementsOf_append (first second : List (EnqueueRequest Payload)) :
    announcementsOf (first ++ second) = announcementsOf first ++ announcementsOf second :=
  List.filter_append first second

theorem announcementsOf_executes {enqueues : List (EnqueueRequest Payload)}
    (executes : ∀ request ∈ enqueues, ∃ id, request.payload = .execute id) :
    announcementsOf enqueues = [] := by
  apply List.filter_eq_nil_iff.mpr
  intro request member
  obtain ⟨id, payload⟩ := executes request member
  simp [announces, payload]

theorem announcementsOf_all {enqueues : List (EnqueueRequest Payload)}
    (all : ∀ request ∈ enqueues, announces request = true) :
    announcementsOf enqueues = enqueues :=
  List.filter_eq_self.mpr all

theorem announcementsOf_messages (env : Env) (message : Message) (listeners : List String) :
    announcementsOf (listeners.map fun address => Txn.unblockRequest env address message) =
      listeners.map fun address => Txn.unblockRequest env address message := by
  apply announcementsOf_all
  intro request member
  obtain ⟨address, _, rfl⟩ := List.mem_map.mp member
  rfl

theorem mem_announcementsOf {enqueues : List (EnqueueRequest Payload)}
    {request : EnqueueRequest Payload} :
    request ∈ announcementsOf enqueues ↔ request ∈ enqueues ∧ announces request = true :=
  List.mem_filter

theorem mem_dispatchesOf {id : String} {enqueues : List (EnqueueRequest Payload)}
    {request : EnqueueRequest Payload} :
    request ∈ dispatchesOf id enqueues ↔ request ∈ enqueues ∧ request.payload = .execute id := by
  unfold dispatchesOf
  rw [List.mem_filter, decide_eq_true_iff]

/-- The messages and timers a move enqueues. -/
def Label.announcements (env : Env) (txn : Txn) : Label → List (EnqueueRequest Payload)
  | .create data createdAt _ =>
      let promise := (newPromise data createdAt txn.now).record
      if promise.isPending ∧ promise.isExternal then
        [Txn.timerRequest (.promiseTimeout promise.id) promise.timeoutAt]
      else []
  | .addSchedule schedule =>
      [Txn.timerRequest (.schedule schedule.id schedule.nextRunAt) schedule.nextRunAt]
  | .advance schedule =>
      ((env.nextAfter schedule.cron schedule.nextRunAt).map fun next =>
        Txn.timerRequest (.schedule schedule.id next) next).toList
  | label =>
      match label.settles txn.now with
      | some (promise, final) => promise.listeners.map fun address =>
          Txn.unblockRequest env address (.unblock final.record)
      | none => []

/-- Why a move dispatches a task, and the time it defers the dispatch to. -/
def Label.Dispatches (txn : Txn) (id : String) (runAt : Option Int) : Label → Prop
  | .create data _ mode => data.id = id ∧ txn.now < data.timeoutAt ∧
      match mode with
      | .acquire _ ttl => runAt = some (Text.saturatingAdd txn.now ttl)
      | .dispatch => runAt = delayOf data.tags txn.now
  | .proceed task => task.id = id ∧ task.state = .halted ∧
      ∀ job, task.job = some job → txn.queue.jobs[job]? = none
  | _ => runAt = none ∧ ∃ task, txn.getTask id = some task ∧ task.state = .suspended

section

variable {env : Env} {txn next : Txn} {label : Label}

theorem announcements_settled (promise final : StoredPromise)
    (settles : label.settles txn.now = some (promise, final))
    (sameListeners : final.listeners = promise.listeners) :
    announcementsOf (settleChain env txn final).1.enqueues =
      announcementsOf txn.enqueues ++ label.announcements env txn := by
  obtain ⟨executes, enqueued, dispatches⟩ := enqueues_settleChain env txn final
  rw [enqueued, announcementsOf_append, announcementsOf_append,
    announcementsOf_executes dispatches, List.append_nil, sameListeners]
  rw [announcementsOf_messages]
  cases label with
  | expire stored => cases settles; rfl
  | strike stored => cases settles; rfl
  | settle stored state value => cases settles; rfl
  | _ => cases settles

theorem announcements_resumed (awaiter awaited : String) (wake : Wake) :
    announcementsOf (resumeAwaiter env txn awaiter awaited wake).enqueues =
      announcementsOf txn.enqueues := by
  rw [enqueues_resumeAwaiter, announcementsOf_append]
  have executes : announcementsOf
      (((txn.getTask awaiter).map (StoredTask.redispatch env txn.queue.nextJob)).getD []) = [] := by
    apply announcementsOf_executes
    intro request member
    cases stored : txn.getTask awaiter with
    | none => simp [stored] at member
    | some task =>
        rw [stored, Option.map_some, Option.getD_some, StoredTask.redispatch] at member
        split at member
        · rw [List.mem_singleton.mp member]
          exact ⟨task.id, rfl⟩
        · cases member
  rw [executes, List.append_nil]

theorem startRequests_executes (promise : PromiseRecord) (target : String) (mode : CreateMode)
    (now : Int) (job : Nat) : ∀ request ∈ startRequests env promise target mode now job,
      ∃ id, request.payload = .execute id := by
  intro request member
  unfold startRequests at member
  split at member
  · cases member
  · cases mode with
    | dispatch =>
        rw [List.mem_singleton.mp member]
        exact ⟨promise.id, rfl⟩
    | acquire pid ttl =>
        rw [List.mem_singleton.mp member]
        exact ⟨promise.id, rfl⟩

theorem announcements_created (data : PromiseCreateData) (createdAt : Option Int)
    (mode : CreateMode) :
    announcementsOf (createPromise env txn data createdAt mode).1.enqueues =
      announcementsOf txn.enqueues ++
        (Label.create data createdAt mode).announcements env txn := by
  rw [enqueues_createPromise, announcementsOf_append]
  congr 1
  unfold createRequests
  dsimp only
  rw [announcementsOf_append]
  have timers : announcementsOf
      (if (newPromise data createdAt txn.now).record.isPending ∧
          (newPromise data createdAt txn.now).record.isExternal then
        [Txn.timerRequest (.promiseTimeout (newPromise data createdAt txn.now).record.id)
          (newPromise data createdAt txn.now).record.timeoutAt]
      else []) = (Label.create data createdAt mode).announcements env txn := by
    unfold Label.announcements
    dsimp only
    split
    · rfl
    · rfl
  rw [timers]
  split
  · rw [announcementsOf_executes (startRequests_executes _ _ _ _ _), List.nil_append]
  · rfl

theorem enqueues_advanceSchedule (schedule : ScheduleRecord) :
    (advanceSchedule env txn schedule).enqueues = txn.enqueues ++
      ((env.nextAfter schedule.cron schedule.nextRunAt).map fun next =>
        Txn.timerRequest (.schedule schedule.id next) next).toList := by
  unfold advanceSchedule
  cases env.nextAfter schedule.cron schedule.nextRunAt with
  | some next => rfl
  | none => exact (List.append_nil _).symm

theorem announcements_proceed (task : StoredTask) :
    announcementsOf (Kernel.proceed env txn task).enqueues = announcementsOf txn.enqueues := by
  unfold Kernel.proceed
  dsimp only
  split
  · rfl
  · change announcementsOf (txn.enqueues ++ [_]) = _
    rw [announcementsOf_append]
    exact List.append_nil _

/-- Every move enqueues exactly its messages and timers, besides dispatches. -/
theorem Move.announcements (move : Move env txn label next) :
    announcementsOf next.enqueues =
      announcementsOf txn.enqueues ++ label.announcements env txn := by
  have touched (touches : Txn.Touches txn next) :
      announcementsOf next.enqueues = announcementsOf txn.enqueues ++ [] := by
    rw [touches.enqueues, List.append_nil]
  cases move with
  | expire promise stored pending due =>
      exact announcements_settled promise (expiredPromise promise) rfl rfl
  | strike promise stored pending =>
      exact announcements_settled promise (expiredPromise promise) rfl rfl
  | settle promise state value stored pending early =>
      exact announcements_settled promise (settledPromise promise state value txn.now) rfl rfl
  | create data createdAt mode absent admitted => exact announcements_created data createdAt mode
  | resume awaited awaiter stored settled external valid opened =>
      exact (announcements_resumed _ _ _).trans (List.append_nil _).symm
  | acquire task pid ttl stored pending renewed =>
      change announcementsOf (txn.renew task.id (leaseOf ttl)).1.enqueues = _
      rw [(Txn.renew_touches txn task.id (leaseOf ttl)).enqueues]
      exact (List.append_nil _).symm
  | proceed task stored halted =>
      exact (announcements_proceed task).trans (List.append_nil _).symm
  | addSchedule schedule absent following created unfired named plain targeted timeout =>
      exact announcementsOf_append txn.enqueues [_]
  | advance schedule stored =>
      rw [enqueues_advanceSchedule, announcementsOf_append]
      congr 1
      apply announcementsOf_all
      intro request member
      obtain ⟨following, _, rfl⟩ := Option.map_eq_some_iff.mp (Option.mem_toList.mp member)
      rfl
  | check task => exact touched (Txn.holds_touches _ _)
  | renew task lease => exact touched (Txn.renew_touches _ _ _)
  | claim task job lease stored pending dispatched =>
      exact touched (Txn.claimJob_touches _ _ _ _)
  | _ => exact (List.append_nil _).symm

/-- What a move announces: a settled promise to a listener, the deadline of a created promise, or
the next firing of a schedule. -/
inductive Announced (env : Env) (txn : Txn) : Label → EnqueueRequest Payload → Prop
  | unblock (label : Label) (promise final : StoredPromise) (address : String)
      (settles : label.settles txn.now = some (promise, final))
      (listed : address ∈ promise.listeners) :
      Announced env txn label (Txn.unblockRequest env address (.unblock final.record))
  | deadline (data : PromiseCreateData) (createdAt : Option Int) (mode : CreateMode)
      (pending : (newPromise data createdAt txn.now).record.isPending = true)
      (external : (newPromise data createdAt txn.now).record.isExternal = true) :
      Announced env txn (.create data createdAt mode)
        (Txn.timerRequest (.promiseTimeout data.id) data.timeoutAt)
  | added (schedule : ScheduleRecord) : Announced env txn (.addSchedule schedule)
      (Txn.timerRequest (.schedule schedule.id schedule.nextRunAt) schedule.nextRunAt)
  | advanced (schedule : ScheduleRecord) (next : Int)
      (later : env.nextAfter schedule.cron schedule.nextRunAt = some next) :
      Announced env txn (.advance schedule) (Txn.timerRequest (.schedule schedule.id next) next)

theorem mem_announcements {request : EnqueueRequest Payload}
    (member : request ∈ label.announcements env txn) : Announced env txn label request := by
  have settled {promise final : StoredPromise}
      (settles : label.settles txn.now = some (promise, final))
      (member : request ∈ promise.listeners.map fun address =>
        Txn.unblockRequest env address (.unblock final.record)) :
      Announced env txn label request := by
    obtain ⟨address, listed, rfl⟩ := List.mem_map.mp member
    exact .unblock label promise final address settles listed
  cases label with
  | create data createdAt mode =>
      unfold Label.announcements at member
      dsimp only at member
      split at member
      · rename_i external
        rw [List.mem_singleton.mp member, newPromise_id, newPromise_timeoutAt]
        exact .deadline data createdAt mode external.1 external.2
      · cases member
  | addSchedule schedule =>
      rw [List.mem_singleton.mp member]
      exact .added schedule
  | advance schedule =>
      obtain ⟨next, later, rfl⟩ := Option.map_eq_some_iff.mp (Option.mem_toList.mp member)
      exact .advanced schedule next later
  | expire promise => exact settled rfl member
  | strike promise => exact settled rfl member
  | settle promise state value => exact settled rfl member
  | _ => cases member

/-- What holds of the messages and timers of every permitted move holds of those of a trail. -/
theorem Trail.announced {permits : Label → Prop} (holds : EnqueueRequest Payload → Prop)
    (trail : Trail env permits txn next)
    (each : ∀ first label second, permits label → Move env first label second →
      first.now = txn.now → ∀ request ∈ label.announcements env first, holds request) :
    ∀ request ∈ announcementsOf next.enqueues,
      request ∈ announcementsOf txn.enqueues ∨ holds request := by
  induction trail with
  | refl txn => exact fun request member => .inl member
  | step label permitted move rest ih =>
      intro request member
      have later := ih (fun first label second permitted moved now =>
        each first label second permitted moved (now.trans move.fixed.now)) request member
      rw [move.announcements, List.mem_append, or_assoc] at later
      rcases later with old | added | held
      · exact .inl old
      · exact .inr (each _ _ _ permitted move rfl request added)
      · exact .inr held

/-! ## Dispatches -/

theorem dispatches_created (data : PromiseCreateData) (createdAt : Option Int) (mode : CreateMode)
    (id : String) :
    dispatchesOf id (createPromise env txn data createdAt mode).1.enqueues =
        dispatchesOf id txn.enqueues ∨
      ∃ target job runAt, (Label.create data createdAt mode).Dispatches txn id runAt ∧
        dispatchesOf id (createPromise env txn data createdAt mode).1.enqueues =
          dispatchesOf id txn.enqueues ++ [Txn.executeRequest env target id job runAt] := by
  rw [enqueues_createPromise, dispatchesOf_append]
  unfold createRequests
  dsimp only
  rw [dispatchesOf_append]
  have timers (promise : PromiseRecord) : dispatchesOf id
      (if promise.isPending ∧ promise.isExternal then
        [Txn.timerRequest (.promiseTimeout promise.id) promise.timeoutAt]
      else []) = [] := by
    split
    · simp [dispatchesOf, Txn.timerRequest]
    · rfl
  rw [timers, List.append_nil]
  split
  · rename_i target tagged
    unfold startRequests
    rw [newPromise_timeoutAt, newPromise_tags, newPromise_id]
    split
    · exact .inl (List.append_nil _)
    · rename_i early
      have ahead : txn.now < data.timeoutAt := by omega
      by_cases own : data.id = id
      · subst own
        cases mode with
        | dispatch =>
            refine .inr ⟨target, txn.queue.nextJob, _, ⟨rfl, ahead, rfl⟩, ?_⟩
            rw [dispatchesOf_execute, if_pos rfl]
        | acquire pid ttl =>
            refine .inr ⟨target, txn.queue.nextJob, _, ⟨rfl, ahead, rfl⟩, ?_⟩
            rw [dispatchesOf_execute, if_pos rfl]
      · apply Or.inl
        cases mode with
        | dispatch =>
            rw [dispatchesOf_execute, if_neg own]
            exact List.append_nil _
        | acquire pid ttl =>
            rw [dispatchesOf_execute, if_neg own]
            exact List.append_nil _
  · exact .inl (List.append_nil _)

/-- A wake-up dispatches a task that is asleep. -/
theorem redispatch_cases (keyed : txn.Keyed) (id : String) (job : Nat) :
    ((txn.getTask id).map (StoredTask.redispatch env job)).getD [] = [] ∨
      ∃ target, (∃ task, txn.getTask id = some task ∧ task.state = .suspended) ∧
        ((txn.getTask id).map (StoredTask.redispatch env job)).getD [] =
          [Txn.executeRequest env target id job none] := by
  cases stored : txn.getTask id with
  | none => exact .inl rfl
  | some task =>
      rw [Option.map_some, Option.getD_some, StoredTask.redispatch]
      by_cases asleep : task.state = .suspended
      · rw [if_pos asleep, keyed.task id task stored]
        exact .inr ⟨task.target, ⟨task, rfl, asleep⟩, rfl⟩
      · rw [if_neg asleep]
        exact .inl rfl

theorem dispatches_settled (keyed : txn.Keyed) (promise final : StoredPromise)
    (settles : label.settles txn.now = some (promise, final))
    (settled : final.record.isPending = false) (id : String) :
    dispatchesOf id (settleChain env txn final).1.enqueues = dispatchesOf id txn.enqueues ∨
      ∃ target job runAt, label.Dispatches txn id runAt ∧
        dispatchesOf id (settleChain env txn final).1.enqueues =
          dispatchesOf id txn.enqueues ++ [Txn.executeRequest env target id job runAt] := by
  obtain ⟨job, _, _, dispatches⟩ := settleChain_task env keyed final settled id
  rw [dispatches]
  split
  · rcases redispatch_cases keyed id job with idle | ⟨target, asleep, woken⟩
    · rw [idle]
      exact .inl (List.append_nil _)
    · rw [woken]
      refine .inr ⟨target, job, none, ?_, rfl⟩
      cases label with
      | expire stored => exact ⟨rfl, asleep⟩
      | strike stored => exact ⟨rfl, asleep⟩
      | settle stored state value => exact ⟨rfl, asleep⟩
      | _ => cases settles
  · exact .inl (List.append_nil _)

theorem dispatches_proceed (task : StoredTask) (halted : task.state = .halted) (id : String) :
    dispatchesOf id (Kernel.proceed env txn task).enqueues = dispatchesOf id txn.enqueues ∨
      ∃ target job runAt, (Label.proceed task).Dispatches txn id runAt ∧
        dispatchesOf id (Kernel.proceed env txn task).enqueues =
          dispatchesOf id txn.enqueues ++ [Txn.executeRequest env target id job runAt] := by
  unfold Kernel.proceed
  dsimp only
  split
  · exact .inl rfl
  · rename_i missing
    change dispatchesOf id (txn.enqueues ++ [Txn.executeRequest env task.target task.id
      txn.queue.nextJob none]) = _ ∨ ∃ target job runAt, _ ∧
        dispatchesOf id (txn.enqueues ++ [Txn.executeRequest env task.target task.id
          txn.queue.nextJob none]) = _
    rw [dispatchesOf_append, dispatchesOf_execute]
    by_cases own : task.id = id
    · rw [if_pos own, own]
      refine .inr ⟨task.target, txn.queue.nextJob, none, ⟨own, halted, ?_⟩, rfl⟩
      intro job recorded
      have absent : ¬ (txn.queue.jobs[job]?).isSome = true := fun present =>
        missing ((Option.any_eq_true _ _).mpr ⟨job, recorded, present⟩)
      simpa using absent
    · rw [if_neg own]
      exact .inl (List.append_nil _)

/-- A move dispatches a task at most once, and only for the listed reasons. -/
theorem Move.dispatches (move : Move env txn label next) (keyed : txn.Keyed) (id : String) :
    dispatchesOf id next.enqueues = dispatchesOf id txn.enqueues ∨
      ∃ target job runAt, label.Dispatches txn id runAt ∧
        dispatchesOf id next.enqueues =
          dispatchesOf id txn.enqueues ++ [Txn.executeRequest env target id job runAt] := by
  have plain (request : EnqueueRequest Payload) (payload : request.payload ≠ .execute id) :
      dispatchesOf id (txn.enqueues ++ [request]) = dispatchesOf id txn.enqueues := by
    rw [dispatchesOf_append]
    simp [dispatchesOf, payload]
  cases move with
  | expire promise stored pending due =>
      exact dispatches_settled keyed promise (expiredPromise promise) rfl
        (expiredPromise_settled promise) id
  | strike promise stored pending =>
      exact dispatches_settled keyed promise (expiredPromise promise) rfl
        (expiredPromise_settled promise) id
  | settle promise state value stored pending early =>
      exact dispatches_settled keyed promise (settledPromise promise state value txn.now) rfl
        (settledPromise_settled promise state value txn.now) id
  | create data createdAt mode absent admitted => exact dispatches_created data createdAt mode id
  | resume awaited awaiter stored settled external valid opened =>
      rw [dispatches_resumeAwaiter keyed]
      split
      · rcases redispatch_cases keyed id txn.queue.nextJob with idle | ⟨target, asleep, woken⟩
        · rw [idle]
          exact .inl (List.append_nil _)
        · rw [woken]
          exact .inr ⟨target, txn.queue.nextJob, none, ⟨rfl, asleep⟩, rfl⟩
      · exact .inl (List.append_nil _)
  | acquire task pid ttl stored pending renewed =>
      exact .inl (congrArg (dispatchesOf id) (Txn.renew_touches txn task.id (leaseOf ttl)).enqueues)
  | proceed task stored halted => exact dispatches_proceed task halted id
  | addSchedule schedule absent following created unfired named plain_ targeted timeout =>
      exact .inl (plain _ (by simp [Txn.timerRequest]))
  | advance schedule stored =>
      rw [enqueues_advanceSchedule]
      cases env.nextAfter schedule.cron schedule.nextRunAt with
      | some following => exact .inl (plain _ (by simp [Txn.timerRequest]))
      | none => exact .inl (congrArg (dispatchesOf id) (List.append_nil _))
  | check task => exact .inl (congrArg (dispatchesOf id) (Txn.holds_touches txn task).enqueues)
  | renew task lease =>
      exact .inl (congrArg (dispatchesOf id) (Txn.renew_touches txn task lease).enqueues)
  | claim task job lease stored pending dispatched =>
      exact .inl (congrArg (dispatchesOf id) (Txn.claimJob_touches txn task.id job lease).enqueues)
  | _ => exact .inl rfl

end

end Resonate
