import Resonate.Outstanding
import Resonate.Registrations

set_option autoImplicit false

/-! Every promise that can be awaited has an outstanding timer for its deadline. -/

namespace Resonate

open Kernel
open LeaseQueue (Queue Job EnqueueRequest)

/-- A pending promise that can be awaited. -/
def PromiseRecord.Timed (record : PromiseRecord) : Prop :=
  record.isPending = true ∧ record.isExternal = true

section

variable {env : Env} {txn next : Txn} {label : Label}

/-- What a transaction has enqueued of messages and timers stays enqueued. -/
theorem Move.enqueued (move : Move env txn label next) {request : EnqueueRequest Payload}
    (announced : announces request = true) (member : request ∈ txn.enqueues) :
    request ∈ next.enqueues := by
  have inside : request ∈ announcementsOf next.enqueues := by
    rw [move.announcements]
    apply List.mem_append_left
    exact mem_announcementsOf.mpr ⟨member, announced⟩
  exact (mem_announcementsOf.mp inside).1

/-- The deadline of a promise is ahead and its timer is enqueued. -/
def Txn.Arms (txn : Txn) (id : String) (record : PromiseRecord) : Prop :=
  txn.now < record.timeoutAt ∧
    Txn.timerRequest (.promiseTimeout id) record.timeoutAt ∈ txn.enqueues

theorem Move.arms (move : Move env txn label next) {id : String} {record : PromiseRecord}
    (arms : txn.Arms id record) : next.Arms id record := by
  obtain ⟨ahead, member⟩ := arms
  refine ⟨?_, move.enqueued rfl member⟩
  rw [move.fixed.now]
  exact ahead

/-- The timer of a promise is enqueued when it is created. -/
theorem arms_created (move : Move env txn label next) {data : PromiseCreateData}
    {createdAt : Option Int} {mode : CreateMode} (creates : label = .create data createdAt mode)
    (timed : (newPromise data createdAt txn.now).record.Timed) :
    next.Arms data.id (newPromise data createdAt txn.now).record := by
  have ahead : txn.now < data.timeoutAt := by
    have pending := timed.1
    rw [newPromise_pending] at pending
    exact of_decide_eq_true pending
  have inside : Txn.timerRequest (.promiseTimeout data.id) data.timeoutAt ∈
      announcementsOf next.enqueues := by
    rw [move.announcements, creates]
    apply List.mem_append_right
    unfold Label.announcements
    dsimp only
    rw [if_pos ⟨timed.1, timed.2⟩]
    simp
  refine ⟨?_, ?_⟩
  · rw [move.fixed.now, newPromise_timeoutAt]
    exact ahead
  · rw [newPromise_timeoutAt]
    exact (mem_announcementsOf.mp inside).1

/-- A timed promise was timed before, or has its timer enqueued. -/
def Txn.Covers (start txn : Txn) : Prop :=
  ∀ id promise, txn.getPromise id = some promise → promise.record.Timed →
    (∃ old, start.getPromise id = some old ∧ old.record.Timed ∧
      old.record.timeoutAt = promise.record.timeoutAt) ∨ txn.Arms id promise.record

theorem Move.covers {start : Txn} (move : Move env txn label next) (keyed : txn.Keyed)
    (covers : start.Covers txn) : start.Covers next := by
  intro id promise found timed
  have kept (old : StoredPromise) (stored : txn.getPromise id = some old)
      (same : old.record = promise.record) : (∃ old, start.getPromise id = some old ∧
        old.record.Timed ∧ old.record.timeoutAt = promise.record.timeoutAt) ∨
        next.Arms id promise.record := by
    rcases covers id old stored (same ▸ timed) with earlier | armed
    · rw [← same]
      exact .inl earlier
    · rw [← same]
      exact .inr (move.arms armed)
  have change := (move.change keyed id).promise
  change PromiseChange txn.now id label (txn.getPromise id) (next.getPromise id) at change
  rw [found] at change
  generalize before : txn.getPromise id = first at change
  cases change with
  | kept same => exact kept promise before rfl
  | settled old final settles own pending timely =>
      have settled := (Label.settles_final settles).1
      have open_ : final.record.isPending = true := timed.1
      simp [settled] at open_
  | created data createdAt mode creates own =>
      subst own
      exact .inr (arms_created move creates timed)
  | registered awaited awaiter registers own pending external => exact kept awaited before rfl
  | listened awaited address listens own pending external => exact kept awaited before rfl

theorem Trail.covers {permits : Label → Prop} (trail : Trail env permits txn next)
    (keyed : txn.Keyed) : txn.Covers next := by
  apply trail.preserves txn.Covers keyed
  · intro id promise found timed
    exact .inl ⟨promise, found, timed, rfl⟩
  · intro first label second keyed _ move covers
    exact move.covers keyed covers

/-! ## Firings -/

/-- The timer of a deadline settles a pending promise and otherwise changes nothing. -/
theorem fire_timeout (env : Env) (txn : Txn) (id : String) :
    (∃ promise, txn.getPromise id = some promise ∧ promise.record.isPending = true ∧
      fire env txn (.promiseTimeout id) = ((expirePromise env txn promise).1, .commit)) ∨
    (fire env txn (.promiseTimeout id) = (txn, .drop) ∧
      ∀ promise, txn.getPromise id = some promise → promise.record.isPending = false) := by
  unfold fire
  dsimp only
  cases stored : txn.getPromise id with
  | none =>
      refine .inr ⟨rfl, ?_⟩
      intro promise found
      cases found
  | some promise =>
      cases pending : promise.record.isPending with
      | true => exact .inl ⟨promise, rfl, pending, by simp [pending]⟩
      | false =>
          refine .inr ⟨by simp [pending], ?_⟩
          intro other found
          cases found
          exact pending

variable {before after system : System} {claim : Claim} {stored : Bool} {id : String}

/-- A firing of a deadline that returned leaves the promise settled. -/
theorem Step.fired_settled (keyed : (before.txn env).Keyed)
    (step : Step env before (.fire claim stored) after)
    (payload : claim.payload = .timer (.promiseTimeout id))
    (returned : stored = true ∨ claim ∈ after.fired ∧ claim ∉ before.fired)
    (promise : StoredPromise) (found : after.promise id = some promise) :
    promise.record.isPending = false := by
  cases step with
  | unfired claim timer txn unlocked member timed own fired =>
      rcases returned with stored | ⟨fresh, absent⟩
      · cases stored
      · exact absurd fresh absent
  | fired claim timer txn unlocked member timed own fired =>
      rw [payload] at own
      cases own
      rcases fire_timeout env (before.txn env) id with
        ⟨old, stored, pending, struck⟩ | ⟨idle, _⟩
      · rw [struck] at fired
        cases fired
        have named : old.record.id = id := keyed.promise id old stored
        have stores : Stores _ (before.absorb (expirePromise env (before.txn env) old).1.commit) :=
          stores_of_kv rfl
        change (before.absorb (expirePromise env (before.txn env) old).1.commit).promise id = _ at found
        rw [stores.promise, expirePromise_eq, getPromise_settleChain] at found
        change (if old.record.id = id then _ else _) = _ at found
        rw [if_pos named] at found
        cases found
        exact expiredPromise_settled old
      · rw [idle] at fired
        cases fired
  | outlived claim stored timer txn exit unlocked member timed own fired idle =>
      rw [payload] at own
      cases own
      rcases fire_timeout env (before.txn env) id with ⟨old, _, _, struck⟩ | ⟨dropped, settled⟩
      · rw [struck] at fired
        cases fired
        exact absurd rfl idle
      · rw [dropped] at fired
        cases fired
        apply settled promise
        rw [System.getPromise_txn]
        exact found

/-- A firing that finds the promise settled changes no record and enqueues nothing. -/
theorem Step.fired_idle (step : Step env before (.fire claim stored) after)
    (payload : claim.payload = .timer (.promiseTimeout id))
    (settled : ∀ promise, before.promise id = some promise → promise.record.isPending = false) :
    after.kv = before.kv ∧ after.queue = before.queue ∧ after.held = before.held ∧
      after.log = before.log ∧ claim ∈ after.fired := by
  have struck (promise : StoredPromise) (found : (before.txn env).getPromise id = some promise)
      (pending : promise.record.isPending = true) : False := by
    rw [System.getPromise_txn] at found
    simp [settled promise found] at pending
  cases step with
  | unfired claim timer txn unlocked member timed own fired =>
      rw [payload] at own
      cases own
      rcases fire_timeout env (before.txn env) id with ⟨old, found, pending, _⟩ | ⟨dropped, _⟩
      · exact (struck old found pending).elim
      · rw [dropped] at fired
        cases fired
  | fired claim timer txn unlocked member timed own fired =>
      rw [payload] at own
      cases own
      rcases fire_timeout env (before.txn env) id with ⟨old, found, pending, _⟩ | ⟨dropped, _⟩
      · exact (struck old found pending).elim
      · rw [dropped] at fired
        cases fired
  | outlived claim stored timer txn exit unlocked member timed own fired idle =>
      rw [payload] at own
      cases own
      rcases fire_timeout env (before.txn env) id with ⟨old, found, pending, _⟩ | ⟨dropped, _⟩
      · exact (struck old found pending).elim
      · rw [dropped] at fired
        cases fired
        exact ⟨rfl, rfl, rfl, List.append_nil _, List.mem_cons_self⟩

/-! ## Runs -/

/-- Every promise that can be awaited has a timer for its deadline whose firing did not return. -/
def System.Armed (system : System) : Prop :=
  ∀ id promise, system.promise id = some promise → promise.record.Timed →
    0 ≤ promise.record.timeoutAt ∧ ∃ number,
      system.queue.contents number =
        some (timerContents (.promiseTimeout id) promise.record.timeoutAt) ∧
      ∀ claim ∈ system.fired, claim.id ≠ number

/-- A claim of a job of the queue has the job's payload. -/
theorem Booked.claimed_payload (booked : Booked env before) (member : claim ∈ before.claims)
    {contents : String × Payload × Option Nat}
    (queued : before.queue.contents claim.id = some contents) : claim.payload = contents.2.1 := by
  have matched := (booked.claims claim member).contents contents queued
  rw [matched]
  rfl

theorem now_nonneg (system : System) : 0 ≤ system.now := by
  have limit : (0 : Int) ≤ Text.i64Max := by decide
  unfold System.now
  omega

theorem armed_step {event : Event} (reached : Reachable env before)
    (taken : step env before event = some after) (armed : before.Armed) : after.Armed := by
  have booked : Booked env before := Reachable.booked reached
  have keyed : (before.txn env).Keyed := Reachable.keyed reached
  have step := step_cases taken
  intro id promise found timed
  -- a timer there was is kept, and no firing of it returned while the promise is pending
  have kept (old : StoredPromise) (stored : before.promise id = some old)
      (timedOld : old.record.Timed) (sameTime : old.record.timeoutAt = promise.record.timeoutAt) :
      0 ≤ promise.record.timeoutAt ∧ ∃ number, after.queue.contents number =
        some (timerContents (.promiseTimeout id) promise.record.timeoutAt) ∧
        ∀ claim ∈ after.fired, claim.id ≠ number := by
    obtain ⟨ahead, number, queued, unfired⟩ := armed id old stored timedOld
    rw [sameTime] at ahead queued
    refine ⟨ahead, number, ?_, ?_⟩
    · rcases Reachable.timers reached taken number _ _ _ queued with same | ⟨claim, member, _, own⟩
      · exact same
      · exact absurd own (unfired claim member)
    · intro claim member own
      rcases step.fired_claims claim member with old | ⟨stored, rfl, claimed⟩
      · exact unfired claim old own
      · subst own
        have payload := booked.claimed_payload claimed queued
        have fresh : claim ∉ before.fired := fun returned => unfired claim returned rfl
        have settled := step.fired_settled keyed payload (.inr ⟨member, fresh⟩) promise found
        have open_ := timed.1
        simp [settled] at open_
  rcases Reachable.enqueued reached taken with ⟨same, _⟩ | ⟨txn, middle, enqueued⟩
  · apply kept promise ?_ timed rfl
    unfold System.promise at found ⊢
    rw [← same]
    exact found
  · have written : txn.getPromise id = some promise := by
      rw [← enqueued.committed.stores.promise]
      exact found
    rcases enqueued.committed.trail.covers keyed id promise written timed with
      ⟨old, stored, timedOld, sameTime⟩ | ⟨ahead, member⟩
    · rw [System.getPromise_txn] at stored
      exact kept old stored timedOld sameTime
    · obtain ⟨number, fresh, queued⟩ := enqueued.timer member
      refine ⟨?_, number, queued, ?_⟩
      · have start : txn.now = before.now := enqueued.committed.trail.fixed.now
        have positive := now_nonneg before
        omega
      · intro claim member own
        have low : claim.id < before.queue.nextJob := by
          rcases step.fired_claims claim member with old | ⟨stored, _, claimed⟩
          · exact (booked.fired claim old).1.below
          · exact (booked.claims claim claimed).below
        omega

theorem Reachable.armed (reached : Reachable env system) : system.Armed := by
  apply Machine.Reachable.invariant System.Armed reached
  · intro id promise found
    cases found
  · intro before event after reached armed taken
    exact armed_step reached taken armed

/-- A promise with a task or a registration can be awaited. -/
theorem Reachable.timed (reached : Reachable env system) {promise : StoredPromise}
    (found : system.promise id = some promise) (pending : promise.record.isPending = true)
    (awaited : promise.record.isExternal = true ∨ (system.task id).isSome = true ∨
      promise.callbacks ≠ [] ∨ promise.listeners ≠ []) : promise.record.Timed := by
  refine ⟨pending, ?_⟩
  have registered : system.views.Registered := Reachable.registered reached
  have coupled : Coupled (system.cell id) := Reachable.coupled reached id
  by_contra internal
  have unregistered := (registered.enlisted id promise found).idle (.inr (by simpa using internal))
  rcases awaited with external | tasked | called | heard
  · exact internal external
  · apply internal
    have target := coupled.target
    change (system.task id).map _ = (system.promise id).bind _ at target
    rw [found] at target
    have targeted : promise.record.target.isSome = true := by
      change (system.task id).map _ = promise.record.target at target
      rw [← target, Option.isSome_map]
      exact tasked
    unfold PromiseRecord.isExternal
    simp [targeted]
  · exact called unregistered.1
  · exact heard unregistered.2

/-- Every pending promise that can be awaited has a job in the queue of timers that fires at its
deadline. Firing it settles the promise, and changes nothing once the promise has settled. -/
theorem deadline_timers_cover (reached : Reachable env system) :
    (∀ id promise, system.promise id = some promise → promise.record.isPending = true →
      (promise.record.isExternal = true ∨ (system.task id).isSome = true ∨
        promise.callbacks ≠ [] ∨ promise.listeners ≠ []) →
      ∃ (number : Nat) (job : Job Payload) (runAt : Nat), system.queue.jobs[number]? = some job ∧
        job.queue = Keys.timerQueue ∧ job.payload = .timer (.promiseTimeout id) ∧
        job.runAt = some runAt ∧ (runAt : Int) = promise.record.timeoutAt) ∧
    ∀ id claim stored after promise, step env system (.fire claim stored) = some after →
      claim.payload = .timer (.promiseTimeout id) → system.promise id = some promise →
      (stored = true → ∃ final, after.promise id = some final ∧ final.record.isPending = false) ∧
      (promise.record.isPending = false → after.kv = system.kv ∧ after.queue = system.queue ∧
        after.held = system.held ∧ after.log = system.log ∧ claim ∈ after.fired) := by
  constructor
  · intro id promise found pending awaited
    have timed := Reachable.timed reached found pending awaited
    obtain ⟨ahead, number, queued, _⟩ := Reachable.armed reached id promise found timed
    obtain ⟨job, stored, contents⟩ := Option.map_eq_some_iff.mp queued
    refine ⟨number, job, promise.record.timeoutAt.toNat, stored, congrArg (·.1) contents,
      congrArg (·.2.1) contents, congrArg (·.2.2) contents, ?_⟩
    omega
  · intro id claim stored after promise taken payload found
    have keyed : (system.txn env).Keyed := Reachable.keyed reached
    have step := step_cases taken
    constructor
    · intro returned
      obtain ⟨final, present, _⟩ := step_persists reached taken id promise found
      exact ⟨final, present, step.fired_settled keyed payload (.inl returned) final present⟩
    · intro settled
      apply step.fired_idle payload
      intro other same
      rw [found] at same
      cases same
      exact settled

end

theorem deadline_timers_cover_registered :
    (∃ (number : Nat) (job : Job Payload) (runAt : Nat),
      registered.queue.jobs[number]? = some job ∧ job.queue = Keys.timerQueue ∧
        job.payload = .timer (.promiseTimeout "root:1") ∧ job.runAt = some runAt ∧
        (runAt : Int) = 1000) ∧
    ∀ claim stored after promise, step .sample registered (.fire claim stored) = some after →
      claim.payload = .timer (.promiseTimeout "root:1") →
      registered.promise "root:1" = some promise → stored = true →
      ∃ final, after.promise "root:1" = some final ∧ final.record.isPending = false := by
  obtain ⟨covered, fired⟩ := deadline_timers_cover registered_reachable
  constructor
  · have stored : (registered.promise "root:1").any (fun promise =>
        promise.record.isPending ∧ promise.record.isExternal ∧
          promise.record.timeoutAt = 1000) = true := by
      decide
    obtain ⟨promise, found, holds⟩ := (Option.any_eq_true _ _).mp stored
    obtain ⟨pending, external, timeoutAt⟩ := of_decide_eq_true holds
    rw [← timeoutAt]
    exact covered "root:1" promise found pending (.inl external)
  · intro claim stored after promise taken payload found returned
    exact (fired "root:1" claim stored after promise taken payload found).1 returned

end Resonate
