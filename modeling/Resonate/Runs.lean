import Resonate.Changes
import Resonate.Store

set_option autoImplicit false

/-! Steps of the store: which transaction each one commits, and the rules for what a run
preserves of the records. -/

namespace Resonate

open Kernel
open LeaseQueue (Queue)

/-! ## What a transaction keeps -/

/-- What every move keeps of its transaction. -/
structure Txn.Fixed (earlier later : Txn) : Prop where
  kv : later.kv = earlier.kv
  now : later.now = earlier.now
  preloadLimit : later.preloadLimit = earlier.preloadLimit
  clock : later.queue.clock = earlier.queue.clock
  contents : later.queue.contents = earlier.queue.contents
  nextJob : earlier.queue.nextJob ≤ later.queue.nextJob

namespace Txn

theorem Fixed.refl (txn : Txn) : Fixed txn txn := ⟨rfl, rfl, rfl, rfl, rfl, Nat.le_refl _⟩

theorem Fixed.trans {first second third : Txn} (left : Fixed first second)
    (right : Fixed second third) : Fixed first third :=
  ⟨right.kv.trans left.kv, right.now.trans left.now,
    right.preloadLimit.trans left.preloadLimit, right.clock.trans left.clock,
    right.contents.trans left.contents, Nat.le_trans left.nextJob right.nextJob⟩

theorem Buffers.contents {earlier later : Txn} (buffers : Buffers earlier later) :
    later.queue.contents = earlier.queue.contents := by
  funext id
  unfold Queue.contents
  rw [buffers.jobs]

theorem Buffers.fixed {earlier later : Txn} (buffers : Buffers earlier later) :
    Fixed earlier later :=
  ⟨buffers.kv, buffers.now, buffers.preloadLimit, buffers.clock, buffers.contents,
    buffers.nextJob⟩

theorem Touches.fixed {earlier later : Txn} (touches : Touches earlier later) :
    Fixed earlier later :=
  ⟨touches.kv, touches.now, touches.preloadLimit, touches.clock, touches.keeps.contents,
    Nat.le_of_eq touches.keeps.nextJob.symm⟩

end Txn

section

variable {env : Env} {txn next : Txn} {label : Label}

theorem proceed_buffers (task : StoredTask) : Txn.Buffers txn (Kernel.proceed env txn task) := by
  unfold Kernel.proceed
  dsimp only
  split
  · exact Txn.putTask_buffers _ _
  · exact (Txn.putTask_buffers _ _).trans (Txn.dispatch_buffers _ _ _ _)

theorem advanceSchedule_buffers (schedule : ScheduleRecord) :
    Txn.Buffers txn (advanceSchedule env txn schedule) := by
  unfold advanceSchedule
  split
  · exact (Txn.enqueue_buffers _ _).trans (Txn.putSchedule_buffers _ _)
  · exact Txn.putSchedule_buffers _ _

theorem Move.fixed (move : Move env txn label next) : Txn.Fixed txn next := by
  cases move with
  | expire promise stored pending due => exact (settleChain_buffers _ _ _).fixed
  | strike promise stored pending => exact (settleChain_buffers _ _ _).fixed
  | settle promise state value stored pending early => exact (settleChain_buffers _ _ _).fixed
  | create data createdAt mode absent admitted =>
      exact (createPromise_buffers env txn data createdAt mode).fixed
  | register awaited awaiter awaitable valid known unlisted =>
      exact (Txn.putPromise_buffers _ _).fixed
  | listen awaited address awaitable valid unlisted => exact (Txn.putPromise_buffers _ _).fixed
  | resume awaited awaiter stored settled external valid opened =>
      exact (resumeAwaiter_buffers _ _ _).fixed
  | acquire task pid ttl stored pending renewed =>
      exact (Txn.renew_touches _ _ _).fixed.trans (Txn.putTask_buffers _ _).fixed
  | release task stored acquired =>
      exact ((Txn.putTask_buffers _ _).trans (Txn.follow_buffers _ _)).fixed
  | lose task stored acquired => exact (Txn.putTask_buffers _ _).fixed
  | suspend task awaited stored acquired some_awaited listed =>
      exact (Txn.putTask_buffers _ _).fixed
  | clear task stored acquired => exact (Txn.putTask_buffers _ _).fixed
  | halt task stored unfulfilled unhalted =>
      exact ((Txn.putTask_buffers _ _).trans (Txn.follow_buffers _ _)).fixed
  | proceed task stored halted => exact (proceed_buffers task).fixed
  | addSchedule schedule absent next created unfired named plain targeted timeout =>
      exact ((Txn.putSchedule_buffers _ _).trans (Txn.enqueue_buffers _ _)).fixed
  | advance schedule stored => exact (advanceSchedule_buffers schedule).fixed
  | dropSchedule id => exact ⟨rfl, rfl, rfl, rfl, rfl, Nat.le_refl _⟩
  | check task => exact (Txn.holds_touches _ _).fixed
  | renew task lease => exact (Txn.renew_touches _ _ _).fixed
  | claim task job lease stored pending dispatched => exact (Txn.claimJob_touches _ _ _ _).fixed
  | ack claim dead => exact (Txn.follow_buffers _ _).fixed
  | hold task claim executes stored pending => exact (Txn.follow_buffers _ _).fixed

theorem Trail.fixed {permits : Label → Prop} (trail : Trail env permits txn next) :
    Txn.Fixed txn next := by
  induction trail with
  | refl txn => exact .refl txn
  | step label permitted move rest ih => exact move.fixed.trans ih

end

/-! ## Records of a system -/

namespace System

def promise (system : System) (id : String) : Option StoredPromise := system.kv.promises[id]?

def task (system : System) (id : String) : Option StoredTask := system.kv.tasks[id]?

def schedule (system : System) (id : String) : Option ScheduleRecord := system.kv.schedules[id]?

def cell (system : System) (id : String) : Cell := ⟨system.promise id, system.task id⟩

variable (env : Env) (system : System)

@[simp] theorem getPromise_txn : (system.txn env).getPromise = system.promise := by
  funext id
  exact Table.read_empty _ _

@[simp] theorem getTask_txn : (system.txn env).getTask = system.task := by
  funext id
  exact Table.read_empty _ _

@[simp] theorem getSchedule_txn : (system.txn env).getSchedule = system.schedule := by
  funext id
  exact Table.read_empty _ _

@[simp] theorem now_txn : (system.txn env).now = system.now := rfl

theorem cell_txn (id : String) : (system.txn env).cell id = system.cell id := by
  unfold Txn.cell cell
  rw [getPromise_txn, getTask_txn]

end System

/-- The store holds exactly what the transaction's reads saw. -/
structure Stores (txn : Txn) (system : System) : Prop where
  promise : system.promise = txn.getPromise
  task : system.task = txn.getTask
  schedule : system.schedule = txn.getSchedule

theorem stores_of_kv {txn : Txn} {system : System} (same : system.kv = txn.kv.apply txn.writes) :
    Stores txn system := by
  refine ⟨?_, ?_, ?_⟩
  · funext id
    unfold System.promise
    rw [same]
    exact Table.find_apply _ _ _
  · funext id
    unfold System.task
    rw [same]
    exact Table.find_apply _ _ _
  · funext id
    unfold System.schedule
    rw [same]
    exact Table.find_apply _ _ _

theorem Stores.cell {txn : Txn} {system : System} (stores : Stores txn system) (id : String) :
    system.cell id = txn.cell id := by
  unfold System.cell Txn.cell
  rw [stores.promise, stores.task]

/-- The moves an event can lead to. -/
def Event.permits : Event → Label → Prop
  | .request asked _ => asked.permits
  | .deliver claim _ => deliveryPermits claim
  | .fire claim _ =>
      match claim.payload with
      | .timer timer => firingPermits timer
      | _ => fun _ => False
  | _ => fun _ => False

section

variable {env : Env}

/-- An acknowledged commit removes the job of the held claim. -/
theorem commitAck_acked {txn : Txn} {taskId : String} {commit : Commit}
    (committed : txn.commitAck taskId = (commit, true)) :
    ∃ claim, txn.held[taskId]? = some claim ∧ txn.queue.current claim = true ∧
      commit = { txn with
        held := txn.held.erase taskId
        queue := txn.queue.remove claim.id }.commit := by
  unfold Txn.commitAck at committed
  split at committed
  · cases committed
  · rename_i next holds
    obtain ⟨rfl, claim, found⟩ := Txn.holds_true holds
    simp only [found] at committed
    split at committed
    · rename_i queue acked
      obtain ⟨current, rfl⟩ := Queue.ack_eq acked
      cases committed
      exact ⟨claim, found, current, rfl⟩
    · cases committed

/-- A commit whose claim is lost can only drop claims. -/
theorem commitAck_lost {txn : Txn} {taskId : String} {commit : Commit}
    (committed : txn.commitAck taskId = (commit, false)) :
    ∃ held : Held, commit = { txn with held }.discard ∧
      ∀ (task : String) (claim : Claim), held[task]? = some claim →
        txn.held[task]? = some claim := by
  unfold Txn.commitAck at committed
  split at committed
  · rename_i next lost
    have touched := Txn.holds_touches txn taskId
    have queue := Txn.holds_queue txn taskId
    have kept := Txn.holds_held txn taskId
    rw [lost] at touched queue kept
    cases committed
    refine ⟨next.held, ?_, kept⟩
    unfold Txn.discard
    rw [touched.kv, show next.queue = txn.queue from queue]
  · rename_i next holds
    obtain ⟨rfl, claim, found⟩ := Txn.holds_true holds
    simp only [found] at committed
    split at committed
    · cases committed
    · cases committed
      refine ⟨next.held.erase taskId, rfl, ?_⟩
      intro task other same
      rw [Table.find_erase] at same
      split at same
      · cases same
      · exact same

theorem commitAck_kv {txn : Txn} {taskId : String} {commit : Commit} {acked : Bool}
    (committed : txn.commitAck taskId = (commit, acked)) :
    commit.kv = if acked then txn.kv.apply txn.writes else txn.kv := by
  cases acked with
  | true =>
      obtain ⟨claim, _, _, rfl⟩ := commitAck_acked committed
      rfl
  | false =>
      obtain ⟨held, rfl, _⟩ := commitAck_lost committed
      rfl

theorem commitAck_clock {txn : Txn} {taskId : String} {commit : Commit} {acked : Bool}
    (committed : txn.commitAck taskId = (commit, acked)) :
    commit.queue.clock = txn.queue.clock := by
  cases acked with
  | true =>
      obtain ⟨claim, _, _, rfl⟩ := commitAck_acked committed
      exact Queue.enqueue_clock _ _
  | false =>
      obtain ⟨held, rfl, _⟩ := commitAck_lost committed
      rfl

/-- What a step can do. -/
inductive Step (env : Env) (before : System) : Event → System → Prop
  | dropped (request : Request) (stored : Bool) (unlocked : before.after = [])
      (exit : stored = false ∨ (handle env (before.txn env) request).exit = .drop ∨
        (handle env (before.txn env) request).exit = .panic) :
      Step env before (.request request stored)
        (before.absorb (handle env (before.txn env) request).txn.discard)
  | committed (request : Request) (unlocked : before.after = [])
      (exit : (handle env (before.txn env) request).exit = .commit) :
      Step env before (.request request true)
        (before.absorb (handle env (before.txn env) request).txn.commit)
  | acked (request : Request) (taskId : String) (commit : Commit) (unlocked : before.after = [])
      (exit : (handle env (before.txn env) request).exit = .commitAck taskId)
      (committed : (handle env (before.txn env) request).txn.commitAck taskId = (commit, true)) :
      Step env before (.request request true) (before.absorb commit)
  | lost (request : Request) (taskId : String) (commit : Commit) (unlocked : before.after = [])
      (exit : (handle env (before.txn env) request).exit = .commitAck taskId)
      (committed : (handle env (before.txn env) request).txn.commitAck taskId = (commit, false)) :
      Step env before (.request request true) (before.absorb commit)
  | undecoded (claim : Claim) (stored : Bool) (unlocked : before.after = [])
      (member : claim ∈ before.claims) (addressed : claim.queue ≠ Keys.timerQueue)
      (refused : deliver env (before.txn env) claim = none) :
      Step env before (.deliver claim stored) { before with claims := before.claims.erase claim }
  | undelivered (claim : Claim) (txn : Txn) (message : Option Message)
      (unlocked : before.after = []) (member : claim ∈ before.claims)
      (addressed : claim.queue ≠ Keys.timerQueue)
      (delivered : deliver env (before.txn env) claim = some (txn, message)) :
      Step env before (.deliver claim false)
        ({ before with claims := before.claims.erase claim }.absorb txn.discard)
  | delivered (claim : Claim) (txn : Txn) (message : Option Message)
      (unlocked : before.after = []) (member : claim ∈ before.claims)
      (addressed : claim.queue ≠ Keys.timerQueue)
      (delivered : deliver env (before.txn env) claim = some (txn, message)) :
      Step env before (.deliver claim true)
        { { before with claims := before.claims.erase claim }.absorb txn.commit with
          delivering := message.map fun m => (claim.id, m) }
  | unfired (claim : Claim) (timer : Timer) (txn : Txn) (unlocked : before.after = [])
      (member : claim ∈ before.claims) (timed : claim.queue = Keys.timerQueue)
      (payload : claim.payload = .timer timer)
      (fired : fire env (before.txn env) timer = (txn, .commit)) :
      Step env before (.fire claim false) (before.absorb txn.discard)
  | fired (claim : Claim) (timer : Timer) (txn : Txn) (unlocked : before.after = [])
      (member : claim ∈ before.claims) (timed : claim.queue = Keys.timerQueue)
      (payload : claim.payload = .timer timer)
      (fired : fire env (before.txn env) timer = (txn, .commit)) :
      Step env before (.fire claim true)
        { before.absorb txn.commit with
          claims := before.claims.erase claim
          fired := claim :: before.fired }
  | outlived (claim : Claim) (stored : Bool) (timer : Timer) (txn : Txn) (exit : Exit)
      (unlocked : before.after = []) (member : claim ∈ before.claims)
      (timed : claim.queue = Keys.timerQueue) (payload : claim.payload = .timer timer)
      (fired : fire env (before.txn env) timer = (txn, exit)) (idle : exit ≠ .commit) :
      Step env before (.fire claim stored)
        { before.absorb txn.discard with
          claims := before.claims.erase claim
          fired := claim :: before.fired }
  | finished (action : After) (rest : List After) (pending : before.after = action :: rest) :
      Step env before .finish
        { before with
          queue := (action.perform before.queue before.held).1
          held := (action.perform before.queue before.held).2
          after := rest
          delivering := if rest = [] then none else before.delivering
          outbox := if rest = [] then before.outbox ++ before.delivering.toList
            else before.outbox }
  | passed (entry : Nat × Message) (member : entry ∈ before.outbox) :
      Step env before (.pass entry)
        { before with
          outbox := before.outbox.erase entry
          sent := before.sent ++ [entry] }
  | ackedTimer (claim : Claim) (member : claim ∈ before.fired) :
      Step env before (.ackTimer claim)
        { before with
          fired := before.fired.erase claim
          queue := (before.queue.ack claim).getD before.queue }
  | nackedTimer (claim : Claim) (member : claim ∈ before.claims)
      (timed : claim.queue = Keys.timerQueue) :
      Step env before (.nackTimer claim)
        { before with
          claims := before.claims.erase claim
          queue := (before.queue.nack claim).getD before.queue }
  | taken (job lease : Nat) (period : Nat) (claim : Claim) (queue : Queue Payload)
      (granted : before.queue.take job period = some (claim, queue)) :
      Step env before (.take job lease)
        { before with queue, claims := claim :: before.claims }
  | promoted (job : Nat) (queue : Queue Payload) (moved : before.queue.promote job = some queue) :
      Step env before (.promote job) { before with queue }
  | reaped (job : Nat) (queue : Queue Payload) (moved : before.queue.reap job = some queue) :
      Step env before (.reap job) { before with queue }
  | ticked (time : Nat) :
      Step env before (.clock time)
        { before with queue := { before.queue with clock := time } }
  | reopened : Step env before .reopen (stepReopen before)

theorem stepRequest_cases {before after : System} {request : Request} {stored : Bool}
    (taken : stepRequest env before request stored = some after) :
    Step env before (.request request stored) after := by
  unfold stepRequest at taken
  split at taken
  · rename_i unlocked
    cases taken
    unfold conclude
    split
    · rename_i exit
      exact .dropped request _ unlocked (.inr (.inl exit))
    · rename_i exit
      exact .dropped request _ unlocked (.inr (.inr exit))
    · exact .dropped request false unlocked (.inl rfl)
    · rename_i exit
      exact .committed request unlocked exit
    · rename_i taskId exit
      split
      · rename_i commit committed
        exact .acked request taskId commit unlocked exit committed
      · rename_i commit committed
        exact .lost request taskId commit unlocked exit committed
  · cases taken

theorem stepDeliver_cases {before after : System} {claim : Claim} {stored : Bool}
    (taken : stepDeliver env before claim stored = some after) :
    Step env before (.deliver claim stored) after := by
  unfold stepDeliver at taken
  split at taken
  · rename_i guards
    obtain ⟨unlocked, member, addressed⟩ := guards
    have same : ({ before with claims := before.claims.erase claim } : System).txn env =
        before.txn env := rfl
    dsimp only at taken
    rw [same] at taken
    cases delivered : deliver env (before.txn env) claim with
    | none =>
        rw [delivered] at taken
        cases taken
        exact .undecoded claim stored unlocked member addressed delivered
    | some result =>
        obtain ⟨txn, message⟩ := result
        rw [delivered] at taken
        cases stored with
        | false =>
            cases taken
            exact .undelivered claim txn message unlocked member addressed delivered
        | true =>
            cases taken
            exact .delivered claim txn message unlocked member addressed delivered
  · cases taken

theorem stepFire_cases {before after : System} {claim : Claim} {stored : Bool}
    (taken : stepFire env before claim stored = some after) :
    Step env before (.fire claim stored) after := by
  unfold stepFire at taken
  split at taken
  · rename_i guards
    obtain ⟨unlocked, member, timed⟩ := guards
    split at taken
    · rename_i timer payload
      cases fired : fire env (before.txn env) timer with
      | mk txn exit =>
          have outlived (idle : exit ≠ .commit) : Step env before (.fire claim stored) _ :=
            .outlived claim stored timer txn exit unlocked member timed payload fired idle
          rw [fired] at taken
          cases exit with
          | commit =>
              cases stored with
              | false =>
                  cases taken
                  exact .unfired claim timer _ unlocked member timed payload fired
              | true =>
                  cases taken
                  exact .fired claim timer _ unlocked member timed payload fired
          | drop =>
              cases taken
              exact outlived nofun
          | commitAck taskId =>
              cases taken
              exact outlived nofun
          | panic =>
              cases taken
              exact outlived nofun
    · cases taken
  · cases taken

theorem stepFinish_cases {before after : System} (taken : stepFinish before = some after) :
    Step env before .finish after := by
  unfold stepFinish at taken
  split at taken
  · cases taken
  · rename_i action rest pending
    have finished : Step env before .finish _ := .finished action rest pending
    dsimp only at taken
    split at taken
    · rename_i last
      cases taken
      simpa only [last, ↓reduceIte] using finished
    · rename_i more
      cases taken
      simpa only [more, ↓reduceIte] using finished

/-- Every step is one of the listed ones. -/
theorem step_cases {before after : System} {event : Event}
    (taken : step env before event = some after) : Step env before event after := by
  cases event with
  | request asked stored => exact stepRequest_cases taken
  | deliver claim stored => exact stepDeliver_cases taken
  | fire claim stored => exact stepFire_cases taken
  | finish => exact stepFinish_cases taken
  | pass entry =>
      change stepPass before entry = some after at taken
      unfold stepPass at taken
      split at taken <;> cases taken
      exact .passed entry (by assumption)
  | ackTimer claim =>
      change stepAckTimer before claim = some after at taken
      unfold stepAckTimer at taken
      split at taken <;> cases taken
      exact .ackedTimer claim (by assumption)
  | nackTimer claim =>
      change stepNackTimer before claim = some after at taken
      unfold stepNackTimer at taken
      split at taken
      · rename_i guards
        cases taken
        exact .nackedTimer claim guards.1 guards.2
      · cases taken
  | take job lease =>
      obtain ⟨⟨claim, queue⟩, granted, rfl⟩ := Option.map_eq_some_iff.mp taken
      exact .taken job lease _ claim queue granted
  | promote job =>
      obtain ⟨queue, moved, rfl⟩ := Option.map_eq_some_iff.mp taken
      exact .promoted job queue moved
  | reap job =>
      obtain ⟨queue, moved, rfl⟩ := Option.map_eq_some_iff.mp taken
      exact .reaped job queue moved
  | clock time =>
      cases taken
      exact .ticked time
  | reopen =>
      cases taken
      exact .reopened

/-! ## Records across a step -/

/-- The event commits the transaction: its reads become the store's records. -/
structure Committed (env : Env) (before : System) (event : Event) (txn : Txn) (after : System) :
    Prop where
  trail : Trail env event.permits (before.txn env) txn
  stores : Stores txn after
  now : after.now = before.now

theorem now_of_clock {before after : System} (same : after.queue.clock = before.queue.clock) :
    after.now = before.now := by
  unfold System.now
  rw [same]

theorem Committed.of_kv {before after : System} {event : Event} {txn : Txn}
    (trail : Trail env event.permits (before.txn env) txn)
    (same : after.kv = txn.kv.apply txn.writes)
    (clock : after.queue.clock = txn.queue.clock) : Committed env before event txn after :=
  ⟨trail, stores_of_kv same, now_of_clock (clock.trans trail.fixed.clock)⟩

theorem commit_clock (txn : Txn) : txn.commit.queue.clock = txn.queue.clock :=
  Queue.enqueue_clock _ _

theorem fire_permits (claim : Claim) (stored : Bool) (timer : Timer)
    (payload : claim.payload = .timer timer) :
    Event.permits (.fire claim stored) = firingPermits timer := by
  change (match claim.payload with
    | .timer timer => firingPermits timer
    | _ => fun _ => False) = _
  rw [payload]

/-- The store after a step is the one before it, or what a transaction of the step wrote. -/
theorem Step.kv {before after : System} {event : Event} (keyed : (before.txn env).Keyed)
    (step : Step env before event after) :
    after.kv = before.kv ∨ ∃ txn, Trail env event.permits (before.txn env) txn ∧
      after.kv = txn.kv.apply txn.writes ∧ after.queue.clock = txn.queue.clock := by
  have handled (request : Request) := (handle_outcome env keyed request).trail keyed
  cases step with
  | dropped request stored unlocked exit => exact .inl (handled request).fixed.kv
  | committed request unlocked exit => exact .inr ⟨_, handled request, rfl, commit_clock _⟩
  | acked request taskId commit unlocked exit committed =>
      exact .inr ⟨_, handled request, commitAck_kv committed, commitAck_clock committed⟩
  | lost request taskId commit unlocked exit committed =>
      exact .inl ((commitAck_kv committed).trans (handled request).fixed.kv)
  | undecoded claim stored unlocked member addressed refused => exact .inl rfl
  | undelivered claim txn message unlocked member addressed delivered =>
      exact .inl (deliver_trail keyed claim txn message delivered).fixed.kv
  | delivered claim txn message unlocked member addressed delivered =>
      exact .inr ⟨txn, deliver_trail keyed claim txn message delivered, rfl, commit_clock _⟩
  | unfired claim timer txn unlocked member timed payload fired =>
      have trail := fire_trail env keyed timer
      rw [fired] at trail
      exact .inl trail.fixed.kv
  | fired claim timer txn unlocked member timed payload fired =>
      have trail := fire_trail env keyed timer
      rw [fired] at trail
      exact .inr ⟨txn, fire_permits claim true timer payload ▸ trail, rfl, commit_clock _⟩
  | outlived claim stored timer txn exit unlocked member timed payload fired idle =>
      have trail := fire_trail env keyed timer
      rw [fired] at trail
      exact .inl trail.fixed.kv
  | finished action rest pending => exact .inl rfl
  | passed entry member => exact .inl rfl
  | ackedTimer claim member => exact .inl rfl
  | nackedTimer claim member timed => exact .inl rfl
  | taken job lease period claim queue granted => exact .inl rfl
  | promoted job queue moved => exact .inl rfl
  | reaped job queue moved => exact .inl rfl
  | ticked time => exact .inl rfl
  | reopened => exact .inl rfl

/-- The records after a step are those before it, or those of a transaction the step
commits. -/
theorem Step.records {before after : System} {event : Event} (keyed : (before.txn env).Keyed)
    (step : Step env before event after) :
    after.kv = before.kv ∨ ∃ txn, Committed env before event txn after := by
  rcases step.kv keyed with same | ⟨txn, trail, same, clock⟩
  · exact .inl same
  · exact .inr ⟨txn, .of_kv trail same clock⟩

theorem ack_clock (queue : Queue Payload) (claim : Claim) :
    ((queue.ack claim).getD queue).clock = queue.clock := by
  cases acked : queue.ack claim with
  | none => rfl
  | some later =>
      obtain ⟨_, rfl⟩ := Queue.ack_eq acked
      rfl

theorem nack_clock (queue : Queue Payload) (claim : Claim) :
    ((queue.nack claim).getD queue).clock = queue.clock := by
  cases nacked : queue.nack claim with
  | none => rfl
  | some later => exact Queue.nack_clock nacked

theorem perform_clock (queue : Queue Payload) (held : Held) (action : After) :
    (action.perform queue held).1.clock = queue.clock := by
  cases action with
  | ack taken => exact ack_clock queue taken
  | hold task taken => rfl
  | release task =>
      simp only [After.perform]
      split
      · exact ack_clock queue _
      · rfl
  | nack task =>
      simp only [After.perform]
      split
      · exact nack_clock queue _
      · rfl
  | claim task job lease =>
      simp only [After.perform]
      split
      · rename_i granted
        exact (Queue.claimById_granted granted).clock
      · rfl

/-- Only its own event moves the clock. -/
theorem Step.clock {before after : System} {event : Event} (keyed : (before.txn env).Keyed)
    (step : Step env before event after) :
    after.queue.clock = before.queue.clock ∨
      ∃ time, event = .clock time ∧ after.queue.clock = time := by
  have handled (request : Request) :=
    ((handle_outcome env keyed request).trail keyed).fixed.clock
  cases step with
  | dropped request stored unlocked exit => exact .inl (handled request)
  | committed request unlocked exit =>
      exact .inl ((commit_clock _).trans (handled request))
  | acked request taskId commit unlocked exit committed =>
      exact .inl ((commitAck_clock committed).trans (handled request))
  | lost request taskId commit unlocked exit committed =>
      exact .inl ((commitAck_clock committed).trans (handled request))
  | undecoded claim stored unlocked member addressed refused => exact .inl rfl
  | undelivered claim txn message unlocked member addressed delivered =>
      have trail := deliver_trail keyed claim txn message delivered
      exact .inl trail.fixed.clock
  | delivered claim txn message unlocked member addressed delivered =>
      have trail := deliver_trail keyed claim txn message delivered
      exact .inl ((commit_clock _).trans trail.fixed.clock)
  | unfired claim timer txn unlocked member timed payload fired =>
      have trail := fire_trail env keyed timer
      rw [fired] at trail
      exact .inl trail.fixed.clock
  | fired claim timer txn unlocked member timed payload fired =>
      have trail := fire_trail env keyed timer
      rw [fired] at trail
      exact .inl ((commit_clock _).trans trail.fixed.clock)
  | outlived claim stored timer txn exit unlocked member timed payload fired idle =>
      have trail := fire_trail env keyed timer
      rw [fired] at trail
      exact .inl trail.fixed.clock
  | finished action rest pending => exact .inl (perform_clock _ _ _)
  | passed entry member => exact .inl rfl
  | ackedTimer claim member => exact .inl (ack_clock _ _)
  | nackedTimer claim member timed => exact .inl (nack_clock _ _)
  | taken job lease period claim queue granted =>
      exact .inl (Queue.take_granted granted).clock
  | promoted job queue moved => exact .inl (Queue.promote_clock moved)
  | reaped job queue moved => exact .inl (Queue.reap_clock moved)
  | ticked time => exact .inr ⟨time, rfl, rfl⟩
  | reopened => exact .inl rfl

/-- Only the clock changes the time. -/
theorem Step.now {before after : System} {event : Event} (keyed : (before.txn env).Keyed)
    (step : Step env before event after) :
    after.now = before.now ∨
      ∃ time, event = .clock time ∧ after.now = min (time : Int) Text.i64Max := by
  rcases step.clock keyed with same | ⟨time, rfl, moved⟩
  · exact .inl (now_of_clock same)
  · refine .inr ⟨time, rfl, ?_⟩
    unfold System.now
    rw [moved]

end

end Resonate
