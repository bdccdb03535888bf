import Resonate.Confluence
import Resonate.Coverage
import Resonate.Refusals

set_option autoImplicit false

/-! The timers of expired promises, fired in any order, and the deadlines of the same promises,
applied at once, leave the store at the same. -/

namespace Resonate

open Kernel
open LeaseQueue (Queue Job EnqueueRequest)

/-- The promise whose timer an event fires, when the firing is stored. -/
def Event.strikes : Event → Option String
  | .fire claim stored =>
      match claim.payload with
      | .timer (.promiseTimeout id) => if stored then some id else none
      | _ => none
  | _ => none

/-- The events that fire the timers of promises, and those of the queue in between. -/
def Event.tends : Event → Bool
  | .fire claim _ =>
      match claim.payload with
      | .timer (.promiseTimeout _) => true
      | _ => false
  | .finish | .pass _ | .ackTimer _ | .nackTimer _ | .take _ _ | .promote _ | .reap _ => true
  | .request _ _ | .deliver _ _ | .clock _ | .reopen => false

/-- A promise whose deadline has passed if it is pending. -/
def Standing.Ripe (now : Int) (standing : Standing) (id : String) : Prop :=
  ∀ promise, standing.promise id = some promise → promise.record.isPending = true →
    promise.record.timeoutAt ≤ now

/-- Only releases are left to do after a commit. -/
def System.Releasing (system : System) : Prop :=
  ∀ action ∈ system.after, ∃ id, action = .release id

section

variable {env : Env} {before after system : System} {event : Event} {claim : Claim}
  {stored : Bool} {id : String}

theorem Event.tends_fire (tends : Event.tends (.fire claim stored) = true) :
    ∃ id, claim.payload = .timer (.promiseTimeout id) := by
  cases payload : claim.payload with
  | timer timer =>
      cases timer with
      | promiseTimeout id => exact ⟨id, rfl⟩
      | schedule id time => simp [Event.tends, payload] at tends
  | execute id => simp [Event.tends, payload] at tends
  | unblock message => simp [Event.tends, payload] at tends

theorem Event.strikes_fire (payload : claim.payload = .timer (.promiseTimeout id)) :
    Event.strikes (.fire claim stored) = if stored then some id else none := by
  simp [Event.strikes, payload]

theorem Standing.Ripe.strike {now : Int} {standing : Standing} (ripe : standing.Ripe now id)
    (other : String) : (standing.strike env now other).Ripe now id := by
  intro promise found pending
  cases due : standing.overdue now other with
  | none =>
      rw [Standing.strike_early due] at found
      exact ripe promise found pending
  | some struck =>
      rw [Standing.strike_due due] at found
      change (if id = other then some (expiredPromise struck).cleared
        else standing.promise id) = some promise at found
      split at found
      · cases found
        have settled := expiredPromise_settled struck
        change (expiredPromise struck).record.isPending = true at pending
        rw [settled] at pending
        cases pending
      · exact ripe promise found pending

theorem releasing_expire (promise : StoredPromise) :
    ∀ action ∈ (expirePromise env (before.txn env) promise).1.after,
      ∃ id, action = .release id := by
  intro action member
  rw [expirePromise_eq, after_settleChain] at member
  have released : action ∈ releasesOf (before.txn env) (expiredPromise promise).record.id := member
  unfold releasesOf at released
  split at released
  · split at released
    · exact ⟨_, List.mem_singleton.mp released⟩
    · cases released
  · cases released

/-- A tended step leaves only releases to do. -/
theorem Step.releasing (step : Step env before event after) (tends : event.tends = true)
    (releasing : before.Releasing) : after.Releasing := by
  cases step with
  | fired claim timer txn unlocked member timed own fired =>
      obtain ⟨id, payload⟩ := Event.tends_fire tends
      rw [payload] at own
      cases own
      rcases fire_timeout env (before.txn env) id with ⟨promise, _, _, struck⟩ | ⟨idle, _⟩
      · rw [struck] at fired
        cases fired
        exact releasing_expire promise
      · rw [idle] at fired
        cases fired
  | unfired claim timer txn unlocked member timed own fired =>
      intro action inside
      cases inside
  | outlived claim stored timer txn exit unlocked member timed own fired left =>
      intro action inside
      cases inside
  | finished action rest pending =>
      intro later member
      exact releasing later (by simp [pending, member])
  | passed entry member => exact releasing
  | ackedTimer claim member => exact releasing
  | nackedTimer claim member timed => exact releasing
  | taken job lease period claim queue granted => exact releasing
  | promoted job queue moved => exact releasing
  | reaped job queue moved => exact releasing
  | _ => cases tends

/-- A stored firing of a ripe promise's timer is the update of its deadline. -/
theorem Step.struck (keyed : (before.txn env).Keyed)
    (step : Step env before (.fire claim stored) after)
    (payload : claim.payload = .timer (.promiseTimeout id))
    (ripe : stored = true → before.standing.Ripe before.now id) :
    after.standing = if stored then before.standing.strike env before.now id
      else before.standing := by
  have early (settled : ∀ promise, (before.txn env).getPromise id = some promise →
      promise.record.isPending = false) : before.standing.strike env before.now id =
        before.standing := by
    apply Standing.strike_early
    change (before.promise id).filter _ = none
    rw [Option.filter_eq_none_iff]
    intro promise found overdue
    rw [System.getPromise_txn] at settled
    have pending := (of_decide_eq_true overdue).1
    simp [settled promise found] at pending
  cases step with
  | unfired claim timer txn unlocked member timed own fired =>
      rw [payload] at own
      cases own
      have left : txn = (fire env (before.txn env) (.promiseTimeout id)).1 := by rw [fired]
      have fixed := (fire_trail env keyed (.promiseTimeout id)).fixed
      rw [← left] at fixed
      refine standing_same ?_ ?_ unlocked.symm (List.append_nil _)
      · exact fixed.kv
      · rcases fire_timeout env (before.txn env) id with
          ⟨promise, found, pending, struck⟩ | ⟨idle, _⟩
        · rw [struck] at fired
          cases fired
          exact (settleChain_buffers env _ (expiredPromise promise)).held
        · rw [idle] at fired
          cases fired
  | fired claim timer txn unlocked member timed own fired =>
      rw [payload] at own
      cases own
      rcases fire_timeout env (before.txn env) id with
        ⟨promise, found, pending, struck⟩ | ⟨idle, _⟩
      · rw [struck] at fired
        cases fired
        have named := keyed.promise id promise found
        rw [System.getPromise_txn] at found
        have due : before.standing.overdue before.now id = some promise :=
          Standing.overdue_iff.mpr ⟨found, pending, ripe rfl promise found pending⟩
        rw [if_pos rfl, Standing.strike_due due, ← standing_txn env unlocked]
        exact (standing_absorb before _).trans (standing_expire keyed named)
      · rw [idle] at fired
        cases fired
  | outlived claim stored timer txn exit unlocked member timed own fired idle =>
      rw [payload] at own
      cases own
      rcases fire_timeout env (before.txn env) id with
        ⟨promise, found, pending, struck⟩ | ⟨dropped, settled⟩
      · rw [struck] at fired
        cases fired
        exact absurd rfl idle
      · rw [dropped] at fired
        cases fired
        rw [early settled, ite_self]
        exact standing_same rfl rfl unlocked.symm (List.append_nil _)

/-- A step of a tended run updates what the store stands at by the deadline whose timer it fires. -/
theorem Step.tended (keyed : (before.txn env).Keyed) (step : Step env before event after)
    (tends : event.tends = true) (releasing : before.Releasing)
    (ripe : ∀ id, event.strikes = some id → before.standing.Ripe before.now id) :
    after.standing = event.strikes.toList.foldl
      (fun standing id => standing.strike env before.now id) before.standing := by
  cases event with
  | fire claim stored =>
      obtain ⟨id, payload⟩ := Event.tends_fire tends
      have strikes := @Event.strikes_fire claim stored id payload
      rw [strikes] at ripe ⊢
      rw [step.struck keyed payload fun committed => ripe id (by simp [committed])]
      cases stored with
      | true => rfl
      | false => rfl
  | finish => exact standing_finished step releasing
  | pass entry =>
      cases step with
      | passed entry member => exact standing_same rfl rfl rfl rfl
  | ackTimer claim =>
      cases step with
      | ackedTimer claim member => exact standing_same rfl rfl rfl rfl
  | nackTimer claim =>
      cases step with
      | nackedTimer claim member timed => exact standing_same rfl rfl rfl rfl
  | take job lease =>
      cases step with
      | taken job lease period claim queue granted => exact standing_same rfl rfl rfl rfl
  | promote job =>
      cases step with
      | promoted job queue moved => exact standing_same rfl rfl rfl rfl
  | reap job =>
      cases step with
      | reaped job queue moved => exact standing_same rfl rfl rfl rfl
  | request asked stored => cases tends
  | deliver claim stored => cases tends
  | clock time => cases tends
  | reopen => cases tends

theorem Step.tended_now (keyed : (before.txn env).Keyed) (step : Step env before event after)
    (tends : event.tends = true) : after.now = before.now := by
  rcases step.now keyed with same | ⟨time, rfl, _⟩
  · exact same
  · cases tends

/-- A tended run updates what the store stands at by the deadlines whose timers it fires. -/
theorem standing_tended {events : List Event} (reached : Reachable env system)
    (ran : Machine.run (step env) system events = some after)
    (tends : ∀ event ∈ events, event.tends = true) (releasing : system.Releasing)
    (ripe : ∀ id ∈ events.filterMap Event.strikes, system.standing.Ripe system.now id) :
    after.standing = (events.filterMap Event.strikes).foldl
      (fun standing id => standing.strike env system.now id) system.standing := by
  induction events generalizing system with
  | nil =>
      cases ran
      rfl
  | cons event rest ih =>
      obtain ⟨next, taken, ran⟩ := Option.bind_eq_some_iff.mp ran
      have keyed : (system.txn env).Keyed := Reachable.keyed reached
      have split : (event :: rest).filterMap Event.strikes =
          event.strikes.toList ++ rest.filterMap Event.strikes := by
        cases strikes : event.strikes with
        | none => simp [strikes]
        | some id => simp [strikes]
      rw [split] at ripe ⊢
      have step := step_cases taken
      have tended := tends event List.mem_cons_self
      have now := step.tended_now keyed tended
      have releases := step.releasing tended releasing
      have moved := step.tended keyed tended releasing
        fun id strikes => ripe id (by simp [strikes])
      rw [ih (reached.extend taken) ran (fun later member => tends later (by simp [member]))
        releases, List.foldl_append, moved, now]
      intro id member
      have start := ripe id (List.mem_append_right _ member)
      rw [now, moved]
      cases strikes : event.strikes with
      | none => exact start
      | some other => exact start.strike other

end

/-! ## Jobs of dispatches -/

/-- The job a task records, the ids of the jobs enqueued for it, and whether it is suspended. -/
structure Calls where
  job : Option (Option Nat)
  numbers : List (Option Nat)
  suspended : Bool

/-- A task keeps its job, or is dispatched once with a job whose id was handed out later. -/
inductive Calls.Next (floor : Nat) (first second : Calls) : Prop
  | idle (job : second.job = first.job) (numbers : second.numbers = first.numbers)
      (awake : second.suspended = true → first.suspended = true)
  | dispatched (number : Nat) (fresh : floor ≤ number) (asleep : first.suspended = true)
      (job : second.job = some (some number))
      (numbers : second.numbers = first.numbers ++ [some number])
      (awake : second.suspended = false)

namespace Calls.Next

variable {floor : Nat} {first second third : Calls}

theorem refl (calls : Calls) : Next floor calls calls := .idle rfl rfl id

/-- A task that was dispatched is not suspended and is not dispatched again. -/
theorem trans (left : Next floor first second) (right : Next floor second third) :
    Next floor first third := by
  cases left with
  | idle job numbers awake =>
      cases right with
      | idle later more wakes =>
          exact .idle (later.trans job) (more.trans numbers) fun asleep => awake (wakes asleep)
      | dispatched number fresh asleep later more wakes =>
          exact .dispatched number fresh (awake asleep) later (numbers ▸ more) wakes
  | dispatched number fresh asleep job numbers awake =>
      cases right with
      | idle later more wakes =>
          refine .dispatched number fresh asleep (later.trans job) (more.trans numbers) ?_
          by_contra suspended
          have before := wakes (by simpa using suspended)
          simp [awake] at before
      | dispatched other fresh asleep later more wakes =>
          simp [awake] at asleep

theorem weaken {lower : Nat} (next : Next floor first second) (below : lower ≤ floor) :
    Next lower first second := by
  cases next with
  | idle job numbers awake => exact .idle job numbers awake
  | dispatched number fresh asleep job numbers awake =>
      exact .dispatched number (le_trans below fresh) asleep job numbers awake

end Calls.Next

def Txn.calls (past : List (Option Nat)) (txn : Txn) (id : String) : Calls where
  job := (txn.getTask id).map (·.job)
  numbers := past ++ (dispatchesOf id txn.enqueues).map (·.idOverride)
  suspended := (txn.getTask id).any (·.state = .suspended)

/-- The ids of the jobs enqueued for a task. -/
def System.numbers (system : System) (id : String) : List (Option Nat) :=
  (system.log.filter (·.2.payload = .execute id)).map fun entry => some entry.1

def System.calls (system : System) (id : String) : Calls where
  job := (system.task id).map (·.job)
  numbers := system.numbers id
  suspended := (system.task id).any (·.state = .suspended)

section

variable {env : Env} {txn : Txn} {past : List (Option Nat)} {id : String}

theorem calls_expire (keyed : txn.Keyed) (promise : StoredPromise) :
    Calls.Next txn.queue.nextJob (txn.calls past id)
      ((expirePromise env txn promise).1.calls past id) := by
  obtain ⟨job, fresh, task, dispatched⟩ := settleChain_task env keyed (expiredPromise promise)
    (expiredPromise_settled promise) id
  rw [expirePromise_eq]
  unfold Txn.calls
  rw [task, dispatched]
  by_cases own : (expiredPromise promise).record.id = id
  · rw [if_pos own, if_neg (fun apart => apart.1 own), List.append_nil]
    cases found : txn.getTask id with
    | none => exact .idle rfl rfl (by simp)
    | some task =>
        refine .idle ?_ rfl ?_
        · simp [fulfilled_job]
        · simp
  · by_cases reached : id ∈ (expiredPromise promise).callbacks ∧ txn.isOpen id = true
    · rw [if_neg own, if_pos reached, if_pos ⟨own, reached⟩]
      cases found : txn.getTask id with
      | none =>
          refine .idle rfl ?_ (by simp)
          simp
      | some task =>
          by_cases asleep : task.state = .suspended
          · refine .dispatched job fresh ?_ ?_ ?_ ?_
            · simp [asleep]
            · simp [StoredTask.resumed, asleep]
            · simp [StoredTask.redispatch, asleep, Txn.executeRequest]
            · simp [StoredTask.resumed, asleep, StoredTask.transition]
          · refine .idle ?_ ?_ ?_
            · cases state : task.state <;> simp [StoredTask.resumed, state]
              exact absurd state asleep
            · simp [StoredTask.redispatch, asleep]
            · intro suspended
              have awake := StoredTask.resumed_ne_suspended
                (expiredPromise promise).record.id job task
              simp [awake] at suspended
    · rw [if_neg own, if_neg reached, if_neg (fun both => reached both.2), List.append_nil]
      exact .refl _

theorem calls_tryTimeout (keyed : txn.Keyed) (ids : List String) :
    Calls.Next txn.queue.nextJob (txn.calls past id) ((tryTimeout env txn ids).calls past id) := by
  unfold tryTimeout
  induction ids generalizing txn with
  | nil => exact .refl _
  | cons named rest ih =>
      rw [List.foldl_cons]
      have first : Calls.Next txn.queue.nextJob (txn.calls past id)
          ((timeoutOne env txn named).calls past id) := by
        rcases timeoutOne_cases env txn keyed named with
          ⟨promise, _, _, _, _, expired⟩ | ⟨_, same⟩
        · rw [expired]
          exact calls_expire keyed promise
        · rw [same]
          exact .refl _
      exact first.trans ((ih (timeoutOne_keyed keyed named)).weaken
        (timeoutOne_buffers env txn named).nextJob)

/-- The jobs enqueued for a task have the ids its dispatches brought. -/
theorem numbers_enqueue (queue : Queue Payload) (requests : List (EnqueueRequest Payload))
    (numbered : ∀ request ∈ requests, request.idOverride = none → request.payload ≠ .execute id) :
    ((queue.enqueue requests).1.filter (·.2.payload = .execute id)).map
        (fun entry => some entry.1) = (dispatchesOf id requests).map (·.idOverride) := by
  induction requests generalizing queue with
  | nil => rfl
  | cons request rest ih =>
      have later := ih (queue.enqueueOne request).2
        fun other member => numbered other (List.mem_cons_of_mem _ member)
      rw [Queue.enqueue_cons]
      unfold dispatchesOf at later ⊢
      by_cases executes : request.payload = .execute id
      · have own : some (queue.placeOf request) = request.idOverride := by
          cases named : request.idOverride with
          | none => exact absurd executes (numbered request List.mem_cons_self named)
          | some number => simp [Queue.placeOf, named]
        have payload : (Queue.placed queue.clock request).payload = .execute id := executes
        simp only [List.filter_cons, payload, executes, decide_true, if_true, List.map_cons, own,
          later]
      · have payload : (Queue.placed queue.clock request).payload ≠ .execute id := executes
        simp only [List.filter_cons, payload, executes, decide_false, Bool.false_eq_true, if_false,
          later]

variable {before after system : System} {event : Event}

theorem calls_absorb {floor : Nat} {strict : Prop} (sound : txn.Sound floor strict) :
    (system.absorb txn.commit).calls id = txn.calls (system.numbers id) id := by
  have stores : Stores txn (system.absorb txn.commit) := stores_of_kv rfl
  have numbers : (system.absorb txn.commit).numbers id =
      system.numbers id ++ (dispatchesOf id txn.enqueues).map (·.idOverride) := by
    unfold System.numbers
    change List.map _ (List.filter _ (system.log ++ (txn.queue.enqueue txn.enqueues).1)) = _
    rw [List.filter_append, List.map_append, numbers_enqueue]
    intro request member unnamed
    exact sound.plain request member unnamed id
  unfold System.calls Txn.calls
  rw [stores.task, numbers]

theorem calls_txn (env : Env) (system : System) :
    (system.txn env).calls (system.numbers id) id = system.calls id := by
  unfold System.calls Txn.calls
  rw [System.getTask_txn]
  change Calls.mk _ (system.numbers id ++ []) _ = _
  rw [List.append_nil]

theorem calls_same (kv : after.kv = before.kv) (log : after.log = before.log) :
    after.calls id = before.calls id := by
  unfold System.calls System.numbers System.task
  rw [kv, log]

theorem perform_release_nextJob (queue : Queue Payload) (held : Held) (id : String) :
    ((After.release id).perform queue held).1.nextJob = queue.nextJob := by
  rw [perform_release]
  cases held[id]? with
  | none => rfl
  | some claim =>
      change ((queue.ack claim).getD queue).nextJob = _
      cases acked : queue.ack claim with
      | none => rfl
      | some later =>
          obtain ⟨_, rfl⟩ := Queue.ack_eq acked
          rfl

/-- A step of a tended run leaves a task's jobs, or dispatches it with a new one. -/
theorem Step.called (booked : Booked env before) (keyed : (before.txn env).Keyed)
    (coupled : ∀ id, Coupled ((before.txn env).cell id)) (step : Step env before event after)
    (tends : event.tends = true) (releasing : before.Releasing) (id : String) :
    Calls.Next before.queue.nextJob (before.calls id) (after.calls id) ∧
      before.queue.nextJob ≤ after.queue.nextJob := by
  have idle (kv : after.kv = before.kv) (log : after.log = before.log) :
      Calls.Next before.queue.nextJob (before.calls id) (after.calls id) := by
    rw [calls_same kv log]
    exact .refl _
  cases step with
  | unfired claim timer txn unlocked member timed own fired =>
      have fixed := (fire_trail env keyed timer).fixed
      rw [fired] at fixed
      exact ⟨idle fixed.kv (List.append_nil _), fixed.nextJob⟩
  | fired claim timer txn unlocked member timed own fired =>
      obtain ⟨named, payload⟩ := Event.tends_fire tends
      rw [payload] at own
      cases own
      have sound := booked.struck keyed coupled (.promiseTimeout named)
      rw [fired] at sound
      rcases fire_timeout env (before.txn env) named with
        ⟨promise, _, _, struck⟩ | ⟨idle, _⟩
      · rw [struck] at fired
        cases fired
        refine ⟨?_, le_trans sound.floor_le (Queue.enqueue_nextJob_le _ _)⟩
        have called : (before.absorb (expirePromise env (before.txn env) promise).1.commit).calls id
            = _ := calls_absorb sound
        change Calls.Next _ _
          ((before.absorb (expirePromise env (before.txn env) promise).1.commit).calls id)
        rw [called, ← calls_txn env before]
        exact calls_expire keyed promise
      · rw [idle] at fired
        cases fired
  | outlived claim stored timer txn exit unlocked member timed own fired left =>
      have fixed := (fire_trail env keyed timer).fixed
      rw [fired] at fixed
      exact ⟨idle fixed.kv (List.append_nil _), fixed.nextJob⟩
  | finished action rest pending =>
      obtain ⟨named, rfl⟩ := releasing action (by simp [pending])
      exact ⟨idle rfl rfl, (perform_release_nextJob _ _ _).ge⟩
  | passed entry member => exact ⟨idle rfl rfl, Nat.le_refl _⟩
  | ackedTimer claim member =>
      refine ⟨idle rfl rfl, ?_⟩
      change before.queue.nextJob ≤ ((before.queue.ack claim).getD before.queue).nextJob
      cases acked : before.queue.ack claim with
      | none => exact Nat.le_refl _
      | some later =>
          obtain ⟨_, rfl⟩ := Queue.ack_eq acked
          exact Nat.le_refl _
  | nackedTimer claim member timed =>
      refine ⟨idle rfl rfl, ?_⟩
      change before.queue.nextJob ≤ ((before.queue.nack claim).getD before.queue).nextJob
      cases nacked : before.queue.nack claim with
      | none => exact Nat.le_refl _
      | some later => exact (Queue.nack_keeps nacked).nextJob.ge
  | taken job lease period claim queue granted =>
      exact ⟨idle rfl rfl, (Queue.take_granted granted).keeps.nextJob.ge⟩
  | promoted job queue moved => exact ⟨idle rfl rfl, (Queue.promote_keeps moved).nextJob.ge⟩
  | reaped job queue moved => exact ⟨idle rfl rfl, (Queue.reap_keeps moved).nextJob.ge⟩
  | _ => cases tends

theorem calls_tended {events : List Event} (reached : Reachable env system)
    (ran : Machine.run (step env) system events = some after)
    (tends : ∀ event ∈ events, event.tends = true) (releasing : system.Releasing) (id : String) :
    Calls.Next system.queue.nextJob (system.calls id) (after.calls id) := by
  induction events generalizing system with
  | nil =>
      cases ran
      exact .refl _
  | cons event rest ih =>
      obtain ⟨next, taken, ran⟩ := Option.bind_eq_some_iff.mp ran
      have keyed : (system.txn env).Keyed := Reachable.keyed reached
      have tended := tends event List.mem_cons_self
      have coupled (id : String) : Coupled ((system.txn env).cell id) := by
        rw [System.cell_txn]
        exact Reachable.coupled reached id
      obtain ⟨called, forward⟩ := (step_cases taken).called (Reachable.booked reached) keyed coupled
        tended releasing id
      have releases := (step_cases taken).releasing tended releasing
      exact called.trans ((ih (reached.extend taken) ran
        (fun later member => tends later (by simp [member])) releases).weaken forward)

/-! ## Deadlines in any order -/

/-- The store after a commit that applied the deadlines of these promises. -/
def System.lapsed (env : Env) (system : System) (ids : List String) : System :=
  system.absorb (tryTimeout env (system.txn env) ids).commit

theorem standing_lapsed (reached : Reachable env system) (unlocked : system.after = [])
    (ids : List String) : (system.lapsed env ids).standing =
      ids.foldl (fun standing id => standing.strike env system.now id) system.standing := by
  have keyed : (system.txn env).Keyed := Reachable.keyed reached
  unfold System.lapsed
  rw [standing_absorb, standing_tryTimeout keyed, standing_txn env unlocked]
  rfl

theorem calls_lapsed (reached : Reachable env system) (ids : List String) (id : String) :
    Calls.Next system.queue.nextJob (system.calls id) ((system.lapsed env ids).calls id) := by
  have keyed : (system.txn env).Keyed := Reachable.keyed reached
  have booked : Booked env system := Reachable.booked reached
  have coupled (id : String) : Coupled ((system.txn env).cell id) := by
    rw [System.cell_txn]
    exact Reachable.coupled reached id
  have trail : Trail env (fun label => ∃ promise, label = .expire promise) (system.txn env)
      (tryTimeout env (system.txn env) ids) :=
    tryTimeout_trail ids keyed fun promise _ => ⟨promise, rfl⟩
  have allowed : ∀ label : Label, (∃ promise, label = .expire promise) →
      label.Allowed False fun _ => False := by
    rintro label ⟨promise, rfl⟩
    trivial
  have sound := trail.sound keyed coupled (booked.start False) allowed
    fun _ none_ => none_.elim
  unfold System.lapsed
  rw [calls_absorb sound, ← calls_txn env system]
  exact calls_tryTimeout keyed ids

/-- Deadlines applied in one commit, whatever their order and repetitions, and the timers of the
same overdue promises fired one by one, leave the store at the same: its promises, its tasks up to
the ids of new jobs, its claims, the dispatches and the messages. Each task is dispatched at most
once, with a new job, and otherwise keeps its job. -/
theorem deadlines_confluent (reached : Reachable env system) (unlocked : system.after = [])
    (first second : List String) (same : ∀ id, id ∈ first ↔ id ∈ second) :
    (system.lapsed env first).standing = (system.lapsed env second).standing ∧
    (∀ id, Calls.Next system.queue.nextJob (system.calls id)
        ((system.lapsed env first).calls id) ∧
      Calls.Next system.queue.nextJob (system.calls id) ((system.lapsed env second).calls id)) ∧
    ∀ events final, Machine.run (step env) system events = some final →
      (∀ event ∈ events, event.tends = true) →
      (∀ id ∈ events.filterMap Event.strikes, system.standing.Ripe system.now id) →
      (∀ id promise, system.promise id = some promise → promise.record.Overdue system.now →
        (id ∈ events.filterMap Event.strikes ↔ id ∈ first)) →
      final.standing = (system.lapsed env first).standing ∧
        ∀ id, Calls.Next system.queue.nextJob (system.calls id) (final.calls id) := by
  have commutes := Standing.strike_comm env system.now
  have settles := Standing.strike_strike env system.now
  have releasing : system.Releasing := by
    intro action member
    rw [unlocked] at member
    cases member
  refine ⟨?_, fun id => ⟨calls_lapsed reached first id, calls_lapsed reached second id⟩, ?_⟩
  · rw [standing_lapsed reached unlocked, standing_lapsed reached unlocked]
    exact Commuting.foldl_agree commutes settles fun id _ => same id
  · intro events final ran tends ripe fires
    refine ⟨?_, fun id => calls_tended reached ran tends releasing id⟩
    rw [standing_tended reached ran tends releasing ripe, standing_lapsed reached unlocked]
    apply Commuting.foldl_agree commutes settles
    intro id acts
    cases due : system.standing.overdue system.now id with
    | none => exact absurd (Standing.strike_early due) acts
    | some promise =>
        obtain ⟨found, overdue⟩ := Standing.overdue_iff.mp due
        exact fires id promise found overdue

end

/-- The events that fire the timers of both promises of the sample, the awaited one first. -/
def strikingRun : List Event :=
  [.promote 3, .take 3 100,
    .fire ⟨3, Keys.timerQueue, .timer (.promiseTimeout "root:1"), some 1000, 0⟩ true, .finish,
    .promote 1, .take 1 100,
    .fire ⟨1, Keys.timerQueue, .timer (.promiseTimeout "root"), some 1000, 1⟩ true, .finish]

theorem overdueRun_ends : (Machine.run (step .sample) registered [.clock 2000]).isSome = true := by
  decide

/-- The sample when the deadlines of both of its promises have passed. -/
def overdue : System := (Machine.run (step .sample) registered [.clock 2000]).get overdueRun_ends

theorem overdue_reachable : Reachable .sample overdue := by
  obtain ⟨past, history⟩ := registered_reachable
  obtain ⟨newer, extended⟩ := history.append_run (Option.some_get overdueRun_ends).symm
  exact ⟨_, extended⟩

theorem deadlines_confluent_overdue :
    (overdue.lapsed .sample ["root", "root:1", "root"]).standing =
        (overdue.lapsed .sample ["root:1", "root"]).standing ∧
      ∃ final, Machine.run (step .sample) overdue strikingRun = some final ∧
        final.standing = (overdue.lapsed .sample ["root", "root:1", "root"]).standing := by
  have ends : (Machine.run (step .sample) overdue strikingRun).isSome = true := by decide
  obtain ⟨final, ran⟩ := Option.isSome_iff_exists.mp ends
  have strikes : strikingRun.filterMap Event.strikes = ["root:1", "root"] := by decide
  have due : ∀ id ∈ ["root:1", "root"], (overdue.promise id).all (fun promise =>
      decide (promise.record.timeoutAt ≤ overdue.now)) = true := by
    decide
  have others : ∀ id promise, overdue.promise id = some promise →
      id = "root:1" ∨ id = "root" := by
    intro id promise found
    have listed : (id, promise) ∈ overdue.kv.promises.toList :=
      Std.ExtTreeMap.mem_toList_iff_getElem?_eq_some.mpr found
    have all : overdue.kv.promises.toList.all
        (fun entry => entry.1 = "root:1" ∨ entry.1 = "root") = true := by
      decide
    exact of_decide_eq_true (List.all_eq_true.mp all _ listed)
  obtain ⟨reordered, _, fired⟩ := deadlines_confluent overdue_reachable (by decide)
    ["root", "root:1", "root"] ["root:1", "root"] (by simp [or_comm])
  refine ⟨reordered, final, ran, (fired strikingRun final ran (by decide) ?_ ?_).1⟩
  · intro id member promise found _
    rw [strikes] at member
    have late := due id member
    rw [show overdue.promise id = some promise from found] at late
    simpa using late
  · intro id promise found _
    rw [strikes]
    rcases others id promise found with rfl | rfl
    · simp
    · simp

end Resonate
