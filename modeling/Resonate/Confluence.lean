import Resonate.Standings
import Resonate.Listeners

set_option autoImplicit false

/-! Deadlines are applied in any order: what a transaction or the store stands at after them is
the fold of commuting updates. -/

namespace Resonate

open Kernel
open LeaseQueue (Queue Job EnqueueRequest)

/-- What is dispatched and sent by jobs, each given by its queue and its payload. -/
def dispatchCount (jobs : List (String × Payload)) (id : String) : Nat :=
  jobs.countP (·.2 = .execute id)

def isDispatch (job : String × Payload) : Bool :=
  match job.2 with
  | .execute _ => true
  | .unblock _ | .timer _ => false

def messagesOf (jobs : List (String × Payload)) : Multiset (String × Payload) :=
  Multiset.ofList (jobs.filter fun job => !isDispatch job)

/-- What a transaction stands at, over the jobs enqueued before it. -/
def Txn.standing (past : List (String × Payload)) (txn : Txn) : Standing where
  promise := txn.getPromise
  task id := (txn.getTask id).map StoredTask.unnumbered
  held id := if .release id ∈ txn.after then none else txn.held[id]?
  dispatches := dispatchCount (past ++ txn.enqueues.map requested)
  messages := messagesOf (past ++ txn.enqueues.map requested)

/-- The jobs enqueued so far. -/
def System.emitted (system : System) : List (String × Payload) :=
  system.log.map fun entry => (entry.2.queue, entry.2.payload)

/-- What the store stands at. A claim that a commit releases is not kept. -/
def System.standing (system : System) : Standing where
  promise := system.promise
  task id := (system.task id).map StoredTask.unnumbered
  held id := if .release id ∈ system.after then none else system.held[id]?
  dispatches := dispatchCount system.emitted
  messages := messagesOf system.emitted

section

variable {env : Env} {txn : Txn} {past : List (String × Payload)}

theorem dispatchCount_append (first second : List (String × Payload)) (id : String) :
    dispatchCount (first ++ second) id = dispatchCount first id + dispatchCount second id :=
  List.countP_append

theorem messagesOf_append (first second : List (String × Payload)) :
    messagesOf (first ++ second) = messagesOf first + messagesOf second := by
  simp [messagesOf]

theorem dispatchCount_requests (requests : List (EnqueueRequest Payload)) (id : String) :
    dispatchCount (requests.map requested) id = (dispatchesOf id requests).length := by
  unfold dispatchCount dispatchesOf
  rw [List.countP_map, List.countP_eq_length_filter]
  rfl

theorem standing_suspended (id : String) :
    (txn.standing past).suspended id = (txn.getTask id).any (·.state = .suspended) := by
  unfold Standing.suspended Txn.standing
  rw [Option.any_map]
  rfl

theorem standing_unfulfilled (id : String) :
    (txn.standing past).unfulfilled id = (txn.getTask id).any (·.state ≠ .fulfilled) := by
  unfold Standing.unfulfilled Txn.standing
  rw [Option.any_map]
  rfl

theorem standing_reaches (promise : StoredPromise) (id : String) :
    (txn.standing past).reaches txn.now promise id =
      (decide (id ∈ promise.callbacks) && txn.isOpen id) := rfl

section

variable {id : String} {promise : StoredPromise}

theorem task_expire (keyed : txn.Keyed) (own : promise.record.id = id) (other : String) :
    ((expirePromise env txn promise).1.getTask other).map StoredTask.unnumbered =
      ((txn.standing past).lapse env txn.now id promise).task other := by
  obtain ⟨job, _, task, _⟩ := settleChain_task env keyed (expiredPromise promise)
    (expiredPromise_settled promise) other
  have expiredId : (expiredPromise promise).record.id = id := own
  rw [expirePromise_eq, task, expiredId, Standing.task_lapse, standing_reaches]
  by_cases same : other = id
  · simp only [same, if_true, Txn.standing, Option.map_map]
    congr 1
    funext task
    exact task.fulfilled_unnumbered
  · rw [if_neg same, if_neg (Ne.symm same)]
    have listed : (expiredPromise promise).callbacks = promise.callbacks := rfl
    rw [listed]
    by_cases reached : other ∈ promise.callbacks ∧ txn.isOpen other = true
    · simp only [reached, and_self, if_true, decide_true, Bool.and_self, Txn.standing,
        Option.map_map]
      congr 1
      funext task
      exact task.resumed_unnumbered id job
    · rw [if_neg reached, if_neg (by simpa using reached)]
      rfl

/-- The claim of the promise's own task is released. -/
theorem mem_releasesOf (keyed : txn.Keyed) (other : String) :
    After.release other ∈ releasesOf txn id ↔
      other = id ∧ (txn.standing past).unfulfilled id = true := by
  rw [standing_unfulfilled]
  unfold releasesOf
  cases found : txn.getTask id with
  | none => simp
  | some task =>
      have named := keyed.task id task found
      by_cases fulfilled : task.state = .fulfilled
      · simp [fulfilled]
      · simp [fulfilled, named]

theorem held_expire (keyed : txn.Keyed) (own : promise.record.id = id) (other : String) :
    (if .release other ∈ (expirePromise env txn promise).1.after then none
      else (expirePromise env txn promise).1.held[other]?) =
      ((txn.standing past).lapse env txn.now id promise).held other := by
  have expiredId : (expiredPromise promise).record.id = id := own
  change _ = if other = id ∧ (txn.standing past).unfulfilled id then none
    else if .release other ∈ txn.after then none else txn.held[other]?
  rw [expirePromise_eq, after_settleChain, expiredId, (settleChain_buffers env txn _).held]
  simp only [List.mem_append, @mem_releasesOf txn past id keyed]
  by_cases here : other = id ∧ (txn.standing past).unfulfilled id = true
  · simp [here]
  · simp [here]

theorem dispatches_expire (keyed : txn.Keyed) (own : promise.record.id = id) (other : String) :
    dispatchCount (past ++ (expirePromise env txn promise).1.enqueues.map requested) other =
      ((txn.standing past).lapse env txn.now id promise).dispatches other := by
  obtain ⟨job, _, _, dispatched⟩ := settleChain_task env keyed (expiredPromise promise)
    (expiredPromise_settled promise) other
  have expiredId : (expiredPromise promise).record.id = id := own
  change _ = dispatchCount (past ++ List.map requested txn.enqueues) other + _
  rw [expirePromise_eq, dispatchCount_append, dispatchCount_append, dispatchCount_requests,
    dispatchCount_requests, dispatched, expiredId, List.length_append, standing_reaches,
    standing_suspended, Nat.add_assoc]
  congr 2
  have listed : (expiredPromise promise).callbacks = promise.callbacks := rfl
  rw [listed]
  by_cases same : other = id
  · simp [same]
  · have apart : id ≠ other := fun same_ => same same_.symm
    by_cases reached : other ∈ promise.callbacks ∧ txn.isOpen other = true
    · cases found : txn.getTask other with
      | none => simp
      | some task =>
          by_cases asleep : task.state = .suspended
          · simp [StoredTask.redispatch, asleep, same, apart, reached]
          · simp [StoredTask.redispatch, asleep]
    · have unreached : (decide (other ∈ promise.callbacks) && txn.isOpen other) = false := by
        simpa using reached
      simp [unreached, reached]

theorem messages_expire :
    messagesOf (past ++ (expirePromise env txn promise).1.enqueues.map requested) =
      ((txn.standing past).lapse env txn.now id promise).messages := by
  obtain ⟨executes, enqueued, executing⟩ := enqueues_settleChain env txn (expiredPromise promise)
  have silent : messagesOf (executes.map requested) = 0 := by
    unfold messagesOf
    rw [List.filter_eq_nil_iff.mpr]
    · rfl
    · intro job member
      obtain ⟨request, inside, rfl⟩ := List.mem_map.mp member
      obtain ⟨task, payload⟩ := executing request inside
      simp [isDispatch, requested, payload]
  have loud : messagesOf (((expiredPromise promise).listeners.map fun address =>
      Txn.unblockRequest env address (.unblock (expiredPromise promise).record)).map requested) =
      Multiset.ofList (promise.listeners.map fun address =>
        (Keys.addressQueue env address, .unblock (.unblock (expiredPromise promise).record))) := by
    unfold messagesOf
    rw [List.map_map, List.filter_eq_self.mpr]
    · rfl
    · intro job member
      obtain ⟨address, _, rfl⟩ := List.mem_map.mp member
      rfl
  change _ = messagesOf (past ++ List.map requested txn.enqueues) + _
  rw [expirePromise_eq, enqueued, List.map_append, List.map_append, ← List.append_assoc,
    ← List.append_assoc, messagesOf_append, messagesOf_append, silent, add_zero, loud]

/-- A deadline updates what a transaction stands at by one step. -/
theorem standing_expire (keyed : txn.Keyed) (own : promise.record.id = id) :
    (expirePromise env txn promise).1.standing past =
      (txn.standing past).lapse env txn.now id promise := by
  ext1
  · funext other
    change (expirePromise env txn promise).1.getPromise other = _
    rw [expirePromise_eq, getPromise_settleChain]
    change (if promise.record.id = other then _ else _) = _
    rw [own]
    by_cases same : other = id
    · simp [same, Standing.lapse]
    · simp [same, Ne.symm same, Standing.lapse, Txn.standing]
  · funext other
    exact task_expire keyed own other
  · funext other
    exact held_expire keyed own other
  · funext other
    exact dispatches_expire keyed own other
  · exact messages_expire

end

theorem overdue_standing (id : String) :
    (txn.standing past).overdue txn.now id =
      (txn.getPromise id).filter fun promise => promise.record.Overdue txn.now := rfl

/-- Applying the deadline of a promise is one update. -/
theorem standing_timeoutOne (keyed : txn.Keyed) (id : String) :
    (timeoutOne env txn id).standing past = (txn.standing past).strike env txn.now id := by
  rcases timeoutOne_cases env txn keyed id with
    ⟨promise, stored, own, pending, due, expired⟩ | ⟨early, same⟩
  · have overdue : (txn.standing past).overdue txn.now id = some promise :=
      Standing.overdue_iff.mpr ⟨stored, pending, due⟩
    rw [expired, standing_expire keyed own, Standing.strike_due overdue]
  · rw [same, Standing.strike_early]
    rw [overdue_standing, Option.filter_eq_none_iff]
    intro promise found overdue
    have late := (of_decide_eq_true overdue).2
    have ahead := early promise found (of_decide_eq_true overdue).1
    omega

/-- Applying the deadlines of promises is the fold of their updates. -/
theorem standing_tryTimeout (keyed : txn.Keyed) (ids : List String) :
    (tryTimeout env txn ids).standing past =
      ids.foldl (fun standing id => standing.strike env txn.now id) (txn.standing past) := by
  unfold tryTimeout
  induction ids generalizing txn with
  | nil => rfl
  | cons id rest ih =>
      have now : (timeoutOne env txn id).now = txn.now := (timeoutOne_buffers env txn id).now
      rw [List.foldl_cons, List.foldl_cons, ih (timeoutOne_keyed keyed id), now,
        standing_timeoutOne keyed]

/-! ## Commits -/

variable {before after system : System}

theorem emitted_absorb (system : System) (txn : Txn) :
    (system.absorb txn.commit).emitted = system.emitted ++ txn.enqueues.map requested := by
  unfold System.emitted
  change List.map _ (system.log ++ (txn.queue.enqueue txn.enqueues).1) = _
  rw [List.map_append, unblocks_enqueue]

/-- The store after a commit stands at what the transaction stood at. -/
theorem standing_absorb (system : System) (txn : Txn) :
    (system.absorb txn.commit).standing = txn.standing system.emitted := by
  have stores : Stores txn (system.absorb txn.commit) := stores_of_kv rfl
  unfold System.standing Txn.standing
  rw [stores.promise, stores.task, emitted_absorb]
  rfl

/-- A transaction starts from what the store stands at. -/
theorem standing_txn (env : Env) (unlocked : system.after = []) :
    (system.txn env).standing system.emitted = system.standing := by
  unfold System.standing Txn.standing
  rw [System.getPromise_txn, System.getTask_txn, unlocked]
  change Standing.mk _ _ _ (dispatchCount (system.emitted ++ [])) (messagesOf (system.emitted ++ []))
    = _
  rw [List.append_nil]
  rfl

/-- What differs in the queue, the claims taken and the messages returned only stands at the
same. -/
theorem standing_same (kv : after.kv = before.kv) (held : after.held = before.held)
    (pending : after.after = before.after) (log : after.log = before.log) :
    after.standing = before.standing := by
  unfold System.standing System.emitted System.promise System.task
  rw [kv, held, pending, log]

/-- Releasing a claim after the commit leaves what the store stands at. -/
theorem standing_finished (step : Step env before .finish after)
    (releases : ∀ action ∈ before.after, ∃ id, action = .release id) :
    after.standing = before.standing := by
  cases step with
  | finished action rest pending =>
      obtain ⟨id, rfl⟩ := releases action (by simp [pending])
      have held (other : String) :
          (if After.release other ∈ rest then none
            else ((After.release id).perform before.queue before.held).2[other]?) =
          if After.release other ∈ before.after then none else before.held[other]? := by
        rw [pending]
        by_cases own : other = id
        · subst own
          by_cases again : After.release other ∈ rest
          · simp [again]
          · simp only [again, if_false, List.mem_cons, true_or, if_true, After.perform]
            cases found : before.held[other]? with
            | none => exact found
            | some claim => simp
        · have apart : ¬ id = other := fun same => own same.symm
          have kept : ((After.release id).perform before.queue before.held).2[other]? =
              before.held[other]? := by
            simp only [After.perform]
            split
            · rw [Table.find_erase, if_neg apart]
            · rfl
          simp only [List.mem_cons, After.release.injEq, own, false_or, kept]
      unfold System.standing
      congr 1
      funext other
      exact held other

end

end Resonate
