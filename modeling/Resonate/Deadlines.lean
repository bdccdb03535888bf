import Resonate.MoveFacts

set_option autoImplicit false

/-! Applying the deadlines of named promises. -/

namespace Resonate

namespace Kernel

/-- The promise once its deadline has been applied. -/
def lapsed (now : Int) (promise : StoredPromise) : StoredPromise :=
  if promise.record.isPending ∧ promise.record.timeoutAt ≤ now then
    (expiredPromise promise).cleared
  else promise

/-- A promise whose deadline has been applied is not overdue. -/
theorem lapsed_early (now : Int) (promise : StoredPromise)
    (pending : (lapsed now promise).record.isPending = true) :
    lapsed now promise = promise ∧ now < promise.record.timeoutAt := by
  unfold lapsed at pending ⊢
  split
  · rename_i due
    rw [if_pos due] at pending
    change (expiredPromise promise).record.isPending = true at pending
    rw [expiredPromise_settled] at pending
    cases pending
  · rename_i early
    rw [if_neg early] at pending
    refine ⟨rfl, ?_⟩
    by_contra passed
    exact early ⟨pending, by omega⟩

theorem lapsed_lapsed (now : Int) (promise : StoredPromise) :
    lapsed now (lapsed now promise) = lapsed now promise := by
  cases pending : (lapsed now promise).record.isPending with
  | true =>
      have early := lapsed_early now promise pending
      rw [early.1]
      exact early.1
  | false =>
      generalize lapsed now promise = settled at pending ⊢
      unfold lapsed
      rw [if_neg]
      rintro ⟨open_, _⟩
      rw [pending] at open_
      cases open_

variable {env : Env} {txn : Txn}

theorem timeoutOne_due (promise : StoredPromise) (id : String)
    (stored : txn.getPromise id = some promise)
    (due : promise.record.isPending = true ∧ promise.record.timeoutAt ≤ txn.now) :
    timeoutOne env txn id = (expirePromise env txn promise).1 := by
  unfold timeoutOne
  rw [stored]
  dsimp only
  rw [if_pos due]

/-- A promise that is missing, settled or not past its deadline is left alone. -/
theorem timeoutOne_early (id : String)
    (early : ∀ promise, txn.getPromise id = some promise → promise.record.isPending = true →
      txn.now < promise.record.timeoutAt) : timeoutOne env txn id = txn := by
  unfold timeoutOne
  cases stored : txn.getPromise id with
  | none => rfl
  | some promise =>
      dsimp only
      rw [if_neg]
      rintro ⟨pending, due⟩
      have ahead := early promise stored pending
      omega

theorem timeoutOne_cases (env : Env) (txn : Txn) (keyed : txn.Keyed) (id : String) :
    (∃ promise, txn.getPromise id = some promise ∧ promise.record.id = id ∧
      promise.record.isPending = true ∧ promise.record.timeoutAt ≤ txn.now ∧
      timeoutOne env txn id = (expirePromise env txn promise).1) ∨
    ((∀ promise, txn.getPromise id = some promise → promise.record.isPending = true →
      txn.now < promise.record.timeoutAt) ∧ timeoutOne env txn id = txn) := by
  cases stored : txn.getPromise id with
  | none =>
      refine .inr ⟨?_, timeoutOne_early id ?_⟩
      · intro promise found
        cases found
      · intro promise found
        rw [stored] at found
        cases found
  | some promise =>
      by_cases due : promise.record.isPending = true ∧ promise.record.timeoutAt ≤ txn.now
      · exact .inl ⟨promise, rfl, keyed.promise _ _ stored, due.1, due.2,
          timeoutOne_due promise id stored due⟩
      · have early : ∀ other, txn.getPromise id = some other → other.record.isPending = true →
            txn.now < other.record.timeoutAt := by
          intro other found pending
          rw [stored] at found
          cases found
          by_contra passed
          exact due ⟨pending, by omega⟩
        exact .inr ⟨stored ▸ early, timeoutOne_early id early⟩

theorem timeoutOne_buffers (env : Env) (txn : Txn) (id : String) :
    Txn.Buffers txn (timeoutOne env txn id) := by
  unfold timeoutOne
  split
  · split
    · exact settleChain_buffers _ _ _
    · exact .refl txn
  · exact .refl txn

theorem timeoutOne_keyed (keyed : txn.Keyed) (id : String) : (timeoutOne env txn id).Keyed := by
  unfold timeoutOne
  split
  · split
    · exact settleChain_keyed keyed _ (expiredPromise_settled _)
    · exact keyed
  · exact keyed

theorem getPromise_timeoutOne (keyed : txn.Keyed) (named id : String) :
    (timeoutOne env txn named).getPromise id =
      if named = id then (txn.getPromise id).map (lapsed txn.now) else txn.getPromise id := by
  rcases timeoutOne_cases env txn keyed named with
    ⟨promise, stored, own, pending, due, expired⟩ | ⟨early, same⟩
  · rw [expired, expirePromise_eq, getPromise_settleChain]
    change (if promise.record.id = id then _ else _) = _
    rw [own]
    by_cases self : named = id
    · subst self
      rw [if_pos rfl, if_pos rfl, stored, Option.map_some, lapsed, if_pos ⟨pending, due⟩]
    · rw [if_neg self, if_neg self]
  · rw [same]
    by_cases self : named = id
    · subst self
      rw [if_pos rfl]
      cases stored : txn.getPromise named with
      | none => rfl
      | some promise =>
          rw [Option.map_some, lapsed, if_neg]
          rintro ⟨pending, due⟩
          have ahead := early promise stored pending
          omega
    · rw [if_neg self]

/-! ## Every named promise -/

theorem tryTimeout_buffers (env : Env) (ids : List String) (txn : Txn) :
    Txn.Buffers txn (tryTimeout env txn ids) :=
  Txn.foldl_buffers _ (fun txn id => timeoutOne_buffers env txn id) ids txn

theorem tryTimeout_keyed (env : Env) (ids : List String) (keyed : txn.Keyed) :
    (tryTimeout env txn ids).Keyed := by
  unfold tryTimeout
  induction ids generalizing txn with
  | nil => exact keyed
  | cons id rest ih => exact ih (timeoutOne_keyed keyed id)

/-- Deadlines reach the named promises and no other record of a promise. -/
theorem getPromise_tryTimeout (ids : List String) (keyed : txn.Keyed) (id : String) :
    (tryTimeout env txn ids).getPromise id =
      if id ∈ ids then (txn.getPromise id).map (lapsed txn.now) else txn.getPromise id := by
  unfold tryTimeout
  induction ids generalizing txn with
  | nil => simp
  | cons named rest ih =>
      rw [List.foldl_cons, ih (timeoutOne_keyed keyed named), (timeoutOne_buffers env txn named).now,
        getPromise_timeoutOne keyed]
      by_cases self : named = id
      · subst self
        rw [if_pos rfl, if_pos List.mem_cons_self]
        split
        · rw [Option.map_map]
          congr 1
          funext promise
          exact lapsed_lapsed txn.now promise
        · rfl
      · rw [if_neg self]
        have member : id ∈ named :: rest ↔ id ∈ rest := by
          simp [Ne.symm self]
        simp only [member]

/-- No named promise is overdue once the deadlines are applied. -/
theorem tryTimeout_early (ids : List String) (keyed : txn.Keyed) (id : String) (named : id ∈ ids)
    (promise : StoredPromise) (stored : (tryTimeout env txn ids).getPromise id = some promise)
    (pending : promise.record.isPending = true) :
    (tryTimeout env txn ids).now < promise.record.timeoutAt := by
  rw [(tryTimeout_buffers env ids txn).now]
  rw [getPromise_tryTimeout ids keyed, if_pos named] at stored
  obtain ⟨old, _, rfl⟩ := Option.map_eq_some_iff.mp stored
  obtain ⟨same, early⟩ := lapsed_early txn.now old pending
  rw [same]
  exact early

/-- Named promises that are not overdue leave the transaction alone. -/
theorem tryTimeout_same (ids : List String) (txn : Txn)
    (early : ∀ id ∈ ids, ∀ promise, txn.getPromise id = some promise →
      promise.record.isPending = true → txn.now < promise.record.timeoutAt) :
    tryTimeout env txn ids = txn := by
  unfold tryTimeout
  induction ids with
  | nil => rfl
  | cons id rest ih =>
      rw [List.foldl_cons, timeoutOne_early id (early id List.mem_cons_self)]
      exact ih fun other member => early other (List.mem_cons_of_mem _ member)

/-- Applying deadlines is a trail of expiries of named promises. -/
theorem tryTimeout_trail {permits : Label → Prop} (ids : List String) (keyed : txn.Keyed)
    (permitted : ∀ promise, promise.record.id ∈ ids → permits (.expire promise)) :
    Trail env permits txn (tryTimeout env txn ids) := by
  unfold tryTimeout
  induction ids generalizing txn with
  | nil => exact .refl txn
  | cons id rest ih =>
      have later : Trail env permits (timeoutOne env txn id)
          ((id :: rest).foldl (timeoutOne env) txn) :=
        ih (timeoutOne_keyed keyed id) fun promise member =>
          permitted promise (List.mem_cons_of_mem _ member)
      rcases timeoutOne_cases env txn keyed id with
        ⟨promise, stored, own, pending, due, expired⟩ | ⟨early, same⟩
      · refine Trail.trans (.one (.expire promise) (permitted promise ?_) ?_) later
        · rw [own]
          exact List.mem_cons_self
        · rw [expired]
          exact .expire promise (own ▸ stored) pending due
      · rw [same] at later
        exact later

end Kernel

end Resonate
