import Resonate.LeaseQueueFacts

set_option autoImplicit false

/-! Scheduled jobs: only a claim by id and a promotion reach one before its time. -/

namespace LeaseQueue

variable {α : Type}

namespace Queue

/-- Where `later` differs from `earlier`, a job that was not scheduled, or is exempt, is gone or
in another state, and not scheduled again. -/
def Spares (exempt : Job α → Prop) (earlier later : Queue α) : Prop :=
  ∀ id : Nat, later.jobs[id]? = earlier.jobs[id]? ∨
    ∃ old : Job α, earlier.jobs[id]? = some old ∧ (old.state ≠ .scheduled ∨ exempt old) ∧
      ∀ new : Job α, later.jobs[id]? = some new →
        new.contents = old.contents ∧ new.state ≠ .scheduled

variable {exempt : Job α → Prop}

theorem Spares.refl (queue : Queue α) : Spares exempt queue queue := fun _ => .inl rfl

theorem spares_of_jobs {earlier later : Queue α} (same : later.jobs = earlier.jobs) :
    Spares exempt earlier later := fun id => .inl (by rw [same])

theorem Spares.trans {first second third : Queue α} (left : Spares exempt first second)
    (right : Spares exempt second third) : Spares exempt first third := by
  intro id
  rcases right id with same | ⟨middle, found, awake, later⟩
  · rcases left id with kept | ⟨old, stored, busy, between⟩
    · exact .inl (same.trans kept)
    · exact .inr ⟨old, stored, busy, fun new present => between new (same.symm.trans present)⟩
  · rcases left id with kept | ⟨old, stored, busy, between⟩
    · exact .inr ⟨middle, kept.symm.trans found, awake, later⟩
    · refine .inr ⟨old, stored, busy, fun new present => ?_⟩
      obtain ⟨contents, unscheduled⟩ := later new present
      exact ⟨contents.trans (between middle found).1, unscheduled⟩

/-- A scheduled job is left alone unless it is exempt. -/
theorem Spares.scheduled {earlier later : Queue α} (spares : Spares exempt earlier later)
    {id : Nat} {job : Job α} (found : earlier.jobs[id]? = some job)
    (scheduled : job.state = .scheduled) (ordinary : ¬ exempt job) :
    later.jobs[id]? = some job := by
  rcases spares id with same | ⟨old, stored, busy | excepted, _⟩
  · exact same.trans found
  · rw [found] at stored
    cases stored
    exact absurd scheduled busy
  · rw [found] at stored
    cases stored
    exact absurd excepted ordinary

/-- Where a job comes from: it is unchanged, or its claims changed. -/
theorem Spares.origin {earlier later : Queue α} (spares : Spares exempt earlier later) {id : Nat}
    {job : Job α} (found : later.jobs[id]? = some job) :
    ∃ old : Job α, earlier.jobs[id]? = some old ∧ old.contents = job.contents ∧
      (old = job ∨ (old.state ≠ .scheduled ∨ exempt old) ∧ job.state ≠ .scheduled) := by
  rcases spares id with same | ⟨old, stored, busy, later⟩
  · exact ⟨job, same.symm.trans found, rfl, .inl rfl⟩
  · obtain ⟨contents, awake⟩ := later job found
    exact ⟨old, stored, contents.symm, .inr ⟨busy, awake⟩⟩

theorem put_other (queue : Queue α) {id other : Nat} (job : Job α) (apart : other ≠ id) :
    (queue.put id job).jobs[other]? = queue.jobs[other]? := by
  unfold put
  rw [Table.find_insert, if_neg (Ne.symm apart)]

theorem setState_other (queue : Queue α) {id other : Nat} (state : JobState)
    (apart : other ≠ id) : (queue.setState id state).jobs[other]? = queue.jobs[other]? := by
  unfold setState
  split
  · exact put_other queue _ apart
  · rfl

/-- A job that is not scheduled may change into another such state. -/
theorem setState_spares (queue : Queue α) (id : Nat) (state : JobState)
    (busy : ∀ job : Job α, queue.jobs[id]? = some job → job.state ≠ .scheduled ∨ exempt job)
    (awake : state ≠ .scheduled) : Spares exempt queue (queue.setState id state) := by
  intro other
  by_cases own : other = id
  · subst own
    cases found : queue.jobs[other]? with
    | none =>
        left
        simp [setState, found]
    | some job =>
        right
        refine ⟨job, rfl, busy job found, fun new present => ?_⟩
        simp only [setState, found, put, Table.find_insert, ↓reduceIte, Option.some.injEq] at present
        subst present
        exact ⟨rfl, awake⟩
  · exact .inl (setState_other queue state own)

theorem unscheduled_of_token {job : Job α} {token : Nat} (held : job.state.token = some token) :
    job.state ≠ .scheduled := by
  intro scheduled
  rw [scheduled] at held
  cases held

/-- The job of a current claim is not scheduled. -/
theorem current_busy {queue : Queue α} {claim : Claim α} (current : queue.current claim = true) :
    ∀ job : Job α, queue.jobs[claim.id]? = some job → job.state ≠ .scheduled := by
  intro job found
  obtain ⟨other, present, token⟩ := (current_iff queue claim).mp current
  rw [found] at present
  cases present
  exact unscheduled_of_token token

theorem renewLease_spares {queue later : Queue α} {claim : Claim α} {lease : Nat}
    (renewed : queue.renewLease claim lease = some later) : Spares exempt queue later := by
  unfold renewLease at renewed
  split at renewed
  · rename_i current
    cases renewed
    exact setState_spares _ _ _ (fun job found => .inl (current_busy current job found)) (by simp)
  · cases renewed

theorem nack_spares {queue later : Queue α} {claim : Claim α}
    (nacked : queue.nack claim = some later) : Spares exempt queue later := by
  unfold nack at nacked
  split at nacked
  · rename_i current
    cases nacked
    exact setState_spares _ _ _ (fun job found => .inl (current_busy current job found)) (by simp)
  · cases nacked

theorem remove_spares (queue : Queue α) (id : Nat)
    (busy : ∀ job : Job α, queue.jobs[id]? = some job → job.state ≠ .scheduled) :
    Spares exempt queue (queue.remove id) := by
  intro other
  unfold remove
  rw [Table.find_erase]
  by_cases own : id = other
  · subst own
    rw [if_pos rfl]
    cases found : queue.jobs[id]? with
    | none => exact .inl rfl
    | some job => exact .inr ⟨job, rfl, .inl (busy job found), by simp⟩
  · exact .inl (if_neg own)

theorem ack_spares {queue later : Queue α} {claim : Claim α}
    (acked : queue.ack claim = some later) : Spares exempt queue later := by
  obtain ⟨current, rfl⟩ := ack_eq acked
  exact remove_spares queue claim.id (current_busy current)

theorem reap_spares {queue later : Queue α} {id : Nat} (reaped : queue.reap id = some later) :
    Spares exempt queue later := by
  unfold reap at reaped
  split at reaped
  · rename_i leaseEnd leased
    split at reaped
    · cases reaped
      refine setState_spares _ _ _ (fun job found => .inl fun scheduled => ?_) (by simp)
      obtain ⟨queue_, payload, runAt, state⟩ := job
      cases scheduled
      simp [leaseExpiry, found] at leased
    · cases reaped
  · cases reaped

/-- A job granted under a fresh claim. -/
theorem grant_jobs (queue : Queue α) (id other : Nat) (job : Job α) (lease : Nat) :
    (queue.grant id job lease).2.jobs[other]? =
      if id = other then
        some { job with state := .claimed queue.nextToken (queue.clock + lease) }
      else queue.jobs[other]? := by
  unfold grant put
  exact Table.find_insert _ _ _ _

theorem take_waiting {queue later : Queue α} {claim : Claim α} {id lease : Nat}
    (taken : queue.take id lease = some (claim, later)) :
    ∃ job : Job α, queue.jobs[id]? = some job ∧ job.state = .waiting ∧
      queue.grant id job lease = (claim, later) := by
  unfold take at taken
  split at taken
  · rename_i job found
    split at taken
    · rename_i waiting
      exact ⟨job, found, waiting, Option.some.inj taken⟩
    · cases taken
  · cases taken

theorem take_spares {queue later : Queue α} {claim : Claim α} {id lease : Nat}
    (taken : queue.take id lease = some (claim, later)) : Spares exempt queue later := by
  obtain ⟨job, found, waiting, granted⟩ := take_waiting taken
  intro other
  have stored := queue.grant_jobs id other job lease
  rw [granted] at stored
  by_cases own : id = other
  · subst own
    rw [if_pos rfl] at stored
    refine .inr ⟨job, found, .inl (by simp [waiting]), fun new present => ?_⟩
    cases stored.symm.trans present
    exact ⟨rfl, by simp⟩
  · rw [if_neg own] at stored
    exact .inl stored

theorem reopen_spares (queue : Queue α) : Spares exempt queue queue.reopen := by
  intro id
  unfold reopen
  rw [Std.ExtTreeMap.getElem?_map]
  cases found : queue.jobs[id]? with
  | none => exact .inl rfl
  | some job =>
      rw [Option.map_some]
      obtain ⟨name, payload, runAt, state⟩ := job
      cases state with
      | scheduled => exact .inl rfl
      | waiting => exact .inl rfl
      | claimed token leaseEnd =>
          refine .inr ⟨_, rfl, .inl (by simp), fun new present => ?_⟩
          cases present
          exact ⟨rfl, by simp [JobState.requeued]⟩

/-- A claim by id reaches its own job only. -/
theorem claimById_spares {queue later : Queue α} {claim : Claim α} {id lease : Nat}
    (claimed : queue.claimById id lease = some (claim, later))
    (own : ∀ job : Job α, queue.jobs[id]? = some job → exempt job) :
    Spares exempt queue later := by
  unfold claimById at claimed
  split at claimed
  · rename_i job found
    split at claimed
    · cases claimed
    · cases claimed
      intro other
      have stored := queue.grant_jobs id other job lease
      by_cases same : id = other
      · subst same
        rw [if_pos rfl] at stored
        refine .inr ⟨job, found, .inr (own job found), fun new present => ?_⟩
        cases stored.symm.trans present
        exact ⟨rfl, by simp⟩
      · rw [if_neg same] at stored
        exact .inl stored
  · cases claimed

/-- A promotion reaches its own scheduled job only. -/
theorem promote_spares {queue later : Queue α} {id : Nat}
    (promoted : queue.promote id = some later)
    (own : ∀ job : Job α, queue.jobs[id]? = some job → exempt job) :
    Spares exempt queue later := by
  unfold promote at promoted
  split at promoted
  · split at promoted
    · cases promoted
      exact setState_spares _ _ _ (fun job found => .inr (own job found)) (by simp)
    · cases promoted
  · cases promoted

/-- Whether a job is scheduled or its time has come. -/
def Ripe (clock : Nat) (job : Job α) : Prop :=
  job.state = .scheduled ∨ ∀ time, job.runAt = some time → time ≤ clock

theorem placed_ripe (clock : Nat) (request : EnqueueRequest α) :
    Ripe clock (placed clock request) := by
  unfold placed
  cases later : request.runAt.any (clock < ·) with
  | true => exact .inl rfl
  | false =>
      right
      intro time due
      dsimp only at due
      simp only [due, Option.any_some, decide_eq_false_iff_not, Nat.not_lt] at later
      exact later

theorem Ripe.mono {earlier later : Nat} {job : Job α} (ripe : Ripe earlier job)
    (forward : earlier ≤ later) : Ripe later job := by
  rcases ripe with scheduled | due
  · exact .inl scheduled
  · exact .inr fun time found => Nat.le_trans (due time found) forward

/-- Where scheduled jobs are spared but for due ones, a ripe job stays ripe. -/
theorem Spares.ripe {earlier later : Queue α} (spares : Spares exempt earlier later)
    {clock id : Nat} {job : Job α} (found : later.jobs[id]? = some job)
    (ripe : ∀ old : Job α, earlier.jobs[id]? = some old → old.contents = job.contents →
      Ripe clock old ∧ (exempt old → ∀ time, old.runAt = some time → time ≤ clock)) :
    Ripe clock job := by
  obtain ⟨old, stored, contents, same | ⟨reached, _⟩⟩ := spares.origin found
  · exact same ▸ (ripe old stored contents).1
  · have times : old.runAt = job.runAt := congrArg (·.2.2) contents
    refine .inr fun time due => ?_
    rw [← times] at due
    rcases reached with busy | excepted
    · rcases (ripe old stored contents).1 with scheduled | passed
      · exact absurd scheduled busy
      · exact passed time due
    · exact (ripe old stored contents).2 excepted time due

end Queue

end LeaseQueue
