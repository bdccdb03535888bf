import Resonate.LeaseQueueFacts

set_option autoImplicit false

/-! Two queues that have the same jobs of interest under other ids: what the operations on jobs of
the same name leave the same. -/

namespace LeaseQueue

variable {α : Type}

/-- A state without the token of its claim. -/
def JobState.untokened : JobState → JobState
  | .claimed _ leaseEnd => .claimed 0 leaseEnd
  | state => state

/-- A job without the token of its claim. -/
def Job.untokened (job : Job α) : Job α := { job with state := job.state.untokened }

/-- One queue handed out one id for the job the other handed out the other id for: both before
they parted, or each as many ids later. -/
def Renumbered (first second : Nat) (left right : Nat) : Prop :=
  left = right ∧ left < first ∧ right < second ∨
    ∃ later, left = first + later ∧ right = second + later

theorem renumbered_unique (first second : Nat) : Relator.BiUnique (Renumbered first second) := by
  constructor
  · rintro left other right (⟨rfl, _, _⟩ | ⟨later, rfl, rfl⟩) (⟨rfl, _, _⟩ | ⟨latest, rfl, same⟩)
    all_goals omega
  · rintro left right other (⟨rfl, _, _⟩ | ⟨later, rfl, rfl⟩) (⟨rfl, _, _⟩ | ⟨latest, same, rfl⟩)
    all_goals omega

/-- Requests for jobs of the same name are alike. -/
structure EnqueueRequest.Alike (same : Nat → Nat → Prop) (request other : EnqueueRequest α) :
    Prop where
  queue : other.queue = request.queue
  payload : other.payload = request.payload
  runAt : other.runAt = request.runAt
  id : Option.Rel same request.idOverride other.idOverride

namespace Queue

variable {own : α → Bool} {same : Nat → Nat → Prop} {first second : Queue α} {left right : Nat}

/-- The job with an id if its payload is of interest, whichever claim it is under. -/
def shown (own : α → Bool) (queue : Queue α) (id : Nat) : Option (Job α) :=
  (queue.jobs[id]?.filter fun job => own job.payload).map Job.untokened

/-- The queues have the same jobs of interest at the same time. -/
structure Alike (own : α → Bool) (same : Nat → Nat → Prop) (first second : Queue α) : Prop where
  clock : second.clock = first.clock
  jobs : ∀ left right, same left right → second.shown own right = first.shown own left
  known : ∀ left, first.shown own left ≠ none → ∃ right, same left right
  reached : ∀ right, second.shown own right ≠ none → ∃ left, same left right

/-- A job of no interest is where it was. -/
def Leaves (own : α → Bool) (earlier later : Queue α) : Prop :=
  ∀ (id : Nat) (job : Job α), earlier.jobs[id]? = some job → own job.payload = false →
    later.jobs[id]? = some job

theorem Leaves.refl (own : α → Bool) (queue : Queue α) : Leaves own queue queue :=
  fun _ _ found _ => found

theorem Leaves.trans {earlier middle later : Queue α} (before : Leaves own earlier middle)
    (after : Leaves own middle later) : Leaves own earlier later :=
  fun id job found foreign => after id job (before id job found foreign) foreign

/-- An operation on the job of one id leaves the others, and that one unless it is of interest. -/
theorem leaves_of_others {earlier later : Queue α} {id : Nat}
    (inside : ∀ job : Job α, earlier.jobs[id]? = some job → own job.payload = true)
    (kept : ∀ other, id ≠ other → later.jobs[other]? = earlier.jobs[other]?) :
    Leaves own earlier later := by
  intro other job found foreign
  rw [kept other]
  · exact found
  · rintro rfl
    rw [inside job found] at foreign
    cases foreign

theorem leaves_put (queue : Queue α) (id : Nat) (job : Job α)
    (inside : ∀ job : Job α, queue.jobs[id]? = some job → own job.payload = true) :
    Leaves own queue (queue.put id job) := by
  apply leaves_of_others inside
  intro other apart
  unfold put
  rw [Table.find_insert, if_neg apart]

theorem leaves_remove (queue : Queue α) (id : Nat)
    (inside : ∀ job : Job α, queue.jobs[id]? = some job → own job.payload = true) :
    Leaves own queue (queue.remove id) := by
  apply leaves_of_others inside
  intro other apart
  unfold remove
  rw [Table.find_erase, if_neg apart]

theorem leaves_setState (queue : Queue α) (id : Nat) (state : JobState)
    (inside : ∀ job : Job α, queue.jobs[id]? = some job → own job.payload = true) :
    Leaves own queue (queue.setState id state) := by
  unfold setState
  split
  · exact leaves_put queue id _ inside
  · exact .refl own queue

/-- Requests stay accepted while the queue has the same jobs. -/
theorem Accepts.keeps {earlier later : Queue α} {requests : List (EnqueueRequest α)}
    (accepts : earlier.Accepts requests) (keeps : Keeps earlier later) :
    later.Accepts requests := by
  have absent (id : Nat) (gone : earlier.jobs[id]? = none) : later.jobs[id]? = none := by
    have same := congrFun keeps.contents id
    unfold contents at same
    rw [gone] at same
    exact Option.map_eq_none_iff.mp same
  refine ⟨?_, ?_, ?_, accepts.distinct⟩
  · intro id above
    rw [keeps.nextJob] at above
    exact absent id (accepts.fresh id above)
  · intro id member
    rw [keeps.nextJob]
    exact accepts.below id member
  · exact fun id member => absent id (accepts.absent id member)

/-! ## What is shown -/

theorem shown_found {queue : Queue α} {id : Nat} {job : Job α} (found : queue.jobs[id]? = some job)
    (inside : own job.payload = true) : queue.shown own id = some job.untokened := by
  unfold shown
  rw [found, Option.filter_some, if_pos inside]
  rfl

theorem shown_some {queue : Queue α} {id : Nat} {job : Job α}
    (shown_ : queue.shown own id = some job) :
    ∃ stored : Job α, queue.jobs[id]? = some stored ∧ own stored.payload = true ∧
      stored.untokened = job := by
  unfold shown at shown_
  obtain ⟨stored, kept, same⟩ := Option.map_eq_some_iff.mp shown_
  obtain ⟨found, inside⟩ := Option.filter_eq_some_iff.mp kept
  exact ⟨stored, found, inside, same⟩

theorem shown_put (queue : Queue α) (id other : Nat) (job : Job α) :
    (queue.put id job).shown own other =
      if id = other then (some job.untokened).filter (own ·.payload)
      else queue.shown own other := by
  unfold shown put
  rw [Table.find_insert]
  split
  · rw [Option.filter_some, Option.filter_some]
    change Option.map _ (if own job.payload then _ else _) = if own job.payload then _ else _
    split <;> rfl
  · rfl

theorem shown_remove (queue : Queue α) (id other : Nat) :
    (queue.remove id).shown own other = if id = other then none else queue.shown own other := by
  unfold shown remove
  rw [Table.find_erase]
  split <;> rfl

theorem shown_setState (queue : Queue α) (id other : Nat) (state : JobState) :
    (queue.setState id state).shown own other =
      if id = other then
        (queue.shown own other).map fun job => { job with state := state.untokened }
      else queue.shown own other := by
  unfold setState
  split
  · rename_i job found
    rw [shown_put]
    split
    · rename_i same
      subst same
      unfold shown
      rw [found, Option.filter_some, Option.filter_some]
      change (if own job.payload then _ else _) = Option.map _ (Option.map _
        (if own job.payload then _ else _))
      split <;> rfl
    · rfl
  · rename_i absent
    split
    · rename_i same
      subst same
      unfold shown
      rw [absent]
      rfl
    · rfl

/-! ## Operations on two queues -/

section

variable (unique : Relator.BiUnique same)
include unique

theorem same_iff (named : same left right) {other another : Nat} (again : same other another) :
    left = other ↔ right = another := by
  constructor
  · rintro rfl
    exact unique.2 named again
  · rintro rfl
    exact unique.1 named again

theorem Alike.put (alike : Alike own same first second) (named : same left right)
    {job other : Job α} (equal : other.untokened = job.untokened) :
    Alike own same (first.put left job) (second.put right other) := by
  refine ⟨alike.clock, ?_, ?_, ?_⟩
  · intro id another again
    rw [shown_put, shown_put, equal]
    simp only [same_iff unique named again, alike.jobs id another again]
  · intro id found
    rw [shown_put] at found
    split at found
    · rename_i own
      exact ⟨right, own ▸ named⟩
    · exact alike.known id found
  · intro id found
    rw [shown_put] at found
    split at found
    · rename_i own
      exact ⟨left, own ▸ named⟩
    · exact alike.reached id found

theorem Alike.remove (alike : Alike own same first second) (named : same left right) :
    Alike own same (first.remove left) (second.remove right) := by
  refine ⟨alike.clock, ?_, ?_, ?_⟩
  · intro id another again
    rw [shown_remove, shown_remove]
    simp only [same_iff unique named again, alike.jobs id another again]
  · intro id found
    rw [shown_remove] at found
    split at found
    · exact absurd rfl found
    · exact alike.known id found
  · intro id found
    rw [shown_remove] at found
    split at found
    · exact absurd rfl found
    · exact alike.reached id found

theorem Alike.setState (alike : Alike own same first second) (named : same left right)
    {state other : JobState} (equal : other.untokened = state.untokened) :
    Alike own same (first.setState left state) (second.setState right other) := by
  refine ⟨?_, ?_, ?_, ?_⟩
  · rw [setState_clock, setState_clock]
    exact alike.clock
  · intro id another again
    rw [shown_setState, shown_setState, equal]
    simp only [same_iff unique named again, alike.jobs id another again]
  · intro id found
    rw [shown_setState] at found
    split at found
    · rename_i own
      exact ⟨right, own ▸ named⟩
    · exact alike.known id found
  · intro id found
    rw [shown_setState] at found
    split at found
    · rename_i own
      exact ⟨left, own ▸ named⟩
    · exact alike.reached id found

omit unique in
/-- Jobs of the same name and of interest differ by their tokens at most. -/
theorem Alike.found (alike : Alike own same first second) (named : same left right)
    (inside : ∀ job : Job α, first.jobs[left]? = some job → own job.payload = true)
    (within : ∀ job : Job α, second.jobs[right]? = some job → own job.payload = true) :
    Option.Rel (fun job other => other.untokened = job.untokened) first.jobs[left]?
      second.jobs[right]? := by
  have equal := alike.jobs left right named
  cases found : first.jobs[left]? with
  | none =>
      cases stored : second.jobs[right]? with
      | none => exact .none
      | some other =>
          rw [shown_found stored (within other stored)] at equal
          simp [shown, found] at equal
  | some job =>
      rw [shown_found found (inside job found)] at equal
      obtain ⟨other, stored, _, untokened⟩ := shown_some equal
      rw [stored]
      exact .some untokened

omit unique in
theorem placed_alike {request other : EnqueueRequest α} (equal : EnqueueRequest.Alike same request other)
    (clock : Nat) : placed clock other = placed clock request := by
  unfold placed
  rw [equal.queue, equal.payload, equal.runAt]

/-- The ids two queues hand out from now on name the same jobs. -/
def Parallel (same : Nat → Nat → Prop) (first second : Queue α) : Prop :=
  ∀ later, same (first.nextJob + later) (second.nextJob + later)

theorem Alike.enqueueOne (alike : Alike own same first second)
    (parallel : Parallel same first second) {request other : EnqueueRequest α}
    (equal : EnqueueRequest.Alike same request other) :
    Alike own same (first.enqueueOne request).2 (second.enqueueOne other).2 ∧
      same (first.placeOf request) (second.placeOf other) ∧
      Parallel same (first.enqueueOne request).2 (second.enqueueOne other).2 := by
  have untokened : (placed second.clock other).untokened = (placed first.clock request).untokened := by
    rw [alike.clock, placed_alike equal]
  have handed : Alike own same first.nextJobId.2 second.nextJobId.2 :=
    ⟨alike.clock, alike.jobs, alike.known, alike.reached⟩
  have next : same first.nextJob second.nextJob := parallel 0
  have ids := equal.id
  unfold Queue.enqueueOne placeOf
  cases left : request.idOverride with
  | none =>
      cases right : other.idOverride with
      | none =>
          refine ⟨handed.put unique next untokened, next, ?_⟩
          intro later
          have named := parallel (later + 1)
          change same (first.nextJob + 1 + later) (second.nextJob + 1 + later)
          rwa [Nat.add_assoc, Nat.add_assoc, Nat.add_comm 1]
      | some id =>
          rw [left, right] at ids
          cases ids
  | some id =>
      cases right : other.idOverride with
      | none =>
          rw [left, right] at ids
          cases ids
      | some another =>
          rw [left, right] at ids
          cases ids with
          | some named => exact ⟨alike.put unique named untokened, named, parallel⟩

theorem Alike.enqueue (alike : Alike own same first second)
    (parallel : Parallel same first second) {requests others : List (EnqueueRequest α)}
    (equal : List.Forall₂ (EnqueueRequest.Alike same) requests others) :
    Alike own same (first.enqueue requests).2 (second.enqueue others).2 := by
  induction equal generalizing first second with
  | nil => exact alike
  | cons head rest ih =>
      rw [enqueue_cons, enqueue_cons]
      obtain ⟨stored, _, later⟩ := alike.enqueueOne unique parallel head
      exact ih stored later

end

/-- Two queues that have handed out no id at their counters show no job there. -/
theorem Fresh.shown {queue : Queue α} (fresh : queue.Fresh) (later : Nat) :
    queue.shown own (queue.nextJob + later) = none := by
  unfold Queue.shown
  rw [fresh _ (Nat.le_add_right _ _)]
  rfl

theorem Fresh.below {queue : Queue α} (fresh : queue.Fresh) {id : Nat}
    (found : queue.shown own id ≠ none) : id < queue.nextJob := by
  by_contra above
  obtain ⟨later, same⟩ := Nat.exists_eq_add_of_le (Nat.le_of_not_lt above)
  rw [same] at found
  exact found (fresh.shown later)

/-- Queues that have the same jobs now keep them the same, as each hands out ids of its own. -/
theorem Alike.renumber (alike : Alike own Eq first second) (fresh : first.Fresh)
    (fresh' : second.Fresh) : Alike own (Renumbered first.nextJob second.nextJob) first second := by
  have paired (id : Nat) (found : first.shown own id ≠ none) :
      Renumbered first.nextJob second.nextJob id id := by
    have found' : second.shown own id ≠ none := by
      rw [alike.jobs id id rfl]
      exact found
    exact .inl ⟨rfl, fresh.below found, fresh'.below found'⟩
  refine ⟨alike.clock, ?_, fun id found => ⟨id, paired id found⟩, ?_⟩
  · rintro left right (⟨rfl, _, _⟩ | ⟨later, rfl, rfl⟩)
    · exact alike.jobs left left rfl
    · rw [fresh.shown later, fresh'.shown later]
  · intro id found
    rw [alike.jobs id id rfl] at found
    exact ⟨id, paired id found⟩

theorem renumbered_parallel (first second : Queue α) :
    Parallel (Renumbered first.nextJob second.nextJob) first second :=
  fun later => .inr ⟨later, rfl, rfl⟩

/-! ## Claims on jobs of the same name -/

/-- Claims of jobs of the same name, both current or both lost. -/
structure ClaimsAlike (same : Nat → Nat → Prop) (first second : Queue α) (claim other : Claim α) :
    Prop where
  id : same claim.id other.id
  contents : other.contents = claim.contents
  current : second.current other = first.current claim

theorem current_remove (queue : Queue α) (id : Nat) (claim : Claim α) :
    (queue.remove id).current claim = if id = claim.id then false else queue.current claim := by
  unfold current remove
  rw [Table.find_erase]
  by_cases own : id = claim.id
  · simp [own]
  · simp [own]

theorem current_put (queue : Queue α) (id : Nat) (job : Job α) (claim : Claim α) :
    (queue.put id job).current claim =
      if id = claim.id then job.state.token == some claim.token else queue.current claim := by
  unfold current put
  rw [Table.find_insert]
  by_cases own : id = claim.id
  · simp [own]
  · simp [own]

/-- A job that waits is under no claim. -/
theorem current_waiting (queue : Queue α) (id : Nat) (claim : Claim α) :
    (queue.setState id .waiting).current claim =
      if id = claim.id then false else queue.current claim := by
  unfold setState
  cases found : queue.jobs[id]? with
  | none =>
      dsimp only
      split
      · rename_i own
        unfold current
        rw [← own, found]
      · rfl
  | some job =>
      dsimp only
      rw [current_put]
      rfl

/-- A renewal leaves every claim as it was, current or lost. -/
theorem current_renewLease {queue later : Queue α} {claim : Claim α} {lease : Nat}
    (renewed : queue.renewLease claim lease = some later) (other : Claim α) :
    later.current other = queue.current other := by
  unfold renewLease at renewed
  split at renewed
  · rename_i current
    cases renewed
    obtain ⟨job, found, token⟩ := (current_iff _ _).mp current
    unfold setState
    rw [found]
    dsimp only
    rw [current_put]
    split
    · rename_i own
      unfold Queue.current
      rw [← own, found]
      dsimp only
      rw [token]
      rfl
    · rfl
  · cases renewed

theorem current_enqueueOne (queue : Queue α) (request : EnqueueRequest α) (claim : Claim α) :
    (queue.enqueueOne request).2.current claim =
      if queue.placeOf request = claim.id then false else queue.current claim := by
  unfold current
  rw [enqueueOne_jobs, Table.find_insert]
  by_cases own : queue.placeOf request = claim.id
  · rw [if_pos own, if_pos own]
    unfold placed
    dsimp only
    split <;> rfl
  · rw [if_neg own, if_neg own]

section

variable (unique : Relator.BiUnique same) {claim other : Claim α}
include unique

theorem ClaimsAlike.remove (alike : ClaimsAlike same first second claim other)
    (named : same left right) :
    ClaimsAlike same (first.remove left) (second.remove right) claim other := by
  refine ⟨alike.id, alike.contents, ?_⟩
  rw [current_remove, current_remove, alike.current]
  simp only [same_iff unique named alike.id]

theorem ClaimsAlike.waiting (alike : ClaimsAlike same first second claim other)
    (named : same left right) :
    ClaimsAlike same (first.setState left .waiting) (second.setState right .waiting) claim
      other := by
  refine ⟨alike.id, alike.contents, ?_⟩
  rw [current_waiting, current_waiting, alike.current]
  simp only [same_iff unique named alike.id]

theorem ClaimsAlike.enqueue (alike : ClaimsAlike same first second claim other)
    (parallel : Parallel same first second) (queues : Alike own same first second)
    {requests others : List (EnqueueRequest α)}
    (equal : List.Forall₂ (EnqueueRequest.Alike same) requests others) :
    ClaimsAlike same (first.enqueue requests).2 (second.enqueue others).2 claim other := by
  induction equal generalizing first second with
  | nil => exact alike
  | cons head rest ih =>
      rw [enqueue_cons, enqueue_cons]
      obtain ⟨stored, named, later⟩ := queues.enqueueOne unique parallel head
      refine ih ⟨alike.id, alike.contents, ?_⟩ later stored
      rw [current_enqueueOne, current_enqueueOne, alike.current]
      simp only [same_iff unique named alike.id]

theorem Alike.renewLease (alike : Alike own same first second)
    (claims : ClaimsAlike same first second claim other) (lease : Nat) :
    Option.Rel (Alike own same) (first.renewLease claim lease) (second.renewLease other lease) := by
  unfold Queue.renewLease
  rw [claims.current]
  split
  · refine .some (alike.setState unique claims.id ?_)
    rw [alike.clock]
    rfl
  · exact .none

end

section

variable {claim other : Claim α}

theorem untokened_contents {job other : Job α} (equal : other.untokened = job.untokened) :
    other.contents = job.contents := by
  have contents : other.untokened.contents = job.untokened.contents := congrArg Job.contents equal
  exact contents

/-- Jobs that differ by their tokens at most are claimed until the same time or not at all. -/
theorem untokened_claimed {job other : Job α} (equal : other.untokened = job.untokened) :
    other.state.isClaimed = job.state.isClaimed := by
  have states : other.state.untokened = job.state.untokened := congrArg Job.state equal
  unfold JobState.isClaimed
  cases first : job.state <;> cases second : other.state
  all_goals first
    | rfl
    | rw [first, second] at states
      cases states

theorem Alike.leaseExpiry (alike : Alike own same first second) (named : same left right)
    (inside : ∀ job : Job α, first.jobs[left]? = some job → own job.payload = true)
    (within : ∀ job : Job α, second.jobs[right]? = some job → own job.payload = true) :
    second.leaseExpiry right = first.leaseExpiry left := by
  have found := alike.found named inside within
  unfold Queue.leaseExpiry
  generalize first.jobs[left]? = one at found
  generalize second.jobs[right]? = two at found
  cases found with
  | none => rfl
  | some equal =>
      rename_i job another
      have states : another.state.untokened = job.state.untokened := congrArg Job.state equal
      obtain ⟨queue, payload, runAt, state⟩ := job
      obtain ⟨name, content, time, last⟩ := another
      cases state <;> cases last
      all_goals cases states <;> rfl

/-- A granted claim is current, and the claims of other jobs stay what they were. -/
theorem grant_current (queue : Queue α) (id : Nat) (job : Job α) (lease : Nat) (claim : Claim α) :
    (queue.grant id job lease).2.current claim =
      if id = claim.id then some queue.nextToken == some claim.token else queue.current claim := by
  change (queue.put id { job with
    state := .claimed queue.nextToken (queue.clock + lease) }).current claim = _
  rw [current_put]
  rfl

theorem Alike.grant (unique : Relator.BiUnique same) (alike : Alike own same first second)
    (named : same left right) {job other : Job α} (equal : other.untokened = job.untokened)
    (lease : Nat) :
    Alike own same (first.grant left job lease).2 (second.grant right other lease).2 ∧
      ClaimsAlike same (first.grant left job lease).2 (second.grant right other lease).2
        (first.grant left job lease).1 (second.grant right other lease).1 := by
  have claimed : ({ other with
      state := .claimed second.nextToken (second.clock + lease) } : Job α).untokened =
      ({ job with state := .claimed first.nextToken (first.clock + lease) } : Job α).untokened := by
    have contents := untokened_contents equal
    obtain ⟨queue, payload, runAt, state⟩ := job
    obtain ⟨name, content, time, last⟩ := other
    cases contents
    rw [alike.clock]
    rfl
  have stored := alike.put unique named claimed
  refine ⟨⟨stored.clock, stored.jobs, stored.known, stored.reached⟩, named,
    untokened_contents equal, ?_⟩
  rw [grant_current, grant_current]
  simp [LeaseQueue.Queue.grant]

/-- A claim by id is granted by both queues or by neither. -/
theorem Alike.claimById (unique : Relator.BiUnique same) (alike : Alike own same first second)
    (named : same left right)
    (inside : ∀ job : Job α, first.jobs[left]? = some job → own job.payload = true)
    (within : ∀ job : Job α, second.jobs[right]? = some job → own job.payload = true)
    (lease : Nat) :
    Option.Rel (fun granted other => Alike own same granted.2 other.2 ∧
        ClaimsAlike same granted.2 other.2 granted.1 other.1)
      (first.claimById left lease) (second.claimById right lease) := by
  have found := alike.found named inside within
  unfold Queue.claimById
  generalize first.jobs[left]? = one at found
  generalize second.jobs[right]? = two at found
  cases found with
  | none => exact .none
  | some equal =>
      dsimp only
      rw [untokened_claimed equal]
      split
      · exact .none
      · exact .some (alike.grant unique named equal lease)

/-- A claim of another job than the one claimed by id stays what it was. -/
theorem claimById_apart {queue later : Queue α} {granted claim : Claim α} {id lease : Nat}
    (claimed : queue.claimById id lease = some (granted, later))
    (apart : ∀ job : Job α, queue.jobs[id]? = some job → claim.id ≠ id) :
    later.current claim = queue.current claim := by
  unfold Queue.claimById at claimed
  split at claimed
  · rename_i job found
    split at claimed
    · cases claimed
    · have same : (queue.grant id job lease).2 = later := congrArg Prod.snd (Option.some.inj claimed)
      rw [← same, grant_current, if_neg (Ne.symm (apart job found))]
  · cases claimed

theorem leaves_claimById {queue later : Queue α} {granted : Claim α} {id lease : Nat}
    (claimed : queue.claimById id lease = some (granted, later))
    (inside : ∀ job : Job α, queue.jobs[id]? = some job → own job.payload = true) :
    Leaves own queue later := by
  unfold Queue.claimById at claimed
  split at claimed
  · rename_i job found
    split at claimed
    · cases claimed
    · cases claimed
      exact leaves_put queue id _ inside
  · cases claimed

end

end Queue

end LeaseQueue
