import Resonate.LeaseQueueTimes

set_option autoImplicit false

/-! What users of a queue of leased jobs rely on, whatever represents the queue, and that `Queue` is
such a queue. -/

namespace LeaseQueue

/-- The operations of a queue of leased jobs. `handed` and `issued` are the job ids and the tokens
given out so far. -/
structure Operations (Q α : Type) where
  jobs : Q → Nat → Option (Job α)
  clock : Q → Nat
  handed : Q → Nat → Prop
  issued : Q → Nat → Prop
  nextJobId : Q → Nat × Q
  enqueueOne : Q → EnqueueRequest α → (Nat × Job α) × Q
  take : Q → Nat → Nat → Option (Claim α × Q)
  claimById : Q → Nat → Nat → Option (Claim α × Q)
  renewLease : Q → Claim α → Nat → Option Q
  ack : Q → Claim α → Option Q
  nack : Q → Claim α → Option Q
  reap : Q → Nat → Option Q
  reopen : Q → Q

namespace Operations

variable {Q α : Type} (operations : Operations Q α)

/-- The claim is the one its job is under. -/
def Current (queue : Q) (claim : Claim α) : Prop :=
  ∃ job, operations.jobs queue claim.id = some job ∧ job.state.token = some claim.token

/-- `later` has the jobs of `earlier` but for the one under `id`, which is `job`. -/
def Changes (earlier later : Q) (id : Nat) (job : Option (Job α)) : Prop :=
  ∀ other, operations.jobs later other = if id = other then job else operations.jobs earlier other

/-- A job was put under a claim with a token that was never issued, for the time of the lease. -/
structure Grants (earlier later : Q) (id lease : Nat) (claim : Claim α) : Prop where
  unissued : ¬ operations.issued earlier claim.token
  issued : ∀ token, operations.issued later token ↔
    operations.issued earlier token ∨ token = claim.token
  claimed : ∃ job, operations.jobs earlier id = some job ∧ claim.id = id ∧
    claim.queue = job.queue ∧ claim.payload = job.payload ∧ claim.runAt = job.runAt ∧
    operations.Changes earlier later id
      (some { job with state := .claimed claim.token (operations.clock earlier + lease) })

/-- The guarantees of a queue of leased jobs: ids and tokens are fresh, a claim that is not current has
no effect and a current one its own, a job that no claim holds can be claimed by id even before its
time, and a job is requeued when its lease ends or the queue is opened again. -/
structure Guarantees : Prop where
  fresh_id : ∀ queue, ¬ operations.handed queue (operations.nextJobId queue).1
  handed_id : ∀ queue id, operations.handed (operations.nextJobId queue).2 id ↔
    operations.handed queue id ∨ id = (operations.nextJobId queue).1
  placed : ∀ queue request id job later,
    operations.enqueueOne queue request = ((id, job), later) →
    job.queue = request.queue ∧ job.payload = request.payload ∧ job.runAt = request.runAt ∧
      job.state.isClaimed = false ∧ operations.Changes queue later id (some job)
  placed_id : ∀ queue request id job later,
    operations.enqueueOne queue request = ((id, job), later) →
    request.idOverride = some id ∨
      request.idOverride = none ∧ ¬ operations.handed queue id ∧ operations.handed later id
  taken : ∀ queue id lease claim later, operations.take queue id lease = some (claim, later) →
    operations.Grants queue later id lease claim
  claimed : ∀ queue id lease claim later,
    operations.claimById queue id lease = some (claim, later) →
    operations.Grants queue later id lease claim
  unclaimed : ∀ queue id lease job, operations.jobs queue id = some job →
    ((operations.claimById queue id lease).isSome ↔ job.state.isClaimed = false)
  lost : ∀ queue claim, ¬ operations.Current queue claim →
    operations.ack queue claim = none ∧ operations.nack queue claim = none ∧
      ∀ lease, operations.renewLease queue claim lease = none
  acked : ∀ queue claim, operations.Current queue claim →
    ∃ later, operations.ack queue claim = some later ∧
      operations.Changes queue later claim.id none
  nacked : ∀ queue claim, operations.Current queue claim →
    ∃ job later, operations.jobs queue claim.id = some job ∧
      operations.nack queue claim = some later ∧
      operations.Changes queue later claim.id (some { job with state := .waiting })
  renewed : ∀ queue claim lease, operations.Current queue claim →
    ∃ job later, operations.jobs queue claim.id = some job ∧
      operations.renewLease queue claim lease = some later ∧
      operations.Changes queue later claim.id
        (some { job with state := .claimed claim.token (operations.clock queue + lease) })
  expired : ∀ queue id job token leaseEnd, operations.jobs queue id = some job →
    job.state = .claimed token leaseEnd → leaseEnd ≤ operations.clock queue →
    ∃ later, operations.reap queue id = some later ∧
      operations.Changes queue later id (some { job with state := .waiting })
  reopened : ∀ queue id, operations.jobs (operations.reopen queue) id =
    (operations.jobs queue id).map fun job => { job with state := job.state.requeued }

end Operations

namespace Queue

variable {α : Type}

/-- The operations of `Queue`, which hands out ids and tokens in turn. -/
def operations (α : Type) : Operations (Queue α) α where
  jobs queue id := queue.jobs[id]?
  clock := Queue.clock
  handed queue id := id < queue.nextJob
  issued queue token := token < queue.nextToken
  nextJobId := nextJobId
  enqueueOne := enqueueOne
  take := take
  claimById := claimById
  renewLease := renewLease
  ack := ack
  nack := nack
  reap := reap
  reopen := reopen

theorem put_changes (queue : Queue α) (id : Nat) (job : Job α) :
    (operations α).Changes queue (queue.put id job) id (some job) := by
  intro other
  change (queue.jobs.insert id job)[other]? = _
  rw [Table.find_insert]
  rfl

theorem setState_changes {queue : Queue α} {id : Nat} {job : Job α}
    (found : queue.jobs[id]? = some job) (state : JobState) :
    (operations α).Changes queue (queue.setState id state) id (some { job with state }) := by
  unfold setState
  rw [found]
  exact put_changes queue id _

theorem grant_grants {queue : Queue α} {id : Nat} {job : Job α}
    (found : queue.jobs[id]? = some job) (lease : Nat) :
    (operations α).Grants queue (queue.grant id job lease).2 id lease
      (queue.grant id job lease).1 where
  unissued := Nat.lt_irrefl _
  issued _ := Nat.lt_succ_iff_lt_or_eq
  claimed := ⟨job, found, rfl, rfl, rfl, rfl, put_changes queue id _⟩

theorem operations_guarantees : (operations α).Guarantees where
  fresh_id _ := Nat.lt_irrefl _
  handed_id _ _ := Nat.lt_succ_iff_lt_or_eq
  placed queue request id job later enqueued := by
    have entry := enqueueOne_fst queue request
    rw [show queue.enqueueOne request = ((id, job), later) from enqueued] at entry
    cases entry
    refine ⟨rfl, rfl, rfl, ?_, ?_⟩
    · unfold placed
      dsimp only
      split <;> rfl
    · intro other
      have jobs := enqueueOne_jobs queue request
      rw [show queue.enqueueOne request = (_, later) from enqueued] at jobs
      change later.jobs[other]? = _
      rw [jobs, Table.find_insert]
      rfl
  placed_id queue request id job later enqueued := by
    have enqueued : queue.enqueueOne request = ((id, job), later) := enqueued
    unfold enqueueOne at enqueued
    cases named : request.idOverride with
    | some own =>
        rw [named] at enqueued
        cases enqueued
        exact .inl rfl
    | none =>
        rw [named] at enqueued
        cases enqueued
        exact .inr ⟨rfl, Nat.lt_irrefl _, Nat.lt_succ_self _⟩
  taken queue id lease claim later taken := by
    have taken : queue.take id lease = some (claim, later) := taken
    unfold take at taken
    split at taken
    · rename_i job found
      split at taken
      · cases taken
        exact grant_grants found lease
      · cases taken
    · cases taken
  claimed queue id lease claim later claimed := by
    have claimed : queue.claimById id lease = some (claim, later) := claimed
    unfold claimById at claimed
    split at claimed
    · rename_i job found
      split at claimed
      · cases claimed
      · cases claimed
        exact grant_grants found lease
    · cases claimed
  unclaimed queue id lease job found := by
    have found : queue.jobs[id]? = some job := found
    change (queue.claimById id lease).isSome ↔ _
    unfold claimById
    rw [found]
    cases held : job.state.isClaimed <;> simp [held]
  lost queue claim lost := by
    have stale : queue.current claim = false :=
      Bool.eq_false_iff.mpr fun current => lost ((current_iff queue claim).mp current)
    exact ⟨ack_lost.mpr stale, nack_lost.mpr stale, fun _ => renewLease_lost.mpr stale⟩
  acked queue claim current := by
    refine ⟨queue.remove claim.id, if_pos ((current_iff queue claim).mpr current), ?_⟩
    intro other
    exact Table.find_erase ..
  nacked queue claim current := by
    obtain ⟨job, found, token⟩ := current
    exact ⟨job, _, found, if_pos ((current_iff queue claim).mpr ⟨job, found, token⟩),
      setState_changes found .waiting⟩
  renewed queue claim lease current := by
    obtain ⟨job, found, token⟩ := current
    exact ⟨job, _, found, if_pos ((current_iff queue claim).mpr ⟨job, found, token⟩),
      setState_changes found _⟩
  expired queue id job token leaseEnd found state ended := by
    have found : queue.jobs[id]? = some job := found
    have lease : queue.leaseExpiry id = some leaseEnd := by
      obtain ⟨name, payload, runAt, _⟩ := job
      cases state
      unfold leaseExpiry
      rw [found]
    refine ⟨queue.setState id .waiting, ?_, setState_changes found .waiting⟩
    change queue.reap id = _
    unfold reap
    rw [lease]
    exact if_pos ended
  reopened queue id := by
    change (Std.ExtTreeMap.map _ _)[id]? = _
    rw [Std.ExtTreeMap.getElem?_map]
    rfl

end Queue

end LeaseQueue
