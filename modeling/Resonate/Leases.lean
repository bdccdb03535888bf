import Resonate.LeaseQueueTwins
import Resonate.Txn

set_option autoImplicit false

/-! The jobs that dispatch the tasks of one origin and the claims held for them, in two stores. -/

namespace Resonate

open LeaseQueue (Queue Job)

/-- Whether a payload dispatches a task of an origin. -/
def Payload.dispatchesIn (origin : String) : Payload → Bool
  | .execute task => originOf task = origin
  | _ => false

/-- The queue and the claims held of its jobs. -/
abbrev Leases := Queue Payload × Held

/-- A job with this id dispatches the task. -/
def Dispatches (queue : Queue Payload) (job : Nat) (task : String) : Prop :=
  ∀ stored : Job Payload, queue.jobs[job]? = some stored → stored.payload = .execute task

namespace Leases

/-- A claim held for a task is of a job that dispatches it. -/
def Gripped (leases : Leases) : Prop :=
  ∀ (id : String) (claim : Claim), leases.2[id]? = some claim → Dispatches leases.1 claim.id id

/-- The jobs of an origin's dispatches are the same, and so are the claims held for its tasks. -/
structure Alike (origin : String) (same : Nat → Nat → Prop) (first second : Leases) : Prop where
  jobs : Queue.Alike (Payload.dispatchesIn origin) same first.1 second.1
  held : ∀ id, originOf id = origin →
    Option.Rel (Queue.ClaimsAlike same first.1 second.1) first.2[id]? second.2[id]?

/-- No other job is touched, and no claim held for a task of another origin. -/
structure Kept (origin : String) (earlier later : Leases) : Prop where
  jobs : Queue.Leaves (Payload.dispatchesIn origin) earlier.1 later.1
  held : ∀ id, originOf id ≠ origin → later.2[id]? = earlier.2[id]?

end Leases

section

variable {origin id : String} {same : Nat → Nat → Prop} {queue later : Queue Payload} {job : Nat}

theorem dispatchesIn_execute : Payload.dispatchesIn origin (.execute id) = true ↔
    originOf id = origin := by
  simp [Payload.dispatchesIn]

theorem Dispatches.inside (dispatches : Dispatches queue job id) (own : originOf id = origin) :
    ∀ stored : Job Payload, queue.jobs[job]? = some stored →
      Payload.dispatchesIn origin stored.payload = true := by
  intro stored found
  rw [dispatches stored found]
  exact dispatchesIn_execute.mpr own

/-- A job dispatches what it did while the queue has the same jobs. -/
theorem Dispatches.mono (dispatches : Dispatches queue job id)
    (contents : ∀ contents, later.contents job = some contents →
      queue.contents job = some contents) : Dispatches later job id := by
  intro stored found
  have before := contents stored.contents (by rw [Queue.contents, found]; rfl)
  obtain ⟨old, present, same⟩ := Option.map_eq_some_iff.mp before
  have payload : old.payload = stored.payload := congrArg (·.2.1) same
  rw [← payload]
  exact dispatches old present

theorem Dispatches.keeps (dispatches : Dispatches queue job id) (keeps : Queue.Keeps queue later) :
    Dispatches later job id :=
  dispatches.mono fun contents found => by rw [← keeps.contents]; exact found

/-- A job dispatches one task. -/
theorem Dispatches.unique {other : String} {stored : Job Payload}
    (dispatches : Dispatches queue job id) (again : Dispatches queue job other)
    (found : queue.jobs[job]? = some stored) : id = other := by
  have first := dispatches stored found
  rw [again stored found] at first
  cases first
  rfl

namespace Leases

variable {first second leases : Leases} {taken other : Claim}

theorem Kept.refl (origin : String) (leases : Leases) : Kept origin leases leases :=
  ⟨.refl _ _, fun _ _ => rfl⟩

theorem Kept.trans {earlier middle later : Leases} (before : Kept origin earlier middle)
    (after : Kept origin middle later) : Kept origin earlier later :=
  ⟨before.jobs.trans after.jobs, fun id foreign => (after.held id foreign).trans (before.held id foreign)⟩

/-! ## Claims held no longer -/

theorem Gripped.drop (gripped : Gripped leases) (id : String)
    {queue : Queue Payload} (kept : ∀ job task, Dispatches leases.1 job task → Dispatches queue job task) :
    Gripped (queue, leases.2.erase id) := by
  intro other claim found
  rw [Table.find_erase] at found
  split at found
  · cases found
  · exact kept _ _ (gripped other claim found)

theorem Alike.drop (alike : Alike origin same first second) (id : String)
    {queue later : Queue Payload}
    (jobs : Queue.Alike (Payload.dispatchesIn origin) same queue later)
    (claims : ∀ claim other, Queue.ClaimsAlike same first.1 second.1 claim other →
      Queue.ClaimsAlike same queue later claim other) :
    Alike origin same (queue, first.2.erase id) (later, second.2.erase id) := by
  refine ⟨jobs, ?_⟩
  intro other own
  rw [Table.find_erase, Table.find_erase]
  split
  · exact .none
  · have rest := alike.held other own
    dsimp only
    generalize first.2[other]? = one at rest
    generalize second.2[other]? = two at rest
    cases rest with
    | none => exact .none
    | some equal => exact .some (claims _ _ equal)

theorem Kept.drop (own : originOf id = origin) {queue : Queue Payload}
    (jobs : Queue.Leaves (Payload.dispatchesIn origin) leases.1 queue) :
    Kept origin leases (queue, leases.2.erase id) := by
  refine ⟨jobs, ?_⟩
  intro other foreign
  rw [Table.find_erase, if_neg]
  rintro rfl
  exact foreign own

theorem rel_imp {β γ : Type} {relation stronger : β → γ → Prop} {left : Option β}
    {right : Option γ} (related : Option.Rel relation left right)
    (implied : ∀ one two, left = some one → right = some two → relation one two →
      stronger one two) : Option.Rel stronger left right := by
  cases related with
  | none => exact .none
  | some equal => exact .some (implied _ _ rfl rfl equal)

/-- A task of the origin has a claim held for it in both stores or in neither. -/
theorem Alike.held_cases (alike : Alike origin same first second) (own : originOf id = origin) :
    first.2[id]? = none ∧ second.2[id]? = none ∨
      ∃ claim another, first.2[id]? = some claim ∧ second.2[id]? = some another ∧
        Queue.ClaimsAlike same first.1 second.1 claim another := by
  have held := alike.held id own
  generalize first.2[id]? = one at held
  generalize second.2[id]? = two at held
  cases held with
  | none => exact .inl ⟨rfl, rfl⟩
  | some equal => exact .inr ⟨_, _, rfl, rfl, equal⟩

/-- Ids handed out touch no job. -/
theorem Alike.handed (alike : Alike origin same first second) {queue later : Queue Payload}
    (jobs : queue.jobs = first.1.jobs) (clock : queue.clock = first.1.clock)
    (jobs' : later.jobs = second.1.jobs) (clock' : later.clock = second.1.clock) :
    Alike origin same (queue, first.2) (later, second.2) := by
  obtain ⟨time, names, known, reached⟩ := alike.jobs
  refine ⟨⟨?_, ?_, ?_, ?_⟩, fun id own => rel_imp (alike.held id own) ?_⟩
  · rw [clock, clock', time]
  · unfold Queue.shown
    rw [jobs, jobs']
    exact names
  · unfold Queue.shown
    rw [jobs]
    exact known
  · unfold Queue.shown
    rw [jobs']
    exact reached
  · intro one two _ _ equal
    refine ⟨equal.id, equal.contents, ?_⟩
    unfold Queue.current
    rw [jobs, jobs']
    exact equal.current

/-! ## Renewals -/

theorem Alike.renew (unique : Relator.BiUnique same) (alike : Alike origin same first second)
    (claims : Queue.ClaimsAlike same first.1 second.1 taken other) (lease : Nat) :
    Option.Rel (fun queue later => Alike origin same (queue, first.2) (later, second.2))
      (first.1.renewLease taken lease) (second.1.renewLease other lease) := by
  refine rel_imp (alike.jobs.renewLease unique claims lease) ?_
  intro queue later renewed renewed' jobs
  refine ⟨jobs, fun id own => rel_imp (alike.held id own) ?_⟩
  intro held again _ _ equal
  refine ⟨equal.id, equal.contents, ?_⟩
  rw [Queue.current_renewLease renewed, Queue.current_renewLease renewed']
  exact equal.current

theorem Gripped.keeps (gripped : Gripped leases) (keeps : Queue.Keeps leases.1 later) :
    Gripped (later, leases.2) :=
  fun id claim found => (gripped id claim found).keeps keeps

theorem Kept.renew (own : originOf id = origin) (dispatches : Dispatches leases.1 taken.id id)
    {lease : Nat} (renewed : leases.1.renewLease taken lease = some later) :
    Kept origin leases (later, leases.2) := by
  refine ⟨?_, fun _ _ => rfl⟩
  unfold Queue.renewLease at renewed
  split at renewed
  · cases renewed
    exact Queue.leaves_setState _ _ _ (dispatches.inside own)
  · cases renewed

/-! ## Claims by id -/

theorem Alike.claim (unique : Relator.BiUnique same) (alike : Alike origin same first second)
    (own : originOf id = origin) {left right : Nat} (named : same left right)
    (dispatches : Dispatches first.1 left id) (again : Dispatches second.1 right id)
    (gripped : Gripped first) (gripped' : Gripped second) (lease : Nat) :
    Option.Rel (fun granted other => Alike origin same (granted.2, first.2.insert id granted.1)
        (other.2, second.2.insert id other.1))
      (first.1.claimById left lease) (second.1.claimById right lease) := by
  refine rel_imp (alike.jobs.claimById unique named (dispatches.inside own) (again.inside own)
    lease) ?_
  rintro ⟨claim, queue⟩ ⟨other, later⟩ claimed reclaimed ⟨jobs, equal⟩
  refine ⟨jobs, fun task inside => ?_⟩
  rw [Table.find_insert, Table.find_insert]
  split
  · exact .some equal
  · rename_i apart
    refine rel_imp (alike.held task inside) ?_
    intro held held' found stored claims
    refine ⟨claims.id, claims.contents, ?_⟩
    rw [Queue.claimById_apart claimed, Queue.claimById_apart reclaimed]
    · exact claims.current
    · intro job present same
      exact apart (again.unique (same ▸ gripped' task held' stored) present)
    · intro job present same
      exact apart (dispatches.unique (same ▸ gripped task held found) present)

theorem Gripped.claim (gripped : Gripped leases) {job lease : Nat}
    (dispatches : Dispatches leases.1 job id)
    (claimed : leases.1.claimById job lease = some (taken, later)) :
    Gripped (later, leases.2.insert id taken) := by
  have granted := Queue.claimById_granted claimed
  intro task held found
  rw [Table.find_insert] at found
  split at found
  · rename_i same
    cases found
    subst same
    rw [granted.named]
    exact dispatches.keeps granted.keeps
  · exact (gripped task held found).keeps granted.keeps

theorem Kept.claim (own : originOf id = origin) {job lease : Nat}
    (dispatches : Dispatches leases.1 job id)
    (claimed : leases.1.claimById job lease = some (taken, later)) :
    Kept origin leases (later, leases.2.insert id taken) := by
  constructor
  · exact Queue.leaves_claimById claimed (dispatches.inside own)
  · intro task foreign
    rw [Table.find_insert, if_neg]
    rintro rfl
    exact foreign own

/-! ## Claims given back -/

/-- The job of a claim given back is removed, or waits again, if the claim is current. -/
theorem Alike.remove (unique : Relator.BiUnique same) (alike : Alike origin same first second)
    (claims : Queue.ClaimsAlike same first.1 second.1 taken other) (id : String) :
    Alike origin same (first.1.remove taken.id, first.2.erase id)
      (second.1.remove other.id, second.2.erase id) :=
  alike.drop id (alike.jobs.remove unique claims.id)
    fun _ _ equal => equal.remove unique claims.id

theorem Alike.waiting (unique : Relator.BiUnique same) (alike : Alike origin same first second)
    (claims : Queue.ClaimsAlike same first.1 second.1 taken other) (id : String) :
    Alike origin same (first.1.setState taken.id .waiting, first.2.erase id)
      (second.1.setState other.id .waiting, second.2.erase id) :=
  alike.drop id (alike.jobs.setState unique claims.id rfl)
    fun _ _ equal => equal.waiting unique claims.id

end Leases

end

end Resonate
