import Resonate.LeaseQueue

set_option autoImplicit false

/-! What each operation of the queue does to its jobs: claims and leases keep every job's
contents, an acknowledgement removes at most the claimed job, and an enqueue only adds. -/

namespace LeaseQueue

variable {α : Type}

/-- What a job is apart from its delivery state. -/
def Job.contents (job : Job α) : String × α × Option Nat := (job.queue, job.payload, job.runAt)

def Claim.contents (claim : Claim α) : String × α × Option Nat :=
  (claim.queue, claim.payload, claim.runAt)

/-- The ids the requests bring. -/
def EnqueueRequest.overrides (requests : List (EnqueueRequest α)) : List Nat :=
  requests.filterMap (·.idOverride)

namespace Queue

/-- The job with an id, apart from its delivery state. -/
def contents (queue : Queue α) (id : Nat) : Option (String × α × Option Nat) :=
  queue.jobs[id]?.map Job.contents

/-- `later` has the jobs of `earlier`, under other claims perhaps. -/
structure Keeps (earlier later : Queue α) : Prop where
  contents : later.contents = earlier.contents
  nextJob : later.nextJob = earlier.nextJob
  nextToken : earlier.nextToken ≤ later.nextToken

theorem Keeps.refl (queue : Queue α) : Keeps queue queue := ⟨rfl, rfl, Nat.le_refl _⟩

theorem Keeps.trans {first second third : Queue α} (left : Keeps first second)
    (right : Keeps second third) : Keeps first third :=
  ⟨right.contents.trans left.contents, right.nextJob.trans left.nextJob,
    Nat.le_trans left.nextToken right.nextToken⟩

/-- The job a current claim was granted for. -/
theorem current_iff (queue : Queue α) (claim : Claim α) :
    queue.current claim = true ↔
      ∃ job, queue.jobs[claim.id]? = some job ∧ job.state.token = some claim.token := by
  unfold current
  cases queue.jobs[claim.id]? with
  | none => simp
  | some job => simp

theorem setState_keeps (queue : Queue α) (id : Nat) (state : JobState) :
    Keeps queue (queue.setState id state) := by
  unfold setState
  split
  · rename_i job found
    refine ⟨?_, rfl, Nat.le_refl _⟩
    funext other
    unfold contents put
    rw [Table.find_insert]
    split
    · rename_i same
      rw [← same, found]
      rfl
    · rfl
  · exact .refl queue

theorem renewLease_keeps {queue later : Queue α} {claim : Claim α} {lease : Nat}
    (renewed : queue.renewLease claim lease = some later) : Keeps queue later := by
  unfold renewLease at renewed
  split at renewed
  · cases renewed
    exact setState_keeps _ _ _
  · cases renewed

theorem nack_keeps {queue later : Queue α} {claim : Claim α}
    (nacked : queue.nack claim = some later) : Keeps queue later := by
  unfold nack at nacked
  split at nacked
  · cases nacked
    exact setState_keeps _ _ _
  · cases nacked

theorem grant_keeps (queue : Queue α) (id : Nat) (job : Job α) (lease : Nat)
    (found : queue.jobs[id]? = some job) : Keeps queue (queue.grant id job lease).2 := by
  refine ⟨?_, rfl, Nat.le_succ _⟩
  funext other
  unfold contents grant put
  rw [Table.find_insert]
  split
  · rename_i same
    rw [← same, found]
    rfl
  · rfl

/-- A granted claim names its job and takes a fresh token. -/
structure Granted (queue later : Queue α) (id : Nat) (claim : Claim α) : Prop where
  keeps : Keeps queue later
  named : claim.id = id
  contents : queue.contents id = some claim.contents
  token : claim.token = queue.nextToken
  nextToken : later.nextToken = queue.nextToken + 1
  clock : later.clock = queue.clock

theorem grant_granted (queue : Queue α) (id : Nat) (job : Job α) (lease : Nat)
    (found : queue.jobs[id]? = some job) :
    Granted queue (queue.grant id job lease).2 id (queue.grant id job lease).1 := by
  refine ⟨grant_keeps queue id job lease found, rfl, ?_, rfl, rfl, rfl⟩
  unfold contents
  rw [found]
  rfl

theorem claimById_granted {queue later : Queue α} {claim : Claim α} {id lease : Nat}
    (claimed : queue.claimById id lease = some (claim, later)) :
    Granted queue later id claim := by
  unfold claimById at claimed
  split at claimed
  · rename_i job found
    split at claimed
    · cases claimed
    · cases claimed
      exact grant_granted queue id job lease found
  · cases claimed

theorem take_granted {queue later : Queue α} {claim : Claim α} {id lease : Nat}
    (taken : queue.take id lease = some (claim, later)) : Granted queue later id claim := by
  unfold take at taken
  split at taken
  · rename_i job found
    split at taken
    · cases taken
      exact grant_granted queue id job lease found
    · cases taken
  · cases taken

theorem promote_keeps {queue later : Queue α} {id : Nat}
    (promoted : queue.promote id = some later) : Keeps queue later := by
  unfold promote at promoted
  split at promoted
  · split at promoted
    · cases promoted
      exact setState_keeps _ _ _
    · cases promoted
  · cases promoted

theorem reap_keeps {queue later : Queue α} {id : Nat} (reaped : queue.reap id = some later) :
    Keeps queue later := by
  unfold reap at reaped
  split at reaped
  · split at reaped
    · cases reaped
      exact setState_keeps _ _ _
    · cases reaped
  · cases reaped

theorem reopen_keeps (queue : Queue α) : Keeps queue queue.reopen := by
  refine ⟨?_, rfl, Nat.le_refl _⟩
  funext id
  unfold contents reopen
  rw [Std.ExtTreeMap.getElem?_map]
  cases queue.jobs[id]? <;> rfl

/-! ## The clock -/

theorem setState_clock (queue : Queue α) (id : Nat) (state : JobState) :
    (queue.setState id state).clock = queue.clock := by
  unfold setState
  split <;> rfl

theorem promote_clock {queue later : Queue α} {id : Nat}
    (promoted : queue.promote id = some later) : later.clock = queue.clock := by
  unfold promote at promoted
  split at promoted
  · split at promoted
    · cases promoted
      exact setState_clock _ _ _
    · cases promoted
  · cases promoted

theorem reap_clock {queue later : Queue α} {id : Nat} (reaped : queue.reap id = some later) :
    later.clock = queue.clock := by
  unfold reap at reaped
  split at reaped
  · split at reaped
    · cases reaped
      exact setState_clock _ _ _
    · cases reaped
  · cases reaped

theorem renewLease_clock {queue later : Queue α} {claim : Claim α} {lease : Nat}
    (renewed : queue.renewLease claim lease = some later) : later.clock = queue.clock := by
  unfold renewLease at renewed
  split at renewed
  · cases renewed
    exact setState_clock _ _ _
  · cases renewed

theorem nack_clock {queue later : Queue α} {claim : Claim α}
    (nacked : queue.nack claim = some later) : later.clock = queue.clock := by
  unfold nack at nacked
  split at nacked
  · cases nacked
    exact setState_clock _ _ _
  · cases nacked

theorem ack_eq {queue later : Queue α} {claim : Claim α} (acked : queue.ack claim = some later) :
    queue.current claim = true ∧ later = queue.remove claim.id := by
  unfold ack at acked
  split at acked
  · cases acked
    exact ⟨by assumption, rfl⟩
  · cases acked

/-- A claim that is no longer its job's has no effect. -/
theorem ack_lost {queue : Queue α} {claim : Claim α} :
    queue.ack claim = none ↔ queue.current claim = false := by
  unfold ack
  cases queue.current claim <;> simp

theorem nack_lost {queue : Queue α} {claim : Claim α} :
    queue.nack claim = none ↔ queue.current claim = false := by
  unfold nack
  cases queue.current claim <;> simp

theorem renewLease_lost {queue : Queue α} {claim : Claim α} {lease : Nat} :
    queue.renewLease claim lease = none ↔ queue.current claim = false := by
  unfold renewLease
  cases queue.current claim <;> simp

/-- What is left of the jobs once one is removed. -/
theorem contents_remove (queue : Queue α) (id other : Nat) :
    (queue.remove id).contents other = if id = other then none else queue.contents other := by
  unfold contents remove
  rw [Table.find_erase]
  split <;> rfl

/-- The jobs of `later` that `earlier` handed out are those it had. -/
structure Succeeds (earlier later : Queue α) : Prop where
  nextJob : earlier.nextJob ≤ later.nextJob
  contents : ∀ id < earlier.nextJob, ∀ contents, later.contents id = some contents →
    earlier.contents id = some contents

theorem succeeds_of_contents {earlier later : Queue α}
    (same : later.contents = earlier.contents) (nextJob : earlier.nextJob ≤ later.nextJob) :
    Succeeds earlier later :=
  ⟨nextJob, fun _ _ _ found => same ▸ found⟩

theorem Keeps.succeeds {earlier later : Queue α} (keeps : Keeps earlier later) :
    Succeeds earlier later :=
  succeeds_of_contents keeps.contents (Nat.le_of_eq keeps.nextJob.symm)

theorem remove_succeeds (queue : Queue α) (id : Nat) : Succeeds queue (queue.remove id) := by
  refine ⟨Nat.le_refl _, ?_⟩
  intro other _ contents found
  rw [contents_remove] at found
  split at found
  · cases found
  · exact found

/-! ## Enqueueing -/

/-- Every job id handed out so far lies below the next one. -/
def Fresh (queue : Queue α) : Prop := ∀ id, queue.nextJob ≤ id → queue.jobs[id]? = none

/-- Requests a queue can take without touching a job it has: the ids they bring were handed
out, are distinct and name no job yet. -/
structure Accepts (queue : Queue α) (requests : List (EnqueueRequest α)) : Prop where
  fresh : queue.Fresh
  below : ∀ id ∈ EnqueueRequest.overrides requests, id < queue.nextJob
  absent : ∀ id ∈ EnqueueRequest.overrides requests, queue.jobs[id]? = none
  distinct : (EnqueueRequest.overrides requests).Nodup

theorem overrides_cons_some {request : EnqueueRequest α} {id : Nat}
    (named : request.idOverride = some id) (rest : List (EnqueueRequest α)) :
    EnqueueRequest.overrides (request :: rest) = id :: EnqueueRequest.overrides rest := by
  unfold EnqueueRequest.overrides
  rw [List.filterMap_cons, named]

theorem overrides_cons_none {request : EnqueueRequest α} (unnamed : request.idOverride = none)
    (rest : List (EnqueueRequest α)) :
    EnqueueRequest.overrides (request :: rest) = EnqueueRequest.overrides rest := by
  unfold EnqueueRequest.overrides
  rw [List.filterMap_cons, unnamed]

theorem overrides_append (first second : List (EnqueueRequest α)) :
    EnqueueRequest.overrides (first ++ second) =
      EnqueueRequest.overrides first ++ EnqueueRequest.overrides second :=
  List.filterMap_append

/-- The id one request is stored under. -/
def placeOf (queue : Queue α) (request : EnqueueRequest α) : Nat :=
  request.idOverride.getD queue.nextJob

theorem enqueueOne_fst (queue : Queue α) (request : EnqueueRequest α) :
    (queue.enqueueOne request).1 = (queue.placeOf request, placed queue.clock request) := by
  unfold enqueueOne placeOf
  cases request.idOverride <;> rfl

theorem enqueueOne_jobs (queue : Queue α) (request : EnqueueRequest α) :
    (queue.enqueueOne request).2.jobs =
      queue.jobs.insert (queue.placeOf request) (placed queue.clock request) := by
  unfold enqueueOne placeOf
  cases request.idOverride <;> rfl

theorem enqueueOne_clock (queue : Queue α) (request : EnqueueRequest α) :
    (queue.enqueueOne request).2.clock = queue.clock := by
  unfold enqueueOne
  cases request.idOverride <;> rfl

theorem enqueueOne_nextJob (queue : Queue α) (request : EnqueueRequest α) :
    (queue.enqueueOne request).2.nextJob =
      if request.idOverride = none then queue.nextJob + 1 else queue.nextJob := by
  unfold enqueueOne
  cases request.idOverride <;> rfl

theorem enqueue_cons (queue : Queue α) (request : EnqueueRequest α)
    (rest : List (EnqueueRequest α)) :
    queue.enqueue (request :: rest) =
      ((queue.placeOf request, placed queue.clock request) ::
          ((queue.enqueueOne request).2.enqueue rest).1,
        ((queue.enqueueOne request).2.enqueue rest).2) := by
  rw [← enqueueOne_fst]
  rfl

theorem enqueue_clock (queue : Queue α) (requests : List (EnqueueRequest α)) :
    (queue.enqueue requests).2.clock = queue.clock := by
  induction requests generalizing queue with
  | nil => rfl
  | cons request rest ih => rw [enqueue_cons, ih, enqueueOne_clock]

theorem enqueueOne_nextJob_le (queue : Queue α) (request : EnqueueRequest α) :
    queue.nextJob ≤ (queue.enqueueOne request).2.nextJob := by
  rw [enqueueOne_nextJob]
  split
  · exact Nat.le_succ _
  · exact Nat.le_refl _

theorem enqueue_nextJob_le (queue : Queue α) (requests : List (EnqueueRequest α)) :
    queue.nextJob ≤ (queue.enqueue requests).2.nextJob := by
  induction requests generalizing queue with
  | nil => exact Nat.le_refl _
  | cons request rest ih =>
      rw [enqueue_cons]
      exact Nat.le_trans (enqueueOne_nextJob_le queue request) (ih _)

/-- The jobs enqueued, in order: one for each request. -/
theorem enqueue_jobs (queue : Queue α) (requests : List (EnqueueRequest α)) :
    (queue.enqueue requests).1.map Prod.snd = requests.map (placed queue.clock) := by
  induction requests generalizing queue with
  | nil => rfl
  | cons request rest ih =>
      rw [enqueue_cons, List.map_cons, List.map_cons, ih, enqueueOne_clock]

/-- Requests that bring no id keep every job handed out before. -/
theorem enqueue_unnamed {queue : Queue α} {requests : List (EnqueueRequest α)}
    (unnamed : ∀ request ∈ requests, request.idOverride = none) (id : Nat)
    (below : id < queue.nextJob) : (queue.enqueue requests).2.jobs[id]? = queue.jobs[id]? := by
  induction requests generalizing queue with
  | nil => rfl
  | cons request rest ih =>
      have named := unnamed request List.mem_cons_self
      rw [enqueue_cons]
      dsimp only
      rw [ih (fun other member => unnamed other (List.mem_cons_of_mem _ member))
        (Nat.lt_of_lt_of_le below (enqueueOne_nextJob_le queue request)), enqueueOne_jobs,
        Table.find_insert, placeOf, named, Option.getD_none, if_neg (by omega)]

theorem Accepts.tail {queue : Queue α} {request : EnqueueRequest α}
    {rest : List (EnqueueRequest α)} (accepts : queue.Accepts (request :: rest)) :
    (queue.enqueueOne request).2.Accepts rest := by
  obtain ⟨fresh, below, absent, distinct⟩ := accepts
  cases named : request.idOverride with
  | some own =>
      rw [overrides_cons_some named] at below absent distinct
      obtain ⟨apart, distinct⟩ := List.nodup_cons.mp distinct
      have next : (queue.enqueueOne request).2.nextJob = queue.nextJob := by
        rw [enqueueOne_nextJob, named]
        rfl
      have place : queue.placeOf request = own := by
        unfold placeOf
        rw [named]
        rfl
      refine ⟨?_, ?_, ?_, distinct⟩
      · intro id above
        rw [next] at above
        have under := below own List.mem_cons_self
        rw [enqueueOne_jobs, Table.find_insert, place, if_neg (by omega)]
        exact fresh id above
      · intro id member
        rw [next]
        exact below id (List.mem_cons_of_mem _ member)
      · intro id member
        rw [enqueueOne_jobs, Table.find_insert, place, if_neg]
        · exact absent id (List.mem_cons_of_mem _ member)
        · rintro rfl
          exact apart member
  | none =>
      rw [overrides_cons_none named] at below absent distinct
      have next : (queue.enqueueOne request).2.nextJob = queue.nextJob + 1 := by
        rw [enqueueOne_nextJob, named]
        rfl
      have place : queue.placeOf request = queue.nextJob := by
        unfold placeOf
        rw [named]
        rfl
      refine ⟨?_, ?_, ?_, distinct⟩
      · intro id above
        rw [next] at above
        rw [enqueueOne_jobs, Table.find_insert, place, if_neg (by omega)]
        exact fresh id (by omega)
      · intro id member
        have under := below id member
        omega
      · intro id member
        have under := below id member
        rw [enqueueOne_jobs, Table.find_insert, place, if_neg (by omega)]
        exact absent id member

/-- A queue that accepts requests accepts them with one that brings no id. -/
theorem Accepts.unnamed {queue : Queue α} {requests : List (EnqueueRequest α)}
    (accepts : queue.Accepts requests) {request : EnqueueRequest α}
    (named : request.idOverride = none) : queue.Accepts (requests ++ [request]) := by
  have overrides : EnqueueRequest.overrides (requests ++ [request]) =
      EnqueueRequest.overrides requests := by
    rw [overrides_append, overrides_cons_none named]
    exact List.append_nil _
  refine ⟨accepts.fresh, ?_, ?_, ?_⟩
  · exact fun id member => accepts.below id (overrides ▸ member)
  · exact fun id member => accepts.absent id (overrides ▸ member)
  · exact overrides ▸ accepts.distinct

/-- Once the next id is handed out, requests are accepted with one that brings it. -/
theorem Accepts.handed {queue : Queue α} {requests : List (EnqueueRequest α)}
    (accepts : queue.Accepts requests) {request : EnqueueRequest α}
    (named : request.idOverride = some queue.nextJob) :
    queue.nextJobId.2.Accepts (requests ++ [request]) := by
  have overrides : EnqueueRequest.overrides (requests ++ [request]) =
      EnqueueRequest.overrides requests ++ [queue.nextJob] := by
    rw [overrides_append, overrides_cons_some named]
    rfl
  refine ⟨?_, ?_, ?_, ?_⟩
  · intro id above
    exact accepts.fresh id (Nat.le_of_succ_le above)
  · intro id member
    rw [overrides] at member
    rcases List.mem_append.mp member with before | last
    · exact Nat.lt_succ_of_lt (accepts.below id before)
    · rw [List.mem_singleton.mp last]
      exact Nat.lt_succ_self _
  · intro id member
    rw [overrides] at member
    rcases List.mem_append.mp member with before | last
    · exact accepts.absent id before
    · rw [List.mem_singleton.mp last]
      exact accepts.fresh _ (Nat.le_refl _)
  · rw [overrides, List.nodup_append]
    refine ⟨accepts.distinct, List.nodup_singleton _, ?_⟩
    rintro id member other last rfl
    have handed := accepts.below id member
    rw [List.mem_singleton.mp last] at handed
    exact Nat.lt_irrefl _ handed

/-- The requests a queue accepts it accepts without one of its jobs. -/
theorem Accepts.remove {queue : Queue α} {requests : List (EnqueueRequest α)}
    (accepts : queue.Accepts requests) (removed : Nat) :
    (queue.remove removed).Accepts requests := by
  have absent {id : Nat} (gone : queue.jobs[id]? = none) :
      (queue.remove removed).jobs[id]? = none := by
    change (queue.jobs.erase removed)[id]? = none
    rw [Table.find_erase]
    split
    · rfl
    · exact gone
  exact ⟨fun id high => absent (accepts.fresh id high), accepts.below,
    fun id member => absent (accepts.absent id member), accepts.distinct⟩

/-- The next job ids stay fresh. -/
theorem Accepts.fresh_after {queue : Queue α} {requests : List (EnqueueRequest α)}
    (accepts : queue.Accepts requests) : (queue.enqueue requests).2.Fresh := by
  induction requests generalizing queue with
  | nil => exact accepts.fresh
  | cons request rest ih =>
      rw [enqueue_cons]
      exact ih accepts.tail

/-- An id below the next one that no request brings keeps its job. -/
theorem Accepts.kept {queue : Queue α} {requests : List (EnqueueRequest α)}
    (accepts : queue.Accepts requests) (id : Nat) (below : id < queue.nextJob)
    (unnamed : id ∉ EnqueueRequest.overrides requests) :
    (queue.enqueue requests).2.jobs[id]? = queue.jobs[id]? := by
  induction requests generalizing queue with
  | nil => rfl
  | cons request rest ih =>
      rw [enqueue_cons]
      have later := Nat.lt_of_lt_of_le below (enqueueOne_nextJob_le queue request)
      cases named : request.idOverride with
      | some own =>
          rw [overrides_cons_some named, List.mem_cons, not_or] at unnamed
          rw [ih accepts.tail later unnamed.2, enqueueOne_jobs, Table.find_insert, placeOf, named,
            Option.getD_some, if_neg (Ne.symm unnamed.1)]
      | none =>
          rw [overrides_cons_none named] at unnamed
          rw [ih accepts.tail later unnamed, enqueueOne_jobs, Table.find_insert, placeOf, named,
            Option.getD_none, if_neg (by omega)]

/-- Every request's job is stored under its id, or under a fresh one. -/
theorem Accepts.stored {queue : Queue α} {requests : List (EnqueueRequest α)}
    (accepts : queue.Accepts requests) (request : EnqueueRequest α) (member : request ∈ requests) :
    ∃ id, (request.idOverride = some id ∨ request.idOverride = none ∧ queue.nextJob ≤ id) ∧
      (queue.enqueue requests).2.jobs[id]? = some (placed queue.clock request) := by
  induction requests generalizing queue with
  | nil => cases member
  | cons first rest ih =>
      rw [enqueue_cons]
      rcases List.mem_cons.mp member with rfl | member
      · refine ⟨queue.placeOf request, ?_, ?_⟩
        · unfold placeOf
          cases request.idOverride with
          | some own => exact .inl rfl
          | none => exact .inr ⟨rfl, Nat.le_refl _⟩
        · have placedAt : (queue.enqueueOne request).2.jobs[queue.placeOf request]? =
              some (placed queue.clock request) := by
            rw [enqueueOne_jobs, Table.find_insert, if_pos rfl]
          dsimp only
          rw [accepts.tail.kept, placedAt]
          · unfold placeOf
            rw [enqueueOne_nextJob]
            cases named : request.idOverride with
            | some own =>
                have under := accepts.below own (by
                  rw [overrides_cons_some named]
                  exact List.mem_cons_self)
                simpa using under
            | none => simp
          · unfold placeOf
            cases named : request.idOverride with
            | some own =>
                have distinct := accepts.distinct
                rw [overrides_cons_some named] at distinct
                exact (List.nodup_cons.mp distinct).1
            | none =>
                intro inside
                have under := accepts.below queue.nextJob (by
                  rw [overrides_cons_none named]
                  exact inside)
                omega
      · obtain ⟨id, place, found⟩ := ih accepts.tail member
        rw [enqueueOne_clock] at found
        refine ⟨id, ?_, found⟩
        rcases place with own | ⟨unnamed, above⟩
        · exact .inl own
        · exact .inr ⟨unnamed, Nat.le_trans (enqueueOne_nextJob_le queue first) above⟩

/-- A job of the later queue was there before or is one of the requests'. -/
theorem Accepts.origin {queue : Queue α} {requests : List (EnqueueRequest α)}
    (accepts : queue.Accepts requests) (id : Nat) (job : Job α)
    (found : (queue.enqueue requests).2.jobs[id]? = some job) :
    queue.jobs[id]? = some job ∨
      ∃ request ∈ requests, job = placed queue.clock request ∧
        (request.idOverride = some id ∨ request.idOverride = none ∧ queue.nextJob ≤ id) := by
  induction requests generalizing queue with
  | nil => exact .inl found
  | cons first rest ih =>
      rw [enqueue_cons] at found
      rcases ih accepts.tail found with before | ⟨request, member, rfl, place⟩
      · rw [enqueueOne_jobs, Table.find_insert] at before
        split at before
        · rename_i own
          cases before
          refine .inr ⟨first, List.mem_cons_self, rfl, ?_⟩
          rw [← own]
          unfold placeOf
          cases first.idOverride with
          | some named => exact .inl rfl
          | none => exact .inr ⟨rfl, Nat.le_refl _⟩
        · exact .inl before
      · refine .inr ⟨request, List.mem_cons_of_mem _ member, ?_, ?_⟩
        · rw [enqueueOne_clock]
        · rcases place with own | ⟨unnamed, above⟩
          · exact .inl own
          · exact .inr ⟨unnamed, Nat.le_trans (enqueueOne_nextJob_le queue first) above⟩

end Queue

end LeaseQueue
