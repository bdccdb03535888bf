import Resonate.Isolation
import Resonate.Acquisitions
import Resonate.Registrations

set_option autoImplicit false

/-! Requests of one origin on two stores that read the same of it: the commit and the work after it
keep them so, whatever the stores hold of other origins. -/

namespace Resonate

open Kernel
open LeaseQueue (Queue Job EnqueueRequest)

/-! ## Commits -/

section

variable {origin : String} {same : Nat → Nat → Prop} {start other first second : Txn}

theorem Leases.Alike.enqueue (unique : Relator.BiUnique same) {first second : Leases}
    (alike : Leases.Alike origin same first second) (parallel : Queue.Parallel same first.1 second.1)
    {requests others : List (EnqueueRequest Payload)}
    (equal : List.Forall₂ (EnqueueRequest.Alike same) requests others) :
    Leases.Alike origin same ((first.1.enqueue requests).2, first.2)
      ((second.1.enqueue others).2, second.2) := by
  refine ⟨alike.jobs.enqueue unique parallel equal, ?_⟩
  intro id own
  refine Leases.rel_imp (alike.held id own) ?_
  intro claim another _ _ claims
  exact claims.enqueue unique parallel alike.jobs equal

theorem Leases.Kept.enqueue {leases : Leases} {requests : List (EnqueueRequest Payload)}
    (accepts : leases.1.Accepts requests) :
    Leases.Kept origin leases ((leases.1.enqueue requests).2, leases.2) := by
  refine ⟨?_, fun _ _ => rfl⟩
  intro id job found _
  have stored (gone : leases.1.jobs[id]? = none) : False := by
    rw [found] at gone
    cases gone
  have below : id < leases.1.nextJob := by
    by_contra above
    exact stored (accepts.fresh id (Nat.le_of_not_lt above))
  have unnamed : id ∉ EnqueueRequest.overrides requests :=
    fun named => stored (accepts.absent id named)
  rw [accepts.kept id below unnamed]
  exact found

/-- The same is committed of both transactions, and neither touches another origin. -/
structure Commit.Pair (origin : String) (same : Nat → Nat → Prop) (one two : Txn)
    (first second : Commit) : Prop where
  kv : first.kv = one.kv ∧ second.kv = two.kv ∨
    first.kv = one.kv.apply one.writes ∧ second.kv = two.kv.apply two.writes
  leases : Leases.Alike origin same (first.queue, first.held) (second.queue, second.held)
  left : Leases.Kept origin one.leases (first.queue, first.held)
  right : Leases.Kept origin two.leases (second.queue, second.held)
  after : List.Forall₂ (After.Alike origin same) first.after second.after

theorem Txn.Pair.discard (pair : Txn.Pair origin same start other first second) :
    Commit.Pair origin same first second first.discard second.discard :=
  ⟨.inl ⟨rfl, rfl⟩, pair.alike.leases, .refl _ _, .refl _ _, .nil⟩

theorem Txn.Pair.commit (pair : Txn.Pair origin same start other first second) :
    Commit.Pair origin same first second first.commit second.commit :=
  ⟨.inr ⟨rfl, rfl⟩, pair.alike.leases.enqueue pair.unique pair.alike.parallel pair.alike.enqueues,
    .enqueue pair.left.accepts, .enqueue pair.right.accepts, pair.alike.after⟩

/-- Two transactions in step are in step from where they are. -/
theorem Txn.Pair.restart (pair : Txn.Pair origin same start other first second) :
    Txn.Pair origin same first second first second := by
  obtain ⟨unique, alike, left, right⟩ := pair
  exact ⟨unique, alike,
    ⟨left.promise, left.task, left.callbacks, left.owned, left.gripped, left.accepts, .refl _ _,
      fun _ _ => rfl, fun _ _ => rfl⟩,
    ⟨right.promise, right.task, right.callbacks, right.owned, right.gripped, right.accepts,
      .refl _ _, fun _ _ => rfl, fun _ _ => rfl⟩⟩

/-- The acknowledgement of the claim of a task of the origin. -/
theorem Txn.Pair.commitAck (pair : Txn.Pair origin same start other first second) {id : String}
    (own : originOf id = origin) :
    (second.commitAck id).2 = (first.commitAck id).2 ∧
      Commit.Pair origin same first second (first.commitAck id).1 (second.commitAck id).1 := by
  obtain ⟨checked, holding⟩ := pair.restart.holds own
  have touched := Txn.holds_touches first id
  have touched' := Txn.holds_touches second id
  have dropped := holding.drop own
  unfold Txn.commitAck
  generalize first.holds id = one at checked holding touched dropped ⊢
  generalize second.holds id = two at checked holding touched' dropped ⊢
  obtain ⟨next, result⟩ := one
  obtain ⟨later, result'⟩ := two
  cases checked
  dsimp only at holding touched touched' dropped
  have discarded : Commit.Pair origin same first second next.discard later.discard :=
    ⟨.inl ⟨touched.kv, touched'.kv⟩, holding.alike.leases, holding.left.kept, holding.right.kept,
      .nil⟩
  cases result with
  | false => exact ⟨rfl, discarded⟩
  | true =>
      dsimp only
      rcases holding.held_cases own with ⟨one, two⟩ | ⟨claim, another, one, two, claims⟩
      · rw [one, two]
        exact ⟨rfl, discarded⟩
      · rw [one, two]
        dsimp only [Queue.ack]
        rw [claims.current]
        cases next.queue.current claim with
        | false =>
            exact ⟨rfl, .inl ⟨touched.kv, touched'.kv⟩, dropped.alike.leases, dropped.left.kept,
              dropped.right.kept, .nil⟩
        | true =>
            have removed := holding.alike.leases.remove pair.unique claims id
            have parallel : Queue.Parallel same (next.queue.remove claim.id)
                (later.queue.remove another.id) := holding.alike.parallel
            have kept : Leases.Kept origin next.leases
                (next.queue.remove claim.id, next.held.erase id) :=
              .drop own (Queue.leaves_remove _ _ ((holding.left.gripped id claim one).inside own))
            have kept' : Leases.Kept origin later.leases
                (later.queue.remove another.id, later.held.erase id) :=
              .drop own (Queue.leaves_remove _ _ ((holding.right.gripped id another two).inside own))
            refine ⟨rfl, .inr ⟨?_, ?_⟩, ?_, ?_, ?_, holding.alike.after⟩
            · change next.kv.apply next.writes = _
              rw [touched.kv, touched.writes]
            · change later.kv.apply later.writes = _
              rw [touched'.kv, touched'.writes]
            · exact removed.enqueue pair.unique parallel holding.alike.enqueues
            · exact (holding.left.kept.trans kept).trans (.enqueue (holding.left.accepts.remove _))
            · exact (holding.right.kept.trans kept').trans (.enqueue (holding.right.accepts.remove _))

/-- A request of an origin leaves the same of it behind, and is answered the same. -/
theorem conclude_pair {response answered : Response}
    (pair : Response.Pair origin same start other response answered)
    (shelved : response.txn.Shelved) (shelved' : answered.txn.Shelved) (stored : Bool) :
    (conclude answered stored).2 = (conclude response stored).2 ∧
      Commit.Pair origin same response.txn answered.txn (conclude response stored).1
        (conclude answered stored).1 := by
  have replies := pair.reply shelved shelved'
  have discarded := pair.txn.discard
  unfold conclude
  rw [pair.exit]
  cases exit : response.exit with
  | drop => exact ⟨replies, discarded⟩
  | panic => exact ⟨replies, discarded⟩
  | commit =>
      cases stored with
      | false => exact ⟨rfl, discarded⟩
      | true => exact ⟨replies, pair.txn.commit⟩
  | commitAck id =>
      cases stored with
      | false => exact ⟨rfl, discarded⟩
      | true =>
          obtain ⟨same, acked⟩ := pair.txn.commitAck (pair.acked id exit)
          dsimp only
          generalize response.txn.commitAck id = one at same acked ⊢
          generalize answered.txn.commitAck id = two at same acked ⊢
          obtain ⟨commit, result⟩ := one
          obtain ⟨commit', result'⟩ := two
          cases same
          cases result with
          | false => exact ⟨rfl, acked⟩
          | true => exact ⟨replies, acked⟩

end

/-! ## The work after a commit -/

def System.leases (system : System) : Leases := (system.queue, system.held)

section

variable {env : Env} {origin : String} {same : Nat → Nat → Prop} {system after : System}

theorem Reachable.gripped (reached : Reachable env system) : system.leases.Gripped := by
  intro id claim found stored present
  obtain ⟨matched, executes⟩ := (Reachable.booked reached).sound.held id claim found
  have contents := matched.contents stored.contents (by
    change system.queue.contents claim.id = _
    unfold Queue.contents
    rw [show system.queue.jobs[claim.id]? = some stored from present]
    rfl)
  have payload : stored.payload = claim.payload := congrArg (·.2.1) contents
  exact payload.trans executes

/-- A claim by id that follows a commit is of a job of its task. -/
theorem Reachable.claiming (reached : Reachable env system) {id : String} {job lease : Nat}
    (pending : After.claim id job lease ∈ system.after) : Dispatches system.queue job id := by
  intro stored present
  obtain ⟨_, carried⟩ := (Reachable.booked reached).sound.after _ pending
  refine carried stored.payload (.inl ⟨stored.contents, ?_, rfl⟩)
  change system.queue.contents job = _
  unfold Queue.contents
  rw [present]
  rfl

/-- An action on a claim of the origin does the same to both stores and nothing to others. -/
theorem After.Alike.perform (unique : Relator.BiUnique same) {first second : Leases}
    (alike : Leases.Alike origin same first second) (gripped : first.Gripped)
    (gripped' : second.Gripped) {action work : After} (equal : After.Alike origin same action work)
    (ready : ∀ id job lease, action = .claim id job lease → Dispatches first.1 job id)
    (ready' : ∀ id job lease, work = .claim id job lease → Dispatches second.1 job id) :
    Leases.Alike origin same (action.perform first.1 first.2) (work.perform second.1 second.2) ∧
      Leases.Kept origin first (action.perform first.1 first.2) ∧
      Leases.Kept origin second (work.perform second.1 second.2) := by
  cases equal with
  | release task own =>
      rcases alike.held_cases own with ⟨one, two⟩ | ⟨claim, another, one, two, claims⟩
      · simp only [After.perform, one, two]
        exact ⟨alike, .refl _ _, .refl _ _⟩
      · simp only [After.perform, one, two, Queue.ack, claims.current]
        cases first.1.current claim with
        | false =>
            exact ⟨alike.drop task alike.jobs fun _ _ equal => equal, .drop own (.refl _ _),
              .drop own (.refl _ _)⟩
        | true =>
            exact ⟨alike.remove unique claims task,
              .drop own (Queue.leaves_remove _ _ ((gripped task claim one).inside own)),
              .drop own (Queue.leaves_remove _ _ ((gripped' task another two).inside own))⟩
  | nack task own =>
      rcases alike.held_cases own with ⟨one, two⟩ | ⟨claim, another, one, two, claims⟩
      · simp only [After.perform, one, two]
        exact ⟨alike, .refl _ _, .refl _ _⟩
      · simp only [After.perform, one, two, Queue.nack, claims.current]
        cases first.1.current claim with
        | false =>
            exact ⟨alike.drop task alike.jobs fun _ _ equal => equal, .drop own (.refl _ _),
              .drop own (.refl _ _)⟩
        | true =>
            exact ⟨alike.waiting unique claims task,
              .drop own (Queue.leaves_setState _ _ _ ((gripped task claim one).inside own)),
              .drop own (Queue.leaves_setState _ _ _ ((gripped' task another two).inside own))⟩
  | claim task own lease job other named =>
      have dispatches := ready task job lease rfl
      have dispatches' := ready' task other lease rfl
      have claimed := alike.claim unique own named dispatches dispatches' gripped gripped' lease
      simp only [After.perform]
      cases one : first.1.claimById job lease with
      | none =>
          cases two : second.1.claimById other lease with
          | none => exact ⟨alike, .refl _ _, .refl _ _⟩
          | some granted =>
              rw [one, two] at claimed
              cases claimed
      | some granted =>
          cases two : second.1.claimById other lease with
          | none =>
              rw [one, two] at claimed
              cases claimed
          | some granted' =>
              rw [one, two] at claimed
              cases claimed with
              | some leases => exact ⟨leases, .claim own dispatches one, .claim own dispatches' two⟩

/-- The step that performs the next action of a commit. -/
theorem finish_cons {before : System} {action : After} {rest : List After} {steps : Nat}
    (pending : before.after = action :: rest)
    (ran : Machine.run (step env) before (List.replicate steps .finish) = some after)
    (unlocked : after.after = []) :
    ∃ fewer next, step env before .finish = some next ∧
      Machine.run (step env) next (List.replicate fewer .finish) = some after ∧
      next.leases = action.perform before.queue before.held ∧ next.after = rest := by
  cases steps with
  | zero =>
      cases ran
      rw [unlocked] at pending
      cases pending
  | succ fewer =>
      rw [List.replicate_succ, Machine.run_cons] at ran
      obtain ⟨next, taken, remaining⟩ := Option.bind_eq_some_iff.mp ran
      refine ⟨fewer, next, taken, remaining, ?_⟩
      change stepFinish before = some next at taken
      unfold stepFinish at taken
      rw [pending] at taken
      dsimp only at taken
      split at taken
      · cases taken
        exact ⟨rfl, rfl⟩
      · cases taken
        exact ⟨rfl, rfl⟩

theorem finish_nil {before : System} {steps : Nat} (idle : before.after = [])
    (ran : Machine.run (step env) before (List.replicate steps .finish) = some after) :
    after = before := by
  cases steps with
  | zero =>
      cases ran
      rfl
  | succ fewer =>
      rw [List.replicate_succ, Machine.run_cons] at ran
      obtain ⟨next, taken, _⟩ := Option.bind_eq_some_iff.mp ran
      change stepFinish before = some next at taken
      unfold stepFinish at taken
      rw [idle] at taken
      cases taken

/-- The work after two commits in step, by induction on the actions. -/
theorem finish_pair (unique : Relator.BiUnique same) {actions works : List After}
    (equal : List.Forall₂ (After.Alike origin same) actions works) {first second : System}
    (reached : Reachable env first) (reached' : Reachable env second)
    (pending : first.after = actions) (pending' : second.after = works)
    (alike : Leases.Alike origin same first.leases second.leases) {last later : System}
    {steps more : Nat}
    (ran : Machine.run (step env) first (List.replicate steps .finish) = some last)
    (ran' : Machine.run (step env) second (List.replicate more .finish) = some later)
    (unlocked : last.after = []) (unlocked' : later.after = []) :
    Leases.Alike origin same last.leases later.leases ∧
      Leases.Kept origin first.leases last.leases ∧
      Leases.Kept origin second.leases later.leases := by
  induction equal generalizing first second steps more with
  | nil =>
      rw [finish_nil pending ran, finish_nil pending' ran']
      exact ⟨alike, .refl _ _, .refl _ _⟩
  | cons head rest ih =>
      obtain ⟨fewer, next, taken, remaining, performed, left⟩ := finish_cons pending ran unlocked
      obtain ⟨less, following, taken', remaining', performed', left'⟩ :=
        finish_cons pending' ran' unlocked'
      obtain ⟨leases, kept, kept'⟩ := After.Alike.perform unique alike (Reachable.gripped reached)
        (Reachable.gripped reached') head
        (fun id job lease same => Reachable.claiming reached
          (by rw [pending, same]; exact List.mem_cons_self))
        (fun id job lease same => Reachable.claiming reached'
          (by rw [pending', same]; exact List.mem_cons_self))
      change Leases.Alike origin same (After.perform first.queue first.held _)
        (After.perform second.queue second.held _) at leases
      rw [← performed, ← performed'] at leases
      obtain ⟨ended, kept_, kept_'⟩ := ih (Machine.Reachable.extend reached taken)
        (Machine.Reachable.extend reached' taken') left left' leases remaining remaining'
      rw [performed] at kept_
      rw [performed'] at kept_'
      exact ⟨ended, kept.trans kept_, kept'.trans kept_'⟩

end

/-! ## Stores -/

/-- The stores hold the same of an origin: promises, tasks up to the ids of their jobs, index entries,
jobs of its tasks, and the claims held with their leases. -/
structure System.Agree (origin : String) (same : Nat → Nat → Prop) (first second : System) : Prop where
  promises : ∀ id, originOf id = origin → second.promise id = first.promise id
  tasks : ∀ id, originOf id = origin →
    Option.Rel (StoredTask.Alike same) (first.task id) (second.task id)
  branches : ∀ branch id, originOf id = origin →
    second.kv.branches[Keys.branchKey branch id]? = first.kv.branches[Keys.branchKey branch id]?
  leases : Leases.Alike origin same first.leases second.leases

/-- Nothing of another origin is changed: no promise, task, index entry, job or held claim. -/
structure System.Spares (origin : String) (before after : System) : Prop where
  promises : ∀ id, originOf id ≠ origin → after.promise id = before.promise id
  tasks : ∀ id, originOf id ≠ origin → after.task id = before.task id
  branches : ∀ branch id, originOf id ≠ origin →
    after.kv.branches[Keys.branchKey branch id]? = before.kv.branches[Keys.branchKey branch id]?
  leases : Leases.Kept origin before.leases after.leases

section

variable {env : Env} {origin : String} {first second : System}

theorem Reachable.within (reached : Reachable env first) (origin : String) :
    Txn.Within origin (first.txn env) (first.txn env) := by
  have keyed : (first.txn env).Keyed := Reachable.keyed reached
  have registered : first.views.Registered := Reachable.registered reached
  have sound := (Reachable.booked reached).sound
  refine ⟨keyed.promise, keyed.task, ?_, ?_, Reachable.gripped reached, ?_, .refl _ _,
    fun _ _ => rfl, fun _ _ => rfl⟩
  · intro id promise found awaiter member
    have own := keyed.promise id promise found
    rw [System.getPromise_txn] at found
    obtain ⟨_, _, _, _, inside⟩ := registered.enlisted id promise found
    rw [inside awaiter member, own]
  · intro id task job found recorded stored present
    rw [System.getTask_txn] at found
    rw [← view_getTask env] at found
    refine (sound.owned id task job found recorded).2 stored.payload
      (.inl ⟨stored.contents, ?_, rfl⟩)
    change first.queue.contents job = _
    unfold Queue.contents
    rw [show first.queue.jobs[job]? = some stored from present]
    rfl
  · exact ⟨sound.accepts.fresh, fun _ member => (List.not_mem_nil member).elim,
      fun _ member => (List.not_mem_nil member).elim, List.nodup_nil⟩

/-- Two stores that hold the same of an origin start requests in step. Job ids handed out from now
on are paired in order. -/
theorem System.Agree.pair (agree : System.Agree origin Eq first second)
    (reached : Reachable env first) (reached' : Reachable env second) :
    Txn.Pair origin (LeaseQueue.Renumbered first.queue.nextJob second.queue.nextJob)
      (first.txn env) (second.txn env) (first.txn env) (second.txn env) := by
  have sound := (Reachable.booked reached).sound
  have sound' := (Reachable.booked reached').sound
  obtain ⟨promises, tasks, _, leases⟩ := agree
  refine ⟨LeaseQueue.renumbered_unique _ _, ⟨?_, rfl, ?_, ?_, ⟨?_, ?_⟩, Queue.renumbered_parallel _ _,
    .nil, .nil⟩, Reachable.within reached origin, Reachable.within reached' origin⟩
  · change min (second.queue.clock : Int) _ = min (first.queue.clock : Int) _
    rw [show second.queue.clock = first.queue.clock from leases.jobs.clock]
  · rw [System.getPromise_txn, System.getPromise_txn]
    exact promises
  · intro id own
    rw [System.getTask_txn, System.getTask_txn]
    refine Leases.rel_imp (tasks id own) ?_
    rintro task _ found found' ⟨job, named⟩
    refine ⟨job, Leases.rel_imp named ?_⟩
    rintro left _ recorded recorded' rfl
    rw [← view_getTask env] at found found'
    exact .inl ⟨rfl, (sound.owned id task left found recorded).1,
      (sound'.owned id { task with job } left found' recorded').1⟩
  · exact leases.jobs.renumber sound.accepts.fresh sound'.accepts.fresh
  · intro id own
    refine Leases.rel_imp (leases.held id own) ?_
    intro claim another found found' claims
    have here := (sound.held id claim found).1.below
    have there := (sound'.held id another found').1.below
    have named : claim.id = another.id := claims.id
    exact ⟨.inl ⟨named, here, named ▸ there⟩, claims.contents, claims.current⟩

/-- Where the index lists the branches of all promises, stores that hold the same promise hold the
same entries of it. -/
theorem branches_of_promise (shelved : (first.txn env).Shelved) (shelved' : (second.txn env).Shelved)
    {id : String} (same : second.promise id = first.promise id) (branch : String) :
    second.kv.branches[Keys.branchKey branch id]? =
      first.kv.branches[Keys.branchKey branch id]? := by
  have entry (system : System) (shelved : (system.txn env).Shelved) :
      (system.txn env).branchOf id = some branch ↔
        system.kv.branches[Keys.branchKey branch id]? = some () := by
    rw [Txn.branchOf_iff shelved.indexed shelved.plain]
    change _ ∨ (∅ : Table.Buffer String Unit)[_]? = _ ↔ _
    simp only [Std.ExtTreeMap.getElem?_empty, reduceCtorEq, or_false]
    rfl
  have branches : (second.txn env).branchOf id = (first.txn env).branchOf id := by
    unfold Txn.branchOf
    rw [System.getPromise_txn, System.getPromise_txn, same]
  have listed := entry first shelved
  rw [← branches, entry second shelved'] at listed
  cases one : first.kv.branches[Keys.branchKey branch id]? with
  | none =>
      cases two : second.kv.branches[Keys.branchKey branch id]? with
      | none => rfl
      | some here =>
          rw [listed.mp two] at one
          cases one
  | some here => rw [listed.mpr one]

/-- What two commits in step leave in the store, before the work that follows them. -/
theorem committed_pair {start other one two : Txn} {same : Nat → Nat → Prop} {commit commit' : Commit}
    (begun : Txn.Pair origin same start other start other)
    (pair : Txn.Pair origin same start other one two) (fixed : Txn.Fixed start one)
    (fixed' : Txn.Fixed other two) (plain : start.writes = .empty) (plain' : other.writes = .empty)
    (committed : Commit.Pair origin same one two commit commit') {last later : System}
    (kv : last.kv = commit.kv) (kv' : later.kv = commit'.kv) :
    ∃ left right, Txn.Pair origin same start other left right ∧ Stores left last ∧
      Stores right later := by
  rcases committed.kv with ⟨here, there⟩ | ⟨here, there⟩
  · refine ⟨start, other, begun, stores_of_kv ?_, stores_of_kv ?_⟩
    · rw [kv, here, fixed.kv, plain, Kv.apply_empty]
    · rw [kv', there, fixed'.kv, plain', Kv.apply_empty]
  · exact ⟨one, two, pair, stores_of_kv (kv.trans here), stores_of_kv (kv'.trans there)⟩

end

section

variable {env : Env} {request : Request} {stored : Bool} {before after : System}

/-- No step of a request fires a schedule. -/
theorem Completes.shelved {past : List (Machine.Entry System Event)}
    (completed : Completes env before request stored after) (history : History env past before)
    (unbroken : Machine.Meets (fun before event => event.unbroken before = true) past) :
    (after.txn env).Shelved := by
  obtain ⟨steps, ran, _⟩ := completed
  obtain ⟨newer, extended, met⟩ := Machine.History.append_met history unbroken (by
    intro label member state
    rcases List.mem_cons.mp member with rfl | member
    · rfl
    · rw [List.eq_of_mem_replicate member]
      rfl) ran
  exact History.shelved extended met

/-- A request that completes has left its commit behind, and then all of the commit's work. -/
theorem Completes.taken (completed : Completes env before request stored after) :
    ∃ next steps, step env before (.request request stored) = some next ∧
      next = before.absorb (conclude (handle env (before.txn env) request) stored).1 ∧
      Machine.run (step env) next (List.replicate steps .finish) = some after ∧
      after.after = [] := by
  obtain ⟨steps, ran, unlocked⟩ := completed
  obtain ⟨next, taken, remaining⟩ := Option.bind_eq_some_iff.mp ran
  refine ⟨next, steps, taken, ?_, remaining, unlocked⟩
  change stepRequest env before request stored = some next at taken
  unfold stepRequest at taken
  split at taken
  · exact (Option.some.inj taken).symm
  · cases taken

end

/-- Origins are isolated: on two stores that hold the same of an origin, whatever else they hold,
a request that names promises and tasks of the origin only is answered the same and leaves the same
of it, up to the ids of the jobs it hands out. Neither store changes for another origin. -/
theorem origins_isolated {env : Env} {origin : String} {first second last later : System}
    {past past' : List (Machine.Entry System Event)} {request : Request} {stored : Bool}
    (history : History env past first) (history' : History env past' second)
    (unbroken : Machine.Meets (fun before event => event.unbroken before = true) past)
    (unbroken' : Machine.Meets (fun before event => event.unbroken before = true) past')
    (agree : System.Agree origin Eq first second) (names : request.Names origin)
    (completed : Completes env first request stored last)
    (completed' : Completes env second request stored later) :
    answer env second request stored = answer env first request stored ∧
      System.Agree origin (LeaseQueue.Renumbered first.queue.nextJob second.queue.nextJob) last later ∧
      System.Spares origin first last ∧ System.Spares origin second later := by
  have reached : Reachable env first := ⟨past, history⟩
  have reached' : Reachable env second := ⟨past', history'⟩
  have shelved := History.shelved history unbroken
  have shelved' := History.shelved history' unbroken'
  have begun := agree.pair reached reached'
  have handled : Response.Pair origin _ _ _ (handle env (first.txn env) request)
      (handle env (second.txn env) request) := handle_pair begun request names
  have trail := (handle_outcome env shelved.keyed request).trail shelved.keyed
  have trail' := (handle_outcome env shelved'.keyed request).trail shelved'.keyed
  have unfired : ∀ data time mode, ¬ request.permits (.create data (some time) mode) := by
    rintro data time mode ⟨timed, _⟩
    cases timed
  obtain ⟨replies, committed⟩ := conclude_pair handled (trail.shelved unfired shelved)
    (trail'.shelved unfired shelved') stored
  refine ⟨replies, ?_⟩
  have ended := completed.shelved history unbroken
  have ended' := completed'.shelved history' unbroken'
  obtain ⟨next, steps, taken, left, ran, free⟩ := completed.taken
  obtain ⟨following, more, taken', left', ran', free'⟩ := completed'.taken
  have actions : next.after = (conclude (handle env (first.txn env) request) stored).1.after := by
    rw [left]
    rfl
  have works : following.after =
      (conclude (handle env (second.txn env) request) stored).1.after := by
    rw [left']
    rfl
  obtain ⟨leases, kept, kept'⟩ := finish_pair begun.unique committed.after
    (Machine.Reachable.extend reached taken) (Machine.Reachable.extend reached' taken') actions works
    (by rw [left, left']; exact committed.leases) ran ran' free free'
  obtain ⟨one, two, pair, stores, stores'⟩ := committed_pair begun handled.txn trail.fixed
    trail'.fixed rfl rfl committed
    (show last.kv = _ by rw [(run_finish ran free).1, left]; rfl)
    (show later.kv = _ by rw [(run_finish ran' free').1, left']; rfl)
  rw [left] at kept
  rw [left'] at kept'
  have promises : ∀ id, originOf id = origin → later.promise id = last.promise id := by
    rw [stores.promise, stores'.promise]
    exact pair.alike.promise
  have spared : ∀ id, originOf id ≠ origin → last.promise id = first.promise id := by
    rw [stores.promise, ← System.getPromise_txn env]
    exact pair.left.promises
  have spared' : ∀ id, originOf id ≠ origin → later.promise id = second.promise id := by
    rw [stores'.promise, ← System.getPromise_txn env]
    exact pair.right.promises
  refine ⟨⟨promises, ?_, ?_, leases⟩, ⟨spared, ?_, ?_, ?_⟩, ⟨spared', ?_, ?_, ?_⟩⟩
  · rw [stores.task, stores'.task]
    exact pair.alike.task
  · exact fun branch id own => branches_of_promise ended ended' (promises id own) branch
  · rw [stores.task, ← System.getTask_txn env]
    exact pair.left.tasks
  · exact fun branch id foreign => branches_of_promise shelved ended (spared id foreign) branch
  · exact (handled.txn.left.kept.trans committed.left).trans kept
  · rw [stores'.task, ← System.getTask_txn env]
    exact pair.right.tasks
  · exact fun branch id foreign => branches_of_promise shelved' ended' (spared' id foreign) branch
  · exact (handled.txn.right.kept.trans committed.right).trans kept'

/-- A store that also holds a promise and a task of another origin. -/
def crowdedRun : List Event :=
  deliveredRun ++ [.request (.promiseCreate { PromiseCreateData.sample with id := "other" }) true]

theorem deliveredTrace_ends :
    (Machine.trace (step .sample) [] .empty deliveredRun).isSome = true := by
  decide

theorem crowdedTrace_ends : (Machine.trace (step .sample) [] .empty crowdedRun).isSome = true := by
  decide

def deliveredTrace : List (Machine.Entry System Event) × System :=
  (Machine.trace (step .sample) [] .empty deliveredRun).get deliveredTrace_ends

def crowdedTrace : List (Machine.Entry System Event) × System :=
  (Machine.trace (step .sample) [] .empty crowdedRun).get crowdedTrace_ends

theorem crowded_agree : System.Agree "root" Eq deliveredTrace.2 crowdedTrace.2 := by
  have promises := @Table.find_filter _ _ _ _ _ (fun id _ => decide (originOf id = "root"))
    deliveredTrace.2.kv.promises crowdedTrace.2.kv.promises (by decide)
  have tasks := @Table.find_filter _ _ _ _ _ (fun id _ => decide (originOf id = "root"))
    deliveredTrace.2.kv.tasks crowdedTrace.2.kv.tasks (by decide)
  have branches := @Table.find_filter _ _ _ _ _ (fun _ _ => true)
    deliveredTrace.2.kv.branches crowdedTrace.2.kv.branches (by decide)
  have jobs := @Table.find_filter _ _ _ _ _ (fun _ job => Payload.dispatchesIn "root" job.payload)
    deliveredTrace.2.queue.jobs crowdedTrace.2.queue.jobs (by decide)
  have held := @Table.find_filter _ _ _ _ _ (fun _ _ => true) deliveredTrace.2.held crowdedTrace.2.held
    (by decide)
  have current : ∀ entry ∈ deliveredTrace.2.held.toList,
      crowdedTrace.2.queue.current entry.2 = deliveredTrace.2.queue.current entry.2 := by
    decide
  have whole {ν : Type} (value : Option ν) : value.filter (fun _ => true) = value := by
    cases value <;> rfl
  simp only [whole] at branches held
  refine ⟨?_, ?_, fun branch id _ => branches _,
    ⟨⟨by decide, ?_, fun id _ => ⟨id, rfl⟩, fun id _ => ⟨id, rfl⟩⟩, ?_⟩⟩
  · intro id own
    simpa [own, whole, System.promise] using promises id
  · intro id own
    have same : crowdedTrace.2.task id = deliveredTrace.2.task id := by
      simpa [own, whole, System.task] using tasks id
    rw [same]
    cases deliveredTrace.2.task id with
    | none => exact .none
    | some task => exact .some (.intro task.job (by cases task.job <;> constructor; rfl))
  · rintro id _ rfl
    exact congrArg (Option.map LeaseQueue.Job.untokened) (jobs id)
  · intro id _
    change Option.Rel _ deliveredTrace.2.held[id]? crowdedTrace.2.held[id]?
    rw [held]
    cases found : deliveredTrace.2.held[id]? with
    | none => exact .none
    | some claim =>
        exact .some ⟨rfl, rfl, current _ (Std.ExtTreeMap.mem_toList_iff_getElem?_eq_some.mpr found)⟩

theorem origins_isolated_crowded :
    ∃ last later, Completes .sample deliveredTrace.2 (acquireRoot 100) true last ∧
      Completes .sample crowdedTrace.2 (acquireRoot 100) true later ∧
      crowdedTrace.2.promise "other" ≠ deliveredTrace.2.promise "other" ∧
      answer .sample crowdedTrace.2 (acquireRoot 100) true =
        answer .sample deliveredTrace.2 (acquireRoot 100) true ∧
      System.Agree "root" (LeaseQueue.Renumbered 2 4) last later ∧
      System.Spares "root" deliveredTrace.2 last ∧ System.Spares "root" crowdedTrace.2 later := by
  have enabled : (step .sample deliveredTrace.2 (.request (acquireRoot 100) true)).any
      (fun after => after.after = []) = true := by
    decide
  have enabled' : (step .sample crowdedTrace.2 (.request (acquireRoot 100) true)).any
      (fun after => after.after = []) = true := by
    decide
  obtain ⟨last, taken, unlocked⟩ := (Option.any_eq_true _ _).mp enabled
  obtain ⟨later, taken', unlocked'⟩ := (Option.any_eq_true _ _).mp enabled'
  have completed : Completes .sample deliveredTrace.2 (acquireRoot 100) true last :=
    ⟨0, by rw [List.replicate_zero, Machine.run_cons, taken]; rfl, of_decide_eq_true unlocked⟩
  have completed' : Completes .sample crowdedTrace.2 (acquireRoot 100) true later :=
    ⟨0, by rw [List.replicate_zero, Machine.run_cons, taken']; rfl, of_decide_eq_true unlocked'⟩
  exact ⟨last, later, completed, completed', by decide,
    origins_isolated (Machine.history_of_trace deliveredTrace_ends)
      (Machine.history_of_trace crowdedTrace_ends) (by decide) (by decide) crowded_agree
      (show originOf "root" = "root" by decide) completed completed'⟩

end Resonate
