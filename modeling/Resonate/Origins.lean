import Resonate.Leases
import Resonate.MoveFacts

set_option autoImplicit false

/-! Two transactions that read the same of one origin: what the kernel does to promises and tasks
of the origin leaves them so, and touches no other. -/

namespace Resonate

open Kernel
open LeaseQueue (Queue Job EnqueueRequest)

/-- Tasks that differ by the ids of their jobs at most. -/
inductive StoredTask.Alike (same : Nat → Nat → Prop) (task : StoredTask) : StoredTask → Prop
  | intro (job : Option Nat) (named : Option.Rel same task.job job) : Alike same task { task with job }

/-- The same work of a request on tasks of an origin. -/
inductive After.Alike (origin : String) (same : Nat → Nat → Prop) : After → After → Prop
  | release (task : String) (own : originOf task = origin) : Alike origin same (.release task) (.release task)
  | nack (task : String) (own : originOf task = origin) : Alike origin same (.nack task) (.nack task)
  | claim (task : String) (own : originOf task = origin) (lease job other : Nat)
      (named : same job other) : Alike origin same (.claim task job lease) (.claim task other lease)

namespace Txn

def leases (txn : Txn) : Leases := (txn.queue, txn.held)

/-- A transaction over sound records that has touched one origin only since its start. -/
structure Within (origin : String) (start txn : Txn) : Prop where
  promise : ∀ id promise, txn.getPromise id = some promise → promise.record.id = id
  task : ∀ id task, txn.getTask id = some task → task.id = id
  callbacks : ∀ id promise, txn.getPromise id = some promise →
    ∀ awaiter ∈ promise.callbacks, originOf awaiter = originOf id
  owned : ∀ id task job, txn.getTask id = some task → task.job = some job →
    Dispatches txn.queue job id
  gripped : txn.leases.Gripped
  accepts : txn.queue.Accepts txn.enqueues
  kept : Leases.Kept origin start.leases txn.leases
  promises : ∀ id, originOf id ≠ origin → txn.getPromise id = start.getPromise id
  tasks : ∀ id, originOf id ≠ origin → txn.getTask id = start.getTask id

/-- What two transactions read of an origin is the same, and so is what they have done to it. -/
structure Alike (origin : String) (same : Nat → Nat → Prop) (first second : Txn) : Prop where
  now : second.now = first.now
  preloadLimit : second.preloadLimit = first.preloadLimit
  promise : ∀ id, originOf id = origin → second.getPromise id = first.getPromise id
  task : ∀ id, originOf id = origin →
    Option.Rel (StoredTask.Alike same) (first.getTask id) (second.getTask id)
  leases : Leases.Alike origin same first.leases second.leases
  parallel : Queue.Parallel same first.queue second.queue
  enqueues : List.Forall₂ (EnqueueRequest.Alike same) first.enqueues second.enqueues
  after : List.Forall₂ (After.Alike origin same) first.after second.after

/-- Two transactions in step on an origin, each since its start. -/
structure Pair (origin : String) (same : Nat → Nat → Prop) (start other first second : Txn) :
    Prop where
  unique : Relator.BiUnique same
  alike : Alike origin same first second
  left : Within origin start first
  right : Within origin other second

section

variable {origin : String} {same : Nat → Nat → Prop} {start other txn first second : Txn}

/-! ## Writes -/

theorem Within.putPromise (within : Within origin start txn) (promise : StoredPromise)
    (own : originOf promise.record.id = origin)
    (callbacks : ∀ awaiter ∈ promise.callbacks, originOf awaiter = origin) :
    Within origin start (txn.putPromise promise) := by
  refine ⟨?_, within.task, ?_, within.owned, within.gripped, within.accepts, within.kept, ?_,
    within.tasks⟩
  · intro id stored found
    rw [getPromise_putPromise] at found
    split at found
    · rename_i same
      cases found
      exact same
    · exact within.promise id stored found
  · intro id stored found awaiter member
    rw [getPromise_putPromise] at found
    split at found
    · rename_i same
      cases found
      rw [callbacks awaiter member, ← same, own]
    · exact within.callbacks id stored found awaiter member
  · intro id foreign
    rw [getPromise_putPromise, if_neg]
    · exact within.promises id foreign
    · rintro rfl
      exact foreign own

theorem Within.putTask (within : Within origin start txn) (task : StoredTask)
    (own : originOf task.id = origin)
    (owned : ∀ job, task.job = some job → Dispatches txn.queue job task.id) :
    Within origin start (txn.putTask task) := by
  refine ⟨within.promise, ?_, within.callbacks, ?_, within.gripped, within.accepts, within.kept,
    within.promises, ?_⟩
  · intro id stored found
    rw [getTask_putTask] at found
    split at found
    · rename_i same
      cases found
      exact same
    · exact within.task id stored found
  · intro id stored job found recorded
    rw [getTask_putTask] at found
    split at found
    · rename_i same
      cases found
      subst same
      exact owned job recorded
    · exact within.owned id stored job found recorded
  · intro id foreign
    rw [getTask_putTask, if_neg]
    · exact within.tasks id foreign
    · rintro rfl
      exact foreign own

theorem Pair.putPromise (pair : Pair origin same start other first second)
    (promise : StoredPromise) (own : originOf promise.record.id = origin)
    (callbacks : ∀ awaiter ∈ promise.callbacks, originOf awaiter = origin) :
    Pair origin same start other (first.putPromise promise) (second.putPromise promise) := by
  obtain ⟨unique, alike, left, right⟩ := pair
  refine ⟨unique, ⟨alike.now, alike.preloadLimit, ?_, alike.task, alike.leases, alike.parallel,
    alike.enqueues, alike.after⟩, left.putPromise promise own callbacks,
    right.putPromise promise own callbacks⟩
  intro id inside
  rw [getPromise_putPromise, getPromise_putPromise, alike.promise id inside]

theorem Pair.putTask (pair : Pair origin same start other first second) (task : StoredTask)
    (own : originOf task.id = origin) {job : Option Nat} (named : Option.Rel same task.job job)
    (owned : ∀ job, task.job = some job → Dispatches first.queue job task.id)
    (owned' : ∀ number, job = some number → Dispatches second.queue number task.id) :
    Pair origin same start other (first.putTask task) (second.putTask { task with job }) := by
  obtain ⟨unique, alike, left, right⟩ := pair
  refine ⟨unique, ⟨alike.now, alike.preloadLimit, alike.promise, ?_, alike.leases, alike.parallel,
    alike.enqueues, alike.after⟩, left.putTask task own owned,
    right.putTask { task with job } own owned'⟩
  intro id inside
  rw [getTask_putTask, getTask_putTask]
  dsimp only
  split
  · exact .some (.intro job named)
  · exact alike.task id inside

theorem Pair.follow (pair : Pair origin same start other first second) {action work : After}
    (equal : After.Alike origin same action work) :
    Pair origin same start other (first.follow action) (second.follow work) := by
  obtain ⟨unique, alike, left, right⟩ := pair
  refine ⟨unique, ⟨alike.now, alike.preloadLimit, alike.promise, alike.task, alike.leases, alike.parallel,
    alike.enqueues, List.rel_append alike.after (.cons equal .nil)⟩, ?_, ?_⟩
  · exact ⟨left.promise, left.task, left.callbacks, left.owned, left.gripped, left.accepts,
      left.kept, left.promises, left.tasks⟩
  · exact ⟨right.promise, right.task, right.callbacks, right.owned, right.gripped, right.accepts,
      right.kept, right.promises, right.tasks⟩

theorem Within.enqueue (within : Within origin start txn) {request : EnqueueRequest Payload}
    (unnamed : request.idOverride = none) : Within origin start (txn.enqueue request) :=
  ⟨within.promise, within.task, within.callbacks, within.owned, within.gripped,
    within.accepts.unnamed unnamed, within.kept, within.promises, within.tasks⟩

theorem Pair.enqueue (pair : Pair origin same start other first second)
    {request : EnqueueRequest Payload} (unnamed : request.idOverride = none) :
    Pair origin same start other (first.enqueue request) (second.enqueue request) := by
  obtain ⟨unique, alike, left, right⟩ := pair
  refine ⟨unique, ⟨alike.now, alike.preloadLimit, alike.promise, alike.task, alike.leases, alike.parallel,
    List.rel_append alike.enqueues (.cons ⟨rfl, rfl, rfl, ?_⟩ .nil), alike.after⟩,
    left.enqueue unnamed, right.enqueue unnamed⟩
  rw [unnamed]
  exact .none

theorem Pair.indexBranch (pair : Pair origin same start other first second)
    (promise : PromiseRecord) :
    Pair origin same start other (first.indexBranch promise) (second.indexBranch promise) := by
  obtain ⟨unique, alike, left, right⟩ := pair
  unfold Txn.indexBranch
  cases promise.tags[tagBranch]? with
  | none => exact ⟨unique, alike, left, right⟩
  | some branch =>
      refine ⟨unique, ?_, ?_, ?_⟩
      · exact ⟨alike.now, alike.preloadLimit, alike.promise, alike.task, alike.leases,
          alike.parallel, alike.enqueues, alike.after⟩
      · exact ⟨left.promise, left.task, left.callbacks, left.owned, left.gripped, left.accepts,
          left.kept, left.promises, left.tasks⟩
      · exact ⟨right.promise, right.task, right.callbacks, right.owned, right.gripped, right.accepts,
          right.kept, right.promises, right.tasks⟩

/-! ## Dispatches -/

/-- The next id is handed out for a job that does not exist yet. -/
theorem Within.handed (within : Within origin start txn) (task : String) :
    Dispatches txn.queue txn.queue.nextJob task := by
  intro stored found
  rw [within.accepts.fresh _ (Nat.le_refl _)] at found
  cases found

theorem Within.dispatch (within : Within origin start txn) (env : Env) (task : StoredTask)
    (runAt : Option Int) (own : originOf task.id = origin) :
    Within origin start (txn.dispatch env task runAt).1 := by
  have written := within.putTask { task with job := some txn.queue.nextJob } own fun job same => by
    cases same
    exact within.handed task.id
  exact ⟨written.promise, written.task, written.callbacks, written.owned, written.gripped,
    within.accepts.handed rfl, ⟨within.kept.jobs, within.kept.held⟩, written.promises, written.tasks⟩

theorem Pair.dispatch (pair : Pair origin same start other first second) (env : Env)
    (task : StoredTask) (job : Option Nat) (runAt : Option Int) (own : originOf task.id = origin) :
    Pair origin same start other (first.dispatch env task runAt).1
      (second.dispatch env { task with job } runAt).1 := by
  obtain ⟨unique, alike, left, right⟩ := pair
  have next : same first.queue.nextJob second.queue.nextJob := alike.parallel 0
  refine ⟨unique, ⟨alike.now, alike.preloadLimit, alike.promise, ?_, ?_, ?_, ?_, alike.after⟩,
    left.dispatch env task runAt own, right.dispatch env { task with job } runAt own⟩
  · intro id inside
    rw [getTask_dispatch, getTask_dispatch]
    dsimp only
    split
    · exact .some (@StoredTask.Alike.intro same { task with job := some first.queue.nextJob } _
        (.some next))
    · exact alike.task id inside
  · exact alike.leases.handed rfl rfl rfl rfl
  · intro later
    have named := alike.parallel (later + 1)
    change same (first.queue.nextJob + 1 + later) (second.queue.nextJob + 1 + later)
    rwa [Nat.add_assoc, Nat.add_assoc, Nat.add_comm 1]
  · exact List.rel_append alike.enqueues (.cons ⟨rfl, rfl, rfl, .some next⟩ .nil)

/-! ## Claims -/

theorem Within.touch {next : Txn} (within : Within origin start txn) (touches : Touches txn next)
    (gripped : next.leases.Gripped) (kept : Leases.Kept origin txn.leases next.leases) :
    Within origin start next := by
  have promises := touches.getPromise
  have tasks := touches.getTask
  refine ⟨?_, ?_, ?_, ?_, gripped, ?_, within.kept.trans kept, ?_, ?_⟩
  · rw [promises]
    exact within.promise
  · rw [tasks]
    exact within.task
  · rw [promises]
    exact within.callbacks
  · intro id task job found recorded
    rw [tasks] at found
    exact (within.owned id task job found recorded).keeps touches.keeps
  · rw [touches.enqueues]
    exact within.accepts.keeps touches.keeps
  · rw [promises]
    exact within.promises
  · rw [tasks]
    exact within.tasks

/-- Two transactions in step touch their claims alike. -/
theorem Pair.touch {next later : Txn} (pair : Pair origin same start other first second)
    (touches : Touches first next) (touches' : Touches second later)
    (leases : Leases.Alike origin same next.leases later.leases)
    (gripped : next.leases.Gripped) (gripped' : later.leases.Gripped)
    (kept : Leases.Kept origin first.leases next.leases)
    (kept' : Leases.Kept origin second.leases later.leases) :
    Pair origin same start other next later := by
  obtain ⟨unique, alike, left, right⟩ := pair
  refine ⟨unique, ⟨?_, ?_, ?_, ?_, leases, ?_, ?_, ?_⟩, left.touch touches gripped kept,
    right.touch touches' gripped' kept'⟩
  · rw [touches.now, touches'.now]
    exact alike.now
  · rw [touches.preloadLimit, touches'.preloadLimit]
    exact alike.preloadLimit
  · rw [touches.getPromise, touches'.getPromise]
    exact alike.promise
  · rw [touches.getTask, touches'.getTask]
    exact alike.task
  · intro handed
    rw [touches.keeps.nextJob, touches'.keeps.nextJob]
    exact alike.parallel handed
  · rw [touches.enqueues, touches'.enqueues]
    exact alike.enqueues
  · rw [touches.after, touches'.after]
    exact alike.after

theorem Pair.drop (pair : Pair origin same start other first second) {id : String}
    (own : originOf id = origin) :
    Pair origin same start other { first with held := first.held.erase id }
      { second with held := second.held.erase id } := by
  refine pair.touch ⟨rfl, rfl, rfl, rfl, rfl, rfl, .refl _, rfl⟩
    ⟨rfl, rfl, rfl, rfl, rfl, rfl, .refl _, rfl⟩ ?_ ?_ ?_ ?_ ?_
  · exact pair.alike.leases.drop id pair.alike.leases.jobs fun _ _ equal => equal
  · exact pair.left.gripped.drop id fun _ _ dispatches => dispatches
  · exact pair.right.gripped.drop id fun _ _ dispatches => dispatches
  · exact .drop own (.refl _ _)
  · exact .drop own (.refl _ _)

/-- The claims held for a task: none, or two of a job of the same name. -/
theorem Pair.held_cases (pair : Pair origin same start other first second) {id : String}
    (own : originOf id = origin) :
    first.held[id]? = none ∧ second.held[id]? = none ∨
      ∃ claim another, first.held[id]? = some claim ∧ second.held[id]? = some another ∧
        Queue.ClaimsAlike same first.queue second.queue claim another :=
  pair.alike.leases.held_cases own

theorem Pair.live (pair : Pair origin same start other first second) {id : String}
    (own : originOf id = origin) {claim another : Claim} (held : first.held[id]? = some claim)
    (held' : second.held[id]? = some another) (named : same claim.id another.id) :
    second.live another = first.live claim := by
  have expiry := pair.alike.leases.jobs.leaseExpiry named
    ((pair.left.gripped id claim held).inside own) ((pair.right.gripped id another held').inside own)
  change second.queue.leaseExpiry another.id = first.queue.leaseExpiry claim.id at expiry
  unfold Txn.live
  rw [expiry, pair.alike.now]

theorem Pair.holds (pair : Pair origin same start other first second) {id : String}
    (own : originOf id = origin) :
    (second.holds id).2 = (first.holds id).2 ∧
      Pair origin same start other (first.holds id).1 (second.holds id).1 := by
  unfold Txn.holds
  rcases pair.held_cases own with ⟨one, two⟩ | ⟨claim, another, one, two, equal⟩
  · rw [one, two]
    exact ⟨rfl, pair⟩
  · rw [one, two]
    dsimp only
    rw [pair.live own one two equal.id]
    split
    · exact ⟨rfl, pair⟩
    · exact ⟨rfl, pair.drop own⟩

theorem Pair.renew (pair : Pair origin same start other first second) {id : String}
    (own : originOf id = origin) (lease : Nat) :
    (second.renew id lease).2 = (first.renew id lease).2 ∧
      Pair origin same start other (first.renew id lease).1 (second.renew id lease).1 := by
  obtain ⟨checked, pair⟩ := pair.holds own
  unfold Txn.renew
  cases one : first.holds id with
  | mk next result =>
      cases two : second.holds id with
      | mk later result' =>
          rw [one, two] at checked pair
          cases checked
          cases result with
          | false => exact ⟨rfl, pair⟩
          | true =>
              dsimp only
              rcases pair.held_cases own with ⟨left, right⟩ | ⟨claim, another, left, right, equal⟩
              · rw [left, right]
                exact ⟨rfl, pair⟩
              · rw [left, right]
                dsimp only
                have renewed := pair.alike.leases.renew pair.unique equal lease
                change Option.Rel _ (next.queue.renewLease claim lease)
                  (later.queue.renewLease another lease) at renewed
                generalize granted : next.queue.renewLease claim lease = queue at renewed ⊢
                generalize granted' : later.queue.renewLease another lease = queue' at renewed ⊢
                cases renewed with
                | none => exact ⟨rfl, pair.drop own⟩
                | some leases =>
                    have keeps := Queue.renewLease_keeps granted
                    have keeps' := Queue.renewLease_keeps granted'
                    refine ⟨rfl, pair.touch ⟨rfl, rfl, rfl, rfl, rfl, rfl, keeps,
                      Queue.renewLease_clock granted⟩ ⟨rfl, rfl, rfl, rfl, rfl, rfl, keeps',
                      Queue.renewLease_clock granted'⟩ leases ?_ ?_ ?_ ?_⟩
                    · exact pair.left.gripped.keeps keeps
                    · exact pair.right.gripped.keeps keeps'
                    · exact .renew own (pair.left.gripped id claim left) granted
                    · exact .renew own (pair.right.gripped id another right) granted'

theorem Pair.claimJob (pair : Pair origin same start other first second) {id : String}
    (own : originOf id = origin) {job number : Nat} (named : same job number)
    (dispatches : Dispatches first.queue job id) (dispatches' : Dispatches second.queue number id)
    (lease : Nat) :
    (second.claimJob id number lease).2 = (first.claimJob id job lease).2 ∧
      Pair origin same start other (first.claimJob id job lease).1
        (second.claimJob id number lease).1 := by
  have related := pair.alike.leases.claim pair.unique own named dispatches dispatches'
    pair.left.gripped pair.right.gripped lease
  change Option.Rel _ (first.queue.claimById job lease) (second.queue.claimById number lease)
    at related
  unfold Txn.claimJob
  cases one : first.queue.claimById job lease with
  | none =>
      rw [one] at related
      cases two : second.queue.claimById number lease with
      | none => exact ⟨rfl, pair⟩
      | some granted =>
          rw [two] at related
          cases related
  | some granted =>
      rw [one] at related
      cases two : second.queue.claimById number lease with
      | none =>
          rw [two] at related
          cases related
      | some granted' =>
          rw [two] at related
          cases related with
          | some leases =>
              obtain ⟨claim, queue⟩ := granted
              obtain ⟨another, later⟩ := granted'
              have kept := Queue.claimById_granted one
              have kept' := Queue.claimById_granted two
              refine ⟨rfl, pair.touch ⟨rfl, rfl, rfl, rfl, rfl, rfl, kept.keeps, kept.clock⟩
                ⟨rfl, rfl, rfl, rfl, rfl, rfl, kept'.keeps, kept'.clock⟩ leases ?_ ?_ ?_ ?_⟩
              · exact pair.left.gripped.claim dispatches one
              · exact pair.right.gripped.claim dispatches' two
              · exact .claim own dispatches one
              · exact .claim own dispatches' two

/-! ## Stored tasks -/

/-- The task both transactions read under an id of the origin, or none. -/
theorem Pair.task_cases (pair : Pair origin same start other first second) {id : String}
    (own : originOf id = origin) :
    first.getTask id = none ∧ second.getTask id = none ∨
      ∃ (task : StoredTask) (job : Option Nat), first.getTask id = some task ∧
        second.getTask id = some { task with job } ∧ Option.Rel same task.job job ∧
        task.id = id := by
  have tasks := pair.alike.task id own
  cases one : first.getTask id with
  | none =>
      cases two : second.getTask id with
      | none => exact .inl ⟨rfl, rfl⟩
      | some task =>
          rw [one, two] at tasks
          cases tasks
  | some task =>
      cases two : second.getTask id with
      | none =>
          rw [one, two] at tasks
          cases tasks
      | some task' =>
          rw [one, two] at tasks
          cases tasks with
          | some equal =>
              cases equal with
              | intro job named =>
                  exact .inr ⟨task, job, rfl, rfl, named, pair.left.task id task one⟩

/-- A stored task is rewritten with its job. -/
theorem Pair.rewrite (pair : Pair origin same start other first second) {id : String}
    (own : originOf id = origin) {task : StoredTask} {job : Option Nat}
    (found : first.getTask id = some task) (found' : second.getTask id = some { task with job })
    (named : Option.Rel same task.job job) (later : StoredTask) (kept : later.id = task.id)
    (recorded : later.job = task.job) :
    Pair origin same start other (first.putTask later) (second.putTask { later with job }) := by
  have filed := pair.left.task id task found
  apply pair.putTask later
  · rw [kept, filed]
    exact own
  · rw [recorded]
    exact named
  · intro number same
    rw [recorded] at same
    rw [kept, filed]
    exact pair.left.owned id task number found same
  · intro number same
    rw [kept, filed]
    exact pair.right.owned id { task with job } number found' same

theorem Pair.foldl {α : Type} (items : List α) (advance : Txn → α → Txn)
    (each : ∀ item ∈ items, ∀ first second, Pair origin same start other first second →
      Pair origin same start other (advance first item) (advance second item))
    (pair : Pair origin same start other first second) :
    Pair origin same start other (items.foldl advance first) (items.foldl advance second) := by
  induction items generalizing first second with
  | nil => exact pair
  | cons item rest ih =>
      exact ih (fun later member => each later (List.mem_cons_of_mem _ member))
        (each item List.mem_cons_self first second pair)

end

end Txn

section

variable {origin : String} {same : Nat → Nat → Prop} {start other first second : Txn} (env : Env)

open Txn (Pair)

/-! ## Settlement -/

theorem resumeAwaiter_pair (pair : Pair origin same start other first second) {awaiter : String}
    (own : originOf awaiter = origin) (awaited : String) (wake : Wake) :
    Pair origin same start other (resumeAwaiter env first awaiter awaited wake)
      (resumeAwaiter env second awaiter awaited wake) := by
  unfold resumeAwaiter
  rcases pair.task_cases own with ⟨one, two⟩ | ⟨task, job, one, two, named, filed⟩
  · rw [one, two]
    exact pair
  · rw [one, two]
    have rewritten := pair.rewrite own one two named
    have inside : originOf task.id = origin := filed ▸ own
    obtain ⟨id, state, version, target, number, pid, ttl, resumes⟩ := task
    cases state with
    | suspended => exact pair.dispatch env _ job none inside
    | pending => exact rewritten _ rfl rfl
    | acquired => exact rewritten _ rfl rfl
    | halted =>
        dsimp only
        split
        · exact rewritten _ rfl rfl
        · exact pair
    | fulfilled => exact pair

theorem wakeAwaiter_pair (pair : Pair origin same start other first second) {awaiter : String}
    (own : originOf awaiter = origin) (awaited : String) :
    Pair origin same start other (wakeAwaiter env awaited first awaiter)
      (wakeAwaiter env awaited second awaiter) := by
  unfold wakeAwaiter
  rw [pair.alike.promise awaiter own, pair.alike.now]
  cases first.getPromise awaiter with
  | none => exact pair
  | some awaiting =>
      dsimp only
      split
      · exact resumeAwaiter_pair env pair own awaited .fanout
      · exact pair

theorem fulfillOwnTask_pair (pair : Pair origin same start other first second) {id : String}
    (own : originOf id = origin) :
    Pair origin same start other (fulfillOwnTask first id) (fulfillOwnTask second id) := by
  unfold fulfillOwnTask
  rcases pair.task_cases own with ⟨one, two⟩ | ⟨task, job, one, two, named, filed⟩
  · rw [one, two]
    exact pair
  · rw [one, two]
    dsimp only
    split
    · have rewritten := pair.rewrite own one two named
        { task.transition .fulfilled with resumes := ∅ } rfl rfl
      exact rewritten.follow (.release task.id (filed ▸ own))
    · exact pair

theorem settleChain_pair (pair : Pair origin same start other first second)
    (promise : StoredPromise) (own : originOf promise.record.id = origin)
    (callbacks : ∀ awaiter ∈ promise.callbacks, originOf awaiter = origin) :
    Pair origin same start other (settleChain env first promise).1
      (settleChain env second promise).1 := by
  unfold settleChain
  dsimp only
  have closed := (fulfillOwnTask_pair pair own).putPromise
    { promise with callbacks := [], listeners := [] } own (by simp)
  apply Pair.foldl
  · intro address _ first second pair
    exact pair.enqueue rfl
  · apply Pair.foldl
    · intro awaiter member first second pair
      exact wakeAwaiter_pair env pair (callbacks awaiter member) promise.record.id
    · exact closed

/-- A stored promise of the origin and its callbacks. -/
theorem Txn.Pair.stored (pair : Pair origin same start other first second) {id : String}
    (own : originOf id = origin) {promise : StoredPromise}
    (found : first.getPromise id = some promise) : originOf promise.record.id = origin ∧
      ∀ awaiter ∈ promise.callbacks, originOf awaiter = origin := by
  rw [pair.left.promise id promise found]
  refine ⟨own, ?_⟩
  intro awaiter member
  rw [pair.left.callbacks id promise found awaiter member, own]

theorem expirePromise_pair (pair : Pair origin same start other first second) {id : String}
    (own : originOf id = origin) {promise : StoredPromise}
    (found : first.getPromise id = some promise) :
    Pair origin same start other (expirePromise env first promise).1
      (expirePromise env second promise).1 := by
  obtain ⟨inside, callbacks⟩ := pair.stored own found
  exact settleChain_pair env pair _ inside callbacks

theorem settle_pair (pair : Pair origin same start other first second) {id : String}
    (own : originOf id = origin) {promise : StoredPromise}
    (found : first.getPromise id = some promise) (state : SettleState) (value : PromiseValue) :
    (settle env second promise state value).2 = (settle env first promise state value).2 ∧
      Pair origin same start other (settle env first promise state value).1
        (settle env second promise state value).1 := by
  obtain ⟨inside, callbacks⟩ := pair.stored own found
  unfold settle
  rw [pair.alike.now]
  exact ⟨rfl, settleChain_pair env pair _ inside callbacks⟩

theorem tryTimeout_pair (pair : Pair origin same start other first second) (ids : List String)
    (own : ∀ id ∈ ids, originOf id = origin) :
    Pair origin same start other (tryTimeout env first ids) (tryTimeout env second ids) := by
  unfold tryTimeout
  refine Pair.foldl ids _ ?_ pair
  intro id member first second pair
  unfold timeoutOne
  rw [pair.alike.promise id (own id member), pair.alike.now]
  cases found : first.getPromise id with
  | none => exact pair
  | some promise =>
      dsimp only
      split
      · exact expirePromise_pair env pair (own id member) found
      · exact pair

/-! ## Acquisition and creation -/

theorem acquire_pair (pair : Pair origin same start other first second) {id : String}
    (own : originOf id = origin) {task : StoredTask} {job : Option Nat}
    (found : first.getTask id = some task) (found' : second.getTask id = some { task with job })
    (named : Option.Rel same task.job job) (pid : String) (ttl : Int) :
    (acquire second { task with job } pid ttl).2 =
        (acquire first task pid ttl).2.map (fun acquired => { acquired with job }) ∧
      Pair origin same start other (acquire first task pid ttl).1
        (acquire second { task with job } pid ttl).1 := by
  have filed := pair.left.task id task found
  have inside : originOf task.id = origin := filed ▸ own
  obtain ⟨granted, renewed⟩ := pair.renew inside (leaseOf ttl)
  have tasks := (Txn.renew_touches first task.id (leaseOf ttl)).getTask
  have tasks' := (Txn.renew_touches second task.id (leaseOf ttl)).getTask
  unfold acquire
  dsimp only
  generalize first.renew task.id (leaseOf ttl) = next at granted renewed tasks ⊢
  generalize second.renew task.id (leaseOf ttl) = later at granted renewed tasks' ⊢
  obtain ⟨next, result⟩ := next
  obtain ⟨later, result'⟩ := later
  cases granted
  cases result with
  | false => exact ⟨rfl, renewed⟩
  | true =>
      refine ⟨rfl, ?_⟩
      exact renewed.rewrite own ((congrFun tasks id).trans found) ((congrFun tasks' id).trans found')
        named _ rfl rfl

theorem startTask_pair (pair : Pair origin same start other first second) (promise : PromiseRecord)
    (own : originOf promise.id = origin) (target : String) (mode : CreateMode) :
    Pair origin same start other (startTask env first promise target mode)
      (startTask env second promise target mode) := by
  unfold startTask
  dsimp only
  rw [pair.alike.now]
  split
  · refine pair.putTask { StoredTask.new promise.id target .pending with state := .fulfilled } own
      .none ?_ ?_
    all_goals
      intro job same
      cases same
  · cases mode with
    | acquire pid ttl =>
        have named : same first.queue.nextJob second.queue.nextJob := pair.alike.parallel 0
        have dispatched := pair.dispatch env { StoredTask.new promise.id target .pending with
          state := .acquired
          version := 1
          pid := some pid
          ttl := some ttl } none (some (Text.saturatingAdd first.now ttl)) own
        exact dispatched.follow (.claim promise.id own (leaseOf ttl) _ _ named)
    | dispatch =>
        exact pair.dispatch env (StoredTask.new promise.id target .pending) none _ own

theorem createPromise_pair (pair : Pair origin same start other first second)
    (data : PromiseCreateData) (own : originOf data.id = origin) (createdAt : Option Int)
    (mode : CreateMode) :
    (createPromise env second data createdAt mode).2 =
        (createPromise env first data createdAt mode).2 ∧
      Pair origin same start other (createPromise env first data createdAt mode).1
        (createPromise env second data createdAt mode).1 := by
  unfold createPromise
  dsimp only
  rw [pair.alike.now]
  refine ⟨rfl, ?_⟩
  generalize made : newPromise data createdAt first.now = promise
  have inside : originOf promise.record.id = origin := by
    rw [← made, newPromise_id]
    exact own
  have uncalled : promise.callbacks = [] := by
    rw [← made]
    rfl
  have stored := (pair.indexBranch promise.record).putPromise promise inside (by simp [uncalled])
  cases promise.record.target with
  | none =>
      dsimp only
      split
      · exact stored.enqueue rfl
      · exact stored
  | some target =>
      have started := startTask_pair env stored promise.record inside target mode
      dsimp only
      split
      · exact started.enqueue rfl
      · exact started

theorem registerCallback_pair (pair : Pair origin same start other first second)
    {awaited : StoredPromise} (filed : originOf awaited.record.id = origin)
    (callbacks : ∀ awaiter ∈ awaited.callbacks, originOf awaiter = origin) {awaiter : String}
    (inside : originOf awaiter = origin) :
    Pair origin same start other (registerCallback first awaited awaiter)
      (registerCallback second awaited awaiter) := by
  unfold registerCallback
  split
  · exact pair
  · refine pair.putPromise _ filed ?_
    intro other member
    rcases List.mem_append.mp member with old | last
    · exact callbacks other old
    · rw [List.mem_singleton.mp last]
      exact inside

end

end Resonate
