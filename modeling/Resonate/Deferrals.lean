import Resonate.Delays

set_option autoImplicit false

/-! No task is dispatched or acquired before its promise's delay, unless a `task.create` claims the
deferred job. -/

namespace Resonate

open Kernel
open LeaseQueue (Queue Job EnqueueRequest)

/-! ## What a task.create claims -/

/-- A `task.create` that passes every check of its data. -/
structure Creating (env : Env) (data : TaskCreateData) : Prop where
  kind : data.action.kind = "promise.create"
  named : data.pid ≠ ""
  positive : 1 ≤ data.ttl
  valid : validateCreate env data.action.data = none
  targeted : data.action.data.tags[tagTarget]?.isSome = true
  undelayed : data.action.data.tags[tagDelay]? = none

/-- A `task.create` that names a pending task whose promise is open and whose delay lies ahead. -/
structure System.Hastened (env : Env) (system : System) (data : TaskCreateData) : Prop where
  creating : Creating env data
  pending : ∃ task, system.task data.action.data.id = some task ∧ task.state = .pending
  delayed : ∃ promise due, system.promise data.action.data.id = some promise ∧
    system.now < promise.record.timeoutAt ∧ promise.record.delay = some due ∧ system.now < due

instance (env : Env) (data : TaskCreateData) : Decidable (Creating env data) :=
  decidable_of_iff (data.action.kind = "promise.create" ∧ data.pid ≠ "" ∧ 1 ≤ data.ttl ∧
      validateCreate env data.action.data = none ∧
      data.action.data.tags[tagTarget]?.isSome = true ∧ data.action.data.tags[tagDelay]? = none)
    ⟨fun each => ⟨each.1, each.2.1, each.2.2.1, each.2.2.2.1, each.2.2.2.2.1, each.2.2.2.2.2⟩,
      fun each => ⟨each.kind, each.named, each.positive, each.valid, each.targeted, each.undelayed⟩⟩

theorem hastened_iff (env : Env) (system : System) (data : TaskCreateData) :
    Creating env data ∧
        (system.task data.action.data.id).any (fun task => task.state = .pending) = true ∧
        (system.promise data.action.data.id).any (fun promise =>
          system.now < promise.record.timeoutAt ∧
            promise.record.delay.any (fun due => system.now < due) = true) = true ↔
      system.Hastened env data := by
  simp only [Option.any_eq_true, decide_eq_true_eq]
  constructor
  · intro ⟨creating, ⟨task, found, pending⟩, promise, stored, open_, due, delay, ahead⟩
    exact ⟨creating, ⟨task, found, pending⟩, promise, due, stored, open_, delay, ahead⟩
  · intro ⟨creating, ⟨task, found, pending⟩, promise, due, stored, open_, delay, ahead⟩
    exact ⟨creating, ⟨task, found, pending⟩, promise, stored, open_, due, delay, ahead⟩

instance (env : Env) (system : System) (data : TaskCreateData) :
    Decidable (system.Hastened env data) :=
  decidable_of_iff _ (hastened_iff env system data)

/-- No `task.create` claims the job of a task whose delay lies ahead. -/
def Event.Patient (env : Env) (before : System) : Event → Prop
  | .request (.taskCreate data) _ => ¬ before.Hastened env data
  | _ => True

instance (env : Env) (before : System) (event : Event) : Decidable (event.Patient env before) := by
  unfold Event.Patient
  split <;> infer_instance

section

variable {env : Env} {txn next : Txn}

/-- The moves of a request before a suspension that do not claim the job of `id`. -/
def Request.Clear (request : Request) (id : String) (label : Label) : Prop :=
  request.awake label ∧ ∀ task lease, label = .claim task lease → task.id ≠ id

/-- A `task.create` that names no pending task claims no job. -/
theorem taskCreate_clear (keyed : txn.Keyed) (data : TaskCreateData) (id : String)
    (unpending : Creating env data → ∀ task,
      (tryTimeout env txn [data.action.data.id]).getTask data.action.data.id = some task →
      task.state ≠ .pending) :
    Trail env ((Request.taskCreate data).Clear id) txn (taskCreate env txn data).txn := by
  have clear (label : Label) (permitted : (Request.taskCreate data).permits label)
      (unclaimed : ∀ task lease, label ≠ .claim task lease) :
      (Request.taskCreate data).Clear id label := by
    refine ⟨Request.awake_of_permits (fun _ same => Request.noConfusion same) permitted, ?_⟩
    intro task lease same
    exact absurd same (unclaimed task lease)
  have timeouts : Trail env ((Request.taskCreate data).Clear id) txn
      (tryTimeout env txn [data.action.data.id]) :=
    tryTimeout_trail _ keyed fun promise member =>
      clear (.expire promise) member fun _ _ same => Label.noConfusion same
  unfold taskCreate
  dsimp only
  split
  · exact .refl txn
  · rename_i kind
    split
    · exact .refl txn
    · rename_i named
      split
      · exact .refl txn
      · rename_i positive
        split
        · exact .refl txn
        · rename_i valid
          split
          · exact .refl txn
          · rename_i untargeted
            split
            · exact .refl txn
            · rename_i delayed
              have targeted : data.action.data.tags[tagTarget]?.isSome = true := by
                simpa [Option.isNone_iff_eq_none, Option.isSome_iff_ne_none] using untargeted
              have undelayed : data.action.data.tags[tagDelay]? = none := by
                simpa [Option.isNone_iff_eq_none] using delayed
              have positive : 1 ≤ data.ttl := by omega
              split
              · rename_i task stored
                refine timeouts.trans ?_
                have other := unpending
                  ⟨not_not.mp kind, named, positive, valid, targeted, undelayed⟩ task stored
                unfold taskCreateExisting
                split
                · rename_i pending
                  exact absurd pending other
                · rw [doneView_txn]
                  exact .refl _
                · exact .refl _
                · exact .refl _
                · exact .refl _
              · split
                · exact timeouts
                · rename_i absent
                  have created : Trail env ((Request.taskCreate data).Clear id) txn
                      (createPromise env (tryTimeout env txn [data.action.data.id])
                        data.action.data none (.acquire data.pid data.ttl)).1 :=
                    timeouts.trans (.one (.create data.action.data none (.acquire data.pid data.ttl))
                      (clear _ ⟨rfl, rfl⟩ fun _ _ same => Label.noConfusion same)
                      (.create _ _ _ absent
                        (.acquired _ _ _ valid targeted undelayed named positive)))
                  split
                  · rw [doneView_txn]
                    exact created
                  · exact created

/-- A delivery passes on the dispatch of its claim's task, or its claim's message. -/
theorem deliver_message {claim : Claim} {message : Message}
    (delivered : deliver env txn claim = some (next, some message)) :
    (∃ id version, claim.payload = .execute id ∧ message = .execute id version) ∨
      claim.payload = .unblock message := by
  unfold deliver at delivered
  split at delivered
  · cases delivered
  · rename_i known payload
    cases delivered
    exact .inr payload
  · rename_i id payload
    left
    dsimp only at delivered
    split at delivered
    · cases delivered
    · rename_i task stored
      split at delivered
      · cases delivered
        exact ⟨id, task.version, payload, rfl⟩
      · cases delivered
        exact ⟨id, task.version, payload, rfl⟩
      all_goals cases delivered

end

section

variable {env : Env} {before after system : System}

/-- The message of an unblock job is the record of a settled promise. -/
theorem Reachable.unblocks (reached : Reachable env system) (claim : Claim)
    (member : claim ∈ system.claims) {message : Message}
    (payload : claim.payload = .unblock message) : ∃ record, message = .unblock record := by
  have carried := (Reachable.job_invariant (fun payload _ => ∀ message,
    payload = .unblock message → ∃ record, message = .unblock record) ?_ reached).2 claim member
      (by rw [payload]; rfl)
  · exact carried message payload
  · intro txn label next move request member message payload
    cases mem_announcements member with
    | unblock label promise final address settles listed =>
        cases payload
        exact ⟨_, rfl⟩
    | deadline data createdAt mode pending external => cases payload
    | added schedule => cases payload
    | advanced schedule following later => cases payload

/-- The store leaves a task to its deferred dispatch. -/
structure System.Deferred (system : System) (id : String) (due : Int) : Prop where
  unreached : Unreached system.queue system.held id due
  after : ∀ action ∈ system.after, ∀ number, action.takes ≠ some (id, number)
  claims : ∀ claim ∈ system.claims, claim.payload ≠ .execute id
  silent : ∀ entry ∈ system.delivering.toList ++ (system.outbox ++ system.sent), ∀ version,
    entry.2 ≠ .execute id version
  task : ∀ task, system.task id = some task → task.state ≠ .acquired ∧ task.state ≠ .suspended ∧
    (task.state ≠ .fulfilled → ∃ (number : Nat) (job : Job Payload), task.job = some number ∧
      system.queue.jobs[number]? = some job ∧ job.payload = .execute id)

variable {id : String} {due : Int}

/-- A step that writes no record and spares the task's job leaves it deferred. -/
theorem System.Deferred.idle (deferred : before.Deferred id due) (kv : after.kv = before.kv)
    {exempt : Job Payload → Prop} (spares : Queue.Spares exempt before.queue after.queue)
    (ordinary : ∀ (number : Nat) (job : Job Payload), before.queue.jobs[number]? = some job →
      job.payload = .execute id → ¬ exempt job) (unheld : after.held[id]? = none)
    (follows : ∀ action ∈ after.after, action ∈ before.after)
    (claims : ∀ claim ∈ after.claims, claim ∈ before.claims ∨ claim.payload ≠ .execute id)
    (silent : ∀ entry ∈ after.delivering.toList ++ (after.outbox ++ after.sent),
      entry ∈ before.delivering.toList ++ (before.outbox ++ before.sent)) :
    after.Deferred id due := by
  refine ⟨deferred.unreached.spared spares ordinary unheld, ?_, ?_, ?_, ?_⟩
  · exact fun action member => deferred.after action (follows action member)
  · intro claim member
    rcases claims claim member with old | other
    · exact deferred.claims claim old
    · exact other
  · exact fun entry member => deferred.silent entry (silent entry member)
  · intro task stored
    have same : after.task id = before.task id := by
      unfold System.task
      rw [kv]
    obtain ⟨unacquired, awake, dispatched⟩ := deferred.task task (same ▸ stored)
    refine ⟨unacquired, awake, fun unfulfilled => ?_⟩
    obtain ⟨number, job, recorded, found, executes⟩ := dispatched unfulfilled
    have scheduled := (deferred.unreached.jobs number job found executes).1
    exact ⟨number, job, recorded,
      spares.scheduled found scheduled (ordinary number job found executes), executes⟩

/-- A transaction over the store starts from a task left to its deferred dispatch. -/
theorem System.Deferred.start (deferred : before.Deferred id due) :
    (before.txn env).Rests id due := by
  refine ⟨fun _ none => (nomatch none), fun _ none => (nomatch none), ?_⟩
  intro task stored
  rw [System.getTask_txn] at stored
  obtain ⟨unacquired, awake, dispatched⟩ := deferred.task task stored
  refine ⟨unacquired, awake, fun unfulfilled => ?_⟩
  obtain ⟨number, job, recorded, found, executes⟩ := dispatched unfulfilled
  refine ⟨number, recorded, .inl ⟨job.contents, ?_, executes⟩⟩
  change (before.queue.jobs[number]?).map Job.contents = _
  rw [found]
  rfl

/-! ## Requests -/

/-- A handled request that claims no job of `id`. -/
inductive Handled.Clear (env : Env) (request : Request) (txn : Txn) (id : String) : Txn → Prop
  | awake (next : Txn) (trail : Trail env (request.Clear id) txn next) :
      Handled.Clear env request txn id next
  | asleep (earlier next : Txn) (task : StoredTask) (awaited : List String)
      (trail : Trail env (request.Clear id) txn earlier)
      (move : Move env earlier (.suspend task awaited) next) :
      Handled.Clear env request txn id next

/-- A request that does not claim the job of a task whose delay lies ahead. -/
theorem Event.Patient.clear {request : Request} {stored : Bool} (keyed : (before.txn env).Keyed)
    (coupled : ∀ id, Coupled ((before.txn env).cell id))
    (patient : Event.Patient env before (.request request stored)) (early : before.now < due)
    (delayed : ∀ promise, before.promise id = some promise → promise.record.delay = some due) :
    Handled.Clear env request (before.txn env) id (handle env (before.txn env) request).txn := by
  by_cases naming : ∃ data, request = .taskCreate data ∧ data.action.data.id = id
  · obtain ⟨data, rfl, rfl⟩ := naming
    refine .awake _ (taskCreate_clear keyed data _ ?_)
    intro creating task found pending
    have unfulfilled : task.state ≠ .fulfilled := by
      rw [pending]
      exact TaskState.noConfusion
    obtain ⟨same, opened⟩ := tryTimeout_open keyed coupled found unfulfilled
    rw [same, System.getTask_txn] at found
    obtain ⟨promise, promised, _, ahead⟩ := (Txn.isOpen_iff _ _).mp opened
    rw [System.getPromise_txn] at promised
    exact patient ⟨creating, ⟨task, found, pending⟩,
      promise, due, promised, ahead, delayed promise promised, early⟩
  · have clear (label : Label) (permitted : request.awake label) : request.Clear id label := by
      refine ⟨permitted, ?_⟩
      rintro task lease rfl own
      obtain ⟨data, rfl, named, _⟩ := permitted.1
      exact naming ⟨data, rfl, named.trans own⟩
    have handled := handle_cases env keyed coupled request
    generalize handle env (before.txn env) request = response at handled
    cases handled with
    | plain response exit trail => exact .awake _ (trail.mono clear)
    | fulfilled response own promise exit trail promised settled =>
        exact .awake _ (trail.mono clear)
    | asleep earlier next task awaited reply trail permitted move =>
        exact .asleep earlier next task awaited (trail.mono clear) move

/-- What a request leaves of a task whose dispatch is deferred. -/
structure Txn.Left (before : System) (id : String) (due : Int) (next : Txn) : Prop where
  unreached : Unreached next.queue next.held id due
  rests : (∀ promise, next.getPromise id = some promise → promise.record.delay = some due) →
    next.Rests id due

theorem System.Deferred.left {permits : Label → Prop} {strict : Prop} {taken : Claim → Prop}
    {next : Txn} (deferred : before.Deferred id due) (booked : Booked env before)
    (keyed : (before.txn env).Keyed) (coupled : ∀ id, Coupled ((before.txn env).cell id))
    (early : before.now < due) (trail : Trail env permits (before.txn env) next)
    (allowed : ∀ label, permits label → label.Allowed strict taken)
    (granted : ∀ claim, taken claim → claim ∈ before.claims ∧
      ∀ timer, claim.payload ≠ .timer timer)
    (unclaimed : ∀ task lease, permits (.claim task lease) → task.id ≠ id) :
    next.Left before id due := by
  have matched (claim : Claim) (member : taken claim) :
      Matches (before.txn env).queue.contents before.queue.nextJob claim ∧
        ∀ timer, claim.payload ≠ .timer timer :=
    ⟨booked.claims claim (granted claim member).1, (granted claim member).2⟩
  refine ⟨?_, ?_⟩
  · exact trail.unreached keyed coupled (booked.start _) allowed matched unclaimed deferred.unreached
  · intro delayed
    exact trail.rests keyed coupled (booked.start _) allowed matched
      (fun claim member => deferred.claims claim (granted claim member).1) unclaimed
      deferred.unreached early delayed deferred.start

theorem Handled.Clear.left {request : Request} {next : Txn}
    (clear : Handled.Clear env request (before.txn env) id next)
    (deferred : before.Deferred id due) (booked : Booked env before)
    (keyed : (before.txn env).Keyed) (coupled : ∀ id, Coupled ((before.txn env).cell id))
    (early : before.now < due) : next.Left before id due := by
  have awake {earlier : Txn} (trail : Trail env (request.Clear id) (before.txn env) earlier) :
      earlier.Left before id due :=
    deferred.left booked keyed coupled early trail (fun _ permitted => Request.allowed permitted.1)
      (fun _ none => absurd none False.elim) fun task lease permitted => permitted.2 task lease rfl
  cases clear with
  | awake next trail => exact awake trail
  | asleep earlier next task awaited trail move =>
      obtain ⟨unreached, rests⟩ := awake trail
      cases move with
      | suspend task awaited stored acquired some_awaited listed =>
          refine ⟨⟨unreached.jobs, unreached.unheld⟩, ?_⟩
          intro delayed
          have kept := rests delayed
          refine ⟨kept.enqueues, kept.after, ?_⟩
          intro other found
          rw [Txn.getTask_putTask] at found
          split at found
          · rename_i own
            change task.id = id at own
            exact absurd acquired (kept.task task (own ▸ stored)).1
          · exact kept.task other found

/-! ## Commits -/

theorem clock_lt (early : system.now < due) (bounded : due ≤ Text.i64Max) :
    (system.queue.clock : Int) < due := by
  unfold System.now at early
  omega

/-- What is enqueued for the task is scheduled. -/
theorem Txn.Rests.enqueued {next : Txn} {middle : Queue Payload} {held : Held}
    (rests : next.Rests id due) (unreached : Unreached middle held id due)
    (accepts : middle.Accepts next.enqueues) (ahead : (middle.clock : Int) < due) :
    Unreached (middle.enqueue next.enqueues).2 held id due := by
  refine ⟨?_, unreached.unheld⟩
  intro number job found executes
  rcases accepts.origin number job found with old | ⟨request, member, rfl, _⟩
  · exact unreached.jobs number job old executes
  · obtain ⟨time, runAt, late⟩ := rests.enqueues request member executes
    have later : middle.clock < time := by omega
    refine ⟨?_, time, runAt, late⟩
    unfold Queue.placed
    simp [runAt, later]

/-- The task's job is in the queue after the commit. -/
theorem Txn.Rests.stored {next : Txn} {middle : Queue Payload} {number : Nat}
    (unreached : Unreached next.queue next.held id due)
    (spares : Queue.Spares (fun _ => False) next.queue middle)
    (accepts : middle.Accepts next.enqueues) (carries : next.Carries number (.execute id)) :
    ∃ job : Job Payload, (middle.enqueue next.enqueues).2.jobs[number]? = some job ∧
      job.payload = .execute id := by
  rcases carries with ⟨contents, queued, executes⟩ | ⟨request, member, own, executes⟩
  · obtain ⟨job, found, rfl⟩ := Option.map_eq_some_iff.mp queued
    have scheduled := (unreached.jobs number job found executes).1
    have kept := spares.scheduled found scheduled not_false
    have below : number < middle.nextJob := by
      by_contra above
      rw [accepts.fresh number (by omega)] at kept
      cases kept
    have unnamed : number ∉ EnqueueRequest.overrides next.enqueues := by
      intro inside
      rw [accepts.absent number inside] at kept
      cases kept
    exact ⟨job, (accepts.kept number below unnamed).trans kept, executes⟩
  · obtain ⟨place, named | ⟨unnamed, _⟩, found⟩ := accepts.stored request member
    · rw [own] at named
      cases named
      exact ⟨_, found, executes⟩
    · rw [own] at unnamed
      cases unnamed

/-- A commit leaves the task deferred. -/
theorem Txn.Left.committed {next : Txn} (left : next.Left before id due)
    (deferred : before.Deferred id due) {middle : Queue Payload}
    (spares : Queue.Spares (fun _ => False) next.queue middle)
    (accepts : middle.Accepts next.enqueues) (ahead : (middle.clock : Int) < due)
    (stores : Stores next after)
    (delayed : ∀ promise, after.promise id = some promise → promise.record.delay = some due)
    (queue : after.queue = (middle.enqueue next.enqueues).2) (unheld : after.held[id]? = none)
    (follows : after.after = next.after) (claims : ∀ claim ∈ after.claims, claim ∈ before.claims)
    (silent : ∀ entry ∈ after.delivering.toList ++ (after.outbox ++ after.sent),
      entry ∈ before.delivering.toList ++ (before.outbox ++ before.sent) ∨
        ∀ version, entry.2 ≠ .execute id version) :
    after.Deferred id due := by
  have rests := left.rests (by
    rw [← stores.promise]
    exact delayed)
  refine ⟨?_, ?_, ?_, ?_, ?_⟩
  · rw [queue]
    refine rests.enqueued ?_ accepts ahead
    exact left.unreached.spared spares (fun _ _ _ _ none => none) unheld
  · rw [follows]
    exact rests.after
  · exact fun claim member => deferred.claims claim (claims claim member)
  · intro entry member
    rcases silent entry member with old | other
    · exact deferred.silent entry old
    · exact other
  · intro task stored
    rw [stores.task] at stored
    obtain ⟨unacquired, awake, dispatched⟩ := rests.task task stored
    refine ⟨unacquired, awake, fun unfulfilled => ?_⟩
    obtain ⟨number, recorded, carries⟩ := dispatched unfulfilled
    obtain ⟨job, found, executes⟩ := Txn.Rests.stored left.unreached spares accepts carries
    exact ⟨number, job, recorded, by rw [queue]; exact found, executes⟩

/-- A transaction that is given up leaves the task deferred. -/
theorem Txn.Left.discarded {next : Txn} (left : next.Left before id due)
    (deferred : before.Deferred id due) (fixed : Txn.Fixed (before.txn env) next)
    (kv : after.kv = before.kv) (queue : after.queue = next.queue)
    (unheld : after.held[id]? = none) (follows : after.after = [])
    (claims : ∀ claim ∈ after.claims, claim ∈ before.claims)
    (silent : ∀ entry ∈ after.delivering.toList ++ (after.outbox ++ after.sent),
      entry ∈ before.delivering.toList ++ (before.outbox ++ before.sent)) :
    after.Deferred id due := by
  refine ⟨⟨?_, unheld⟩, ?_, ?_, ?_, ?_⟩
  · rw [queue]
    exact left.unreached.jobs
  · rw [follows]
    simp
  · exact fun claim member => deferred.claims claim (claims claim member)
  · exact fun entry member => deferred.silent entry (silent entry member)
  · intro task stored
    have same : after.task id = before.task id := by
      unfold System.task
      rw [kv]
    obtain ⟨unacquired, awake, dispatched⟩ := deferred.task task (same ▸ stored)
    refine ⟨unacquired, awake, fun unfulfilled => ?_⟩
    obtain ⟨number, job, recorded, found, executes⟩ := dispatched unfulfilled
    have contents : after.queue.contents number = some job.contents := by
      have kept : before.queue.contents number = some job.contents := by
        unfold Queue.contents
        rw [found]
        rfl
      rw [queue, fixed.contents]
      exact kept
    obtain ⟨later, stored, same⟩ := Option.map_eq_some_iff.mp contents
    exact ⟨number, later, recorded, stored, (congrArg (·.2.1) same).trans executes⟩

/-! ## Steps -/

theorem requested_deferred {request : Request} {stored : Bool} (booked : Booked env before)
    (keyed : (before.txn env).Keyed) (coupled : ∀ id, Coupled ((before.txn env).cell id))
    (step : Step env before (.request request stored) after)
    (patient : Event.Patient env before (.request request stored)) (early : before.now < due)
    (bounded : due ≤ Text.i64Max)
    (past : ∀ promise, before.promise id = some promise → promise.record.delay = some due)
    (delayed : ∀ promise, after.promise id = some promise → promise.record.delay = some due)
    (deferred : before.Deferred id due) : after.Deferred id due := by
  have left := (patient.clear keyed coupled early past).left deferred booked keyed coupled early
  have trail := (handle_outcome env keyed request).trail keyed
  obtain ⟨_, accepts⟩ := (handle_cases env keyed coupled request).queue booked keyed coupled stored
  have ahead : ((handle env (before.txn env) request).txn.queue.clock : Int) < due := by
    rw [trail.fixed.clock]
    exact clock_lt early bounded
  cases step with
  | dropped request stored unlocked exit =>
      exact left.discarded deferred trail.fixed trail.fixed.kv rfl left.unreached.unheld rfl
        (fun _ member => member) fun _ member => member
  | committed request unlocked exit =>
      exact left.committed deferred (.refl _) accepts ahead (stores_of_kv rfl) delayed rfl
        left.unreached.unheld rfl (fun _ member => member) fun _ member => .inl member
  | acked request taskId commit unlocked exit committed =>
      obtain ⟨claim, held, current, rfl⟩ := commitAck_acked committed
      have unheld : ((handle env (before.txn env) request).txn.held.erase taskId)[id]? = none := by
        rw [Table.find_erase]
        split
        · rfl
        · exact left.unreached.unheld
      exact left.committed deferred (Queue.remove_spares _ _ (Queue.current_busy current))
        (accepts.remove claim.id) ahead (stores_of_kv rfl) delayed rfl unheld rfl
        (fun _ member => member) fun _ member => .inl member
  | lost request taskId commit unlocked exit committed =>
      obtain ⟨held, rfl, fewer⟩ := commitAck_lost committed
      have unheld : held[id]? = none := by
        apply Option.eq_none_iff_forall_not_mem.mpr
        intro claim found
        have kept := fewer id claim found
        rw [left.unreached.unheld] at kept
        cases kept
      exact left.discarded deferred trail.fixed trail.fixed.kv rfl unheld rfl
        (fun _ member => member) fun _ member => member

theorem delivered_deferred {claim : Claim} {stored : Bool} (reached : Reachable env before)
    (booked : Booked env before) (keyed : (before.txn env).Keyed)
    (coupled : ∀ id, Coupled ((before.txn env).cell id))
    (step : Step env before (.deliver claim stored) after) (early : before.now < due)
    (bounded : due ≤ Text.i64Max)
    (delayed : ∀ promise, after.promise id = some promise → promise.record.delay = some due)
    (deferred : before.Deferred id due) : after.Deferred id due := by
  have left {txn : Txn} {message : Option Message} (member : claim ∈ before.claims)
      (delivered : deliver env (before.txn env) claim = some (txn, message)) :
      txn.Left before id due := by
    refine deferred.left booked keyed coupled early
      (deliver_trail keyed claim txn message delivered) (fun _ => delivery_allowed) ?_
      fun _ _ none => absurd none not_false
    rintro taken rfl
    exact ⟨member, deliver_untimed delivered⟩
  cases step with
  | undecoded claim stored unlocked member addressed refused =>
      have spares : Queue.Spares (fun _ => False) before.queue before.queue := .refl _
      exact deferred.idle rfl spares (fun _ _ _ _ none => none) deferred.unreached.unheld
        (fun _ member => member) (fun _ member => .inl (List.mem_of_mem_erase member))
        fun _ member => member
  | undelivered claim txn message unlocked member addressed delivered =>
      have kept := left member delivered
      have fixed := (deliver_trail keyed claim txn message delivered).fixed
      exact kept.discarded deferred fixed fixed.kv rfl kept.unreached.unheld rfl
        (fun _ member => List.mem_of_mem_erase member) fun _ member => member
  | delivered claim txn message unlocked member addressed delivered =>
      have kept := left member delivered
      have fixed := (deliver_trail keyed claim txn message delivered).fixed
      have ahead : (txn.queue.clock : Int) < due := by
        rw [fixed.clock]
        exact clock_lt early bounded
      refine kept.committed deferred (.refl _) (booked.delivered keyed coupled member delivered).accepts
        ahead (stores_of_kv rfl) delayed rfl kept.unreached.unheld rfl
        (fun _ member => List.mem_of_mem_erase member) ?_
      intro entry inside
      rcases List.mem_append.mp inside with own | old
      · right
        intro version executes
        obtain ⟨sent, present, rfl⟩ : ∃ sent, message = some sent ∧ (claim.id, sent) = entry := by
          simpa using own
        subst present
        rcases deliver_message delivered with ⟨task, seen, payload, same⟩ | payload
        · have own : Message.execute task seen = .execute id version := same.symm.trans executes
          cases own
          exact deferred.claims claim member payload
        · obtain ⟨record, unblocks⟩ := Reachable.unblocks reached claim member payload
          rw [unblocks] at executes
          cases executes
      · exact .inl (List.mem_append_right _ old)

theorem fired_deferred {claim : Claim} {stored : Bool} (booked : Booked env before)
    (keyed : (before.txn env).Keyed) (coupled : ∀ id, Coupled ((before.txn env).cell id))
    (step : Step env before (.fire claim stored) after) (early : before.now < due)
    (bounded : due ≤ Text.i64Max)
    (delayed : ∀ promise, after.promise id = some promise → promise.record.delay = some due)
    (deferred : before.Deferred id due) : after.Deferred id due := by
  have struck (timer : Timer) := fire_trail env keyed timer
  have left (timer : Timer) : (fire env (before.txn env) timer).1.Left before id due :=
    deferred.left booked keyed coupled early (struck timer) (fun _ => firing_allowed)
      (fun _ none => absurd none not_false) fun _ _ none => absurd none not_false
  cases step with
  | unfired claim timer txn unlocked member timed payload fired =>
      have kept := left timer
      have fixed := (struck timer).fixed
      rw [fired] at kept fixed
      exact kept.discarded deferred fixed fixed.kv rfl kept.unreached.unheld rfl
        (fun _ member => member) fun _ member => member
  | fired claim timer txn unlocked member timed payload fired =>
      have kept := left timer
      have fixed := (struck timer).fixed
      have sound := booked.struck keyed coupled timer
      rw [fired] at kept fixed sound
      have ahead : (txn.queue.clock : Int) < due := by
        rw [fixed.clock]
        exact clock_lt early bounded
      exact kept.committed deferred (.refl _) sound.accepts ahead (stores_of_kv rfl) delayed rfl
        kept.unreached.unheld rfl (fun _ member => List.mem_of_mem_erase member)
        fun _ member => .inl member
  | outlived claim stored timer txn exit unlocked member timed payload fired idle =>
      have kept := left timer
      have fixed := (struck timer).fixed
      rw [fired] at kept fixed
      exact kept.discarded deferred fixed fixed.kv rfl kept.unreached.unheld rfl
        (fun _ member => List.mem_of_mem_erase member) fun _ member => member

/-- The work after a commit leaves the claims of other tasks not held. -/
theorem perform_unheld (queue : Queue Payload) (held : Held) (action : After)
    (untaken : ∀ number, action.takes ≠ some (id, number)) (unheld : held[id]? = none) :
    (action.perform queue held).2[id]? = none := by
  have erased (task : String) : (held.erase task)[id]? = none := by
    rw [Table.find_erase]
    split
    · rfl
    · exact unheld
  have inserted (task : String) (claim : Claim) (other : task ≠ id) :
      (held.insert task claim)[id]? = none := by
    rw [Table.find_insert, if_neg other]
    exact unheld
  cases action with
  | ack taken => exact unheld
  | hold task taken =>
      refine inserted task taken ?_
      rintro rfl
      exact untaken _ rfl
  | release task =>
      simp only [After.perform]
      split
      · exact erased task
      · exact unheld
  | nack task =>
      simp only [After.perform]
      split
      · exact erased task
      · exact unheld
  | claim task job lease =>
      simp only [After.perform]
      split
      · refine inserted task _ ?_
        rintro rfl
        exact untaken _ rfl
      · exact unheld

theorem finished_deferred (booked : Booked env before) (step : Step env before .finish after)
    (deferred : before.Deferred id due) : after.Deferred id due := by
  cases step with
  | finished action rest pending =>
      have inside : action ∈ before.after := by
        rw [pending]
        exact List.mem_cons_self
      have untaken := deferred.after action inside
      have spares : Queue.Spares (·.payload ≠ .execute id) before.queue
          (action.perform before.queue before.held).1 := by
        refine perform_spares before.queue before.held action ?_
        intro task number lease same job found executes
        have proper := booked.sound.after action inside
        subst same
        have contents : before.queue.contents number = some job.contents := by
          unfold Queue.contents
          rw [found]
          rfl
        have own := proper.2 job.payload (.inl ⟨job.contents, contents, rfl⟩)
        rw [executes] at own
        cases own
        exact untaken number rfl
      refine deferred.idle rfl spares (fun _ _ _ executes other => other executes)
        (perform_unheld before.queue before.held action untaken deferred.unreached.unheld)
        ?_ (fun _ member => .inl member) ?_
      · intro other member
        rw [pending]
        exact List.mem_cons_of_mem _ member
      · intro entry member
        by_cases last : rest = []
        · simp only [last, if_true] at member
          simp only [List.mem_append] at member ⊢
          simp only [Option.toList_none, List.not_mem_nil, false_or] at member
          rcases member with (old | own) | sent
          · exact .inr (.inl old)
          · exact .inl own
          · exact .inr (.inr sent)
        · simp only [last, if_false] at member
          exact member

/-- A step in time before the delay leaves the task deferred, when no `task.create` claims its job. -/
theorem deferred_step {event : Event} (reached : Reachable env before)
    (taken : step env before event = some after) (inTime : event.isInTime before = true)
    (patient : event.Patient env before) (early : after.now < due) (bounded : due ≤ Text.i64Max)
    (delayed : ∀ promise, after.promise id = some promise → promise.record.delay = some due)
    (deferred : before.Deferred id due) : after.Deferred id due := by
  have booked : Booked env before := Reachable.booked reached
  have keyed : (before.txn env).Keyed := Reachable.keyed reached
  have step := step_cases taken
  have coupled : ∀ id, Coupled ((before.txn env).cell id) := by
    intro id
    rw [System.cell_txn]
    exact Reachable.coupled reached id
  have earlier : before.now < due := by
    have forward := now_le (step.clock_le keyed inTime)
    omega
  have past (promise : StoredPromise) (stored : before.promise id = some promise) :
      promise.record.delay = some due := by
    obtain ⟨later, found, persists⟩ := step_persists reached taken id promise stored
    have delay := delayed later found
    unfold PromiseRecord.delay at delay ⊢
    rw [← persists.tags]
    exact delay
  have idle {after : System} (kv : after.kv = before.kv)
      (spares : Queue.Spares (fun _ => False) before.queue after.queue)
      (held : after.held = before.held) (follows : after.after = before.after)
      (claims : ∀ claim ∈ after.claims, claim ∈ before.claims ∨ claim.payload ≠ .execute id)
      (silent : ∀ entry ∈ after.delivering.toList ++ (after.outbox ++ after.sent),
        entry ∈ before.delivering.toList ++ (before.outbox ++ before.sent)) :
      after.Deferred id due := by
    refine deferred.idle kv spares (fun _ _ _ _ none => none) ?_ ?_ claims silent
    · rw [held]
      exact deferred.unreached.unheld
    · rw [follows]
      exact fun _ member => member
  cases event with
  | request request stored =>
      exact requested_deferred booked keyed coupled step patient earlier bounded past delayed deferred
  | deliver claim stored =>
      exact delivered_deferred reached booked keyed coupled step earlier bounded delayed deferred
  | fire claim stored => exact fired_deferred booked keyed coupled step earlier bounded delayed deferred
  | finish => exact finished_deferred booked step deferred
  | pass entry =>
      cases step with
      | passed entry member =>
          refine idle rfl (.refl _) rfl rfl (fun _ member => .inl member) ?_
          intro other inside
          simp only [List.mem_append, List.mem_singleton] at inside ⊢
          rcases inside with delivering | outbox | sent | rfl
          · exact .inl delivering
          · exact .inr (.inl (List.mem_of_mem_erase outbox))
          · exact .inr (.inr sent)
          · exact .inr (.inl member)
  | ackTimer claim =>
      cases step with
      | ackedTimer claim member =>
          exact idle rfl (acked_spares _ _) rfl rfl (fun _ member => .inl member)
            fun _ member => member
  | nackTimer claim =>
      cases step with
      | nackedTimer claim member timed =>
          exact idle rfl (nacked_spares _ _) rfl rfl
            (fun _ member => .inl (List.mem_of_mem_erase member)) fun _ member => member
  | take job lease =>
      cases step with
      | taken job lease period claim queue granted =>
          refine idle rfl (Queue.take_spares granted) rfl rfl ?_ fun _ member => member
          intro other member
          rcases List.mem_cons.mp member with rfl | old
          · right
            intro executes
            obtain ⟨entry, found, waiting, grants⟩ := Queue.take_waiting granted
            cases grants
            have scheduled := (deferred.unreached.jobs job entry found executes).1
            rw [waiting] at scheduled
            cases scheduled
          · exact .inl old
  | promote job =>
      cases step with
      | promoted job queue moved =>
          have spares : Queue.Spares (fun entry => before.queue.jobs[job]? = some entry) before.queue
              queue := Queue.promote_spares moved fun _ found => found
          refine deferred.idle rfl spares ?_ deferred.unreached.unheld (fun _ member => member)
            (fun _ member => .inl member) fun _ member => member
          intro number entry found executes promoted
          obtain ⟨_, time, runAt, late⟩ := deferred.unreached.jobs number entry found executes
          have passed := Event.due_of_inTime inTime promoted runAt
          have ahead := clock_lt earlier bounded
          omega
  | reap job =>
      cases step with
      | reaped job queue moved =>
          exact idle rfl (Queue.reap_spares moved) rfl rfl (fun _ member => .inl member)
            fun _ member => member
  | clock time =>
      cases step with
      | ticked time =>
          exact idle rfl (Queue.spares_of_jobs rfl) rfl rfl (fun _ member => .inl member)
            fun _ member => member
  | reopen =>
      cases step with
      | reopened =>
          have spares : Queue.Spares (fun _ => False) before.queue before.queue.reopen :=
            Queue.reopen_spares before.queue
          refine deferred.idle rfl spares (fun _ _ _ _ none => none) Std.ExtTreeMap.getElem?_empty
            (fun _ member => nomatch member) (fun _ member => nomatch member) ?_
          intro entry member
          simp only [stepReopen, Option.toList_none, List.nil_append] at member
          exact List.mem_append_right _ (List.mem_append_right _ member)

theorem empty_deferred : System.empty.Deferred id due := by
  refine ⟨⟨?_, Std.ExtTreeMap.getElem?_empty⟩, ?_, ?_, ?_, ?_⟩
  · intro number job found
    change (∅ : Table Nat (Job Payload))[number]? = some job at found
    rw [Std.ExtTreeMap.getElem?_empty] at found
    cases found
  · intro action member
    cases member
  · intro claim member
    cases member
  · intro entry member
    cases member
  · intro task found
    change (∅ : Table String StoredTask)[id]? = some task at found
    rw [Std.ExtTreeMap.getElem?_empty] at found
    cases found

/-- In such a run the task of a promise is deferred until the promise's delay. -/
theorem History.deferred {past : List (Machine.Entry System Event)}
    (history : History env past system)
    (patient : Machine.Meets (fun before event =>
      event.isInTime before = true ∧ event.Patient env before) past)
    (early : system.now < due) (bounded : due ≤ Text.i64Max)
    (delayed : ∀ promise, system.promise id = some promise → promise.record.delay = some due) :
    system.Deferred id due := by
  have both : system.now < due →
      (∀ promise, system.promise id = some promise → promise.record.delay = some due) →
      system.Deferred id due := by
    refine Machine.History.invariant (fun system => system.now < due →
      (∀ promise, system.promise id = some promise → promise.record.delay = some due) →
      system.Deferred id due) history patient (fun _ _ => empty_deferred) ?_
    intro before event after reached deferred ⟨inTime, patient⟩ taken early delayed
    refine deferred_step reached taken inTime patient early bounded delayed (deferred ?_ ?_)
    · have forward := now_le ((step_cases taken).clock_le (Reachable.keyed reached) inTime)
      omega
    · intro promise stored
      obtain ⟨later, found, persists⟩ := step_persists reached taken id promise stored
      have delay := delayed later found
      unfold PromiseRecord.delay at delay ⊢
      rw [← persists.tags]
      exact delay
  exact both early delayed

end

/-- While the clock does not go back, no job waits before its time and no `task.create` claims the
job of a pending task whose delay lies ahead, no execute message of a task is sent and the task is
not acquired before its promise's delay. -/
theorem delay_respected {env : Env} {system : System} {past : List (Machine.Entry System Event)}
    (history : History env past system)
    (patient : Machine.Meets (fun before event =>
      event.isInTime before = true ∧ event.Patient env before) past) :
    ∀ id promise due, system.promise id = some promise → promise.record.delay = some due →
      system.now < due →
      (∀ task, system.task id = some task → task.state ≠ .acquired) ∧
      ∀ entry ∈ system.delivering.toList ++ (system.outbox ++ system.sent), ∀ version,
        entry.2 ≠ .execute id version := by
  intro id promise due found delay early
  have bounded : due ≤ Text.i64Max := by
    obtain ⟨text, _, parsed⟩ := Option.bind_eq_some_iff.mp delay
    exact parseI64_le parsed
  have deferred : system.Deferred id due := by
    refine history.deferred patient early bounded ?_
    intro other stored
    cases found.symm.trans stored
    exact delay
  exact ⟨fun task stored => (deferred.task task stored).1, deferred.silent⟩

/-- A promise with a target whose task is deferred. -/
def PromiseCreateData.delayedSample : PromiseCreateData where
  id := "root"
  timeoutAt := 1000
  param := {}
  tags := ((∅ : Tags).insert tagTarget "poll://any@g").insert tagDelay "500"

/-- A deferred task is halted and continued. -/
def deferredRun : List Event :=
  [.clock 1, .request (.promiseCreate .delayedSample) true, .request (.taskHalt "root") true,
    .finish, .request (.taskContinue "root") true]

theorem deferredRun_ends : (Machine.trace (step .sample) [] .empty deferredRun).isSome = true := by
  decide

theorem delay_respected_continued :
    ∃ past system promise task, History .sample past system ∧
      system.promise "root" = some promise ∧ promise.record.delay = some 500 ∧ system.now < 500 ∧
      system.task "root" = some task ∧ task.state = .pending ∧ task.state ≠ .acquired := by
  have history := Machine.history_of_trace deferredRun_ends
  have patient : Machine.Meets (fun before event => event.isInTime before = true ∧
      event.Patient .sample before)
      ((Machine.trace (step .sample) [] .empty deferredRun).get deferredRun_ends).1 := by
    decide
  have stored : (((Machine.trace (step .sample) [] .empty deferredRun).get deferredRun_ends).2.promise
      "root").any (fun promise => promise.record.delay = some 500) = true := by
    decide
  have early : ((Machine.trace (step .sample) [] .empty deferredRun).get deferredRun_ends).2.now <
      500 := by
    decide
  have continued : (((Machine.trace (step .sample) [] .empty deferredRun).get deferredRun_ends).2.task
      "root").any (fun task => task.state = .pending) = true := by
    decide
  obtain ⟨promise, found, delay⟩ := (Option.any_eq_true _ _).mp stored
  obtain ⟨task, present, pending⟩ := (Option.any_eq_true _ _).mp continued
  have respected := delay_respected history patient "root" promise 500 found
    (of_decide_eq_true delay) early
  exact ⟨_, _, promise, task, history, found, of_decide_eq_true delay, early, present,
    of_decide_eq_true pending, respected.1 task present⟩

/-- A `task.create` names the task of a promise with a delay. -/
def hastenedRun : List Event :=
  [.clock 1, .request (.promiseCreate .delayedSample) true,
    .request (.taskCreate ⟨"p", 100, ⟨"promise.create", .sample⟩⟩) true]

theorem hastenedRun_ends : (Machine.trace (step .sample) [] .empty hastenedRun).isSome = true := by
  decide

theorem delayed_task_acquired :
    ∃ past system promise task, History .sample past system ∧
      Machine.Meets (fun before event => event.isInTime before = true) past ∧
      system.promise "root" = some promise ∧ promise.record.createdAt = 1 ∧
      promise.record.delay = some 500 ∧ system.now = 1 ∧
      system.task "root" = some task ∧ task.state = .acquired := by
  have inTime : Machine.Meets (fun before event => event.isInTime before = true)
      ((Machine.trace (step .sample) [] .empty hastenedRun).get hastenedRun_ends).1 := by
    decide
  have stored : (((Machine.trace (step .sample) [] .empty hastenedRun).get hastenedRun_ends).2.promise
      "root").any (fun promise =>
        promise.record.createdAt = 1 ∧ promise.record.delay = some 500) = true := by
    decide
  have acquired : (((Machine.trace (step .sample) [] .empty hastenedRun).get hastenedRun_ends).2.task
      "root").any (fun task => task.state = .acquired) = true := by
    decide
  obtain ⟨promise, found, delayed⟩ := (Option.any_eq_true _ _).mp stored
  obtain ⟨task, present, state⟩ := (Option.any_eq_true _ _).mp acquired
  obtain ⟨createdAt, delay⟩ := of_decide_eq_true delayed
  exact ⟨_, _, promise, task, Machine.history_of_trace hastenedRun_ends, inTime, found, createdAt,
    delay, by decide, present, of_decide_eq_true state⟩

end Resonate
