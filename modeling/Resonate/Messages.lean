import Resonate.Deliveries
import Resonate.Listeners
import Resonate.Grants
import Resonate.Deferrals

set_option autoImplicit false

/-! What reaches the callbacks: a message is that of a job the store enqueued on the queue of its
receiver, and was handed on by a delivery of this job. -/

namespace Resonate

open Kernel
open LeaseQueue (Queue Job EnqueueRequest)

/-! ## The queues of dispatches -/

section

variable {env : Env} {txn next : Txn} {label : Label} {id : String}

/-- A job of a task is on the queue of its target. -/
def ToTarget (env : Env) (task : Option StoredTask) (queue : String) : Prop :=
  ∃ stored, task = some stored ∧ queue = Keys.addressQueue env stored.target

/-- A change keeps a task and its target. -/
theorem Change.routed {now : Int} {before after : Cell} {queue : String}
    (change : Change env now id label before after) (coupled : Coupled before)
    (routed : ToTarget env before.task queue) : ToTarget env after.task queue := by
  obtain ⟨stored, found, rfl⟩ := routed
  cases change with
  | settled label promise final task settles own pending timely =>
      cases found
      exact ⟨stored.fulfilled, rfl, by rw [StoredTask.fulfilled_target]⟩
  | woken label promise final awaiter task job settles other listed pending early =>
      cases found
      exact ⟨_, rfl, by rw [StoredTask.resumed_target]⟩
  | created data createdAt mode task job own =>
      cases found
      cases coupled.target
  | resumed awaited awaiter task job pending early =>
      cases found
      exact ⟨_, rfl, by rw [StoredTask.resumed_target]⟩
  | moved label promise before after own move =>
      cases found
      exact ⟨after, rfl, by rw [move.target]⟩
  | _ => exact ⟨stored, found, rfl⟩

theorem createdTask_target (promise : PromiseRecord) (target : String) (mode : CreateMode) (now : Int)
    (job : Nat) : (createdTask promise target mode now job).target = target := by
  unfold createdTask
  dsimp only
  split
  · rfl
  · cases mode <;> rfl

/-- The dispatches a move adds are for the target of the task it leaves. -/
def Adds (env : Env) (txn next : Txn) (id : String) : Prop :=
  dispatchesOf id next.enqueues = dispatchesOf id txn.enqueues ∨
    ∃ task job runAt, next.getTask id = some task ∧
      dispatchesOf id next.enqueues =
        dispatchesOf id txn.enqueues ++ [Txn.executeRequest env task.target id job runAt]

theorem adds_resumed (keyed : txn.Keyed) (awaited : String) (wake : Wake) (job : Nat)
    (task : next.getTask id = (txn.getTask id).map (StoredTask.resumed awaited wake job))
    (dispatched : dispatchesOf id next.enqueues = dispatchesOf id txn.enqueues ++
      ((txn.getTask id).map (StoredTask.redispatch env job)).getD []) : Adds env txn next id := by
  cases stored : txn.getTask id with
  | none =>
      rw [stored] at dispatched
      exact .inl (dispatched.trans (List.append_nil _))
  | some asleep =>
      rw [stored] at task dispatched
      change _ = _ ++ asleep.redispatch env job at dispatched
      unfold StoredTask.redispatch at dispatched
      split at dispatched
      · refine .inr ⟨_, job, none, task, ?_⟩
        rw [dispatched, StoredTask.resumed_target, keyed.task id asleep stored]
      · exact .inl (dispatched.trans (List.append_nil _))

theorem adds_settled (keyed : txn.Keyed) (final : StoredPromise)
    (settled : final.record.isPending = false) (id : String) :
    Adds env txn (settleChain env txn final).1 id := by
  obtain ⟨job, _, task, dispatched⟩ := settleChain_task env keyed final settled id
  by_cases woken : final.record.id ≠ id ∧ id ∈ final.callbacks ∧ txn.isOpen id = true
  · rw [if_neg woken.1, if_pos woken.2] at task
    rw [if_pos woken] at dispatched
    exact adds_resumed keyed final.record.id .fanout job task dispatched
  · rw [if_neg woken] at dispatched
    exact .inl (dispatched.trans (List.append_nil _))

theorem startRequests_cases (promise : PromiseRecord) (target : String) (mode : CreateMode)
    (now : Int) (job : Nat) : startRequests env promise target mode now job = [] ∨
      ∃ runAt, startRequests env promise target mode now job =
        [Txn.executeRequest env target promise.id job runAt] := by
  unfold startRequests
  split
  · exact .inl rfl
  · cases mode with
    | acquire pid ttl => exact .inr ⟨_, rfl⟩
    | dispatch => exact .inr ⟨_, rfl⟩

theorem adds_created (data : PromiseCreateData) (createdAt : Option Int) (mode : CreateMode)
    (id : String) : Adds env txn (createPromise env txn data createdAt mode).1 id := by
  have tasks := getTask_createPromise env txn data createdAt mode id
  have enqueued := congrArg (dispatchesOf id) (enqueues_createPromise env txn data createdAt mode)
  unfold createRequests at enqueued
  unfold taskOf at tasks
  dsimp only at enqueued
  have untimed (promise : PromiseRecord) : dispatchesOf id
      (if promise.isPending ∧ promise.isExternal then
        [Txn.timerRequest (.promiseTimeout promise.id) promise.timeoutAt]
      else []) = [] := by
    split
    · simp [dispatchesOf, Txn.timerRequest]
    · rfl
  rw [dispatchesOf_append, dispatchesOf_append, untimed, List.append_nil, PromiseRecord.target,
    newPromise_tags] at enqueued
  cases tagged : data.tags[tagTarget]? with
  | none =>
      rw [tagged] at enqueued
      exact .inl (enqueued.trans (List.append_nil _))
  | some target =>
      rw [tagged] at enqueued tasks
      dsimp only at enqueued
      rcases startRequests_cases (newPromise data createdAt txn.now).record target mode txn.now
        txn.queue.nextJob with none_ | ⟨runAt, one⟩
      · rw [none_] at enqueued
        exact .inl (enqueued.trans (List.append_nil _))
      · rw [one, dispatchesOf_execute, newPromise_id] at enqueued
        by_cases own : data.id = id
        · rw [if_pos own, own] at enqueued
          rw [if_pos own] at tasks
          refine .inr ⟨_, txn.queue.nextJob, runAt, tasks, ?_⟩
          rw [createdTask_target]
          exact enqueued
        · rw [if_neg own] at enqueued
          exact .inl (enqueued.trans (List.append_nil _))

theorem adds_proceed (task : StoredTask) (id : String) : Adds env txn (Kernel.proceed env txn task) id := by
  unfold Kernel.proceed
  dsimp only
  split
  · exact .inl rfl
  · have enqueued := dispatchesOf_append id txn.enqueues
      [Txn.executeRequest env task.target task.id txn.queue.nextJob none]
    rw [dispatchesOf_execute] at enqueued
    by_cases own : task.id = id
    · subst own
      rw [if_pos rfl] at enqueued
      refine .inr ⟨{ task.transition .pending with job := some txn.queue.nextJob },
        txn.queue.nextJob, none, ?_, enqueued⟩
      rw [Txn.getTask_dispatch]
      exact if_pos rfl
    · rw [if_neg own] at enqueued
      exact .inl (enqueued.trans (List.append_nil _))

theorem Move.adds (move : Move env txn label next) (keyed : txn.Keyed) (id : String) :
    Adds env txn next id := by
  have plain (request : EnqueueRequest Payload) (payload : request.payload ≠ .execute id) :
      dispatchesOf id (txn.enqueues ++ [request]) = dispatchesOf id txn.enqueues := by
    rw [dispatchesOf_append]
    simp [dispatchesOf, payload]
  cases move with
  | expire promise stored pending due =>
      exact adds_settled keyed (expiredPromise promise) (expiredPromise_settled promise) id
  | strike promise stored pending =>
      exact adds_settled keyed (expiredPromise promise) (expiredPromise_settled promise) id
  | settle promise state value stored pending early =>
      exact adds_settled keyed (settledPromise promise state value txn.now)
        (settledPromise_settled promise state value txn.now) id
  | create data createdAt mode absent admitted => exact adds_created data createdAt mode id
  | resume awaited awaiter stored settled external valid opened =>
      have task := @getTask_resumeAwaiter env _ keyed awaiter awaited.record.id .registration id
      have dispatched := @dispatches_resumeAwaiter env _ keyed awaiter awaited.record.id .registration id
      by_cases own : awaiter = id
      · rw [if_pos own] at task dispatched
        exact adds_resumed keyed _ _ _ task dispatched
      · rw [if_neg own] at dispatched
        exact .inl (dispatched.trans (List.append_nil _))
  | acquire task pid ttl stored pending renewed =>
      exact .inl (congrArg (dispatchesOf id) (Txn.renew_touches txn task.id (leaseOf ttl)).enqueues)
  | proceed task stored halted => exact adds_proceed task id
  | addSchedule schedule absent following created unfired named plain_ targeted timeout =>
      exact .inl (plain _ (by simp [Txn.timerRequest]))
  | advance schedule stored =>
      refine .inl ?_
      rw [enqueues_advanceSchedule]
      cases env.nextAfter schedule.cron schedule.nextRunAt with
      | some following => exact plain _ (by simp [Txn.timerRequest])
      | none => exact congrArg (dispatchesOf id) (List.append_nil _)
  | check task => exact .inl (congrArg (dispatchesOf id) (Txn.holds_touches txn task).enqueues)
  | renew task lease =>
      exact .inl (congrArg (dispatchesOf id) (Txn.renew_touches txn task lease).enqueues)
  | claim task job lease stored pending dispatched =>
      exact .inl (congrArg (dispatchesOf id) (Txn.claimJob_touches txn task.id job lease).enqueues)
  | _ => exact .inl rfl

/-- Every dispatch of a transaction is for the target of its task. -/
def Txn.Routed (env : Env) (txn : Txn) : Prop :=
  ∀ id, ∀ request ∈ dispatchesOf id txn.enqueues, ToTarget env (txn.getTask id) request.queue

theorem Trail.routed {permits : Label → Prop} (trail : Trail env permits txn next)
    (keyed : txn.Keyed) (coupled : ∀ id, Coupled (txn.cell id)) (routed : txn.Routed env) :
    next.Routed env ∧ ∀ id queue, ToTarget env (txn.getTask id) queue →
      ToTarget env (next.getTask id) queue := by
  induction trail with
  | refl txn => exact ⟨routed, fun _ _ held => held⟩
  | step label permitted move rest ih =>
      rename_i first middle last
      have kept (id queue : String) (held : ToTarget env (first.getTask id) queue) :
          ToTarget env (middle.getTask id) queue :=
        (move.change keyed id).routed (coupled id) held
      have grown : middle.Routed env := by
        intro id request member
        rcases move.adds keyed id with same | ⟨task, job, runAt, stored, added⟩
        · rw [same] at member
          exact kept id _ (routed id request member)
        · rw [added] at member
          rcases List.mem_append.mp member with old | new
          · exact kept id _ (routed id request old)
          · rw [List.mem_singleton.mp new]
            exact ⟨task, stored, rfl⟩
      obtain ⟨ends, carried⟩ := ih (move.keyed keyed)
        (fun id => (move.change keyed id).coupled (coupled id)) grown
      exact ⟨ends, fun id queue held => carried id queue (kept id queue held)⟩

/-- A delivery hands on the message of its claim, and of a dispatch the version at which it leaves
the task pending. -/
theorem deliver_conveys {claim : Claim} {message : Message} (keyed : txn.Keyed)
    (delivered : deliver env txn claim = some (next, some message)) :
    (∃ id task, claim.payload = .execute id ∧ message = .execute id task.version ∧
      next.getTask id = some task ∧ task.state = .pending) ∨ claim.payload = .unblock message := by
  unfold deliver at delivered
  split at delivered
  · cases delivered
  · rename_i known payload
    cases delivered
    exact .inr payload
  · rename_i id payload
    left
    dsimp only at delivered
    split at delivered
    · cases delivered
    · rename_i task stored
      have own : task.id = id := (tryTimeout_keyed env [id] keyed).task id task stored
      split at delivered
      · cases delivered
        refine ⟨id, task.transition .pending, payload, rfl, ?_, rfl⟩
        change (Txn.putTask _ _).getTask id = _
        rw [Txn.getTask_putTask]
        exact if_pos own
      · rename_i pending
        cases delivered
        exact ⟨id, task, payload, rfl, stored, pending⟩
      all_goals cases delivered

end

/-! ## What is logged -/

/-- A commit enqueued the job. -/
def System.Logged (system : System) (number : Nat) (queue : String) (payload : Payload) : Prop :=
  ∃ job, (number, job) ∈ system.log ∧ job.queue = queue ∧ job.payload = payload

/-- The messages in hand and those passed to the callbacks, by their jobs. -/
def System.messages (system : System) : List (Nat × Message) :=
  system.delivering.toList ++ (system.outbox ++ system.sent)

/-- The delivery of a claim handed on a message: that of its job, or the dispatch of its task at the
version at which it left the task pending. -/
def Hands (delivery : Machine.Entry System Event) (claim : Claim) : Message → Prop
  | .execute id version => claim.payload = .execute id ∧ ∃ task,
      delivery.after.task id = some task ∧ task.state = .pending ∧ task.version = version
  | .unblock record => claim.payload = .unblock (.unblock record)

/-- A message for the readers of a queue says what is stored: of a dispatch the queue is that of the
task's target and the version was reached, and the record of an unblock is the settled record of the
promise, which an address of the queue was registered for. -/
def Genuine (env : Env) (past : List (Machine.Entry System Event)) (system : System)
    (queue : String) : Message → Prop
  | .execute id version => ∃ task, system.task id = some task ∧ version ≤ task.version ∧
      queue = Keys.addressQueue env task.target
  | .unblock record => ∃ promise address, system.promise record.id = some promise ∧
      promise.record = record ∧ record.isPending = false ∧
      queue = Keys.addressQueue env address ∧ ∃ entry ∈ past, Listens env entry record.id address

section

variable {env : Env} {before after system : System} {event : Event} {number : Nat} {queue : String}
  {payload : Payload} {past : List (Machine.Entry System Event)}

theorem System.Logged.step (logged : before.Logged number queue payload)
    (reached : Reachable env before) (taken : step env before event = some after) :
    after.Logged number queue payload := by
  obtain ⟨job, member, same⟩ := logged
  rcases Reachable.enqueued reached taken with ⟨_, log⟩ | ⟨txn, middle, enqueued⟩
  · exact ⟨job, log ▸ member, same⟩
  · refine ⟨job, ?_, same⟩
    rw [enqueued.log]
    exact List.mem_append_left _ member

/-- The jobs of an enqueue are those of its requests. -/
theorem mem_enqueue {middle : Queue Payload} {requests : List (EnqueueRequest Payload)}
    {job : Job Payload} (member : (number, job) ∈ (middle.enqueue requests).1) :
    ∃ request ∈ requests, job.queue = request.queue ∧ job.payload = request.payload := by
  have placed : job ∈ requests.map (Queue.placed middle.clock) := by
    rw [← Queue.enqueue_jobs]
    exact List.mem_map_of_mem member
  obtain ⟨request, listed, rfl⟩ := List.mem_map.mp placed
  exact ⟨request, listed, rfl, rfl⟩

/-- The jobs of a queue after an enqueue. -/
theorem job_of_enqueue {middle : Queue Payload} {requests : List (EnqueueRequest Payload)}
    {job : Job Payload} (found : (middle.enqueue requests).2.jobs[number]? = some job) :
    middle.jobs[number]? = some job ∨ (number, job) ∈ (middle.enqueue requests).1 := by
  induction requests generalizing middle with
  | nil => exact .inl found
  | cons request rest ih =>
      rw [Queue.enqueue_cons] at found ⊢
      rcases ih found with old | new
      · rw [Queue.enqueueOne_jobs, Table.find_insert] at old
        split at old
        · rename_i own
          cases old
          exact .inr (own ▸ List.mem_cons_self)
        · exact .inl old
      · exact .inr (List.mem_cons_of_mem _ new)

/-- The jobs and the claims of the store are logged, and the dispatches go to their targets. -/
structure System.Traced (env : Env) (system : System) : Prop where
  jobs : ∀ (number : Nat) (job : Job Payload), system.queue.jobs[number]? = some job →
    system.Logged number job.queue job.payload
  claims : ∀ claim ∈ system.claims, system.Logged claim.id claim.queue claim.payload
  dispatches : ∀ number queue id, system.Logged number queue (.execute id) →
    ToTarget env (system.task id) queue

theorem empty_traced : System.empty.Traced env where
  jobs number job found := by simp [System.empty, Queue.empty] at found
  claims claim member := by cases member
  dispatches number queue id logged := by
    obtain ⟨job, member, _⟩ := logged
    cases member

theorem spared_logged (traced : before.Traced env) {exempt : Job Payload → Prop}
    {later : Queue Payload} (spares : Queue.Spares exempt before.queue later) {job : Job Payload}
    (found : later.jobs[number]? = some job) : before.Logged number job.queue job.payload := by
  rcases spares number with same | ⟨old, present, _, kept⟩
  · exact traced.jobs number job (same ▸ found)
  · have contents := (kept job found).1
    have queues : job.queue = old.queue := congrArg (·.1) contents
    have payloads : job.payload = old.payload := congrArg (·.2.1) contents
    rw [queues, payloads]
    exact traced.jobs number old present

theorem Step.claimed (step : Step env before event after) (traced : before.Traced env) :
    ∀ claim ∈ after.claims, before.Logged claim.id claim.queue claim.payload := by
  intro claim member
  cases step with
  | taken job lease period claim_ queue granted =>
      rcases List.mem_cons.mp member with rfl | old
      · obtain ⟨stored, found, _, grant⟩ := Queue.take_waiting granted
        have logged := traced.jobs job stored found
        have own : claim = (before.queue.grant job stored period).1 := by rw [grant]
        rw [own]
        exact logged
      · exact traced.claims claim old
  | undecoded | undelivered | delivered | fired | outlived | nackedTimer =>
      exact traced.claims claim (List.mem_of_mem_erase member)
  | reopened => cases member
  | _ => exact traced.claims claim member

theorem traced_step (reached : Reachable env before) (taken : step env before event = some after)
    (traced : before.Traced env) : after.Traced env := by
  refine ⟨?_, ?_, ?_⟩
  · intro number job found
    cases Reachable.jobs reached taken with
    | kept spares log => exact (spared_logged traced spares found).step reached taken
    | committed txn middle spares committed accepts clock queue log =>
        rw [queue] at found
        rcases job_of_enqueue found with old | new
        · exact (spared_logged traced spares old).step reached taken
        · refine ⟨job, ?_, rfl, rfl⟩
          rw [log]
          exact List.mem_append_right _ new
  · exact fun claim member =>
      ((step_cases taken).claimed traced claim member).step reached taken
  · intro number queue id ⟨job, member, own, payload⟩
    have keyed : (before.txn env).Keyed := Reachable.keyed reached
    rcases Reachable.enqueued reached taken with ⟨kv, log⟩ | ⟨txn, middle, enqueued⟩
    · have held := traced.dispatches number queue id ⟨job, log ▸ member, own, payload⟩
      unfold System.task at held ⊢
      rw [kv]
      exact held
    · have coupled (id : String) : Coupled ((before.txn env).cell id) := by
        rw [System.cell_txn]
        exact Reachable.coupled reached id
      obtain ⟨routed, kept⟩ := enqueued.committed.trail.routed keyed coupled
        (fun _ _ none => (nomatch none))
      rw [enqueued.committed.stores.task]
      rw [enqueued.log] at member
      rcases List.mem_append.mp member with old | new
      · apply kept id queue
        rw [System.getTask_txn]
        exact traced.dispatches number queue id ⟨job, old, own, payload⟩
      · obtain ⟨request, listed, queues, payloads⟩ := mem_enqueue new
        rw [← own, queues]
        exact routed id request (mem_dispatchesOf.mpr ⟨listed, payloads ▸ payload⟩)

theorem Reachable.traced (reached : Reachable env system) : system.Traced env :=
  Machine.Reachable.invariant (fun system => system.Traced env) reached empty_traced
    fun _ _ _ reached traced taken => traced_step reached taken traced

/-! ## Messages -/

/-- A new message is that of a delivery. -/
theorem Step.messages {entry : Nat × Message} (step : Step env before event after)
    (member : entry ∈ after.messages) : entry ∈ before.messages ∨
      ∃ claim txn message, event = .deliver claim true ∧ claim ∈ before.claims ∧
        deliver env (before.txn env) claim = some (txn, some message) ∧
        entry = (claim.id, message) ∧ Stores txn after := by
  unfold System.messages at member ⊢
  cases step with
  | delivered claim txn message unlocked listed addressed delivered =>
      rcases List.mem_append.mp member with new | old
      · cases message with
        | none => cases new
        | some message =>
            rw [Option.map_some, Option.toList_some, List.mem_singleton] at new
            exact .inr ⟨claim, txn, message, rfl, listed, delivered, new, stores_of_kv rfl⟩
      · exact .inl (List.mem_append_right _ old)
  | finished action rest pending =>
      left
      dsimp only at member
      split at member
      · simp only [List.mem_append, Option.toList_none, List.not_mem_nil, false_or] at member ⊢
        tauto
      · exact member
  | passed other listed =>
      left
      simp only [List.mem_append, List.mem_singleton] at member ⊢
      rcases member with held | old | old | rfl
      · exact .inl held
      · exact .inr (.inl (List.mem_of_mem_erase old))
      · exact .inr (.inr old)
      · exact .inr (.inl listed)
  | reopened =>
      left
      rcases List.mem_append.mp member with none_ | old
      · cases none_
      · rcases List.mem_append.mp old with none_ | sent
        · cases none_
        · exact List.mem_append_right _ (List.mem_append_right _ sent)
  | _ => exact .inl member

/-- Every message was handed on by a delivery of its job. -/
theorem History.handed (history : History env past system) :
    ∀ entry ∈ system.messages, ∃ delivery ∈ past, ∃ claim,
      delivery.label = .deliver claim true ∧ claim.id = entry.1 ∧
      system.Logged claim.id claim.queue claim.payload ∧ Hands delivery claim entry.2 := by
  apply Machine.History.induct (fun past system => ∀ entry ∈ system.messages, ∃ delivery ∈ past,
    ∃ claim, delivery.label = .deliver claim true ∧ claim.id = entry.1 ∧
      system.Logged claim.id claim.queue claim.payload ∧ Hands delivery claim entry.2) history
  · intro entry member
    cases member
  · intro past before event after earlier ih taken entry member
    have reached : Reachable env before := ⟨past, earlier⟩
    have keyed : (before.txn env).Keyed := Reachable.keyed reached
    rcases (step_cases taken).messages member with old | ⟨claim, txn, message, rfl, listed, delivered,
      rfl, stores⟩
    · obtain ⟨delivery, listed, claim, label, own, logged, hands⟩ := ih entry old
      exact ⟨delivery, List.mem_cons_of_mem _ listed, claim, label, own,
        logged.step reached taken, hands⟩
    · have logged := ((Reachable.traced reached).claims claim listed).step reached taken
      refine ⟨_, List.mem_cons_self, claim, rfl, rfl, logged, ?_⟩
      rcases deliver_conveys keyed delivered with ⟨id, task, payload, rfl, stored, pending⟩ | payload
      · refine ⟨payload, task, ?_, pending, rfl⟩
        rw [stores.task]
        exact stored
      · obtain ⟨record, rfl⟩ := Reachable.unblocks reached claim listed payload
        exact payload

/-- A logged message is the settled record of its promise, on the queue of a listener. -/
theorem History.unblocked {record : PromiseRecord} (history : History env past system)
    (logged : system.Logged number queue (.unblock (.unblock record))) :
    Genuine env past system queue (.unblock record) := by
  obtain ⟨job, member, own, payload⟩ := logged
  have sent : (queue, Payload.unblock (.unblock record)) ∈ system.unblocks record.id := by
    refine List.mem_filter.mpr ⟨List.mem_map.mpr ⟨(number, job), member, ?_⟩, ?_⟩
    · rw [own, payload]
    · simp [Payload.unblocks]
  obtain ⟨listening, told, heard⟩ := history.told record.id
  generalize messages : system.unblocks record.id = all at told sent
  generalize found : system.promise record.id = stored at told
  cases told with
  | absent => cases sent
  | pending promise pending distinct => cases sent
  | settled promise listening closed distinct =>
      obtain ⟨address, registered, same⟩ := List.mem_map.mp sent
      cases same
      exact ⟨promise, address, found, rfl, closed, rfl, (heard address).mp registered⟩

/-- Every message in hand or passed to the callbacks was handed on by a delivery of its own job, which
a commit enqueued, and says to the readers of the job's queue what is stored. -/
theorem messages_genuine {env : Env} {past : List (Machine.Entry System Event)} {system : System}
    (history : History env past system) {number : Nat} {message : Message}
    (present : (number, message) ∈ system.messages) :
    ∃ delivery ∈ past, ∃ claim, delivery.label = .deliver claim true ∧ claim.id = number ∧
      system.Logged number claim.queue claim.payload ∧ Hands delivery claim message ∧
      Genuine env past system claim.queue message := by
  obtain ⟨delivery, listed, claim, label, rfl, logged, hands⟩ := history.handed _ present
  refine ⟨delivery, listed, claim, label, rfl, logged, hands, ?_⟩
  cases message with
  | execute id version =>
      obtain ⟨payload, sent, stored, _, rfl⟩ := hands
      rw [payload] at logged
      obtain ⟨task, found, queue⟩ :=
        (Reachable.traced ⟨past, history⟩).dispatches _ _ id logged
      have raised := (history.versions id).1 delivery listed
      rw [stored, found, versionOf_some, versionOf_some] at raised
      exact ⟨task, found, raised, queue⟩
  | unblock record =>
      rw [show claim.payload = .unblock (.unblock record) from hands] at logged
      exact history.unblocked logged

end

/-- The dispatch of a task that was acquired since. -/
theorem messages_genuine_acquired :
    ∃ delivery ∈ acquiredTrace.1, ∃ claim, delivery.label = .deliver claim true ∧ claim.id = 0 ∧
      acquiredTrace.2.Logged 0 claim.queue claim.payload ∧
      Hands delivery claim (.execute "root" 0) ∧
      Genuine .sample acquiredTrace.1 acquiredTrace.2 claim.queue (.execute "root" 0) :=
  messages_genuine acquired_history (by decide)

end Resonate
