import Resonate.Coupling

set_option autoImplicit false

/-! Versions fence the holders of a task: only an acquisition changes a version, and a holder's
request has an effect only while its acquisition is the latest one. -/

namespace Resonate

open Kernel

/-- The acquisitions an event can be. -/
def Event.acquires (event : Event) (id : String) (version : Int) : Prop :=
  match event with
  | .request asked _ => ∃ pid ttl, asked.acquires id version pid ttl
  | _ => False

/-- What one step does to a task. -/
inductive TaskStep (event : Event) (id : String) : Option StoredTask → Option StoredTask → Prop
  | absent : TaskStep event id none none
  | kept (before after : StoredTask) (version : after.version = before.version)
      (acquired : after.state = .acquired → before.state = .acquired)
      (fulfilled : before.state = .fulfilled → after.state = .fulfilled) :
      TaskStep event id (some before) (some after)
  | granted (before after : StoredTask) (acquires : event.acquires id before.version)
      (unfulfilled : before.state ≠ .fulfilled) (version : after.version = before.version + 1)
      (held : after.state = .acquired ∨ after.state = .fulfilled) :
      TaskStep event id (some before) (some after)
  | created (after : StoredTask) (version : after.version = 0)
      (unheld : after.state ≠ .acquired) : TaskStep event id none (some after)
  | started (after : StoredTask) (acquires : event.acquires id 0) (version : after.version = 1)
      (held : after.state = .acquired ∨ after.state = .fulfilled) :
      TaskStep event id none (some after)

/-- A change that neither moves a task nor creates it. -/
structure StoredTask.Carried (before after : StoredTask) : Prop where
  version : after.version = before.version
  acquired : after.state = .acquired → before.state = .acquired
  held : before.state = .acquired → after.state = .acquired ∨ after.state = .fulfilled
  fulfilled : before.state = .fulfilled → after.state = .fulfilled

namespace StoredTask

theorem Carried.refl (task : StoredTask) : Carried task task :=
  ⟨rfl, fun state => state, .inl, fun state => state⟩

theorem fulfilled_carried (task : StoredTask) : Carried task task.fulfilled := by
  refine ⟨?_, ?_, ?_, ?_⟩
  · unfold fulfilled
    split <;> rfl
  · simp
  · simp
  · simp

theorem resumed_carried (awaited : String) (wake : Wake) (job : Nat) (task : StoredTask) :
    Carried task (task.resumed awaited wake job) := by
  cases state : task.state with
  | halted => cases wake <;> constructor <;> simp [resumed, state]
  | _ => constructor <;> simp [resumed, state, transition]

end StoredTask

namespace TaskStep

variable {event : Event} {id : String} {first : Option StoredTask}

/-- A task that is carried on after a step is where the step leaves it. -/
theorem carried {second third : StoredTask} (step : TaskStep event id first (some second))
    (carried : second.Carried third) : TaskStep event id first (some third) := by
  cases step with
  | kept before after version acquired fulfilled =>
      exact .kept before third (carried.version.trans version)
        (fun state => acquired (carried.acquired state))
        (fun state => carried.fulfilled (fulfilled state))
  | granted before after acquires unfulfilled version held =>
      refine .granted before third acquires unfulfilled (carried.version.trans version) ?_
      rcases held with state | state
      · exact carried.held state
      · exact .inr (carried.fulfilled state)
  | created after version unheld =>
      exact .created third (carried.version.trans version)
        fun state => unheld (carried.acquired state)
  | started after acquires version held =>
      refine .started third acquires (carried.version.trans version) ?_
      rcases held with state | state
      · exact carried.held state
      · exact .inr (carried.fulfilled state)

theorem map_carried {second : Option StoredTask} (step : TaskStep event id first second)
    (advance : StoredTask → StoredTask) (carries : ∀ task : StoredTask, task.Carried (advance task)) :
    TaskStep event id first (second.map advance) := by
  cases second with
  | none => exact step
  | some task => exact step.carried (carries task)

/-- No holder of an acquisition in this step moves the task on. -/
theorem unacquired {second : StoredTask} (step : TaskStep event id first (some second))
    (idle : ∀ version, ¬ event.acquires id version) :
    (∃ before, first = some before ∧ second.version = before.version ∧
      (second.state = .acquired → before.state = .acquired) ∧
      (before.state = .fulfilled → second.state = .fulfilled)) ∨
    first = none ∧ second.version = 0 ∧ second.state ≠ .acquired := by
  cases step with
  | kept before after version acquired fulfilled =>
      exact .inl ⟨before, rfl, version, acquired, fulfilled⟩
  | granted before after acquires unfulfilled version held => exact absurd acquires (idle _)
  | created after version unheld => exact .inr ⟨rfl, version, unheld⟩
  | started after acquires version held => exact absurd acquires (idle _)

/-- A move of a task that is no acquisition, in a step that acquires nothing. -/
theorem moved {second third : StoredTask} (step : TaskStep event id first (some second))
    (idle : ∀ version, ¬ event.acquires id version) (version : third.version = second.version)
    (acquired : third.state = .acquired → second.state = .acquired)
    (unfulfilled : second.state ≠ .fulfilled) : TaskStep event id first (some third) := by
  rcases step.unacquired idle with ⟨before, rfl, same, held, final⟩ | ⟨rfl, zero, unheld⟩
  · exact .kept before third (version.trans same) (fun state => held (acquired state))
      fun state => absurd (final state) unfulfilled
  · exact .created third (version.trans zero) fun state => unheld (acquired state)

end TaskStep

/-- An event that moves a task without acquiring it acquires nothing. -/
theorem Event.idle_of_permits {event : Event} {label : Label} {before after : StoredTask}
    (permitted : event.permits label) (move : TaskMove label before after)
    (other : after.state ≠ .acquired ∨ before.state = .acquired) (id : String) (version : Int) :
    ¬ event.acquires id version := by
  intro acquires
  cases event with
  | request asked stored =>
      obtain ⟨pid, ttl, acquires⟩ := acquires
      cases move with
      | acquire task pid ttl pending =>
          rcases other with unheld | held
          · exact unheld rfl
          · rw [pending] at held
            cases held
      | release task acquired =>
          cases (permitted : asked = _)
          exact acquires
      | lose task acquired => exact permitted
      | suspend task awaited acquired =>
          obtain ⟨data, rfl, _⟩ := permitted
          exact acquires
      | clear task acquired =>
          obtain ⟨data, rfl, _⟩ := permitted
          exact acquires
      | halt task unfulfilled unhalted =>
          cases (permitted : asked = _)
          exact acquires
      | proceed task job halted =>
          cases (permitted : asked = _)
          exact acquires
  | _ => exact acquires

theorem createdTask_started (promise : PromiseRecord) (target : String) (mode : CreateMode)
    (now : Int) (job : Nat) :
    (createdTask promise target mode now job).version = 0 ∧
        (createdTask promise target mode now job).state ≠ .acquired ∨
      (∃ pid ttl, mode = .acquire pid ttl) ∧
        (createdTask promise target mode now job).version = 1 ∧
        (createdTask promise target mode now job).state = .acquired := by
  unfold createdTask
  dsimp only
  split
  · exact .inl ⟨rfl, nofun⟩
  · cases mode with
    | dispatch => exact .inl ⟨rfl, nofun⟩
    | acquire pid ttl => exact .inr ⟨⟨pid, ttl, rfl⟩, rfl, rfl⟩

theorem fire_permits_task {label : Label} (claim : Claim) (stored : Bool)
    (plain : ∀ timer, ¬ firingPermits timer label) : ¬ Event.permits (.fire claim stored) label := by
  intro permitted
  cases payload : claim.payload with
  | timer timer =>
      rw [fire_permits claim stored timer payload] at permitted
      exact plain timer permitted
  | execute task =>
      simp only [Event.permits, payload] at permitted
  | unblock message =>
      simp only [Event.permits, payload] at permitted

/-- A creation with an acquired task is a request that acquires it. -/
theorem acquires_of_create {event : Event} {id pid : String} {ttl : Int}
    {data : PromiseCreateData} {createdAt : Option Int}
    (permitted : event.permits (.create data createdAt (.acquire pid ttl))) (own : data.id = id) :
    event.acquires id 0 := by
  cases event with
  | request asked stored =>
      obtain ⟨_, creation⟩ := permitted
      cases asked with
      | taskCreate create =>
          cases creation
          exact ⟨_, _, own, rfl, rfl⟩
      | taskFence fence corrId =>
          simp only [Request.creation] at creation
          split at creation
          · obtain ⟨create, _, same⟩ := Option.map_eq_some_iff.mp creation
            cases same
          · cases creation
      | _ => cases creation
  | fire claim stored =>
      refine absurd permitted (fire_permits_task claim stored ?_)
      rintro timer ⟨_, _, _, _, _, _, mode⟩
      cases mode
  | _ => exact False.elim permitted

/-- One change of a step takes its task on. -/
theorem Change.taskStep {env : Env} {now : Int} {id : String} {label : Label}
    {event : Event} {first : Option StoredTask} {before after : Cell}
    (change : Change env now id label before after) (permitted : event.permits label)
    (coupled : Coupled before) (step : TaskStep event id first before.task) :
    TaskStep event id first after.task := by
  cases change with
  | settled label promise final task settles own open_ timely =>
      exact step.map_carried _ StoredTask.fulfilled_carried
  | woken label promise final awaiter task job settles other listed open_ early =>
      exact step.map_carried _ (StoredTask.resumed_carried _ _ _)
  | spared label promise final cell settles other asleep => exact step
  | created data createdAt mode task job own =>
      have absent : task = none := by simpa using coupled.target
      subst absent
      cases step with
      | absent =>
          rw [Option.or_none]
          cases data.tags[tagTarget]? with
          | none => exact .absent
          | some target =>
              rcases createdTask_started (newPromise data createdAt now).record target mode now
                job with ⟨version, unheld⟩ | ⟨⟨pid, ttl, rfl⟩, version, held⟩
              · exact .created _ version unheld
              · exact .started _ (acquires_of_create permitted own) version (.inl held)
  | registered awaited awaiter task own open_ external valid unlisted => exact step
  | listened awaited address task own open_ external unlisted => exact step
  | resumed awaited awaiter task job open_ early =>
      exact step.map_carried _ (StoredTask.resumed_carried _ _ _)
  | moved label promise task later own move =>
      change TaskStep event id first (some task) at step
      change TaskStep event id first (some later)
      have idle := Event.idle_of_permits permitted move
      cases move with
      | acquire task pid ttl pending =>
          have acquires : event.acquires id task.version := by
            cases event with
            | request asked stored => exact ⟨pid, ttl, own ▸ permitted⟩
            | fire claim stored => exact absurd permitted (fire_permits_task claim stored nofun)
            | _ => exact permitted
          cases step with
          | kept before task version acquired fulfilled =>
              refine .granted before _ (version ▸ acquires) ?_ ?_ (.inl rfl)
              · intro final
                rw [fulfilled final] at pending
                cases pending
              · change task.version + 1 = _
                rw [version]
          | granted before task _ unfulfilled version held =>
              rcases held with state | state
              all_goals
                rw [state] at pending
                cases pending
          | created task version unheld =>
              refine .started _ (version ▸ acquires) ?_ (.inl rfl)
              change task.version + 1 = 1
              rw [version]
              rfl
          | started task _ version held =>
              rcases held with state | state
              all_goals
                rw [state] at pending
                cases pending
      | release task acquired =>
          exact step.moved (idle (.inl nofun) id) rfl nofun (by rw [acquired]; nofun)
      | lose task acquired =>
          exact step.moved (idle (.inl nofun) id) rfl nofun (by rw [acquired]; nofun)
      | suspend task awaited acquired =>
          exact step.moved (idle (.inl nofun) id) rfl nofun (by rw [acquired]; nofun)
      | clear task acquired =>
          exact step.moved (idle (.inr acquired) id) rfl (fun _ => acquired)
            (by rw [acquired]; nofun)
      | halt task unfulfilled unhalted =>
          exact step.moved (idle (.inl nofun) id) rfl nofun unfulfilled
      | proceed task job halted =>
          exact step.moved (idle (.inl nofun) id) rfl nofun (by rw [halted]; nofun)
  | same label cell unsettling apart => exact step

theorem TaskStep.refl (event : Event) (id : String) (task : Option StoredTask) :
    TaskStep event id task task := by
  cases task with
  | none => exact .absent
  | some task => exact .kept task task rfl (fun state => state) fun state => state

section

variable {env : Env} {system : System}

/-- What a step of the store does to every task. -/
theorem step_task {before after : System} {event : Event} (reached : Reachable env before)
    (taken : step env before event = some after) (id : String) :
    TaskStep event id (before.task id) (after.task id) := by
  have both : Coupled (after.cell id) ∧ TaskStep event id (before.task id) (after.cell id).task :=
    (step_cells reached taken id).preserves
      (fun cell => Coupled cell ∧ TaskStep event id (before.task id) cell.task)
      ⟨reached.coupled id, .refl event id _⟩
      fun label first second permitted change holds =>
        ⟨change.coupled holds.1, change.taskStep permitted holds.1 holds.2⟩
  exact both.2

end

/-! ## Holders' requests -/

theorem StoredTask.Carried.trans {first second third : StoredTask} (left : first.Carried second)
    (right : second.Carried third) : first.Carried third := by
  refine ⟨right.version.trans left.version, fun state => left.acquired (right.acquired state), ?_,
    fun state => right.fulfilled (left.fulfilled state)⟩
  intro state
  rcases left.held state with held | fulfilled
  · exact right.held held
  · exact .inr (right.fulfilled fulfilled)

/-- Deadlines carry every task on. -/
theorem tryTimeout_task (env : Env) (ids : List String) {txn : Txn} (keyed : txn.Keyed)
    (id : String) :
    ∃ advance : StoredTask → StoredTask, (∀ task : StoredTask, task.Carried (advance task)) ∧
      (tryTimeout env txn ids).getTask id = (txn.getTask id).map advance := by
  have trail : Trail env (fun label => ∃ promise, label = .expire promise) txn
      (tryTimeout env txn ids) := tryTimeout_trail ids keyed fun promise _ => ⟨promise, rfl⟩
  refine (trail.cells keyed id).respects (fun first second => ∃ advance : StoredTask → StoredTask,
    (∀ task : StoredTask, task.Carried (advance task)) ∧
      second.task = first.task.map advance) ?_ ?_ ?_
  · intro cell
    exact ⟨fun task => task, StoredTask.Carried.refl, Option.map_id'.symm⟩
  · rintro first second third ⟨left, leftCarries, leftSame⟩ ⟨right, rightCarries, rightSame⟩
    refine ⟨right ∘ left, fun task => (leftCarries task).trans (rightCarries _), ?_⟩
    rw [rightSame, leftSame, Option.map_map]
  · rintro label before after ⟨promise, rfl⟩ change
    cases change with
    | settled label promise final task settles own open_ timely =>
        exact ⟨_, StoredTask.fulfilled_carried, rfl⟩
    | woken label promise final awaiter task job settles other listed open_ early =>
        exact ⟨_, StoredTask.resumed_carried _ _ _, rfl⟩
    | spared label promise final cell settles other asleep =>
        exact ⟨fun task => task, StoredTask.Carried.refl, Option.map_id'.symm⟩
    | moved label promise task later own move => cases move
    | same label cell unsettling apart => cases unsettling

/-- A reply that grants what was asked. -/
def Reply.accepts (reply : Reply) : Prop := reply.status = 200 ∨ reply.status = 300

theorem err_refuses (status : Nat) (message : String) (failed : 400 ≤ status) :
    ¬ (Reply.err status message).accepts := by
  rintro (same | same)
  all_goals
    change status = _ at same
    omega

theorem validateCallback_refuses {awaited awaiter : String} {reply : Reply}
    (refused : validateCallback awaited awaiter = some reply) : ¬ reply.accepts := by
  unfold validateCallback at refused
  split at refused
  · cases refused
    exact err_refuses _ _ (by omega)
  · split at refused
    · cases refused
      exact err_refuses _ _ (by omega)
    · split at refused
      · cases refused
        exact err_refuses _ _ (by omega)
      · cases refused

theorem suspendIds_refuses (id : String) (actions : List (Action CallbackData))
    (checked : List String) (reply : Reply)
    (refused : suspendIds id checked actions = .error reply) : ¬ reply.accepts := by
  induction actions generalizing checked with
  | nil => cases refused
  | cons action rest ih =>
      unfold suspendIds at refused
      split at refused
      · cases refused
        exact err_refuses _ _ (by omega)
      · split at refused
        · cases refused
          exact err_refuses _ _ (by omega)
        · split at refused
          · rename_i invalid
            cases refused
            exact validateCallback_refuses invalid
          · split at refused
            · cases refused
              exact err_refuses _ _ (by omega)
            · exact ih _ refused

section

variable {env : Env} {txn : Txn}

/-- Whether a task is acquired at a version once the deadlines a request names are applied. -/
def HeldAt (env : Env) (txn : Txn) (request : Request) (named : TaskVersionData) : Prop :=
  ∃ task, (tryTimeout env txn request.named).getTask named.id = some task ∧
    task.isAcquiredAt named.version = true

/-- What is left of a holder's request whose version is not the task's. -/
def DeadlinesOnly (env : Env) (txn : Txn) (request : Request) (response : Response) : Prop :=
  response.txn = txn ∧ response.exit = .drop ∨
    response.txn = tryTimeout env txn request.named ∧ response.exit = .commit

/-- What a request of a task's holder comes to: it is held, or its reply is a refusal and it does
nothing but apply deadlines. -/
def HolderOutcome (env : Env) (txn : Txn) (request : Request) (named : TaskVersionData)
    (response : Response) : Prop :=
  HeldAt env txn request named ∨
    ¬ response.reply.accepts ∧ DeadlinesOnly env txn request response

theorem holder_refused {request : Request} {named : TaskVersionData} {reply : Reply}
    (refused : ¬ reply.accepts) : HolderOutcome env txn request named (refuse txn reply) :=
  .inr ⟨refused, .inl ⟨rfl, rfl⟩⟩

theorem holder_done {request : Request} {named : TaskVersionData} (status : Nat) (message : String)
    (failed : 400 ≤ status) :
    HolderOutcome env txn request named
      (done (tryTimeout env txn request.named) (.err status message)) :=
  .inr ⟨err_refuses status message failed, .inr ⟨rfl, rfl⟩⟩

theorem taskRelease_holder (data : TaskVersionData) :
    HolderOutcome env txn (.taskRelease data) data (taskRelease env txn data) := by
  unfold taskRelease
  dsimp only
  split
  · exact holder_done 404 _ (by omega)
  · rename_i task stored
    split
    · exact holder_done 409 _ (by omega)
    · rename_i acquired
      exact .inl ⟨task, stored, not_not.mp acquired⟩

theorem taskFulfill_holder (data : TaskFulfillData) :
    HolderOutcome env txn (.taskFulfill data) ⟨data.id, data.version⟩
      (taskFulfill env txn data) := by
  unfold taskFulfill
  dsimp only
  split
  · exact holder_refused (err_refuses _ _ (by omega))
  · split
    · exact holder_refused (err_refuses _ _ (by omega))
    · split
      · exact holder_done 404 _ (by omega)
      · rename_i task stored
        split
        · exact holder_done 409 _ (by omega)
        · rename_i acquired
          exact .inl ⟨task, stored, not_not.mp acquired⟩

theorem taskSuspend_holder (data : TaskSuspendData) :
    HolderOutcome env txn (.taskSuspend data) ⟨data.id, data.version⟩
      (taskSuspend env txn data) := by
  unfold taskSuspend
  split
  · exact holder_refused (err_refuses _ _ (by omega))
  · split
    · rename_i reply refused
      exact holder_refused (suspendIds_refuses _ _ _ _ refused)
    · rename_i awaitedIds accepted
      obtain ⟨listed, _, _⟩ := suspendIds_ok data.id data.actions [] awaitedIds accepted
      have names : data.id :: awaitedIds = (Request.taskSuspend data).named := by
        rw [listed]
        rfl
      dsimp only
      rw [names]
      split
      · exact holder_done 404 _ (by omega)
      · rename_i task stored
        by_cases acquired : task.isAcquiredAt data.version = true
        · exact .inl ⟨task, stored, acquired⟩
        · rw [if_neg acquired]
          exact holder_done 409 _ (by omega)

theorem taskFence_holder (data : TaskFenceData) (corrId : String) :
    HolderOutcome env txn (.taskFence data corrId) ⟨data.id, data.version⟩
      (taskFence env txn data corrId) := by
  unfold taskFence
  split
  · exact holder_refused (err_refuses _ _ (by omega))
  · rename_i actionId decoded
    split
    · exact holder_refused (err_refuses _ _ (by omega))
    · split
      · exact holder_refused (err_refuses _ _ (by omega))
      · have names : [data.id, actionId] = (Request.taskFence data corrId).named := by
          rw [Request.named, decoded]
          rfl
        dsimp only
        rw [names]
        split
        · exact holder_done 404 _ (by omega)
        · rename_i task stored
          split
          · exact holder_done 409 _ (by omega)
          · rename_i acquired
            exact .inl ⟨task, stored, not_not.mp acquired⟩

theorem handle_holder (request : Request) (named : TaskVersionData)
    (holder : request.holder = some named) :
    HolderOutcome env txn request named (handle env txn request) := by
  cases request with
  | taskRelease data =>
      cases holder
      exact taskRelease_holder _
  | taskFulfill data =>
      cases holder
      exact taskFulfill_holder data
  | taskSuspend data =>
      cases holder
      exact taskSuspend_holder data
  | taskFence data corrId =>
      cases holder
      exact taskFence_holder data corrId
  | _ => cases holder

/-- A task held once the deadlines are applied was held before. -/
theorem HeldAt.before {request : Request} {named : TaskVersionData} (keyed : txn.Keyed)
    (held : HeldAt env txn request named) :
    ∃ task, txn.getTask named.id = some task ∧ task.state = .acquired ∧
      task.version = named.version := by
  obtain ⟨task, stored, acquired⟩ := held
  obtain ⟨acquired, version⟩ := acquired_of_isAcquiredAt acquired
  obtain ⟨advance, carries, same⟩ := tryTimeout_task env request.named keyed named.id
  rw [same] at stored
  obtain ⟨old, found, rfl⟩ := Option.map_eq_some_iff.mp stored
  exact ⟨old, found, (carries old).acquired acquired, (carries old).version.symm.trans version⟩

/-- An acquisition at another version than the task's does nothing but apply deadlines. -/
theorem taskAcquire_stale (keyed : txn.Keyed) (data : TaskAcquireData) (task : StoredTask)
    (stored : txn.getTask data.id = some task) (stale : data.version ≠ task.version) :
    DeadlinesOnly env txn (.taskAcquire data) (taskAcquire env txn data) := by
  obtain ⟨advance, carries, same⟩ := tryTimeout_task env [data.id] keyed data.id
  rw [stored] at same
  have version : (advance task).version ≠ data.version := by
    rw [(carries task).version]
    exact Ne.symm stale
  unfold taskAcquire
  dsimp only
  rw [same]
  dsimp only [Option.map_some]
  split
  · exact .inr ⟨rfl, rfl⟩
  · exact .inr ⟨rfl, rfl⟩

/-- Heartbeats change no task. -/
theorem getTask_heartbeatOne (pid : String) (entry : TaskVersionData) :
    (heartbeatOne pid txn entry).getTask = txn.getTask := by
  unfold heartbeatOne
  split
  · rfl
  · split
    · exact (Txn.renew_touches _ _ _).getTask
    · rfl

/-- Entries of a heartbeat at an earlier version than the task's are as good as absent. -/
theorem taskHeartbeat_stale (txn : Txn) (data : TaskHeartbeatData) :
    taskHeartbeat txn data =
      taskHeartbeat txn { data with
        tasks := data.tasks.filter fun entry =>
          (txn.getTask entry.id).all fun task => task.version ≤ entry.version } := by
  unfold taskHeartbeat
  congr 1
  dsimp only
  generalize same : txn.getTask = tasks
  generalize data.tasks = entries
  induction entries generalizing txn with
  | nil => rfl
  | cons entry rest ih =>
      have later := ih _ ((getTask_heartbeatOne data.pid entry).trans same)
      rw [List.foldl_cons, later, List.filter_cons]
      split
      · rfl
      · rename_i stale
        congr 1
        unfold heartbeatOne
        rw [same]
        cases stored : tasks entry.id with
        | none => rfl
        | some task =>
            rw [stored] at stale
            have below : entry.version < task.version := by simpa using stale
            have other : task.isAcquiredAt entry.version = false := by
              unfold StoredTask.isAcquiredAt
              rw [show (task.version == entry.version) = false by
                simp only [beq_eq_false_iff_ne]
                omega, Bool.and_false]
            simp only [other, Bool.false_and]

/-- What a step leaves that applies deadlines and nothing else. -/
def AppliesDeadlines (env : Env) (system : System) (request : Request) (after : System) : Prop :=
  ∃ txn, (txn = system.txn env ∨ txn = tryTimeout env (system.txn env) request.named) ∧
    (after = system.absorb txn.commit ∨ after = system.absorb txn.discard)

theorem step_deadlines {system after : System} {request : Request} {stored : Bool}
    (only : DeadlinesOnly env (system.txn env) request (handle env (system.txn env) request))
    (taken : step env system (.request request stored) = some after) :
    AppliesDeadlines env system request after := by
  cases step_cases taken with
  | dropped request stored unlocked exit =>
      refine ⟨_, ?_, .inr rfl⟩
      rcases only with ⟨same, _⟩ | ⟨same, _⟩
      · exact .inl same
      · exact .inr same
  | committed request unlocked exit =>
      refine ⟨_, ?_, .inl rfl⟩
      rcases only with ⟨same, _⟩ | ⟨same, _⟩
      · exact .inl same
      · exact .inr same
  | acked request taskId commit unlocked exit committed =>
      rcases only with ⟨_, other⟩ | ⟨_, other⟩
      all_goals
        rw [exit] at other
        cases other
  | lost request taskId commit unlocked exit committed =>
      rcases only with ⟨_, other⟩ | ⟨_, other⟩
      all_goals
        rw [exit] at other
        cases other

/-- A reply that grants what was asked is the handler's own. -/
theorem answer_accepts {system : System} {request : Request} {stored : Bool}
    (accepted : (answer env system request stored).accepts) :
    (handle env (system.txn env) request).reply.accepts := by
  unfold answer conclude at accepted
  split at accepted
  · exact accepted
  · exact accepted
  · exact absurd accepted (err_refuses 500 _ (by omega))
  · exact accepted
  · split at accepted
    · exact accepted
    · exact absurd accepted (err_refuses 409 _ (by omega))

end

end Resonate
