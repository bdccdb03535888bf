import Resonate.Fencing
import Resonate.Refusals

set_option autoImplicit false

/-! Grants of a task's versions: what a successful acquisition replies and leaves, and what is left of
the requests that no grant covers. -/

namespace Resonate

open Kernel

/-! ## Acquisitions -/

/-- The version of a task, zero where there is none. -/
def versionOf (task : Option StoredTask) : Int := (task.map (·.version)).getD 0

@[simp] theorem versionOf_none : versionOf none = 0 := rfl

@[simp] theorem versionOf_some (task : StoredTask) : versionOf (some task) = task.version := rfl

/-- The reply shows a task that is acquired. -/
def Reply.ShowsAcquired (reply : Reply) : Prop :=
  ∃ record promise siblings, reply = .ok 200 (.taskView record promise siblings) ∧
    record.state = .acquired

theorem err_shows (status : Nat) (message : String) :
    ¬ (Reply.err status message).ShowsAcquired := by
  rintro ⟨_, _, _, same, _⟩
  cases same

/-- What a request for the acquisition of a task comes to: the task's version is kept and the reply
shows no acquired task, or the request names the task's version, the task is acquired at the next one and
the reply shows it. -/
inductive Acquisition (txn : Txn) (request : Request) (id pid : String) (ttl : Int) : Response → Prop
  | kept (response : Response) (plain : ∀ task, response.exit ≠ .commitAck task)
      (version : response.exit = .commit →
        versionOf (response.txn.getTask id) = versionOf (txn.getTask id))
      (unheld : ¬ response.reply.ShowsAcquired) : Acquisition txn request id pid ttl response
  | granted (response : Response) (task : StoredTask) (promise : PromiseRecord)
      (siblings : List PromiseRecord) (exit : response.exit = .commit)
      (asked : request.acquires id (versionOf (txn.getTask id)) pid ttl)
      (replied : response.reply = .ok 200 (.taskView task.record promise siblings))
      (stored : response.txn.getTask id = some task) (own : task.id = id)
      (version : task.version = versionOf (txn.getTask id) + 1) (held : task.state = .acquired)
      (process : task.pid = some pid) (lease : task.ttl = some ttl) :
      Acquisition txn request id pid ttl response

namespace Kernel

variable {env : Env} {txn next : Txn} {request : Request} {id pid : String} {ttl : Int}

theorem versionOf_tryTimeout (env : Env) (ids : List String) (keyed : txn.Keyed) (id : String) :
    versionOf ((tryTimeout env txn ids).getTask id) = versionOf (txn.getTask id) := by
  obtain ⟨advance, carries, same⟩ := tryTimeout_task env ids keyed id
  rw [same]
  cases txn.getTask id with
  | none => rfl
  | some task => exact (carries task).version

theorem refuse_acquisition (status : Nat) (message : String) :
    Acquisition txn request id pid ttl (refuse next (.err status message)) :=
  .kept _ nofun nofun (err_shows status message)

theorem expectFailed_acquisition (message : String) :
    Acquisition txn request id pid ttl (expectFailed next message) :=
  .kept _ nofun nofun (err_shows 500 message)

theorem done_acquisition (status : Nat) (message : String)
    (version : versionOf (next.getTask id) = versionOf (txn.getTask id)) :
    Acquisition txn request id pid ttl (done next (.err status message)) :=
  .kept _ nofun (fun _ => version) (err_shows status message)

/-- The view of a task is shown, unless its promise is missing. -/
theorem doneView_cases (txn : Txn) (task : StoredTask) :
    (∃ message, doneView txn task = expectFailed txn message) ∨
      ∃ promise siblings, doneView txn task = done txn (ok (.taskView task.record promise siblings)) := by
  unfold doneView taskView
  cases txn.getPromise task.id with
  | none => exact .inl ⟨_, rfl⟩
  | some promise => exact .inr ⟨_, _, rfl⟩

/-- The view of a task that is not acquired. -/
theorem doneView_kept {task : StoredTask} (unheld : task.state ≠ .acquired)
    (version : versionOf (next.getTask id) = versionOf (txn.getTask id)) :
    Acquisition txn request id pid ttl (doneView next task) := by
  rcases doneView_cases next task with ⟨message, same⟩ | ⟨promise, siblings, same⟩
  · rw [same]
    exact expectFailed_acquisition message
  · rw [same]
    refine .kept _ nofun (fun _ => version) ?_
    rintro ⟨record, _, _, replied, state⟩
    cases replied
    exact unheld state

/-- The view of a task that was just acquired. -/
theorem doneView_granted {task : StoredTask} (stored : next.getTask id = some task)
    (own : task.id = id) (asked : request.acquires id (versionOf (txn.getTask id)) pid ttl)
    (version : task.version = versionOf (txn.getTask id) + 1) (held : task.state = .acquired)
    (process : task.pid = some pid) (lease : task.ttl = some ttl) :
    Acquisition txn request id pid ttl (doneView next task) := by
  rcases doneView_cases next task with ⟨message, same⟩ | ⟨promise, siblings, same⟩
  · rw [same]
    exact expectFailed_acquisition message
  · rw [same]
    exact .granted _ task promise siblings rfl asked rfl stored own version held process lease

theorem acquire_acquisition {task : StoredTask} (message : String) (own : task.id = id)
    (stored : next.getTask id = some task) (version : task.version = versionOf (txn.getTask id))
    (asked : request.acquires id task.version pid ttl) :
    Acquisition txn request id pid ttl (match acquire next task pid ttl with
      | (txn, none) => done txn (.err 409 message)
      | (txn, some task) => doneView txn task) := by
  have touches := Txn.renew_touches next task.id (leaseOf ttl)
  unfold acquire
  cases renewing : next.renew task.id (leaseOf ttl) with
  | mk renewed result =>
      rw [renewing] at touches
      cases result with
      | false =>
          refine done_acquisition 409 message ?_
          rw [touches.getTask, stored]
          exact version
      | true =>
          refine doneView_granted ?_ own (version ▸ asked) (congrArg (· + 1) version) rfl rfl rfl
          rw [Txn.getTask_putTask]
          exact if_pos own

theorem taskAcquire_acquisition (keyed : txn.Keyed) (data : TaskAcquireData) :
    Acquisition txn (.taskAcquire data) data.id data.pid data.ttl (taskAcquire env txn data) := by
  have timed := tryTimeout_keyed env [data.id] keyed
  have versions := versionOf_tryTimeout env [data.id] keyed data.id
  unfold taskAcquire
  dsimp only
  split
  · exact done_acquisition 404 _ versions
  · rename_i task stored
    split
    · exact done_acquisition 409 _ versions
    · split
      · exact done_acquisition 409 _ versions
      · rename_i named
        refine acquire_acquisition _ (timed.task _ _ stored) stored ?_ ?_
        · rw [← versions, stored]
          rfl
        · rw [not_not.mp named]
          exact rfl

/-- A task created to be acquired is fulfilled where its deadline has passed. -/
theorem createdTask_cases (promise : PromiseRecord) (target pid : String) (ttl now : Int) (job : Nat) :
    (createdTask promise target (.acquire pid ttl) now job).state = .fulfilled ∧
        (createdTask promise target (.acquire pid ttl) now job).version = 0 ∨
      (createdTask promise target (.acquire pid ttl) now job).state = .acquired ∧
        (createdTask promise target (.acquire pid ttl) now job).version = 1 ∧
        (createdTask promise target (.acquire pid ttl) now job).pid = some pid ∧
        (createdTask promise target (.acquire pid ttl) now job).ttl = some ttl := by
  unfold createdTask
  dsimp only
  split
  · exact .inl ⟨rfl, rfl⟩
  · exact .inr ⟨rfl, rfl, rfl, rfl⟩

theorem taskCreateExisting_acquisition (data : TaskCreateData) {task : StoredTask}
    (own : task.id = data.action.data.id) (stored : next.getTask data.action.data.id = some task)
    (version : task.version = versionOf (txn.getTask data.action.data.id)) :
    Acquisition txn (.taskCreate data) data.action.data.id data.pid data.ttl
      (taskCreateExisting next data task) := by
  have versions : versionOf (next.getTask data.action.data.id) =
      versionOf (txn.getTask data.action.data.id) := by
    rw [stored]
    exact version
  cases state : task.state with
  | pending =>
      have touches := claimed_touches next task (leaseOf data.ttl)
      rw [taskCreateExisting_pending data task state]
      split
      · refine done_acquisition 409 _ ?_
        rw [touches.getTask]
        exact versions
      · refine acquire_acquisition _ own ?_ version ⟨rfl, rfl, rfl⟩
        rw [touches.getTask]
        exact stored
  | fulfilled =>
      unfold taskCreateExisting
      rw [state]
      exact doneView_kept (by simp [state]) versions
  | acquired | suspended | halted =>
      unfold taskCreateExisting
      rw [state]
      exact done_acquisition 409 _ versions

/-- A creation starts its task fulfilled, or acquired at version 1. -/
theorem createPromise_acquisition {base : Txn} (data : PromiseCreateData) (pid : String) (ttl : Int)
    (targeted : ¬ data.tags[tagTarget]?.isNone = true) (zero : versionOf (txn.getTask data.id) = 0)
    (asked : request.acquires data.id (versionOf (txn.getTask data.id)) pid ttl) :
    ∃ task, (createPromise env base data none (.acquire pid ttl)).1.getTask
        (createPromise env base data none (.acquire pid ttl)).2.record.id = some task ∧
      Acquisition txn request data.id pid ttl
        (doneView (createPromise env base data none (.acquire pid ttl)).1 task) := by
  have named : (createPromise env base data none (.acquire pid ttl)).2.record.id = data.id := by
    rw [createPromise_promise]
    exact newPromise_id data none base.now
  have stored := getTask_createPromise env base data none (.acquire pid ttl) data.id
  rw [if_pos rfl, taskOf] at stored
  cases tagged : data.tags[tagTarget]? with
  | none =>
      rw [tagged] at targeted
      exact absurd rfl targeted
  | some target =>
      rw [tagged, Option.map_some, Option.some_or] at stored
      rw [named, stored]
      refine ⟨_, rfl, ?_⟩
      rcases createdTask_cases (newPromise data none base.now).record target pid ttl base.now
        base.queue.nextJob with ⟨state, version⟩ | ⟨state, version, process, lease⟩
      · refine doneView_kept (by rw [state]; decide) ?_
        rw [stored, zero]
        exact version
      · refine doneView_granted stored ?_ asked ?_ state process lease
        · rw [createdTask_id, newPromise_id]
        · rw [zero]
          exact version

theorem taskCreate_acquisition (keyed : txn.Keyed) (data : TaskCreateData) :
    Acquisition txn (.taskCreate data) data.action.data.id data.pid data.ttl
      (taskCreate env txn data) := by
  have timed := tryTimeout_keyed env [data.action.data.id] keyed
  have versions := versionOf_tryTimeout env [data.action.data.id] keyed data.action.data.id
  unfold taskCreate
  dsimp only
  split
  · exact refuse_acquisition 400 _
  · split
    · exact refuse_acquisition 400 _
    · split
      · exact refuse_acquisition 400 _
      · split
        · rename_i refused
          obtain ⟨message, rfl⟩ := validateCreate_refusal refused
          exact refuse_acquisition 400 message
        · split
          · exact refuse_acquisition 400 _
          · rename_i targeted
            split
            · exact refuse_acquisition 400 _
            · split
              · rename_i task stored
                refine taskCreateExisting_acquisition data (timed.task _ _ stored) stored ?_
                rw [← versions, stored]
                rfl
              · rename_i absent
                split
                · exact done_acquisition 422 _ versions
                · have zero : versionOf (txn.getTask data.action.data.id) = 0 := by
                    rw [← versions, absent]
                    rfl
                  have asked : (Request.taskCreate data).acquires data.action.data.id
                      (versionOf (txn.getTask data.action.data.id)) data.pid data.ttl :=
                    ⟨rfl, rfl, rfl⟩
                  obtain ⟨task, stored, acquisition⟩ :=
                    createPromise_acquisition data.action.data data.pid data.ttl targeted zero asked
                  rw [stored]
                  exact acquisition

theorem handle_acquisition {version : Int} (keyed : txn.Keyed)
    (acquires : request.acquires id version pid ttl) :
    Acquisition txn request id pid ttl (handle env txn request) := by
  cases request with
  | taskCreate data =>
      obtain ⟨rfl, rfl, rfl⟩ := acquires
      exact taskCreate_acquisition keyed data
  | taskAcquire data =>
      have named : data = ⟨id, version, pid, ttl⟩ := acquires
      subst named
      exact taskAcquire_acquisition keyed _
  | _ => exact absurd acquires not_false

end Kernel

/-! ## Grants over a history -/

/-- The step grants a version of a task: a request for its acquisition from the version before is
answered with the task, acquired at the version by the process and for the time that were asked. -/
def Grants (env : Env) (entry : Machine.Entry System Event) (id : String) (version : Int) : Prop :=
  ∃ asked stored pid ttl record promise siblings, entry.label = .request asked stored ∧
    asked.acquires id (version - 1) pid ttl ∧
    answer env entry.before asked stored = .ok 200 (.taskView record promise siblings) ∧
    record.id = id ∧ record.version = version ∧ record.state = .acquired ∧
    record.pid = some pid ∧ record.ttl = some ttl

section

variable {env : Env} {before after : System} {event : Event}

/-- The versions of a task across a step: kept without a grant, or raised by one with a grant of the
new version and of no other. -/
inductive Raise (env : Env) (entry : Machine.Entry System Event) (id : String) : Prop
  | kept (version : versionOf (entry.after.task id) = versionOf (entry.before.task id))
      (ungranted : ∀ version, ¬ Grants env entry id version)
  | granted (task : StoredTask) (stored : entry.after.task id = some task)
      (held : task.state = .acquired)
      (version : task.version = versionOf (entry.before.task id) + 1)
      (grants : Grants env entry id task.version)
      (only : ∀ version, Grants env entry id version → version = task.version)

theorem Grants.shows {id : String} {version : Int} {asked : Request} {stored : Bool}
    (grants : Grants env ⟨before, .request asked stored, after⟩ id version) :
    (answer env before asked stored).ShowsAcquired := by
  obtain ⟨_, _, _, _, record, promise, siblings, same, _, replied, _, _, held, _⟩ := grants
  cases same
  exact ⟨record, promise, siblings, replied, held⟩

theorem Raise.refused {id : String} {asked : Request} {stored : Bool}
    (same : after.kv = before.kv) (unheld : ¬ (answer env before asked stored).ShowsAcquired) :
    Raise env ⟨before, .request asked stored, after⟩ id := by
  refine .kept ?_ fun version grants => unheld grants.shows
  unfold System.task
  rw [same]

/-- A step that takes a request for an acquisition raises the task's version with a grant, or keeps it. -/
theorem request_raise {asked : Request} {stored : Bool} {id pid : String} {version ttl : Int}
    (reached : Reachable env before) (acquires : asked.acquires id version pid ttl)
    (taken : step env before (.request asked stored) = some after) :
    Raise env ⟨before, .request asked stored, after⟩ id := by
  have keyed := Reachable.keyed reached
  have acquisition : Acquisition (before.txn env) asked id pid ttl
      (handle env (before.txn env) asked) := handle_acquisition keyed acquires
  have trail := (handle_outcome env keyed asked).trail keyed
  have concluded : answer env before asked stored =
    (conclude (handle env (before.txn env) asked) stored).2 := rfl
  cases step_cases taken with
  | dropped _ _ unlocked exit =>
      refine .refused trail.fixed.kv ?_
      rw [concluded]
      cases acquisition with
      | kept plain version unheld =>
          unfold conclude
          split
          · exact unheld
          · exact unheld
          · exact err_shows _ _
          · exact unheld
          · rename_i task named
            exact absurd named (plain task)
      | granted task promise siblings done asked replied found own version held process lease =>
          rcases exit with rfl | dropped | failed
          · unfold conclude
            rw [done]
            exact err_shows _ _
          · rw [done] at dropped
            cases dropped
          · rw [done] at failed
            cases failed
  | committed _ unlocked exit =>
      have stores : Stores (handle env (before.txn env) asked).txn (before.absorb
          (handle env (before.txn env) asked).txn.commit) := stores_of_kv rfl
      have replied : answer env before asked true = (handle env (before.txn env) asked).reply := by
        rw [concluded]
        unfold conclude
        rw [exit]
      have tasks : (before.txn env).getTask = before.task := before.getTask_txn env
      cases acquisition with
      | kept plain version unheld =>
          refine .kept ?_ fun version grants => unheld (replied ▸ grants.shows)
          change versionOf (System.task _ id) = versionOf (before.task id)
          rw [stores.task, version exit, tasks]
      | granted task promise siblings done asked shown found own version held process lease =>
          rw [tasks] at version asked
          refine .granted task ?_ held version ?_ ?_
          · rw [stores.task]
            exact found
          · refine ⟨_, true, pid, ttl, task.record, promise, siblings, rfl, ?_,
              replied.trans shown, own, rfl, held, process, lease⟩
            rw [version, Int.add_sub_cancel]
            exact asked
          · rintro other ⟨_, _, _, _, record, _, _, same, _, given, _, rfl, _⟩
            cases same
            have both := (replied.trans shown).symm.trans given
            cases both
            rfl
  | acked _ taskId commit unlocked exit committed =>
      cases acquisition with
      | kept plain version unheld => exact absurd exit (plain taskId)
      | granted task promise siblings done =>
          rw [done] at exit
          cases exit
  | lost _ taskId commit unlocked exit committed =>
      cases acquisition with
      | kept plain version unheld => exact absurd exit (plain taskId)
      | granted task promise siblings done =>
          rw [done] at exit
          cases exit

/-- Every step keeps a task's version without a grant of it, or raises it by one with its grant. -/
theorem step_raise (reached : Reachable env before) (taken : step env before event = some after)
    (id : String) : Raise env ⟨before, event, after⟩ id := by
  by_cases acquires : ∃ version, event.acquires id version
  · obtain ⟨version, acquires⟩ := acquires
    cases event with
    | request asked stored =>
        obtain ⟨pid, ttl, acquires⟩ := acquires
        exact request_raise reached acquires taken
    | _ => exact absurd acquires not_false
  · refine .kept ?_ ?_
    · have step := step_task reached taken id
      change versionOf (after.task id) = versionOf (before.task id)
      generalize before.task id = first at step ⊢
      generalize after.task id = second at step ⊢
      cases step with
      | absent => rfl
      | kept old new version acquired fulfilled => exact version
      | granted old new asked unfulfilled version held => exact absurd ⟨_, asked⟩ acquires
      | created new version unheld => exact version
      | started new asked version held => exact absurd ⟨_, asked⟩ acquires
    · rintro version ⟨asked, stored, pid, ttl, _, _, _, same, asks, _⟩
      cases same
      exact acquires ⟨_, pid, ttl, asks⟩

theorem Raise.le {entry : Machine.Entry System Event} {id : String} (raise : Raise env entry id) :
    versionOf (entry.before.task id) ≤ versionOf (entry.after.task id) := by
  cases raise with
  | kept version ungranted => exact le_of_eq version.symm
  | granted task stored held version grants only =>
      rw [stored]
      change _ ≤ task.version
      omega

theorem Grants.raises {entry : Machine.Entry System Event} {id : String} {version : Int}
    (grants : Grants env entry id version) (raise : Raise env entry id) :
    versionOf (entry.before.task id) = version - 1 ∧ ∃ task, entry.after.task id = some task ∧
      task.version = version ∧ task.state = .acquired := by
  cases raise with
  | kept same ungranted => exact absurd grants (ungranted version)
  | granted task stored held raised _ only =>
      rw [only version grants]
      exact ⟨by omega, task, stored, rfl, held⟩

end

section

variable {env : Env} {system : System}

/-- Versions only grow over a history, and no two steps of it grant the same one. -/
theorem History.versions {past : List (Machine.Entry System Event)}
    (history : History env past system) (id : String) :
    (∀ entry ∈ past, versionOf (entry.after.task id) ≤ versionOf (system.task id)) ∧
      ∀ version, past.Pairwise fun later earlier =>
        ¬ (Grants env later id version ∧ Grants env earlier id version) := by
  refine Machine.History.induct (fun past system =>
    (∀ entry ∈ past, versionOf (entry.after.task id) ≤ versionOf (system.task id)) ∧
      ∀ version, past.Pairwise fun later earlier =>
        ¬ (Grants env later id version ∧ Grants env earlier id version)) history
    ⟨List.forall_mem_nil _, fun _ => .nil⟩ ?_
  intro past before event after earlier ih taken
  obtain ⟨raised, apart⟩ := ih
  have raise := step_raise ⟨_, earlier⟩ taken id
  refine ⟨?_, fun version => List.Pairwise.cons ?_ (apart version)⟩
  · intro entry member
    rcases List.mem_cons.mp member with rfl | member
    · exact Int.le_refl _
    · exact (raised entry member).trans raise.le
  · rintro entry member ⟨later, granted⟩
    -- the version an earlier step granted was reached before this step raises it to its own
    obtain ⟨below, _⟩ := later.raises raise
    have entryRaise := step_raise (earlier.before_reachable entry member)
      (earlier.taken entry member) id
    obtain ⟨_, task, stored, rfl, _⟩ := granted.raises entryRaise
    have reached := raised entry member
    rw [stored, versionOf_some] at reached
    change versionOf (before.task id) = _ at below
    omega

/-- A task that is acquired was granted its version by a step after which it stayed
acquired. -/
theorem History.granted {past : List (Machine.Entry System Event)}
    (history : History env past system) (id : String) (task : StoredTask)
    (stored : system.task id = some task) (acquired : task.state = .acquired) :
    ∃ newer entry older, past = newer ++ entry :: older ∧ Grants env entry id task.version ∧
      ∀ later ∈ newer, ∃ held, later.after.task id = some held ∧ held.state = .acquired ∧
        held.version = task.version := by
  refine Machine.History.induct (fun past system => ∀ task, system.task id = some task →
    task.state = .acquired → ∃ newer entry older, past = newer ++ entry :: older ∧
      Grants env entry id task.version ∧
      ∀ later ∈ newer, ∃ held, later.after.task id = some held ∧ held.state = .acquired ∧
        held.version = task.version) history ?_ ?_ task stored acquired
  · intro task stored
    cases stored
  · intro past before event after earlier ih taken task stored acquired
    have raise := step_raise ⟨_, earlier⟩ taken id
    cases raise with
    | granted new found held version grants only =>
        cases stored.symm.trans found
        exact ⟨[], _, past, rfl, grants, List.forall_mem_nil _⟩
    | kept same ungranted =>
        have step := step_task ⟨_, earlier⟩ taken id
        change versionOf (after.task id) = versionOf (before.task id) at same
        rw [stored] at step same
        generalize origin : before.task id = first at step same
        cases step with
        | kept old task version held final =>
            obtain ⟨newer, entry, older, rfl, granted, since⟩ := ih old origin (held acquired)
            rw [← version] at granted since
            refine ⟨⟨before, event, after⟩ :: newer, entry, older, rfl, granted, ?_⟩
            intro later member
            rcases List.mem_cons.mp member with rfl | member
            · exact ⟨task, stored, acquired, rfl⟩
            · exact since later member
        | granted old task acquires unfulfilled version held =>
            change task.version = old.version at same
            omega
        | created task version unheld => exact absurd acquired unheld
        | started task acquires version held =>
            change task.version = 0 at same
            omega

end

/-! ## Refused requests of holders -/

/-- What a holder's request leaves: buffered writes to be dropped, its deadlines with at most an ended
claim of the task dropped, or an accepted request's writes. -/
inductive HolderLeaves (env : Env) (txn : Txn) (request : Request) (id : String) : Response → Prop
  | kept (response : Response) (exit : response.exit = .drop ∨ response.exit = .panic)
      (buffers : Txn.Buffers txn response.txn) : HolderLeaves env txn request id response
  | timed (response : Response) (exit : response.exit = .commit)
      (checked : (tryTimeout env txn request.named).Checked response.txn id) :
      HolderLeaves env txn request id response
  | effective (response : Response) (accepted : response.reply.accepts)
      (exit : response.exit = .commit ∨ response.exit = .commitAck id)
      (buffers : Txn.Buffers txn response.txn) : HolderLeaves env txn request id response

namespace Kernel

variable {env : Env} {txn : Txn} {request : Request} {id : String}

theorem refuse_leaves (reply : Reply) : HolderLeaves env txn request id (refuse txn reply) :=
  .kept _ (.inl rfl) (.refl txn)

theorem done_leaves (reply : Reply) :
    HolderLeaves env txn request id (done (tryTimeout env txn request.named) reply) :=
  .timed _ rfl (.refl _ id)

theorem taskRelease_leaves (data : TaskVersionData) :
    HolderLeaves env txn (.taskRelease data) data.id (taskRelease env txn data) := by
  have buffers := tryTimeout_buffers env [data.id] txn
  unfold taskRelease
  dsimp only
  split
  · exact done_leaves _
  · split
    · exact done_leaves _
    · exact .effective _ (.inl rfl) (.inl rfl)
        ((buffers.trans (Txn.putTask_buffers _ _)).trans (Txn.follow_buffers _ _))

theorem taskFulfill_leaves (keyed : txn.Keyed) (data : TaskFulfillData) :
    HolderLeaves env txn (.taskFulfill data) data.id (taskFulfill env txn data) := by
  have timed := tryTimeout_keyed env [data.id] keyed
  have buffers := tryTimeout_buffers env [data.id] txn
  unfold taskFulfill
  dsimp only
  split
  · exact refuse_leaves _
  · split
    · exact refuse_leaves _
    · split
      · exact done_leaves _
      · rename_i task stored
        have own : task.id = data.id := timed.task _ _ stored
        rw [own]
        split
        · exact done_leaves _
        · split
          · exact done_leaves _
          · split
            · rename_i next lost
              exact .timed _ rfl (Txn.holds_checked lost)
            · rename_i next held
              obtain ⟨rfl, _⟩ := Txn.holds_true held
              split
              · exact .effective _ (.inl rfl) (.inr rfl)
                  (buffers.trans (settleChain_buffers _ _ _))
              · exact .effective _ (.inl rfl) (.inr rfl) buffers

theorem taskSuspend_leaves (keyed : txn.Keyed) (data : TaskSuspendData) :
    HolderLeaves env txn (.taskSuspend data) data.id (taskSuspend env txn data) := by
  unfold taskSuspend
  split
  · exact refuse_leaves _
  · split
    · exact refuse_leaves _
    · rename_i awaitedIds accepted
      obtain ⟨listed, _, _⟩ := suspendIds_ok data.id data.actions [] awaitedIds accepted
      have names : data.id :: awaitedIds = (Request.taskSuspend data).named := by
        rw [listed]
        rfl
      have timed := tryTimeout_keyed env (Request.taskSuspend data).named keyed
      have buffers := tryTimeout_buffers env (Request.taskSuspend data).named txn
      dsimp only
      rw [names]
      split
      · exact done_leaves _
      · rename_i task stored
        have own : task.id = data.id := timed.task _ _ stored
        rw [own]
        by_cases acquired : task.isAcquiredAt data.version = true
        · rw [if_pos acquired]
          cases held : (tryTimeout env txn (Request.taskSuspend data).named).holds data.id with
          | mk next result =>
              cases result with
              | false =>
                  dsimp only
                  rw [if_pos (by simp)]
                  exact .timed _ rfl (Txn.holds_checked held)
              | true =>
                  obtain ⟨rfl, _⟩ := Txn.holds_true held
                  dsimp only
                  rw [if_neg (by simp)]
                  split
                  · exact done_leaves _
                  · split
                    · split
                      · exact .kept _ (.inr rfl) (buffers.trans (Txn.putTask_buffers _ _))
                      · exact .effective _ (.inr rfl) (.inl rfl)
                          (buffers.trans (Txn.putTask_buffers _ _))
                    · refine .effective _ (.inl rfl) (.inr rfl) ((buffers.trans ?_).trans
                        (Txn.putTask_buffers _ _))
                      exact Txn.foldl_buffers _
                        (fun txn promise => registerCallback_buffers data.id txn promise) _ _
        · rw [if_neg acquired]
          exact done_leaves _

theorem fenceAction_buffers {action : Action ActionValue} {next : Txn} {status : Nat}
    {inner : PromiseRecord ⊕ String} (fenced : fenceAction env txn action = .ok (next, status, inner)) :
    Txn.Buffers txn next := by
  unfold fenceAction at fenced
  split at fenced
  · split at fenced
    · cases fenced
    · split at fenced
      · cases fenced
      · split at fenced
        · cases fenced
          exact .refl txn
        · cases fenced
          exact createPromise_buffers env txn _ none .dispatch
  · split at fenced
    · split at fenced
      · cases fenced
      · split at fenced
        · cases fenced
          exact .refl txn
        · split at fenced
          · cases fenced
            exact settleChain_buffers _ _ _
          · cases fenced
            exact .refl txn
    · cases fenced

theorem taskFence_leaves (data : TaskFenceData) (corrId : String) :
    HolderLeaves env txn (.taskFence data corrId) data.id (taskFence env txn data corrId) := by
  unfold taskFence
  split
  · exact refuse_leaves _
  · rename_i actionId decoded
    split
    · exact refuse_leaves _
    · split
      · exact refuse_leaves _
      · have names : [data.id, actionId] = (Request.taskFence data corrId).named := by
          rw [Request.named, decoded]
          rfl
        have buffers := tryTimeout_buffers env (Request.taskFence data corrId).named txn
        dsimp only
        rw [names]
        split
        · exact done_leaves _
        · split
          · exact done_leaves _
          · split
            · exact .kept _ (.inl rfl) buffers
            · rename_i next status inner fenced
              have written := buffers.trans (fenceAction_buffers fenced)
              split
              · exact .kept _ (.inr rfl) written
              · exact .effective _ (.inl rfl) (.inl rfl) written

theorem handle_leaves (keyed : txn.Keyed) (request : Request) (named : TaskVersionData)
    (holder : request.holder = some named) :
    HolderLeaves env txn request named.id (handle env txn request) := by
  cases request with
  | taskRelease data =>
      cases holder
      exact taskRelease_leaves _
  | taskFulfill data =>
      cases holder
      exact taskFulfill_leaves keyed data
  | taskSuspend data =>
      cases holder
      exact taskSuspend_leaves keyed data
  | taskFence data corrId =>
      cases holder
      exact taskFence_leaves data corrId
  | _ => cases holder

end Kernel

/-- The claims held before a step but for at most that of a task, which had ended: its lease was over
or it was no longer its job's. -/
structure Sheds (env : Env) (before : System) (id : String) (held : Held) : Prop where
  others : ∀ other : String, other ≠ id → held[other]? = before.held[other]?
  own : held[id]? = before.held[id]? ∨ held[id]? = none ∧
    ∀ claim : Claim, before.held[id]? = some claim → (before.txn env).Ended claim

/-- What a step leaves of a request of a task that takes no effect: the store as it was, or with the
deadlines of the promises the request names applied, and of the claims held all but an ended one of the
task. -/
inductive Ineffective (env : Env) (before : System) (request : Request) (id : String) : System → Prop
  | unchanged (held : Held) (nextJob : Nat) (sheds : Sheds env before id held) :
      Ineffective env before request id
        { before with held, queue := { before.queue with nextJob } }
  | timed (held : Held) (sheds : Sheds env before id held) :
      Ineffective env before request id
        { before.absorb (tryTimeout env (before.txn env) request.named).commit with held }

section

variable {env : Env} {before after : System} {request : Request} {id : String}

theorem sheds_of_checked {txn last : Txn} (buffers : Txn.Buffers (before.txn env) txn)
    (checked : txn.Checked last id) : Sheds env before id last.held := by
  have held : txn.held = before.held := buffers.held
  refine ⟨fun other apart => ?_, ?_⟩
  · rw [checked.others other apart, held]
  · rw [← held]
    exact checked.own.imp_right fun ⟨gone, ended⟩ =>
      ⟨gone, fun claim found => ended_of_buffers buffers (ended claim found)⟩

/-- Dropped writes leave the store as it was. -/
theorem dropped_ineffective {txn last : Txn} (unlocked : before.after = [])
    (buffers : Txn.Buffers (before.txn env) txn) (checked : txn.Checked last id) :
    Ineffective env before request id (before.absorb last.discard) := by
  have sheds := sheds_of_checked buffers checked
  obtain ⟨⟨held, rfl⟩, _, _⟩ := checked
  have queue : txn.queue = { before.queue with nextJob := txn.queue.nextJob } := by
    have jobs : txn.queue.jobs = before.queue.jobs := buffers.jobs
    have nextToken : txn.queue.nextToken = before.queue.nextToken := buffers.nextToken
    have clock : txn.queue.clock = before.queue.clock := buffers.clock
    change (⟨txn.queue.jobs, txn.queue.nextJob, txn.queue.nextToken, txn.queue.clock⟩ :
      LeaseQueue.Queue Payload) = _
    rw [jobs, nextToken, clock]
  have same : before.absorb ({ txn with held } : Txn).discard =
      { before with held, queue := { before.queue with nextJob := txn.queue.nextJob } } := by
    unfold System.absorb Txn.discard
    dsimp only
    rw [show txn.kv = before.kv from buffers.kv, ← queue, List.append_nil, ← unlocked]
  rw [same]
  exact .unchanged held _ sheds

/-- Deadlines that are committed leave what they leave, with the claims as they were. -/
theorem timed_ineffective {last : Txn}
    (checked : (tryTimeout env (before.txn env) request.named).Checked last id) :
    Ineffective env before request id (before.absorb last.commit) := by
  have sheds := sheds_of_checked (tryTimeout_buffers env request.named (before.txn env)) checked
  obtain ⟨⟨held, rfl⟩, _, _⟩ := checked
  exact .timed held sheds

/-- A holder's request that is not accepted takes no effect. -/
theorem refused_ineffective {named : TaskVersionData} {stored : Bool} (reached : Reachable env before)
    (holder : request.holder = some named)
    (taken : step env before (.request request stored) = some after)
    (refused : ¬ (answer env before request stored).accepts) :
    Ineffective env before request named.id after := by
  have keyed := Reachable.keyed reached
  have leaves : HolderLeaves env (before.txn env) request named.id
      (handle env (before.txn env) request) := handle_leaves keyed request named holder
  have concluded : answer env before request stored =
    (conclude (handle env (before.txn env) request) stored).2 := rfl
  cases step_cases taken with
  | dropped _ _ unlocked exit =>
      cases leaves with
      | kept exit buffers => exact dropped_ineffective unlocked buffers (.refl _ _)
      | timed done checked =>
          exact dropped_ineffective unlocked
            (tryTimeout_buffers env request.named (before.txn env)) checked
      | effective accepted exit buffers =>
          exact dropped_ineffective unlocked buffers (.refl _ _)
  | committed _ unlocked exit =>
      generalize handle env (before.txn env) request = response at leaves exit concluded ⊢
      cases leaves with
      | kept dropped buffers =>
          rw [exit] at dropped
          rcases dropped with other | other <;> cases other
      | timed done checked => exact timed_ineffective checked
      | effective accepted exits buffers =>
          rw [concluded] at refused
          unfold conclude at refused
          rw [exit] at refused
          exact absurd accepted refused
  | acked _ taskId commit unlocked exit committed =>
      generalize handle env (before.txn env) request = response
        at leaves exit concluded committed ⊢
      rw [concluded] at refused
      unfold conclude at refused
      rw [exit] at refused
      simp only [committed] at refused
      cases leaves with
      | kept dropped buffers =>
          rw [exit] at dropped
          rcases dropped with other | other <;> cases other
      | timed done checked =>
          rw [exit] at done
          cases done
      | effective accepted exits buffers => exact absurd accepted refused
  | lost _ taskId commit unlocked exit committed =>
      generalize handle env (before.txn env) request = response
        at leaves exit concluded committed ⊢
      cases leaves with
      | kept dropped buffers =>
          rw [exit] at dropped
          rcases dropped with other | other <;> cases other
      | timed done checked =>
          rw [exit] at done
          cases done
      | effective accepted exits buffers =>
          rw [exit] at exits
          rcases exits with other | own
          · cases other
          · cases own
            obtain ⟨last, checked, rfl⟩ := commitAck_checked committed
            exact dropped_ineffective unlocked buffers checked

/-- Only a grant changes a version, by one, and each version is granted once. A holder's request is
accepted only at the version of the latest grant, since which the task has stayed acquired, and takes no
effect otherwise. A request at an earlier version than the task's does nothing but apply deadlines. -/
theorem fencing_by_version {system : System} {past : List (Machine.Entry System Event)}
    (history : History env past system) :
    (∀ entry ∈ past, ∀ id old, entry.before.task id = some old →
      ∃ new, entry.after.task id = some new ∧
        (new.version = old.version ∨
          new.version = old.version + 1 ∧ Grants env entry id new.version) ∧
        (old.state = .fulfilled → new.state = .fulfilled)) ∧
    (∀ entry ∈ past, ∀ id new, entry.before.task id = none → entry.after.task id = some new →
      new.version = 0 ∨ new.version = 1 ∧ Grants env entry id 1) ∧
    (∀ entry ∈ past, ∀ id version, Grants env entry id version →
      versionOf (entry.before.task id) = version - 1 ∧ ∃ task, entry.after.task id = some task ∧
        task.version = version ∧ task.state = .acquired) ∧
    (∀ id version, past.Pairwise fun later earlier =>
      ¬ (Grants env later id version ∧ Grants env earlier id version)) ∧
    (∀ request stored named, request.holder = some named →
      (answer env system request stored).accepts →
      ∃ newer entry older, past = newer ++ entry :: older ∧
        Grants env entry named.id named.version ∧
        ∀ later ∈ newer, ∃ held, later.after.task named.id = some held ∧
          held.state = .acquired ∧ held.version = named.version) ∧
    (∀ request stored named after, request.holder = some named →
      ¬ (answer env system request stored).accepts →
      step env system (.request request stored) = some after →
      Ineffective env system request named.id after) ∧
    (∀ request stored named task after, request.holder = some named →
      system.task named.id = some task → named.version < task.version →
      step env system (.request request stored) = some after →
      AppliesDeadlines env system request after) ∧
    (∀ data stored task after, system.task data.id = some task → data.version < task.version →
      step env system (.request (.taskAcquire data) stored) = some after →
      AppliesDeadlines env system (.taskAcquire data) after) ∧
    ∀ data, taskHeartbeat (system.txn env) data =
      taskHeartbeat (system.txn env) { data with
        tasks := data.tasks.filter fun entry =>
          (system.task entry.id).all fun task => task.version ≤ entry.version } := by
  have reached : Reachable env system := ⟨past, history⟩
  have keyed := Reachable.keyed reached
  have raises (entry : Machine.Entry System Event) (member : entry ∈ past) (id : String) :
      Raise env entry id :=
    step_raise (history.before_reachable entry member) (history.taken entry member) id
  have steps (entry : Machine.Entry System Event) (member : entry ∈ past) (id : String) :
      TaskStep entry.label id (entry.before.task id) (entry.after.task id) :=
    step_task (history.before_reachable entry member) (history.taken entry member) id
  have held (named : TaskVersionData) (request : Request)
      (heldAt : HeldAt env (system.txn env) request named) :
      ∃ task, system.task named.id = some task ∧ task.state = .acquired ∧
        task.version = named.version := by
    have found := heldAt.before keyed
    rw [System.getTask_txn] at found
    exact found
  refine ⟨?_, ?_, fun entry member id version grants => grants.raises (raises entry member id),
    fun id => (history.versions id).2, ?_, ?_, ?_, ?_, ?_⟩
  · intro entry member id old stored
    have raise := raises entry member id
    have step := steps entry member id
    rw [stored] at step
    generalize last : entry.after.task id = second at step
    obtain ⟨new, rfl, final⟩ : ∃ new, second = some new ∧
        (old.state = .fulfilled → new.state = .fulfilled) := by
      cases step with
      | kept before after version acquired fulfilled => exact ⟨after, rfl, fulfilled⟩
      | granted before after acquires unfulfilled version held =>
          exact ⟨after, rfl, fun final => absurd final unfulfilled⟩
    refine ⟨new, rfl, ?_, final⟩
    cases raise with
    | kept version ungranted =>
        rw [last, stored] at version
        exact .inl version
    | granted task found held version grants only =>
        cases last.symm.trans found
        rw [stored] at version
        exact .inr ⟨version, grants⟩
  · intro entry member id new absent stored
    cases raises entry member id with
    | kept version ungranted =>
        rw [absent, stored] at version
        exact .inl version
    | granted task found held version grants only =>
        cases stored.symm.trans found
        rw [absent] at version
        have first : new.version = 1 := version
        exact .inr ⟨first, first ▸ grants⟩
  · intro request stored named holder accepted
    rcases handle_holder request named holder with heldAt | ⟨refused, _⟩
    · obtain ⟨task, found, acquired, version⟩ := held named request heldAt
      rw [← version]
      exact history.granted named.id task found acquired
    · exact absurd (answer_accepts accepted) refused
  · intro request stored named after holder refused taken
    exact refused_ineffective reached holder taken refused
  · intro request stored named task after holder found stale taken
    rcases handle_holder request named holder with heldAt | ⟨_, only⟩
    · obtain ⟨other, same, _, version⟩ := held named request heldAt
      rw [found] at same
      cases same
      omega
    · exact step_deadlines only taken
  · intro data stored task after found stale taken
    refine step_deadlines (taskAcquire_stale keyed data task ?_ (by omega)) taken
    rw [System.getTask_txn]
    exact found
  · intro data
    have same := taskHeartbeat_stale (system.txn env) data
    rw [System.getTask_txn] at same
    exact same

end

/-- A release at the version just granted names that grant. One at a version that was never granted takes
no effect, and one at an earlier version applies deadlines only. -/
theorem fencing_by_version_acquired :
    (∃ newer entry older, acquiredTrace.1 = newer ++ entry :: older ∧
      Grants .sample entry "root" 1 ∧
      ∀ later ∈ newer, ∃ held, later.after.task "root" = some held ∧ held.state = .acquired ∧
        held.version = 1) ∧
    (∃ after, step .sample acquiredTrace.2 (.request (.taskRelease ⟨"root", 2⟩) true) = some after ∧
      Ineffective .sample acquiredTrace.2 (.taskRelease ⟨"root", 2⟩) "root" after) ∧
    ∃ after, step .sample acquiredTrace.2 (.request (.taskRelease ⟨"root", 0⟩) true) = some after ∧
      AppliesDeadlines .sample acquiredTrace.2 (.taskRelease ⟨"root", 0⟩) after := by
  obtain ⟨_, _, _, _, granted, refused, stale, _, _⟩ := fencing_by_version acquired_history
  have taken (version : Int) : ∃ after,
      step .sample acquiredTrace.2 (.request (.taskRelease ⟨"root", version⟩) true) = some after := by
    have unlocked : acquiredTrace.2.after = [] := by decide
    exact ⟨_, (if_pos unlocked : stepRequest .sample acquiredTrace.2 _ true = _)⟩
  have version : (acquiredTrace.2.task "root").map (·.version) = some 1 := by decide
  obtain ⟨task, stored, first⟩ := Option.map_eq_some_iff.mp version
  obtain ⟨ungranted, takes⟩ := taken 2
  obtain ⟨earlier, takesEarlier⟩ := taken 0
  refine ⟨granted (.taskRelease ⟨"root", 1⟩) true ⟨"root", 1⟩ rfl (.inl (by decide)),
    ⟨ungranted, takes, refused _ true _ ungranted rfl ?_ takes⟩,
    ⟨earlier, takesEarlier, stale _ true _ task earlier rfl stored ?_ takesEarlier⟩⟩
  · rintro (accepted | accepted)
    · exact absurd accepted (by decide)
    · exact absurd accepted (by decide)
  · rw [first]
    decide

end Resonate
