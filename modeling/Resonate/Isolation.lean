import Resonate.Origins
import Resonate.Branches

set_option autoImplicit false

/-! The origins of a store are isolated: a request that names promises and tasks of one origin
answers and acts by that origin's records, jobs and claims only. -/

namespace Resonate

open Kernel
open LeaseQueue (Queue Job EnqueueRequest)
open Txn (Pair)

/-- Whether every promise and task id of a request is of an origin. -/
def Request.Names (origin : String) : Request → Prop
  | .promiseCreate data => originOf data.id = origin
  | .promiseGet id => originOf id = origin
  | .promiseSettle data => originOf data.id = origin
  | .promiseRegisterCallback data => originOf data.awaited = origin ∧ originOf data.awaiter = origin
  | .promiseRegisterListener data => originOf data.awaited = origin
  | .taskCreate data => originOf data.action.data.id = origin
  | .taskAcquire data => originOf data.id = origin
  | .taskRelease data => originOf data.id = origin
  | .taskFulfill data => originOf data.id = origin ∧ originOf data.action.data.id = origin
  | .taskSuspend data => originOf data.id = origin ∧ ∀ action ∈ data.actions,
      originOf action.data.awaited = origin ∧ originOf action.data.awaiter = origin
  | .taskFence data _ => originOf data.id = origin ∧
      ∀ id, data.action.data.id = some id → originOf id = origin
  | .taskHeartbeat data => ∀ entry ∈ data.tasks, originOf entry.id = origin
  | .taskGet id => originOf id = origin
  | .taskHalt id => originOf id = origin
  | .taskContinue id => originOf id = origin
  | _ => False

/-- Two responses in step on an origin: they leave their transactions alike in the same way, and
the replies are the same where every branch lies in its promise's origin. -/
structure Kernel.Response.Pair (origin : String) (same : Nat → Nat → Prop) (start other : Txn)
    (first second : Response) : Prop where
  txn : Txn.Pair origin same start other first.txn second.txn
  exit : second.exit = first.exit
  acked : ∀ id, first.exit = .commitAck id → originOf id = origin
  reply : first.txn.Shelved → second.txn.Shelved → second.reply = first.reply

section

variable {origin : String} {same : Nat → Nat → Prop} {start other first second : Txn} {env : Env}

/-! ## Replies -/

theorem refuse_pair (pair : Pair origin same start other first second) (reply : Reply) :
    Response.Pair origin same start other (refuse first reply) (refuse second reply) :=
  ⟨pair, rfl, (fun _ exit => by cases exit), fun _ _ => rfl⟩

theorem done_pair (pair : Pair origin same start other first second) (reply : Reply) :
    Response.Pair origin same start other (done first reply) (done second reply) :=
  ⟨pair, rfl, (fun _ exit => by cases exit), fun _ _ => rfl⟩

theorem expectFailed_pair (pair : Pair origin same start other first second) (message : String) :
    Response.Pair origin same start other (expectFailed first message)
      (expectFailed second message) :=
  ⟨pair, rfl, (fun _ exit => by cases exit), fun _ _ => rfl⟩

theorem commitSettlement_pair (pair : Pair origin same start other first second) {id : String}
    (own : originOf id = origin) (reply : Reply) :
    Response.Pair origin same start other (commitSettlement first id reply)
      (commitSettlement second id reply) := by
  refine ⟨pair, rfl, ?_, fun _ _ => rfl⟩
  intro acked exit
  cases exit
  exact own

/-- A reply that depends on the siblings of a promise of the origin. -/
theorem preload_pair (pair : Pair origin same start other first second) {id : String}
    (own : originOf id = origin) {promise : StoredPromise}
    (found : first.getPromise id = some promise) (status : List PromiseRecord → Reply) :
    Response.Pair origin same start other (done first (status (first.preload promise.record)))
      (done second (status (second.preload promise.record))) := by
  refine ⟨pair, rfl, (fun _ exit => by cases exit), ?_⟩
  intro shelved shelved'
  have siblings := Txn.Shelved.preload shelved shelved' pair.alike.preloadLimit pair.alike.promise
    own found
  exact congrArg status siblings

theorem doneView_pair (pair : Pair origin same start other first second) {task : StoredTask}
    (own : originOf task.id = origin) (job : Option Nat) :
    Response.Pair origin same start other (doneView first task)
      (doneView second { task with job }) := by
  have read := pair.alike.promise task.id own
  unfold doneView taskView
  dsimp only
  rw [read]
  cases found : first.getPromise task.id with
  | none => exact expectFailed_pair pair _
  | some promise =>
      dsimp only
      split
      · exact done_pair pair _
      · exact preload_pair pair own found fun preload =>
          ok (.taskView task.record promise.record preload)

/-- The view of a task that is acquired, or the refusal where its claim is lost. -/
theorem acquired_pair (pair : Pair origin same start other first second) {id : String}
    (own : originOf id = origin) {task : StoredTask} {job : Option Nat}
    (found : first.getTask id = some task) (found' : second.getTask id = some { task with job })
    (named : Option.Rel same task.job job) (pid : String) (ttl : Int) (refusal : Reply) :
    Response.Pair origin same start other
      (match acquire first task pid ttl with
        | (txn, none) => done txn refusal
        | (txn, some task) => doneView txn task)
      (match acquire second { task with job } pid ttl with
        | (txn, none) => done txn refusal
        | (txn, some task) => doneView txn task) := by
  have filed := pair.left.task id task found
  obtain ⟨result, acquired⟩ := acquire_pair pair own found found' named pid ttl
  have kept : ∀ later, (acquire first task pid ttl).2 = some later → later.id = task.id := by
    intro later granted
    unfold acquire at granted
    generalize first.renew task.id (leaseOf ttl) = renewed at granted
    obtain ⟨next, renewed⟩ := renewed
    cases renewed <;> cases granted
    rfl
  generalize acquire first task pid ttl = one at result acquired kept ⊢
  generalize acquire second { task with job } pid ttl = two at result acquired ⊢
  obtain ⟨next, granted⟩ := one
  obtain ⟨later, granted'⟩ := two
  cases result
  cases granted with
  | none => exact done_pair acquired refusal
  | some after =>
      have inside : originOf after.id = origin := by
        rw [kept after rfl, filed]
        exact own
      exact doneView_pair acquired inside job

/-! ## Promises -/

theorem promiseCreate_pair (pair : Pair origin same start other first second)
    (data : PromiseCreateData) (own : originOf data.id = origin) :
    Response.Pair origin same start other (promiseCreate env first data)
      (promiseCreate env second data) := by
  unfold promiseCreate
  cases validateCreate env data with
  | some reply => exact refuse_pair pair reply
  | none =>
      have timed := tryTimeout_pair env pair [data.id] (by simpa using own)
      dsimp only
      rw [timed.alike.promise data.id own]
      cases (tryTimeout env first [data.id]).getPromise data.id with
      | some existing => exact done_pair timed _
      | none =>
          obtain ⟨made, created⟩ := createPromise_pair env timed data own none .dispatch
          dsimp only
          rw [made]
          exact done_pair created _

theorem promiseGet_pair (pair : Pair origin same start other first second) (id : String)
    (own : originOf id = origin) :
    Response.Pair origin same start other (promiseGet env first id) (promiseGet env second id) := by
  have timed := tryTimeout_pair env pair [id] (by simpa using own)
  unfold promiseGet
  dsimp only
  rw [timed.alike.promise id own]
  cases (tryTimeout env first [id]).getPromise id with
  | some promise => exact done_pair timed _
  | none => exact done_pair timed _

theorem promiseSettle_pair (pair : Pair origin same start other first second)
    (data : PromiseSettleData) (own : originOf data.id = origin) :
    Response.Pair origin same start other (promiseSettle env first data)
      (promiseSettle env second data) := by
  have timed := tryTimeout_pair env pair [data.id] (by simpa using own)
  unfold promiseSettle
  dsimp only
  rw [timed.alike.promise data.id own]
  cases found : (tryTimeout env first [data.id]).getPromise data.id with
  | none => exact done_pair timed _
  | some promise =>
      dsimp only
      split
      · obtain ⟨made, settled⟩ := settle_pair env timed own found data.state data.value
        rw [made]
        exact done_pair settled _
      · exact done_pair timed _

theorem promiseRegisterCallback_pair (pair : Pair origin same start other first second)
    (data : CallbackData) (own : originOf data.awaited = origin)
    (inside : originOf data.awaiter = origin) :
    Response.Pair origin same start other (promiseRegisterCallback env first data)
      (promiseRegisterCallback env second data) := by
  unfold promiseRegisterCallback
  cases validateCallback data.awaited data.awaiter with
  | some reply => exact refuse_pair pair reply
  | none =>
      have timed := tryTimeout_pair env pair [data.awaited, data.awaiter] (by
        simp only [List.mem_cons, List.not_mem_nil, or_false]
        rintro id (rfl | rfl)
        · exact own
        · exact inside)
      dsimp only
      rw [timed.alike.promise data.awaited own, timed.alike.promise data.awaiter inside]
      cases found : (tryTimeout env first [data.awaited, data.awaiter]).getPromise data.awaited with
      | none => exact done_pair timed _
      | some awaited =>
          cases (tryTimeout env first [data.awaited, data.awaiter]).getPromise data.awaiter with
          | none => exact done_pair timed _
          | some awaiter =>
              dsimp only
              split
              · exact done_pair timed _
              · split
                · exact done_pair timed _
                · refine done_pair ?_ _
                  split
                  · split
                    · obtain ⟨filed, callbacks⟩ := timed.stored own found
                      exact registerCallback_pair timed filed callbacks inside
                    · exact resumeAwaiter_pair env timed inside data.awaited .registration
                  · exact timed

theorem promiseRegisterListener_pair (pair : Pair origin same start other first second)
    (data : ListenerData) (own : originOf data.awaited = origin) :
    Response.Pair origin same start other (promiseRegisterListener env first data)
      (promiseRegisterListener env second data) := by
  unfold promiseRegisterListener
  split
  · exact refuse_pair pair _
  · have timed := tryTimeout_pair env pair [data.awaited] (by simpa using own)
    dsimp only
    rw [timed.alike.promise data.awaited own]
    cases found : (tryTimeout env first [data.awaited]).getPromise data.awaited with
    | none => exact done_pair timed _
    | some awaited =>
        dsimp only
        split
        · exact done_pair timed _
        · refine done_pair ?_ _
          split
          · obtain ⟨filed, callbacks⟩ := timed.stored own found
            exact timed.putPromise _ filed callbacks
          · exact timed

/-! ## Tasks -/

/-- The job a task records is no part of its version or state. -/
theorem isAcquiredAt_job (task : StoredTask) (job : Option Nat) (version : Int) :
    ({ task with job } : StoredTask).isAcquiredAt version = task.isAcquiredAt version := rfl

theorem taskAcquire_pair (pair : Pair origin same start other first second) (data : TaskAcquireData)
    (own : originOf data.id = origin) :
    Response.Pair origin same start other (taskAcquire env first data)
      (taskAcquire env second data) := by
  have timed := tryTimeout_pair env pair [data.id] (by simpa using own)
  unfold taskAcquire
  dsimp only
  rcases timed.task_cases own with ⟨one, two⟩ | ⟨task, job, one, two, named, filed⟩
  · rw [one, two]
    exact done_pair timed _
  · rw [one, two]
    dsimp only
    split
    · exact done_pair timed _
    · split
      · exact done_pair timed _
      · exact acquired_pair timed own one two named data.pid data.ttl _

/-- A task found in the queue or under a held claim is claimed in step. -/
theorem claimed_pair (pair : Pair origin same start other first second) {id : String}
    (own : originOf id = origin) {task : StoredTask} {job : Option Nat}
    (found : first.getTask id = some task) (found' : second.getTask id = some { task with job })
    (named : Option.Rel same task.job job) (lease : Nat) :
    (claimed second { task with job } lease).2 = (claimed first task lease).2 ∧
      Pair origin same start other (claimed first task lease).1
        (claimed second { task with job } lease).1 := by
  have filed := pair.left.task id task found
  have inside : originOf task.id = origin := filed ▸ own
  obtain ⟨held, checked⟩ := pair.holds inside
  have tasks := (Txn.holds_touches first task.id).getTask
  have tasks' := (Txn.holds_touches second task.id).getTask
  unfold claimed
  dsimp only
  generalize first.holds task.id = one at held checked tasks ⊢
  generalize second.holds task.id = two at held checked tasks' ⊢
  obtain ⟨next, result⟩ := one
  obtain ⟨later, result'⟩ := two
  cases held
  cases result with
  | true => exact ⟨rfl, checked⟩
  | false =>
      have stored : next.getTask id = some task := (congrFun tasks id).trans found
      have stored' : later.getTask id = some { task with job } := (congrFun tasks' id).trans found'
      cases recorded : task.job with
      | none =>
          rw [recorded] at named
          cases named
          exact ⟨rfl, checked⟩
      | some number =>
          cases renamed : job with
          | none =>
              rw [recorded, renamed] at named
              cases named
          | some number' =>
              rw [recorded, renamed] at named
              cases named with
              | some named =>
                  subst renamed
                  refine checked.claimJob inside named ?_ ?_ lease
                  · rw [filed]
                    exact checked.left.owned id task number stored recorded
                  · rw [filed]
                    exact checked.right.owned id _ number' stored' rfl

theorem taskCreateExisting_pair (pair : Pair origin same start other first second) {id : String}
    (own : originOf id = origin) {task : StoredTask} {job : Option Nat}
    (found : first.getTask id = some task) (found' : second.getTask id = some { task with job })
    (named : Option.Rel same task.job job) (data : TaskCreateData) :
    Response.Pair origin same start other (taskCreateExisting first data task)
      (taskCreateExisting second data { task with job }) := by
  have filed := pair.left.task id task found
  by_cases pending : task.state = .pending
  · obtain ⟨result, claiming⟩ := claimed_pair pair own found found' named (leaseOf data.ttl)
    have tasks := (claimed_touches first task (leaseOf data.ttl)).getTask
    have tasks' := (claimed_touches second { task with job } (leaseOf data.ttl)).getTask
    rw [taskCreateExisting_pending data task pending,
      taskCreateExisting_pending data { task with job } pending, result]
    split
    · exact done_pair claiming _
    · exact acquired_pair claiming own ((congrFun tasks id).trans found)
        ((congrFun tasks' id).trans found') named data.pid data.ttl _
  · unfold taskCreateExisting
    dsimp only
    split
    · rename_i state
      exact absurd state pending
    · exact doneView_pair pair (filed ▸ own) job
    all_goals exact done_pair pair _

theorem taskCreate_pair (pair : Pair origin same start other first second) (data : TaskCreateData)
    (own : originOf data.action.data.id = origin) :
    Response.Pair origin same start other (taskCreate env first data)
      (taskCreate env second data) := by
  have timed := tryTimeout_pair env pair [data.action.data.id] (by simpa using own)
  unfold taskCreate
  dsimp only
  split
  · exact refuse_pair pair _
  split
  · exact refuse_pair pair _
  split
  · exact refuse_pair pair _
  cases validateCreate env data.action.data with
  | some reply => exact refuse_pair pair reply
  | none =>
      dsimp only
      split
      · exact refuse_pair pair _
      split
      · exact refuse_pair pair _
      rcases timed.task_cases own with ⟨one, two⟩ | ⟨task, job, one, two, named, filed⟩
      · rw [one, two, timed.alike.promise _ own]
        dsimp only
        cases (tryTimeout env first [data.action.data.id]).getPromise data.action.data.id with
        | some promise => exact done_pair timed _
        | none =>
            obtain ⟨made, created⟩ := createPromise_pair env timed data.action.data own none
              (.acquire data.pid data.ttl)
            dsimp only
            rw [made]
            have inside : originOf (createPromise env (tryTimeout env first [data.action.data.id])
                data.action.data none (.acquire data.pid data.ttl)).2.record.id = origin := by
              change originOf (newPromise data.action.data none _).record.id = origin
              rw [newPromise_id]
              exact own
            rcases created.task_cases inside with ⟨one, two⟩ | ⟨task, job, one, two, named, filed⟩
            · rw [one, two]
              exact expectFailed_pair created _
            · rw [one, two]
              exact doneView_pair created (filed ▸ inside) job
      · rw [one, two]
        exact taskCreateExisting_pair timed own one two named data

theorem taskRelease_pair (pair : Pair origin same start other first second) (data : TaskVersionData)
    (own : originOf data.id = origin) :
    Response.Pair origin same start other (taskRelease env first data)
      (taskRelease env second data) := by
  have timed := tryTimeout_pair env pair [data.id] (by simpa using own)
  unfold taskRelease
  dsimp only
  rcases timed.task_cases own with ⟨one, two⟩ | ⟨task, job, one, two, named, filed⟩
  · rw [one, two]
    exact done_pair timed _
  · rw [one, two]
    dsimp only
    rw [isAcquiredAt_job task job]
    split
    · exact done_pair timed _
    · have rewritten := timed.rewrite own one two named (task.transition .pending) rfl rfl
      exact done_pair (rewritten.follow (.nack task.id (filed ▸ own))) _

theorem taskGet_pair (pair : Pair origin same start other first second) (id : String)
    (own : originOf id = origin) :
    Response.Pair origin same start other (taskGet env first id) (taskGet env second id) := by
  have timed := tryTimeout_pair env pair [id] (by simpa using own)
  unfold taskGet
  dsimp only
  rcases timed.task_cases own with ⟨one, two⟩ | ⟨task, job, one, two, named, filed⟩
  · rw [one, two]
    exact done_pair timed _
  · rw [one, two]
    exact done_pair timed _

theorem taskHalt_pair (pair : Pair origin same start other first second) (id : String)
    (own : originOf id = origin) :
    Response.Pair origin same start other (taskHalt env first id) (taskHalt env second id) := by
  have timed := tryTimeout_pair env pair [id] (by simpa using own)
  unfold taskHalt
  dsimp only
  rcases timed.task_cases own with ⟨one, two⟩ | ⟨task, job, one, two, named, filed⟩
  · rw [one, two]
    exact done_pair timed _
  · rw [one, two]
    have rewritten := timed.rewrite own one two named (task.transition .halted) rfl rfl
    have halted := done_pair (rewritten.follow (.release task.id (filed ▸ own))) (ok .empty)
    dsimp only
    cases state : task.state with
    | fulfilled => exact done_pair timed _
    | halted => exact done_pair timed _
    | pending => exact halted
    | acquired => exact halted
    | suspended => exact halted

/-- The job a stored task records exists in both stores or in neither. -/
theorem jobExists_pair (pair : Pair origin same start other first second) {id : String}
    (own : originOf id = origin) {task : StoredTask} {job : Option Nat}
    (found : first.getTask id = some task) (found' : second.getTask id = some { task with job })
    (named : Option.Rel same task.job job) :
    job.any second.jobExists = task.job.any first.jobExists := by
  have owned := pair.left.owned id task
  have owned' := pair.right.owned id { task with job }
  dsimp only at owned'
  generalize task.job = number at named owned
  cases named with
  | none => rfl
  | @some left right named =>
      have jobs := pair.alike.leases.jobs.found named ((owned left found rfl).inside own)
        ((owned' right found' rfl).inside own)
      change Option.Rel _ first.queue.jobs[left]? second.queue.jobs[right]? at jobs
      simp only [Option.any_some, Txn.jobExists]
      generalize first.queue.jobs[left]? = one at jobs ⊢
      generalize second.queue.jobs[right]? = two at jobs ⊢
      cases jobs <;> rfl

theorem taskContinue_pair (pair : Pair origin same start other first second) (id : String)
    (own : originOf id = origin) :
    Response.Pair origin same start other (taskContinue env first id)
      (taskContinue env second id) := by
  have timed := tryTimeout_pair env pair [id] (by simpa using own)
  unfold taskContinue
  dsimp only
  rcases timed.task_cases own with ⟨one, two⟩ | ⟨task, job, one, two, named, filed⟩
  · rw [one, two]
    exact done_pair timed _
  · rw [one, two]
    dsimp only
    split
    · exact done_pair timed _
    · have rewritten := timed.rewrite own one two named (task.transition .pending) rfl rfl
      have exists_ : ({ task with job } : StoredTask).job.any
          ((tryTimeout env second [id]).putTask
            (StoredTask.transition { task with job } .pending)).jobExists =
          task.job.any ((tryTimeout env first [id]).putTask (task.transition .pending)).jobExists :=
        jobExists_pair timed own one two named
      refine done_pair ?_ _
      change Pair origin same start other
        (if task.job.any ((tryTimeout env first [id]).putTask
          (task.transition .pending)).jobExists then _ else _)
        (if ({ task with job } : StoredTask).job.any ((tryTimeout env second [id]).putTask
          (StoredTask.transition { task with job } .pending)).jobExists then _ else _)
      rw [exists_]
      split
      · exact rewritten
      · exact rewritten.dispatch env (task.transition .pending) job none (filed ▸ own)

theorem heartbeatOne_pair (pair : Pair origin same start other first second) (pid : String)
    (entry : TaskVersionData) (own : originOf entry.id = origin) :
    Pair origin same start other (heartbeatOne pid first entry) (heartbeatOne pid second entry) := by
  unfold heartbeatOne
  rcases pair.task_cases own with ⟨one, two⟩ | ⟨task, job, one, two, named, filed⟩
  · rw [one, two]
    exact pair
  · rw [one, two]
    dsimp only
    rw [isAcquiredAt_job task job]
    split
    · exact (pair.renew (filed ▸ own) _).2
    · exact pair

theorem taskHeartbeat_pair (pair : Pair origin same start other first second)
    (data : TaskHeartbeatData) (own : ∀ entry ∈ data.tasks, originOf entry.id = origin) :
    Response.Pair origin same start other (taskHeartbeat first data) (taskHeartbeat second data) := by
  refine done_pair (Pair.foldl data.tasks _ ?_ pair) _
  intro entry member first second pair
  exact heartbeatOne_pair pair data.pid entry (own entry member)

theorem taskFulfill_pair (pair : Pair origin same start other first second) (data : TaskFulfillData)
    (own : originOf data.id = origin) :
    Response.Pair origin same start other (taskFulfill env first data)
      (taskFulfill env second data) := by
  have timed := tryTimeout_pair env pair [data.id] (by simpa using own)
  unfold taskFulfill
  dsimp only
  split
  · exact refuse_pair pair _
  split
  · exact refuse_pair pair _
  rcases timed.task_cases own with ⟨one, two⟩ | ⟨task, job, one, two, named, filed⟩
  · rw [one, two]
    exact done_pair timed _
  · rw [one, two]
    dsimp only
    rw [isAcquiredAt_job task job]
    split
    · exact done_pair timed _
    rw [timed.alike.promise data.id own]
    cases found : (tryTimeout env first [data.id]).getPromise data.id with
    | none => exact done_pair timed _
    | some promise =>
        have inside : originOf task.id = origin := filed ▸ own
        obtain ⟨held, checked⟩ := timed.holds inside
        have promises := (Txn.holds_touches (tryTimeout env first [data.id]) task.id).getPromise
        dsimp only
        generalize (tryTimeout env first [data.id]).holds task.id = one at held checked promises ⊢
        generalize (tryTimeout env second [data.id]).holds task.id = two at held checked ⊢
        obtain ⟨next, result⟩ := one
        obtain ⟨later, result'⟩ := two
        cases held
        cases result with
        | false => exact done_pair checked _
        | true =>
            dsimp only
            split
            · obtain ⟨made, settled⟩ := settle_pair env checked own
                ((congrFun promises data.id).trans found) data.action.data.state
                data.action.data.value
              rw [made]
              exact commitSettlement_pair settled inside _
            · exact commitSettlement_pair checked inside _

/-! ## Suspension and fenced actions -/

theorem suspendAwaited_pair (pair : Pair origin same start other first second) (ids : List String)
    (own : ∀ id ∈ ids, originOf id = origin) :
    suspendAwaited second ids = suspendAwaited first ids := by
  induction ids with
  | nil => rfl
  | cons id rest ih =>
      unfold suspendAwaited
      rw [pair.alike.promise id (own id List.mem_cons_self),
        ih fun other member => own other (List.mem_cons_of_mem _ member)]

theorem foldl_registerCallback_getTask (awaiter : String) (awaited : List StoredPromise) (txn : Txn) :
    (awaited.foldl (fun txn promise => registerCallback txn promise awaiter) txn).getTask =
      txn.getTask := by
  induction awaited generalizing txn with
  | nil => rfl
  | cons promise rest ih => exact (ih _).trans (getTask_registerCallback promise awaiter)

/-- The rest of a suspension whose task is acquired and held. -/
theorem suspended_pair (pair : Pair origin same start other first second) {id : String}
    (own : originOf id = origin) {task : StoredTask} {job : Option Nat}
    (found : first.getTask id = some task) (found' : second.getTask id = some { task with job })
    (named : Option.Rel same task.job job) {awaited : List StoredPromise}
    (inside : ∀ promise ∈ awaited, originOf promise.record.id = origin ∧
      ∀ awaiter ∈ promise.callbacks, originOf awaiter = origin) :
    Response.Pair origin same start other
      (commitSettlement ((awaited.foldl (fun txn promise => registerCallback txn promise id)
        first).putTask (({ task with resumes := ∅ } : StoredTask).transition .suspended)) id (ok .empty))
      (commitSettlement ((awaited.foldl (fun txn promise => registerCallback txn promise id)
        second).putTask (({ task with job, resumes := ∅ } : StoredTask).transition .suspended)) id
        (ok .empty)) := by
  have registered : Pair origin same start other
      (awaited.foldl (fun txn promise => registerCallback txn promise id) first)
      (awaited.foldl (fun txn promise => registerCallback txn promise id) second) := by
    refine Pair.foldl awaited _ ?_ pair
    intro promise member first second pair
    obtain ⟨filed, callbacks⟩ := inside promise member
    exact registerCallback_pair pair filed callbacks own
  have tasks := foldl_registerCallback_getTask id awaited first
  have tasks' := foldl_registerCallback_getTask id awaited second
  have rewritten := registered.rewrite own ((congrFun tasks id).trans found)
    ((congrFun tasks' id).trans found') named
    (({ task with resumes := ∅ } : StoredTask).transition .suspended) rfl rfl
  exact commitSettlement_pair rewritten own _

theorem taskSuspend_pair (pair : Pair origin same start other first second) (data : TaskSuspendData)
    (own : originOf data.id = origin)
    (inside : ∀ action ∈ data.actions, originOf action.data.awaited = origin) :
    Response.Pair origin same start other (taskSuspend env first data)
      (taskSuspend env second data) := by
  unfold taskSuspend
  split
  · exact refuse_pair pair _
  cases checked : suspendIds data.id [] data.actions with
  | error reply => exact refuse_pair pair reply
  | ok ids =>
      have listed : ∀ id ∈ ids, originOf id = origin := by
        intro id member
        rw [(suspendIds_ok data.id data.actions [] ids checked).1, List.nil_append] at member
        obtain ⟨action, listed, rfl⟩ := List.mem_map.mp member
        exact inside action listed
      have timed := tryTimeout_pair env pair (data.id :: ids) (List.forall_mem_cons.mpr ⟨own, listed⟩)
      dsimp only
      generalize tryTimeout env first (data.id :: ids) = next at timed ⊢
      generalize tryTimeout env second (data.id :: ids) = later at timed ⊢
      rcases timed.task_cases own with ⟨one, two⟩ | ⟨task, job, one, two, named, filed⟩
      · rw [one, two]
        exact done_pair timed _
      · rw [one, two]
        dsimp only
        rw [isAcquiredAt_job task job]
        split
        · obtain ⟨held, holding⟩ := timed.holds (filed ▸ own : originOf task.id = origin)
          have touched := Txn.holds_touches next task.id
          have touched' := Txn.holds_touches later task.id
          have tasks := touched.getTask
          have tasks' := touched'.getTask
          generalize next.holds task.id = one_ at held holding tasks touched ⊢
          generalize later.holds task.id = two_ at held holding tasks' touched' ⊢
          obtain ⟨next', result⟩ := one_
          obtain ⟨later', result'⟩ := two_
          cases held
          cases result with
          | false => exact done_pair holding _
          | true =>
              have stored := (congrFun tasks data.id).trans one
              have stored' := (congrFun tasks' data.id).trans two
              dsimp only at stored stored' holding ⊢
              rw [suspendAwaited_pair holding ids listed]
              cases awaits : suspendAwaited next' ids with
              | error reply => exact done_pair holding reply
              | ok awaited =>
                  have known : ∀ promise ∈ awaited, originOf promise.record.id = origin ∧
                      ∀ awaiter ∈ promise.callbacks, originOf awaiter = origin := by
                    intro promise member
                    obtain ⟨id, listed', found, _⟩ :=
                      (suspendAwaited_known awaits).2 promise member
                    exact holding.stored (listed id listed') found
                  rw [if_neg (by simp), if_neg (by simp)]
                  dsimp only
                  split
                  · have cleared := holding.rewrite own stored stored' named
                      { task with resumes := ∅ } rfl rfl
                    have read := cleared.alike.promise data.id own
                    dsimp only at read ⊢
                    rw [read]
                    cases found : (next'.putTask { task with resumes := ∅ }).getPromise data.id with
                    | none => exact expectFailed_pair cleared _
                    | some promise =>
                        exact preload_pair cleared own found fun preload => .ok 300 (.preload preload)
                  · exact suspended_pair holding own stored stored' named known
        · exact done_pair timed _

theorem fenceAction_pair (pair : Pair origin same start other first second)
    (action : Action ActionValue)
    (own : ∀ id, action.data.id = some id → originOf id = origin) :
    (∃ reply, fenceAction env first action = .error reply ∧
        fenceAction env second action = .error reply) ∨
      ∃ next later status inner, fenceAction env first action = .ok (next, status, inner) ∧
        fenceAction env second action = .ok (later, status, inner) ∧
        Pair origin same start other next later := by
  unfold fenceAction
  split
  · cases decoded : action.data.create with
    | error message => exact .inl ⟨_, rfl, rfl⟩
    | ok create =>
        have inside := own _ (action.data.create_id create decoded)
        dsimp only
        cases validateCreate env create with
        | some reply => exact .inl ⟨reply, rfl, rfl⟩
        | none =>
            dsimp only
            rw [pair.alike.promise create.id inside]
            cases first.getPromise create.id with
            | some existing => exact .inr ⟨_, _, _, _, rfl, rfl, pair⟩
            | none =>
                obtain ⟨made, created⟩ := createPromise_pair env pair create inside none .dispatch
                dsimp only
                rw [made]
                exact .inr ⟨_, _, _, _, rfl, rfl, created⟩
  · split
    · cases decoded : action.data.settle with
      | error message => exact .inl ⟨_, rfl, rfl⟩
      | ok data =>
          have inside := own _ (action.data.settle_id data decoded)
          dsimp only
          rw [pair.alike.promise data.id inside]
          cases found : first.getPromise data.id with
          | none => exact .inr ⟨_, _, _, _, rfl, rfl, pair⟩
          | some promise =>
              dsimp only
              split
              · obtain ⟨made, settled⟩ := settle_pair env pair inside found data.state data.value
                rw [made]
                exact .inr ⟨_, _, _, _, rfl, rfl, settled⟩
              · exact .inr ⟨_, _, _, _, rfl, rfl, pair⟩
    · exact .inl ⟨_, rfl, rfl⟩

theorem taskFence_pair (pair : Pair origin same start other first second) (data : TaskFenceData)
    (corrId : String) (own : originOf data.id = origin)
    (inside : ∀ id, data.action.data.id = some id → originOf id = origin) :
    Response.Pair origin same start other (taskFence env first data corrId)
      (taskFence env second data corrId) := by
  unfold taskFence
  cases named : data.action.data.id with
  | none => exact refuse_pair pair _
  | some actionId =>
      dsimp only
      split
      · exact refuse_pair pair _
      split
      · exact refuse_pair pair _
      have timed := tryTimeout_pair env pair [data.id, actionId] (by
        simp only [List.mem_cons, List.not_mem_nil, or_false]
        rintro id (rfl | rfl)
        · exact own
        · exact inside id named)
      generalize tryTimeout env first [data.id, actionId] = next at timed ⊢
      generalize tryTimeout env second [data.id, actionId] = later at timed ⊢
      rcases timed.task_cases own with ⟨one, two⟩ | ⟨task, job, one, two, _, _⟩
      · rw [one, two]
        exact done_pair timed _
      · rw [one, two]
        dsimp only
        rw [isAcquiredAt_job task job]
        split
        · exact done_pair timed _
        rcases fenceAction_pair timed data.action inside with
          ⟨reply, one, two⟩ | ⟨next, later, status, inner, one, two, acted⟩
        · rw [one, two]
          exact refuse_pair timed reply
        · rw [one, two]
          dsimp only
          rw [acted.alike.promise data.id own]
          cases found : next.getPromise data.id with
          | none => exact expectFailed_pair acted _
          | some promise =>
              exact preload_pair acted own found fun preload => ok (.fenced
                { kind := data.action.kind
                  corrId := corrId
                  status := status
                  version := protocolVersion
                  data := inner } preload)

/-- Every request of an origin keeps the two in step. -/
theorem handle_pair (pair : Pair origin same start other first second) (request : Request)
    (names : request.Names origin) :
    Response.Pair origin same start other (handle env first request)
      (handle env second request) := by
  cases request with
  | promiseCreate data => exact promiseCreate_pair pair data names
  | promiseGet id => exact promiseGet_pair pair id names
  | promiseSettle data => exact promiseSettle_pair pair data names
  | promiseRegisterCallback data => exact promiseRegisterCallback_pair pair data names.1 names.2
  | promiseRegisterListener data => exact promiseRegisterListener_pair pair data names
  | taskCreate data => exact taskCreate_pair pair data names
  | taskAcquire data => exact taskAcquire_pair pair data names
  | taskRelease data => exact taskRelease_pair pair data names
  | taskFulfill data => exact taskFulfill_pair pair data names.1
  | taskSuspend data =>
      exact taskSuspend_pair pair data names.1 fun action member => (names.2 action member).1
  | taskFence data corrId => exact taskFence_pair pair data corrId names.1 names.2
  | taskHeartbeat data => exact taskHeartbeat_pair pair data names
  | taskGet id => exact taskGet_pair pair id names
  | taskHalt id => exact taskHalt_pair pair id names
  | taskContinue id => exact taskContinue_pair pair id names
  | promiseSearch | taskSearch | scheduleCreate | scheduleGet | scheduleDelete | scheduleSearch
  | invalid | unknown => exact names.elim

end

end Resonate
