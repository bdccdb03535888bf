import Resonate.Replies

set_option autoImplicit false

/-! Deadlines as requests observe them: a request that is not refused at once acts as if the
deadlines of the promises it names had been applied before it. -/

namespace Resonate

open Kernel

/-- A promise that is pending although its deadline has passed. -/
def PromiseRecord.Overdue (record : PromiseRecord) (now : Int) : Prop :=
  record.isPending = true ∧ record.timeoutAt ≤ now

instance (record : PromiseRecord) (now : Int) : Decidable (record.Overdue now) :=
  inferInstanceAs (Decidable (_ ∧ _))

namespace Kernel

variable {env : Env} {txn : Txn}

/-- Deadlines that have been applied are not applied again. -/
theorem tryTimeout_idem (keyed : txn.Keyed) (ids : List String) :
    tryTimeout env (tryTimeout env txn ids) ids = tryTimeout env txn ids :=
  tryTimeout_same ids _ fun id named promise stored pending =>
    tryTimeout_early ids keyed id named promise stored pending

/-- How a request treats the deadlines of the promises it names: it is refused before it reads
anything, or it acts after they have been applied, and then it settles a promise it names. -/
inductive Timed (env : Env) (txn : Txn) (request : Request) : Prop
  | refused (message : String) (same : handle env txn request = refuse txn (.err 400 message)) :
      Timed env txn request
  | applied (same : handle env (tryTimeout env txn request.named) request =
        handle env txn request)
      (settles : ∀ data, request.settlement = some data → data.id ∈ request.named) :
      Timed env txn request

theorem Timed.of_refusal {request : Request} (reply : Reply)
    (same : handle env txn request = refuse txn reply)
    (refusal : ∃ message, reply = .err 400 message) : Timed env txn request := by
  obtain ⟨message, rfl⟩ := refusal
  exact .refused message same

theorem promiseCreate_timed (keyed : txn.Keyed) (data : PromiseCreateData) :
    Timed env txn (.promiseCreate data) := by
  cases checked : validateCreate env data with
  | some reply =>
      refine .of_refusal reply ?_ (validateCreate_refusal checked)
      simp only [handle, promiseCreate, checked]
  | none =>
      refine .applied ?_ (by simp [Request.settlement])
      simp only [handle, promiseCreate, checked, Request.named, tryTimeout_idem keyed]

theorem promiseRegisterCallback_timed (keyed : txn.Keyed) (data : CallbackData) :
    Timed env txn (.promiseRegisterCallback data) := by
  cases checked : validateCallback data.awaited data.awaiter with
  | some reply =>
      refine .of_refusal reply ?_ (validateCallback_refusal checked)
      simp only [handle, promiseRegisterCallback, checked]
  | none =>
      refine .applied ?_ (by simp [Request.settlement])
      simp only [handle, promiseRegisterCallback, checked, Request.named, tryTimeout_idem keyed]

theorem promiseRegisterListener_timed (keyed : txn.Keyed) (data : ListenerData) :
    Timed env txn (.promiseRegisterListener data) := by
  by_cases valid : env.isUrl data.address = true
  · refine .applied ?_ (by simp [Request.settlement])
    simp only [handle, promiseRegisterListener, valid, not_true, if_false, Request.named,
      tryTimeout_idem keyed]
  · refine .refused "Invalid listener address" ?_
    simp only [handle, promiseRegisterListener, if_pos valid]

theorem taskCreate_timed (keyed : txn.Keyed) (data : TaskCreateData) :
    Timed env txn (.taskCreate data) := by
  by_cases kind : data.action.kind ≠ "promise.create"
  · exact .refused "Invalid action kind" (by simp only [handle, taskCreate, if_pos kind])
  by_cases process : data.pid = ""
  · exact .refused "Process ID is required" (by simp only [handle, taskCreate, if_neg kind, if_pos process])
  by_cases short : data.ttl < 1
  · exact .refused "TTL must be positive" (by simp only [handle, taskCreate, if_neg kind, if_neg process,
      if_pos short])
  cases checked : validateCreate env data.action.data with
  | some reply =>
      refine .of_refusal reply ?_ (validateCreate_refusal checked)
      simp only [handle, taskCreate, if_neg kind, if_neg process, if_neg short, checked]
  | none =>
      by_cases untargeted : data.action.data.tags[tagTarget]?.isNone = true
      · exact .refused "resonate:target tag is required" (by simp only [handle, taskCreate, if_neg kind, if_neg process,
          if_neg short, checked, if_pos untargeted])
      by_cases delayed : data.action.data.tags[tagDelay]?.isSome = true
      · exact .refused "resonate:delay tag is not allowed" (by simp only [handle, taskCreate, if_neg kind, if_neg process,
          if_neg short, checked, if_neg untargeted, if_pos delayed])
      refine .applied ?_ (by simp [Request.settlement])
      simp only [handle, taskCreate, if_neg kind, if_neg process, if_neg short, checked,
        if_neg untargeted, if_neg delayed, Request.named, tryTimeout_idem keyed]

theorem taskFulfill_timed (keyed : txn.Keyed) (data : TaskFulfillData) :
    Timed env txn (.taskFulfill data) := by
  by_cases kind : data.action.kind ≠ "promise.settle"
  · exact .refused "Invalid action kind" (by simp only [handle, taskFulfill, if_pos kind])
  by_cases own : data.action.data.id ≠ data.id
  · exact .refused "Action must settle the task's promise" (by simp only [handle, taskFulfill, if_neg kind, if_pos own])
  refine .applied ?_ ?_
  · simp only [handle, taskFulfill, if_neg kind, if_neg own, Request.named, tryTimeout_idem keyed]
  · intro settlement same
    cases same
    simpa [Request.named] using own

theorem taskSuspend_timed (keyed : txn.Keyed) (data : TaskSuspendData) :
    Timed env txn (.taskSuspend data) := by
  by_cases empty : data.actions.isEmpty = true
  · exact .refused "Actions are required" (by simp only [handle, taskSuspend, if_pos empty])
  cases checked : suspendIds data.id [] data.actions with
  | error reply =>
      refine .of_refusal reply ?_ (suspendIds_refusal checked)
      simp only [handle, taskSuspend, if_neg empty, checked]
  | ok awaitedIds =>
      refine .applied ?_ (by simp [Request.settlement])
      have listed := (suspendIds_ok data.id data.actions [] awaitedIds checked).1
      rw [List.nil_append] at listed
      have named : (Request.taskSuspend data).named = data.id :: awaitedIds := by
        rw [listed]
        rfl
      rw [named]
      simp only [handle, taskSuspend, if_neg empty, checked, tryTimeout_idem keyed]

theorem taskFence_timed (keyed : txn.Keyed) (data : TaskFenceData) (corrId : String) :
    Timed env txn (.taskFence data corrId) := by
  cases named : data.action.data.id with
  | none => exact .refused "Action promise ID is required" (by simp only [handle, taskFence, named])
  | some actionId =>
      by_cases own : actionId = data.id
      · exact .refused "Action promise must differ from the task's promise" (by simp only [handle, taskFence, named, if_pos own])
      by_cases foreign : originOf actionId ≠ originOf data.id
      · exact .refused "Action must belong to the task's origin" (by simp only [handle, taskFence, named, if_neg own,
          if_pos foreign])
      refine .applied ?_ ?_
      · simp only [handle, taskFence, named, if_neg own, if_neg foreign, Request.named,
          Option.toList_some, tryTimeout_idem keyed]
      · intro settlement same
        simp only [Request.settlement] at same
        split at same
        · cases settle : data.action.data.settle with
          | error message =>
              rw [settle] at same
              cases same
          | ok decoded =>
              rw [settle] at same
              cases same
              have read := data.action.data.settle_id _ settle
              simp [Request.named, read]
        · cases same

theorem handle_timed (keyed : txn.Keyed) (request : Request) : Timed env txn request := by
  cases request with
  | promiseCreate data => exact promiseCreate_timed keyed data
  | promiseRegisterCallback data => exact promiseRegisterCallback_timed keyed data
  | promiseRegisterListener data => exact promiseRegisterListener_timed keyed data
  | taskCreate data => exact taskCreate_timed keyed data
  | taskFulfill data => exact taskFulfill_timed keyed data
  | taskSuspend data => exact taskSuspend_timed keyed data
  | taskFence data corrId => exact taskFence_timed keyed data corrId
  | promiseSettle data =>
      refine .applied ?_ ?_
      · simp only [handle, promiseSettle, Request.named, tryTimeout_idem keyed]
      · intro settlement same
        cases same
        simp [Request.named]
  | promiseGet id | taskAcquire data | taskRelease data | taskGet id | taskHalt id
  | taskContinue id =>
      refine .applied ?_ (by simp [Request.settlement])
      simp only [handle, promiseGet, taskAcquire, taskRelease, taskGet, taskHalt, taskContinue,
        Request.named, tryTimeout_idem keyed]
  | promiseSearch data | taskHeartbeat data | taskSearch data | scheduleCreate data
  | scheduleGet id | scheduleDelete id | scheduleSearch data | invalid message | unknown kind =>
      exact .applied rfl (by simp [Request.settlement])

end Kernel

theorem Request.creation_named (request : Request) {data : PromiseCreateData} {mode : CreateMode}
    (asked : request.creation = some (data, mode)) : data.id ∈ request.named := by
  cases request with
  | promiseCreate create =>
      cases asked
      simp [Request.named]
  | taskCreate create =>
      cases asked
      simp [Request.named]
  | taskFence fence corrId =>
      simp only [Request.creation] at asked
      split at asked
      · cases create : fence.action.data.create with
        | error message =>
            rw [create] at asked
            cases asked
        | ok decoded =>
            rw [create] at asked
            cases asked
            have read := fence.action.data.create_id _ create
            simp [Request.named, read]
      · cases asked
  | _ => cases asked

theorem Request.callbacks_named (request : Request) {awaited awaiter : String}
    (asked : (awaited, awaiter) ∈ request.callbacks) : awaited ∈ request.named := by
  cases request with
  | promiseRegisterCallback data =>
      cases List.mem_singleton.mp asked
      simp [Request.named]
  | taskSuspend data =>
      obtain ⟨action, member, same⟩ := List.mem_map.mp asked
      cases same
      exact List.mem_cons_of_mem _ (List.mem_map_of_mem member)
  | _ => cases asked

/-- A created promise is not overdue. -/
theorem newPromise_prompt (data : PromiseCreateData) (createdAt : Option Int) (now : Int) :
    ¬ (newPromise data createdAt now).record.Overdue now := by
  intro overdue
  have ahead := overdue.1
  rw [newPromise_pending, decide_eq_true_eq] at ahead
  have late := overdue.2
  rw [newPromise_timeoutAt] at late
  omega

theorem lapsed_prompt (now : Int) (promise : StoredPromise) :
    ¬ (lapsed now promise).record.Overdue now := by
  intro overdue
  obtain ⟨same, early⟩ := lapsed_early now promise overdue.1
  have late := overdue.2
  rw [same] at late
  omega

theorem lapsed_pending_iff (now : Int) (promise : StoredPromise) :
    (lapsed now promise).record.isPending = true ↔
      promise.record.isPending = true ∧ now < promise.record.timeoutAt := by
  constructor
  · intro pending
    obtain ⟨same, early⟩ := lapsed_early now promise pending
    rw [same] at pending
    exact ⟨pending, early⟩
  · intro ⟨pending, early⟩
    unfold lapsed
    rw [if_neg (by omega)]
    exact pending

theorem lapsed_tags (now : Int) (promise : StoredPromise) :
    (lapsed now promise).record.tags = promise.record.tags := by
  unfold lapsed
  split <;> rfl

/-! ## What a move does to a promise -/

/-- What a move made at `now` does to the promise under `id`. -/
inductive PromiseChange (now : Int) (id : String) (label : Label) :
    Option StoredPromise → Option StoredPromise → Prop
  | kept (promise : Option StoredPromise) : PromiseChange now id label promise promise
  | settled (promise final : StoredPromise) (settles : label.settles now = some (promise, final))
      (own : promise.record.id = id) (pending : promise.record.isPending = true)
      (timely : label.Timely now) : PromiseChange now id label (some promise) (some final.cleared)
  | created (data : PromiseCreateData) (createdAt : Option Int) (mode : CreateMode)
      (creates : label = .create data createdAt mode) (own : data.id = id) :
      PromiseChange now id label none (some (newPromise data createdAt now))
  | registered (awaited : StoredPromise) (awaiter : String)
      (registers : label = .register awaited awaiter) (own : awaited.record.id = id)
      (pending : awaited.record.isPending = true) (external : awaited.record.isExternal = true) :
      PromiseChange now id label (some awaited)
        (some { awaited with callbacks := awaited.callbacks ++ [awaiter] })
  | listened (awaited : StoredPromise) (address : String)
      (listens : label = .listen awaited address) (own : awaited.record.id = id)
      (pending : awaited.record.isPending = true) (external : awaited.record.isExternal = true) :
      PromiseChange now id label (some awaited)
        (some { awaited with listeners := awaited.listeners ++ [address] })

section

variable {env : Env} {now : Int} {id : String} {label : Label} {before after : Cell}

theorem Change.promise (change : Change env now id label before after) :
    PromiseChange now id label before.promise after.promise := by
  cases change with
  | settled label promise final task settles own pending timely =>
      exact .settled promise final settles own pending timely
  | woken label promise final awaiter task job settles other listed pending early =>
      exact .kept (some awaiter)
  | spared label promise final cell settles other asleep => exact .kept _
  | created data createdAt mode task job own => exact .created data createdAt mode rfl own
  | registered awaited awaiter task own pending external valid unlisted =>
      exact .registered awaited awaiter rfl own pending external
  | listened awaited address task own pending external unlisted =>
      exact .listened awaited address rfl own pending external
  | resumed awaited awaiter task job pending early => exact .kept (some awaiter)
  | moved label promise old new own move => exact .kept promise
  | same label cell unsettling apart => exact .kept _

namespace PromiseChange

variable {first second : Option StoredPromise}

/-- No move makes a promise overdue. -/
theorem prompt (change : PromiseChange now id label first second)
    (prompt : ∀ promise ∈ first, ¬ promise.record.Overdue now) :
    ∀ promise ∈ second, ¬ promise.record.Overdue now := by
  cases change with
  | kept promise => exact prompt
  | settled promise final settles own pending timely =>
      intro other member overdue
      cases member
      have settled := (Label.settles_final settles).1
      have open_ : final.record.isPending = true := overdue.1
      rw [settled] at open_
      cases open_
  | created data createdAt mode creates own =>
      intro other member overdue
      cases member
      exact newPromise_prompt data createdAt now overdue
  | registered awaited awaiter registers own pending external =>
      intro other member overdue
      cases member
      exact prompt awaited rfl overdue
  | listened awaited address listens own pending external =>
      intro other member overdue
      cases member
      exact prompt awaited rfl overdue

/-- A request changes no promise it does not name, when it settles one it names. -/
theorem unnamed {request : Request} (change : PromiseChange now id label first second)
    (permitted : request.permits label)
    (settles : ∀ data, request.settlement = some data → data.id ∈ request.named)
    (apart : id ∉ request.named) : second = first := by
  cases change with
  | kept promise => rfl
  | settled promise final settled own pending timely =>
      refine absurd ?_ apart
      rw [← own]
      cases label with
      | expire expired =>
          cases settled
          exact permitted
      | strike expired => exact permitted.elim
      | settle closed state value =>
          cases settled
          exact settles _ permitted
      | _ => cases settled
  | created data createdAt mode creates own =>
      subst creates
      exact absurd (own ▸ request.creation_named permitted.2) apart
  | registered awaited awaiter registers own pending external =>
      subst registers
      exact absurd (own ▸ request.callbacks_named permitted) apart
  | listened awaited address listens own pending external =>
      refine absurd ?_ apart
      subst listens
      cases permitted
      simp [Request.named, own]

end PromiseChange

end

/-! ## What a request leaves of the promises -/

/-- A request over deadlines that have been applied is a trail of moves it permits. -/
theorem Outcome.applied_trail {env : Env} {txn next : Txn} {request : Request}
    (outcome : Outcome env request txn next)
    (applied : tryTimeout env txn request.named = txn) : Trail env request.permits txn next := by
  cases outcome with
  | refused => exact .refl txn
  | applied trail =>
      rw [applied] at trail
      exact trail

namespace Kernel

variable {env : Env} {txn : Txn} {request : Request}

/-- What a request does after the deadlines of the promises it names. -/
structure Settles (env : Env) (txn : Txn) (request : Request) (next : Txn) : Prop where
  trail : Trail env request.permits (tryTimeout env txn request.named) next
  settles : ∀ data, request.settlement = some data → data.id ∈ request.named

/-- A request that is not refused at once applies the deadlines of the promises it names first. -/
theorem handle_settles (keyed : txn.Keyed) (request : Request) :
    (∃ message, handle env txn request = refuse txn (.err 400 message)) ∨
      Settles env txn request (handle env txn request).txn := by
  cases (handle_timed keyed request : Timed env txn request) with
  | refused message same => exact .inl ⟨message, same⟩
  | applied same settles =>
      have outcome := handle_outcome env (tryTimeout_keyed env request.named keyed) request
      rw [same] at outcome
      exact .inr ⟨outcome.applied_trail (tryTimeout_idem keyed request.named), settles⟩

namespace Settles

variable {next : Txn}

theorem whole (settles : Settles env txn request next) (keyed : txn.Keyed) :
    Trail env request.permits txn next :=
  (tryTimeout_trail request.named keyed fun _ member => member).trans settles.trail

/-- No promise the request names is left overdue. -/
theorem prompt (settles : Settles env txn request next) (keyed : txn.Keyed) {id : String}
    (named : id ∈ request.named) :
    ∀ promise ∈ next.getPromise id, ¬ promise.record.Overdue txn.now := by
  have timed := tryTimeout_keyed env request.named keyed
  have now := (tryTimeout_buffers env request.named txn).now
  have cells := settles.trail.cells timed id
  rw [now] at cells
  refine cells.preserves (fun cell => ∀ promise ∈ cell.promise, ¬ promise.record.Overdue txn.now)
    ?_ fun label before after _ change held => change.promise.prompt held
  intro promise stored overdue
  have early := tryTimeout_early request.named keyed id named promise stored overdue.1
  have late := overdue.2
  omega

/-- Every promise the request does not name is left as it was. -/
theorem unnamed (settles : Settles env txn request next) (keyed : txn.Keyed) {id : String}
    (apart : id ∉ request.named) : next.getPromise id = txn.getPromise id :=
  ((settles.whole keyed).cells keyed id).respects
    (fun first second => second.promise = first.promise) (fun _ => rfl)
    (fun _ _ _ first second => second.trans first)
    fun _ _ _ permitted change => change.promise.unnamed permitted settles.settles apart

end Settles

end Kernel

end Resonate
