import Resonate.Acquisitions
import Resonate.Fencing

set_option autoImplicit false

/-! A fenced action is the plain request: while the task is held at the version of the fence, the store
goes on as from the request of the action, and the reply of the fence carries that of the request. -/

namespace Resonate

open Kernel

/-- The plain request of a fenced action. -/
def Action.plain (action : Action ActionValue) : Option Request :=
  if action.kind = "promise.create" then
    match action.data.create with
    | .ok data => some (.promiseCreate data)
    | .error _ => none
  else if action.kind = "promise.settle" then
    match action.data.settle with
    | .ok data => some (.promiseSettle data)
    | .error _ => none
  else none

/-- The inner status and data of a fence are those of the reply. -/
inductive Answers : Nat → PromiseRecord ⊕ String → Reply → Prop
  | promise (record : PromiseRecord) : Answers 200 (.inl record) (.ok 200 (.promise record))
  | missing (message : String) : Answers 404 (.inr message) (.err 404 message)

/-- The reply of a fence carries that of its action, beside the siblings of the task's promise. -/
def Nests (kind corrId : String) (plain fenced : Reply) : Prop :=
  ∃ status inner preload, Answers status inner plain ∧
    fenced = .ok 200 (.fenced ⟨kind, corrId, status, protocolVersion, inner⟩ preload)

/-- The task of a fence is held at its version, before the deadline of its promise, and the action names
another promise of its origin. -/
structure Fences (txn : Txn) (data : TaskFenceData) (actionId : String) : Prop where
  held : ∃ task, txn.getTask data.id = some task ∧ task.isAcquiredAt data.version = true
  opened : txn.isOpen data.id = true
  named : data.action.data.id = some actionId
  other : actionId ≠ data.id
  origin : originOf actionId = originOf data.id

section

variable {env : Env} {txn : Txn} {data : TaskFenceData} {actionId : String}

theorem tryTimeout_cons_opened (opened : txn.isOpen data.id = true) (ids : List String) :
    tryTimeout env txn (data.id :: ids) = tryTimeout env txn ids := by
  have alone : tryTimeout env txn [data.id] = txn :=
    tryTimeout_opened [data.id] fun other member => List.mem_singleton.mp member ▸ opened
  unfold tryTimeout at alone ⊢
  rw [List.foldl_cons]
  exact congrArg (fun next => ids.foldl (timeoutOne env) next) alone

theorem plain_cases {action : Action ActionValue} {plain : Request}
    (performs : action.plain = some plain) :
    (∃ create, action.kind = "promise.create" ∧ action.data.create = .ok create ∧
      plain = .promiseCreate create) ∨
    ∃ settled, action.kind = "promise.settle" ∧ action.data.settle = .ok settled ∧
      plain = .promiseSettle settled := by
  unfold Action.plain at performs
  split at performs
  · rename_i kind
    cases decoded : action.data.create with
    | error message =>
        rw [decoded] at performs
        cases performs
    | ok create =>
        rw [decoded] at performs
        cases performs
        exact .inl ⟨create, kind, rfl, rfl⟩
  · split at performs
    · rename_i kind
      cases decoded : action.data.settle with
      | error message =>
          rw [decoded] at performs
          cases performs
      | ok settled =>
          rw [decoded] at performs
          cases performs
          exact .inr ⟨settled, kind, rfl, rfl⟩
    · cases performs

/-- The refusal of what the request creates. -/
def Request.refusal (env : Env) : Request → Option Reply
  | .promiseCreate create => validateCreate env create
  | _ => none

/-- After the deadline of its promise, an action does what its plain request does. -/
theorem fenceAction_plain {action : Action ActionValue} {plain : Request}
    (performs : action.plain = some plain) (named : action.data.id = some actionId)
    (valid : plain.refusal env = none) :
    ∃ next status inner reply,
      fenceAction env (tryTimeout env txn [actionId]) action = .ok (next, status, inner) ∧
      handle env txn plain = done next reply ∧ Answers status inner reply := by
  rcases plain_cases performs with ⟨create, kind, decoded, rfl⟩ | ⟨settled, kind, decoded, rfl⟩
  · have own : create.id = actionId :=
      Option.some.inj ((action.data.create_id create decoded).symm.trans named)
    have passed : validateCreate env create = none := valid
    unfold fenceAction handle promiseCreate
    rw [if_pos kind, decoded]
    dsimp only
    rw [passed, own]
    dsimp only
    cases stored : (tryTimeout env txn [actionId]).getPromise actionId with
    | some existing => exact ⟨_, _, _, _, rfl, rfl, .promise existing.record⟩
    | none => exact ⟨_, _, _, _, rfl, rfl, .promise _⟩
  · have own : settled.id = actionId :=
      Option.some.inj ((action.data.settle_id settled decoded).symm.trans named)
    have other : ¬ action.kind = "promise.create" := by
      rw [kind]
      decide
    unfold fenceAction handle promiseSettle
    rw [if_neg other, if_pos kind, decoded]
    dsimp only
    rw [own]
    cases stored : (tryTimeout env txn [actionId]).getPromise actionId with
    | none => exact ⟨_, _, _, _, rfl, rfl, .missing _⟩
    | some promise =>
        dsimp only
        split
        · exact ⟨_, _, _, _, rfl, rfl, .promise _⟩
        · exact ⟨_, _, _, _, rfl, rfl, .promise promise.record⟩

/-- The deadline of another promise leaves the task of the fence with its holder. -/
theorem Fences.held_after (fences : Fences txn data actionId) (keyed : txn.Keyed)
    (coupled : ∀ id, Coupled (txn.cell id)) :
    ∃ task, (tryTimeout env txn [actionId]).getTask data.id = some task ∧
      task.isAcquiredAt data.version = true := by
  obtain ⟨task, stored, acquired⟩ := fences.held
  obtain ⟨promise, promised, pending, _⟩ := (txn.isOpen_iff data.id).mp fences.opened
  obtain ⟨advance, carries, carried⟩ := tryTimeout_task env [actionId] keyed data.id
  have kept : (tryTimeout env txn [actionId]).getPromise data.id = some promise := by
    rw [getPromise_tryTimeout [actionId] keyed, if_neg, promised]
    exact fun member => fences.other (List.mem_singleton.mp member).symm
  rw [stored] at carried
  have unfulfilled : (advance task).state ≠ .fulfilled :=
    ((tryTimeout_coupled env [actionId] keyed coupled data.id).pending promise (advance task)
      kept carried).mp pending
  have held : task.state = .acquired ∧ task.version = data.version := by
    simpa [StoredTask.isAcquiredAt] using acquired
  refine ⟨advance task, carried, ?_⟩
  have still : (advance task).state = .acquired :=
    ((carries task).held held.1).resolve_right unfulfilled
  simp [StoredTask.isAcquiredAt, still, (carries task).version, held.2]

/-- A fence on a held task leaves what its plain request leaves, and nests its reply. -/
theorem taskFence_plain {plain : Request} (corrId : String) (keyed : txn.Keyed)
    (coupled : ∀ id, Coupled (txn.cell id)) (fences : Fences txn data actionId)
    (performs : data.action.plain = some plain) (valid : plain.refusal env = none) :
    ∃ next reply nesting, handle env txn plain = done next reply ∧
      handle env txn (.taskFence data corrId) = done next nesting ∧
      Nests data.action.kind corrId reply nesting := by
  obtain ⟨next, status, inner, reply, acted, handled, answers⟩ :=
    fenceAction_plain performs fences.named valid
  obtain ⟨task, stored, acquired⟩ := fences.held_after keyed coupled
  obtain ⟨own, present⟩ := fenceAction_promise data.action next status inner data.id acted
    ((tryTimeout_coupled env [actionId] keyed coupled data.id).promise_of_task stored)
  refine ⟨next, reply, _, handled, ?_, status, inner, next.preload own.record, answers, rfl⟩
  change taskFence env txn data corrId = _
  unfold taskFence
  rw [fences.named]
  dsimp only
  rw [if_neg fences.other, if_neg (not_not.mpr fences.origin),
    tryTimeout_cons_opened fences.opened, stored]
  dsimp only
  rw [if_neg (not_not.mpr acquired), acted]
  dsimp only
  rw [present]
  rfl

/-- A fence on a held task is refused as what it creates is refused. -/
theorem taskFence_refused {plain : Request} {reply : Reply} (corrId : String) (keyed : txn.Keyed)
    (coupled : ∀ id, Coupled (txn.cell id)) (fences : Fences txn data actionId)
    (performs : data.action.plain = some plain) (refused : plain.refusal env = some reply) :
    handle env txn plain = refuse txn reply ∧
      ∃ next, handle env txn (.taskFence data corrId) = refuse next reply := by
  rcases plain_cases performs with ⟨create, kind, decoded, rfl⟩ | ⟨settled, kind, decoded, rfl⟩
  · have failed : validateCreate env create = some reply := refused
    obtain ⟨task, stored, acquired⟩ := fences.held_after keyed coupled
    refine ⟨?_, tryTimeout env txn [actionId], ?_⟩
    · change promiseCreate env txn create = _
      unfold promiseCreate
      rw [failed]
    · change taskFence env txn data corrId = _
      unfold taskFence
      rw [fences.named]
      dsimp only
      rw [if_neg fences.other, if_neg (not_not.mpr fences.origin),
        tryTimeout_cons_opened fences.opened, stored]
      dsimp only
      rw [if_neg (not_not.mpr acquired)]
      unfold fenceAction
      rw [if_pos kind, decoded]
      dsimp only
      rw [failed]
  · cases refused

/-- While the task of a fence is held at its version, the store goes on as from the plain request
of the action, and the reply nests that of this request; what the action may not create is
refused by both alike. -/
theorem fence_agrees {system : System} {plain : Request} (reached : Reachable env system)
    (corrId : String) (fences : Fences (system.txn env) data actionId)
    (performs : data.action.plain = some plain) :
    (plain.refusal env = none →
      (∀ stored, step env system (.request (.taskFence data corrId) stored) =
        step env system (.request plain stored)) ∧
      Nests data.action.kind corrId (answer env system plain true)
        (answer env system (.taskFence data corrId) true)) ∧
    ∀ reply stored, plain.refusal env = some reply →
      answer env system plain stored = reply ∧
        answer env system (.taskFence data corrId) stored = reply := by
  have keyed : (system.txn env).Keyed := Reachable.keyed reached
  have coupled (id : String) : Coupled ((system.txn env).cell id) := Reachable.coupled reached id
  constructor
  · intro valid
    obtain ⟨next, reply, nesting, handled, fenced, nests⟩ :=
      taskFence_plain corrId keyed coupled fences performs valid
    constructor
    · intro stored
      change stepRequest env system _ stored = stepRequest env system _ stored
      unfold stepRequest
      rw [handled, fenced]
      cases stored <;> rfl
    · unfold answer
      rw [handled, fenced]
      exact nests
  · intro reply stored refused
    obtain ⟨handled, next, fenced⟩ := taskFence_refused corrId keyed coupled fences performs refused
    unfold answer
    rw [handled, fenced]
    exact ⟨rfl, rfl⟩

end

/-- A fence of the first task that creates a promise. -/
def TaskFenceData.sample : TaskFenceData where
  id := "root"
  version := 1
  action :=
    { kind := "promise.create"
      data :=
        { id := some "root:0"
          create := .ok .awaitedSample
          settle := .error "missing field state"
          create_id := by
            intro data decoded
            cases decoded
            rfl
          settle_id := by nofun } }

theorem fences_acquired : Fences (acquiredTrace.2.txn .sample) .sample "root:0" where
  held := by decide
  opened := by decide
  named := rfl
  other := by decide
  origin := by decide

/-- The fence creates the promise as the plain request does, and nests its reply. -/
theorem fence_agrees_acquired :
    step .sample acquiredTrace.2 (.request (.taskFence .sample "c1") true) =
      step .sample acquiredTrace.2 (.request (.promiseCreate .awaitedSample) true) ∧
    (step .sample acquiredTrace.2 (.request (.taskFence .sample "c1") true)).any
      (fun after => (after.promise "root:0").isSome && (acquiredTrace.2.promise "root:0").isNone) =
        true ∧
    Nests "promise.create" "c1"
      (answer .sample acquiredTrace.2 (.promiseCreate .awaitedSample) true)
      (answer .sample acquiredTrace.2 (.taskFence .sample "c1") true) := by
  obtain ⟨steps, nests⟩ := (fence_agrees acquired_reachable "c1" fences_acquired rfl).1 (by decide)
  exact ⟨steps true, by decide, nests⟩

end Resonate
