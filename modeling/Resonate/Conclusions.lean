import Resonate.Coupling

set_option autoImplicit false

/-! How a request ends: without an acknowledgement, with the acknowledgement of a fulfilled task's
claim, or with that of a task put to sleep by the last move. -/

namespace Resonate

open Kernel

/-- The moves a request permits before a suspension. -/
def Request.awake (request : Request) (label : Label) : Prop :=
  request.permits label ∧ ¬ label.Suspends

/-- What a request comes to. -/
inductive Handled (env : Env) (request : Request) (txn : Txn) : Response → Prop
  | plain (response : Response) (exit : response.exit.Plain)
      (trail : Trail env request.awake txn response.txn) : Handled env request txn response
  | fulfilled (response : Response) (id : String) (promise : StoredPromise)
      (exit : response.exit = .commitAck id) (trail : Trail env request.awake txn response.txn)
      (stored : response.txn.getPromise id = some promise)
      (settled : promise.record.isPending = false) : Handled env request txn response
  | asleep (earlier next : Txn) (task : StoredTask) (awaited : List String) (reply : Reply)
      (trail : Trail env request.awake txn earlier)
      (permitted : request.permits (.suspend task awaited))
      (move : Move env earlier (.suspend task awaited) next) :
      Handled env request txn ⟨next, .commitAck task.id, reply⟩

section

variable {env : Env} {txn : Txn}

/-- Only a suspend puts a task to sleep. -/
theorem Request.awake_of_permits {request : Request} {label : Label}
    (other : ∀ data, request ≠ .taskSuspend data) (permitted : request.permits label) :
    request.awake label := by
  refine ⟨permitted, ?_⟩
  intro suspends
  cases label with
  | suspend task awaited =>
      obtain ⟨data, same, _⟩ := permitted
      exact other data same
  | _ => exact suspends

theorem Kernel.Exit.plain_of_ne {exit : Exit} (returned : exit ≠ .panic)
    (unacked : ∀ id, exit ≠ .commitAck id) : exit.Plain := by
  cases exit with
  | drop => trivial
  | commit => trivial
  | commitAck id => exact absurd rfl (unacked id)
  | panic => exact absurd rfl returned

theorem taskSuspend_handled (keyed : txn.Keyed) (coupled : ∀ id, Coupled (txn.cell id))
    (data : TaskSuspendData) :
    Handled env (.taskSuspend data) txn (taskSuspend env txn data) := by
  have returned := taskSuspend_exit env keyed coupled data
  have suspension := taskSuspend_cases env keyed data
  have timeouts : Trail env (Request.taskSuspend data).awake txn
      (tryTimeout env txn (Request.taskSuspend data).named) :=
    tryTimeout_trail _ keyed fun promise member => ⟨member, nofun⟩
  generalize taskSuspend env txn data = response at returned suspension
  cases suspension with
  | refused reply => exact .plain _ trivial (.refl txn)
  | awake response exit trail =>
      exact .plain response (Exit.plain_of_ne returned exit) (timeouts.trans trail)
  | asleep earlier next task awaited reply own trail permitted move =>
      rw [← own]
      exact .asleep earlier next task awaited reply (timeouts.trans trail) permitted move

/-- Every request ends in one of the listed ways. -/
theorem handle_cases (env : Env) (keyed : txn.Keyed) (coupled : ∀ id, Coupled (txn.cell id))
    (request : Request) : Handled env request txn (handle env txn request) := by
  by_cases suspends : ∃ data, request = .taskSuspend data
  · obtain ⟨data, rfl⟩ := suspends
    exact taskSuspend_handled keyed coupled data
  · have trail : Trail env request.awake txn (handle env txn request).txn :=
      ((handle_outcome env keyed request).trail keyed).mono fun label permitted =>
        request.awake_of_permits (fun data same => suspends ⟨data, same⟩) permitted
    rcases handle_exits env keyed coupled request with
      plain | ⟨returned, ⟨data, rfl⟩ | slept⟩
    · exact .plain _ plain trail
    · cases exit : (taskFulfill env txn data).exit with
      | drop => exact .plain _ (by rw [handle, exit]; trivial) trail
      | commit => exact .plain _ (by rw [handle, exit]; trivial) trail
      | commitAck id =>
          obtain ⟨promise, stored, settled⟩ := taskFulfill_settles keyed data id exit
          exact .fulfilled _ id promise exit trail stored settled
      | panic => exact absurd exit returned
    · exact absurd slept suspends

end

end Resonate
