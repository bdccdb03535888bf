import Resonate.Punctual
import Resonate.Refusals
import Resonate.Confluence

set_option autoImplicit false

/-! A request applied again to the store it left: the same reply, and nothing changes. -/

namespace Resonate

open Kernel
open LeaseQueue (Queue Job EnqueueRequest)

/-- `second` starts from a store that holds what `first` reads. -/
structure Rereads (first second : Txn) : Prop where
  promise : second.getPromise = first.getPromise
  task : second.getTask = first.getTask
  schedule : second.getSchedule = first.getSchedule
  now : second.now = first.now
  preload : ∀ promise, second.preload promise = first.preload promise
  writes : second.writes = .empty
  enqueues : second.enqueues = []
  after : second.after = []

/-- What the store holds after a response: what the transaction wrote, unless it is dropped. -/
def Kernel.Response.left (response : Response) (txn : Txn) : Txn :=
  if response.exit = .drop then txn else response.txn

/-- A response that leaves the store, its jobs and the claims as they were. -/
structure Idle (txn : Txn) (response : Response) : Prop where
  kv : (conclude response true).1.kv = txn.kv
  jobs : (conclude response true).1.queue.jobs = txn.queue.jobs
  held : (conclude response true).1.held = txn.held
  after : (conclude response true).1.after = []
  log : (conclude response true).1.jobs = []
  reply : (conclude response true).2 = response.reply

/-- A request gets this reply from `txn` and changes nothing. -/
structure Repeats (env : Env) (txn : Txn) (request : Request) (reply : Reply) : Prop where
  idle : Idle txn (handle env txn request)
  same : (handle env txn request).reply = reply

section

variable {env : Env} {txn first second : Txn} {request : Request} {reply : Reply}

theorem Repeats.refused {next : Txn} (same : handle env second request = refuse next reply)
    (buffers : Txn.Buffers second next) : Repeats env second request reply := by
  rw [show reply = (refuse next reply).reply from rfl, ← same]
  refine ⟨?_, rfl⟩
  rw [same]
  exact ⟨buffers.kv, buffers.jobs, buffers.held, rfl, rfl, rfl⟩

theorem Rereads.committed (rereads : Rereads first second) :
    second.kv.apply second.writes = second.kv := by
  rw [rereads.writes]
  exact Kv.apply_empty second.kv

/-- A commit of nothing leaves everything as it was. -/
theorem Repeats.done (rereads : Rereads first second)
    (same : handle env second request = done second reply) : Repeats env second request reply := by
  refine ⟨?_, by rw [same]; rfl⟩
  rw [same]
  refine ⟨rereads.committed, ?_, rfl, rereads.after, ?_, rfl⟩
  · change (second.queue.enqueue second.enqueues).2.jobs = _
    rw [rereads.enqueues]
    rfl
  · change (second.queue.enqueue second.enqueues).1 = _
    rw [rereads.enqueues]
    rfl

/-- Nor does a commit of a task as it is stored. -/
theorem Repeats.rewritten (rereads : Rereads first second) {task : StoredTask}
    (stored : second.getTask task.id = some task)
    (same : handle env second request = Kernel.done (second.putTask task) reply) :
    Repeats env second request reply := by
  refine ⟨?_, by rw [same]; rfl⟩
  have written := rereads.writes
  rw [same]
  refine ⟨?_, ?_, rfl, rereads.after, ?_, rfl⟩
  · have empty (id : String) : second.getTask id = second.kv.tasks[id]? := by
      unfold Txn.getTask
      rw [written]
      exact Table.read_empty _ _
    apply Txn.kv_unchanged
    · intro id
      change Table.read second.kv.promises second.writes.promises id = _
      rw [written]
      exact Table.read_empty _ _
    · intro id
      change (second.putTask task).getTask id = _
      change _ = second.kv.tasks[id]?
      rw [Txn.getTask_putTask, ← empty]
      split
      · rename_i own
        rw [← own, stored]
      · rfl
    · intro id
      change Table.read second.kv.schedules second.writes.schedules id = _
      rw [written]
      exact Table.read_empty _ _
    · intro key
      change Table.read second.kv.branches second.writes.branches key = _
      rw [written]
      exact Table.read_empty _ _
  · change (second.queue.enqueue second.enqueues).2.jobs = _
    rw [rereads.enqueues]
    rfl
  · change (second.queue.enqueue second.enqueues).1 = _
    rw [rereads.enqueues]
    rfl

/-- The deadlines a committed request applied are not applied again. -/
theorem Rereads.timed (rereads : Rereads (handle env txn request).txn second)
    (keyed : txn.Keyed) (committed : (handle env txn request).exit ≠ .drop) :
    tryTimeout env second request.named = second := by
  rcases (handle_settles keyed request : _ ∨ Settles env txn request _) with
    ⟨message, refused⟩ | settles
  · rw [refused] at committed
    exact absurd rfl committed
  · have still : (handle env txn request).txn.now = txn.now := (settles.whole keyed).fixed.now
    apply tryTimeout_same
    intro id named promise found pending
    rw [rereads.promise] at found
    rw [rereads.now, still]
    have prompt := settles.prompt keyed named promise found
    by_contra late
    exact prompt ⟨pending, by omega⟩

/-- A request that was dropped unchanged is dropped again. -/
theorem Repeats.dropped (first : handle env txn request = refuse txn reply)
    (rereads : Rereads ((handle env txn request).left txn) second)
    (again : Rereads txn second → handle env second request = refuse second reply) :
    Repeats env second request (handle env txn request).reply := by
  have left : (handle env txn request).left txn = txn := by simp [first, Response.left, refuse]
  rw [left] at rereads
  rw [first]
  exact .refused (again rereads) (.refl second)

/-- A request that was committed commits nothing the second time. -/
theorem Repeats.answered {next : Txn} (keyed : txn.Keyed)
    (first : handle env txn request = Kernel.done next reply)
    (rereads : Rereads ((handle env txn request).left txn) second)
    (again : Rereads next second → tryTimeout env second request.named = second →
      handle env second request = Kernel.done second reply) :
    Repeats env second request (handle env txn request).reply := by
  have left : (handle env txn request).left txn = next := by
    simp [first, Response.left, Kernel.done]
  have same : (handle env txn request).txn = next := by simp [first, Kernel.done]
  rw [left] at rereads
  have timed : tryTimeout env second request.named = second := by
    rw [← same] at rereads
    exact rereads.timed keyed (by simp [first, Kernel.done])
  rw [first]
  exact .done rereads (again rereads timed)

/-! ## Handlers -/

theorem promiseCreate_repeats (keyed : txn.Keyed) (data : PromiseCreateData)
    (rereads : Rereads ((handle env txn (.promiseCreate data)).left txn) second) :
    Repeats env second (.promiseCreate data) (handle env txn (.promiseCreate data)).reply := by
  cases checked : validateCreate env data with
  | some reply =>
      have first : handle env txn (.promiseCreate data) = refuse txn reply := by
        simp only [handle, promiseCreate, checked]
      apply Repeats.dropped first rereads
      intro _
      simp only [handle, promiseCreate, checked]
  | none =>
      cases found : (tryTimeout env txn [data.id]).getPromise data.id with
      | some existing =>
          have first : handle env txn (.promiseCreate data) =
              done (tryTimeout env txn [data.id]) (ok (.promise existing.record)) := by
            simp only [handle, promiseCreate, checked, found]
          apply Repeats.answered keyed first rereads
          intro rereads timed
          rw [Request.named] at timed
          simp only [handle, promiseCreate, checked, timed, rereads.promise, found]
      | none =>
          have first : handle env txn (.promiseCreate data) =
              done (createPromise env (tryTimeout env txn [data.id]) data none .dispatch).1
                (ok (.promise (newPromise data none (tryTimeout env txn [data.id]).now).record)) := by
            simp only [handle, promiseCreate, checked, found]
            rw [createPromise_eq]
          apply Repeats.answered keyed first rereads
          intro rereads timed
          rw [Request.named] at timed
          simp only [handle, promiseCreate, checked, timed, rereads.promise,
            getPromise_createPromise, if_true]

theorem promiseSettle_repeats (keyed : txn.Keyed) (data : PromiseSettleData)
    (rereads : Rereads ((handle env txn (.promiseSettle data)).left txn) second) :
    Repeats env second (.promiseSettle data) (handle env txn (.promiseSettle data)).reply := by
  cases found : (tryTimeout env txn [data.id]).getPromise data.id with
  | none =>
      have first : handle env txn (.promiseSettle data) = done (tryTimeout env txn [data.id])
          (.err 404 "Promise not found") := by
        simp only [handle, promiseSettle, found]
      apply Repeats.answered keyed first rereads
      intro rereads timed
      rw [Request.named] at timed
      simp only [handle, promiseSettle, timed, rereads.promise, found]
  | some promise =>
      have own := (tryTimeout_keyed env [data.id] keyed).promise _ _ found
      cases pending : promise.record.isPending with
      | false =>
          have first : handle env txn (.promiseSettle data) = done (tryTimeout env txn [data.id])
              (ok (.promise promise.record)) := by
            simp [handle, promiseSettle, found, pending]
          apply Repeats.answered keyed first rereads
          intro rereads timed
          rw [Request.named] at timed
          simp [handle, promiseSettle, timed, rereads.promise, found, pending]
      | true =>
          generalize final : settledPromise promise data.state data.value
            (tryTimeout env txn [data.id]).now = settled
          have closed : settled.cleared.record.isPending = false := by
            rw [← final]
            exact settledPromise_settled _ _ _ _
          have named : settled.record.id = data.id := by
            rw [← final]
            exact own
          have first : handle env txn (.promiseSettle data) =
              done (settleChain env (tryTimeout env txn [data.id]) settled).1
                (ok (.promise settled.cleared.record)) := by
            simp only [handle, promiseSettle, found, pending, if_true, settle_eq, final,
              settleChain_promise]
          apply Repeats.answered keyed first rereads
          intro rereads timed
          rw [Request.named] at timed
          have stored : second.getPromise data.id = some settled.cleared := by
            rw [rereads.promise, getPromise_settleChain, if_pos named]
          simp [handle, promiseSettle, timed, stored, closed]

theorem promiseRegisterListener_repeats (keyed : txn.Keyed) (data : ListenerData)
    (rereads : Rereads ((handle env txn (.promiseRegisterListener data)).left txn) second) :
    Repeats env second (.promiseRegisterListener data)
      (handle env txn (.promiseRegisterListener data)).reply := by
  by_cases valid : env.isUrl data.address = true
  · cases found : (tryTimeout env txn [data.awaited]).getPromise data.awaited with
    | none =>
        have first : handle env txn (.promiseRegisterListener data) =
            done (tryTimeout env txn [data.awaited]) (.err 404 "Awaited promise not found") := by
          simp [handle, promiseRegisterListener, valid, found]
        apply Repeats.answered keyed first rereads
        intro rereads timed
        rw [Request.named] at timed
        simp [handle, promiseRegisterListener, valid, timed, rereads.promise, found]
    | some awaited =>
        have own := (tryTimeout_keyed env [data.awaited] keyed).promise _ _ found
        by_cases external : awaited.record.isExternal = true
        · by_cases fresh : awaited.record.isPending = true ∧ data.address ∉ awaited.listeners
          · have first : handle env txn (.promiseRegisterListener data) =
                done ((tryTimeout env txn [data.awaited]).putPromise
                    { awaited with listeners := awaited.listeners ++ [data.address] })
                  (ok (.promise awaited.record)) := by
              simp [handle, promiseRegisterListener, valid, found, external, fresh]
            apply Repeats.answered keyed first rereads
            intro rereads timed
            rw [Request.named] at timed
            have stored : second.getPromise data.awaited =
                some { awaited with listeners := awaited.listeners ++ [data.address] } := by
              rw [rereads.promise, Txn.getPromise_putPromise, if_pos own]
            simp [handle, promiseRegisterListener, valid, timed, stored, external]
          · have first : handle env txn (.promiseRegisterListener data) =
                done (tryTimeout env txn [data.awaited]) (ok (.promise awaited.record)) := by
              simp only [handle, promiseRegisterListener, valid, found, external, if_neg fresh]
              rfl
            apply Repeats.answered keyed first rereads
            intro rereads timed
            rw [Request.named] at timed
            simp only [handle, promiseRegisterListener, valid, timed, rereads.promise, found,
              external, if_neg fresh]
            rfl
        · have first : handle env txn (.promiseRegisterListener data) =
              done (tryTimeout env txn [data.awaited])
                (.err 422 "Awaited promise is not awaitable") := by
            simp [handle, promiseRegisterListener, valid, found, external]
          apply Repeats.answered keyed first rereads
          intro rereads timed
          rw [Request.named] at timed
          simp [handle, promiseRegisterListener, valid, timed, rereads.promise, found, external]
  · have first : handle env txn (.promiseRegisterListener data) =
        refuse txn (.err 400 "Invalid listener address") := by
      simp [handle, promiseRegisterListener, valid]
    apply Repeats.dropped first rereads
    intro _
    simp [handle, promiseRegisterListener, valid]

theorem taskHalt_repeats (keyed : txn.Keyed) (id : String)
    (rereads : Rereads ((handle env txn (.taskHalt id)).left txn) second) :
    Repeats env second (.taskHalt id) (handle env txn (.taskHalt id)).reply := by
  cases found : (tryTimeout env txn [id]).getTask id with
  | none =>
      have first : handle env txn (.taskHalt id) = done (tryTimeout env txn [id])
          (.err 404 "Task not found") := by
        simp only [handle, taskHalt, found]
      apply Repeats.answered keyed first rereads
      intro rereads timed
      rw [Request.named] at timed
      simp only [handle, taskHalt, timed, rereads.task, found]
  | some task =>
      have own := (tryTimeout_keyed env [id] keyed).task _ _ found
      have halts (unfulfilled : task.state ≠ .fulfilled) (unhalted : task.state ≠ .halted) :
          Repeats env second (.taskHalt id) (handle env txn (.taskHalt id)).reply := by
        have first : handle env txn (.taskHalt id) =
            done (((tryTimeout env txn [id]).putTask (task.transition .halted)).release task.id)
              (ok .empty) := by
          simp only [handle, taskHalt, found]
          cases state : task.state with
          | fulfilled => exact absurd state unfulfilled
          | halted => exact absurd state unhalted
          | _ => rfl
        apply Repeats.answered keyed first rereads
        intro rereads timed
        rw [Request.named] at timed
        have stored : second.getTask id = some (task.transition .halted) := by
          rw [rereads.task]
          change ((tryTimeout env txn [id]).putTask (task.transition .halted)).getTask id = _
          rw [Txn.getTask_putTask]
          exact if_pos own
        have halted : (task.transition .halted).state = .halted := rfl
        simp only [handle, taskHalt, timed, stored, halted]
      cases state : task.state with
      | fulfilled =>
          have first : handle env txn (.taskHalt id) = done (tryTimeout env txn [id])
              (.err 409 "Task is fulfilled") := by
            simp only [handle, taskHalt, found, state]
          apply Repeats.answered keyed first rereads
          intro rereads timed
          rw [Request.named] at timed
          simp only [handle, taskHalt, timed, rereads.task, found, state]
      | halted =>
          have first : handle env txn (.taskHalt id) = done (tryTimeout env txn [id])
              (ok .empty) := by
            simp only [handle, taskHalt, found, state]
          apply Repeats.answered keyed first rereads
          intro rereads timed
          rw [Request.named] at timed
          simp only [handle, taskHalt, timed, rereads.task, found, state]
      | pending => exact halts (by simp [state]) (by simp [state])
      | acquired => exact halts (by simp [state]) (by simp [state])
      | suspended => exact halts (by simp [state]) (by simp [state])

theorem scheduleCreate_repeats (data : ScheduleCreateData)
    (rereads : Rereads ((handle env txn (.scheduleCreate data)).left txn) second) :
    Repeats env second (.scheduleCreate data) (handle env txn (.scheduleCreate data)).reply := by
  have refused (reply : Reply)
      (refuses : ∀ txn, handle env txn (.scheduleCreate data) = refuse txn reply) :
      Repeats env second (.scheduleCreate data) (handle env txn (.scheduleCreate data)).reply :=
    .dropped (refuses txn) rereads fun _ => refuses second
  by_cases unnamed : data.id = ""
  · exact refused (.err 400 "Schedule ID is required") fun txn => by
      simp [handle, scheduleCreate, unnamed]
  by_cases rooted : Text.contains data.id ':' = true
  · exact refused (.err 400 "Schedule ID must not contain ':'") fun txn => by
      simp [handle, scheduleCreate, unnamed, rooted]
  cases target : data.promiseTags[tagTarget]? with
  | none =>
      exact refused (.err 400 "resonate:target tag is required") fun txn => by
        simp [handle, scheduleCreate, unnamed, rooted, target]
  | some address =>
      by_cases url : env.isUrl address = true
      · by_cases negative : data.promiseTimeout < 0
        · exact refused (.err 400 "Promise timeout must not be negative") fun txn => by
            simp [handle, scheduleCreate, unnamed, rooted, target, url, negative]
        · cases found : txn.getSchedule data.id with
          | some existing =>
              have first : handle env txn (.scheduleCreate data) =
                  refuse txn (ok (.schedule existing)) := by
                simp [handle, scheduleCreate, unnamed, rooted, target, url, negative, found]
              apply Repeats.dropped first rereads
              intro rereads
              simp [handle, scheduleCreate, unnamed, rooted, target, url, negative,
                rereads.schedule, found]
          | none =>
              cases following : env.nextAfter data.cron txn.now with
              | none =>
                  have first : handle env txn (.scheduleCreate data) =
                      refuse txn (.err 400 "Invalid cron expression") := by
                    simp [handle, scheduleCreate, unnamed, rooted, target, url, negative, found,
                      following]
                  apply Repeats.dropped first rereads
                  intro rereads
                  simp [handle, scheduleCreate, unnamed, rooted, target, url, negative,
                    rereads.schedule, found, rereads.now, following]
              | some nextRunAt =>
                  let schedule : ScheduleRecord :=
                    { id := data.id
                      cron := data.cron
                      promiseId := data.promiseId
                      promiseTimeout := data.promiseTimeout
                      promiseParam := data.promiseParam
                      promiseTags := data.promiseTags
                      createdAt := txn.now
                      nextRunAt := nextRunAt
                      lastRunAt := none }
                  have first : handle env txn (.scheduleCreate data) =
                      done ((txn.putSchedule schedule).scheduleTimer (.schedule data.id nextRunAt)
                        nextRunAt) (ok (.schedule schedule)) := by
                    simp [handle, scheduleCreate, unnamed, rooted, target, url, negative, found,
                      following, schedule]
                  rw [first] at rereads ⊢
                  have stored : second.getSchedule data.id = some schedule := by
                    rw [rereads.schedule]
                    change (txn.putSchedule schedule).getSchedule data.id = _
                    rw [Txn.getSchedule_putSchedule]
                    exact if_pos rfl
                  refine Repeats.refused (?_ : _ = refuse second _) (.refl second)
                  simp [handle, scheduleCreate, unnamed, rooted, target, url, negative, stored, done]
      · exact refused (.err 400 "Invalid resonate:target address") fun txn => by
          simp [handle, scheduleCreate, unnamed, rooted, target, url]

/-- A task that a settled promise has reached is not changed by it again. -/
theorem resumeAwaiter_again {awaiter awaited : String} {job : Nat} {old : Option StoredTask}
    (named : ∀ task, second.getTask awaiter = some task → task.id = awaiter)
    (resumed : second.getTask awaiter =
      old.map (StoredTask.resumed awaited .registration job)) :
    resumeAwaiter env second awaiter awaited .registration = second ∨
      ∃ task : StoredTask, second.getTask task.id = some task ∧
        resumeAwaiter env second awaiter awaited .registration = second.putTask task := by
  cases old with
  | none => exact .inl (by simp [resumeAwaiter, resumed])
  | some task =>
      have rewritten (live : (task.resumed awaited .registration job).state = .pending ∨
            (task.resumed awaited .registration job).state = .acquired)
          (listed : awaited ∈ (task.resumed awaited .registration job).resumes) :
          ∃ task : StoredTask, second.getTask task.id = some task ∧
            resumeAwaiter env second awaiter awaited .registration = second.putTask task := by
        rw [Option.map_some] at resumed
        generalize task.resumed awaited .registration job = later at live listed resumed
        refine ⟨later, ?_, ?_⟩
        · rw [named later resumed]
          exact resumed
        · have same : insert awaited later.resumes = later.resumes := Finset.insert_eq_of_mem listed
          rcases live with state | state
          · simp only [resumeAwaiter, resumed, state, same]
            rw [← state]
          · simp only [resumeAwaiter, resumed, state, same]
            rw [← state]
      cases state : task.state with
      | suspended => exact .inr (rewritten (by simp [StoredTask.resumed, state, StoredTask.transition])
          (by simp [StoredTask.resumed, state]))
      | pending => exact .inr (rewritten (by simp [StoredTask.resumed, state])
          (by simp [StoredTask.resumed, state]))
      | acquired => exact .inr (rewritten (by simp [StoredTask.resumed, state])
          (by simp [StoredTask.resumed, state]))
      | halted => exact .inl (by simp [resumeAwaiter, resumed, StoredTask.resumed, state])
      | fulfilled => exact .inl (by simp [resumeAwaiter, resumed, StoredTask.resumed, state])

theorem promiseRegisterCallback_repeats (keyed : txn.Keyed) (data : CallbackData)
    (rereads : Rereads ((handle env txn (.promiseRegisterCallback data)).left txn) second) :
    Repeats env second (.promiseRegisterCallback data)
      (handle env txn (.promiseRegisterCallback data)).reply := by
  cases checked : validateCallback data.awaited data.awaiter with
  | some reply =>
      have first : handle env txn (.promiseRegisterCallback data) = refuse txn reply := by
        simp only [handle, promiseRegisterCallback, checked]
      apply Repeats.dropped first rereads
      intro _
      simp only [handle, promiseRegisterCallback, checked]
  | none =>
      have apart := (validateCallback_valid checked).1
      have timedKeyed := tryTimeout_keyed env [data.awaited, data.awaiter] keyed
      generalize timed : tryTimeout env txn [data.awaited, data.awaiter] = start at timedKeyed
      -- a refusal by what the store holds is the same refusal by the store it leaves
      have answered (reply : Reply)
          (answers : ∀ txn : Txn, txn.getPromise = start.getPromise →
            tryTimeout env txn [data.awaited, data.awaiter] = txn →
            handle env txn (.promiseRegisterCallback data) = done txn reply)
          (first : handle env txn (.promiseRegisterCallback data) = done start reply) :
          Repeats env second (.promiseRegisterCallback data)
            (handle env txn (.promiseRegisterCallback data)).reply := by
        apply Repeats.answered keyed first rereads
        intro rereads timed
        exact answers second rereads.promise timed
      cases found : start.getPromise data.awaited with
      | none =>
          apply answered (.err 404 "Awaited promise not found")
          · intro txn same timed
            simp only [handle, promiseRegisterCallback, checked, timed, same, found]
          · simp only [handle, promiseRegisterCallback, checked, timed, found]
      | some awaited =>
          have own := timedKeyed.promise _ _ found
          cases present : start.getPromise data.awaiter with
          | none =>
              apply answered (.err 422 "Awaiter promise not found")
              · intro txn same timed
                simp only [handle, promiseRegisterCallback, checked, timed, same, found, present]
              · simp only [handle, promiseRegisterCallback, checked, timed, found, present]
          | some awaiter =>
              by_cases untargeted : awaiter.record.target.isNone = true
              · apply answered (.err 422 "Awaiter promise has no resonate:target tag")
                · intro txn same timed
                  simp only [handle, promiseRegisterCallback, checked, timed, same, found, present,
                    untargeted, if_true]
                · simp only [handle, promiseRegisterCallback, checked, timed, found, present,
                    untargeted, if_true]
              by_cases external : awaited.record.isExternal = true
              · by_cases pending : awaiter.record.isPending = true
                · by_cases open_ : awaited.record.isPending = true
                  · by_cases listed : data.awaiter ∈ awaited.callbacks
                    · apply answered (ok (.promise awaited.record))
                      · intro txn same timed
                        simp [handle, promiseRegisterCallback, checked, timed, same, found,
                          present, untargeted, external, pending, open_, registerCallback, listed]
                      · simp [handle, promiseRegisterCallback, checked, timed, found,
                          present, untargeted, external, pending, open_, registerCallback, listed]
                    · have first : handle env txn (.promiseRegisterCallback data) =
                          done (start.putPromise
                              { awaited with callbacks := awaited.callbacks ++ [data.awaiter] })
                            (ok (.promise awaited.record)) := by
                        simp [handle, promiseRegisterCallback, checked, timed, found,
                          present, untargeted, external, pending, open_, registerCallback, listed]
                      apply Repeats.answered keyed first rereads
                      intro rereads timed
                      rw [Request.named] at timed
                      have stored : second.getPromise data.awaited = some
                          { awaited with callbacks := awaited.callbacks ++ [data.awaiter] } := by
                        rw [rereads.promise, Txn.getPromise_putPromise, if_pos own]
                      have other : second.getPromise data.awaiter = some awaiter := by
                        rw [rereads.promise, Txn.getPromise_putPromise, if_neg ?_, present]
                        change ¬ awaited.record.id = data.awaiter
                        rw [own]
                        exact apart.symm
                      simp [handle, promiseRegisterCallback, checked, timed, stored, other,
                        untargeted, external, pending, open_, registerCallback]
                  · have first : handle env txn (.promiseRegisterCallback data) =
                        done (resumeAwaiter env start data.awaiter data.awaited .registration)
                          (ok (.promise awaited.record)) := by
                      simp [handle, promiseRegisterCallback, checked, timed, found,
                        present, untargeted, external, pending, open_]
                    have left : (handle env txn (.promiseRegisterCallback data)).left txn =
                        resumeAwaiter env start data.awaiter data.awaited .registration := by
                      simp [first, Response.left, done]
                    have again : tryTimeout env second [data.awaited, data.awaiter] = second := by
                      have same : (handle env txn (.promiseRegisterCallback data)).txn =
                          (handle env txn (.promiseRegisterCallback data)).left txn := by
                        simp [first, Response.left, done]
                      rw [← same] at rereads
                      exact rereads.timed keyed (by simp [first, done])
                    rw [left] at rereads
                    rw [first]
                    have stored : second.getPromise = start.getPromise := by
                      rw [rereads.promise, getPromise_resumeAwaiter]
                    have repeated : handle env second (.promiseRegisterCallback data) =
                        done (resumeAwaiter env second data.awaiter data.awaited .registration)
                          (ok (.promise awaited.record)) := by
                      simp [handle, promiseRegisterCallback, checked, again, stored, found,
                        present, untargeted, external, pending, open_]
                    have resumed : second.getTask data.awaiter = (start.getTask data.awaiter).map
                        (StoredTask.resumed data.awaited .registration start.queue.nextJob) := by
                      rw [rereads.task, getTask_resumeAwaiter timedKeyed, if_pos rfl]
                    have named (task : StoredTask) (found : second.getTask data.awaiter = some task) :
                        task.id = data.awaiter := by
                      rw [resumed] at found
                      obtain ⟨old, present, rfl⟩ := Option.map_eq_some_iff.mp found
                      rw [StoredTask.resumed_id]
                      exact timedKeyed.task _ _ present
                    rcases resumeAwaiter_again named resumed with same | ⟨task, kept, same⟩
                    · rw [same] at repeated
                      exact .done rereads repeated
                    · rw [same] at repeated
                      exact .rewritten rereads kept repeated
                · apply answered (ok (.promise awaited.record))
                  · intro txn same timed
                    simp [handle, promiseRegisterCallback, checked, timed, same, found,
                      present, untargeted, external, pending]
                  · simp [handle, promiseRegisterCallback, checked, timed, found,
                      present, untargeted, external, pending]
              · apply answered (.err 422 "Awaited promise is not awaitable")
                · intro txn same timed
                  simp [handle, promiseRegisterCallback, checked, timed, same, found, present,
                    untargeted, external]
                · simp [handle, promiseRegisterCallback, checked, timed, found, present,
                    untargeted, external]

/-! ## Fenced actions -/

/-- What a fenced action comes to, and what it comes to once its promise is stored. -/
inductive Fenced (env : Env) (txn : Txn) (action : Action ActionValue) :
    Except Reply (Txn × Nat × (PromiseRecord ⊕ String)) → Prop
  | refused (reply : Reply) (again : ∀ other, fenceAction env other action = .error reply) :
      Fenced env txn action (.error reply)
  | found (status : Nat) (inner : PromiseRecord ⊕ String)
      (again : ∀ other : Txn, other.getPromise = txn.getPromise →
        fenceAction env other action = .ok (other, status, inner)) :
      Fenced env txn action (.ok (txn, status, inner))
  | created (create : PromiseCreateData) (named : action.data.id = some create.id)
      (again : ∀ other : Txn, other.getPromise create.id =
          some (newPromise create none txn.now) → fenceAction env other action =
            .ok (other, 200, .inl (newPromise create none txn.now).record)) :
      Fenced env txn action (.ok ((createPromise env txn create none .dispatch).1, 200,
        .inl (newPromise create none txn.now).record))
  | settled (final : StoredPromise) (named : action.data.id = some final.record.id)
      (closed : final.record.isPending = false)
      (again : ∀ other : Txn, other.getPromise final.record.id = some final.cleared →
        fenceAction env other action = .ok (other, 200, .inl final.cleared.record)) :
      Fenced env txn action (.ok ((settleChain env txn final).1, 200, .inl final.cleared.record))

theorem fenceAction_cases (keyed : txn.Keyed) (action : Action ActionValue) :
    Fenced env txn action (fenceAction env txn action) := by
  have refused (reply : Reply) (same : ∀ other, fenceAction env other action = .error reply) :
      Fenced env txn action (fenceAction env txn action) := by
    rw [same]
    exact .refused reply same
  have found (status : Nat) (inner : PromiseRecord ⊕ String)
      (same : ∀ other : Txn, other.getPromise = txn.getPromise →
        fenceAction env other action = .ok (other, status, inner)) :
      Fenced env txn action (fenceAction env txn action) := by
    rw [same txn rfl]
    exact .found status inner same
  by_cases creates : action.kind = "promise.create"
  · cases decoded : action.data.create with
    | error message =>
        exact refused (.err 400 (String.append "Invalid action data: " message)) fun other => by
          simp [fenceAction, creates, decoded]
    | ok create =>
        cases checked : validateCreate env create with
        | some reply =>
            exact refused reply fun other => by simp [fenceAction, creates, decoded, checked]
        | none =>
            cases stored : txn.getPromise create.id with
            | some existing =>
                exact found 200 (.inl existing.record) fun other same => by
                  simp [fenceAction, creates, decoded, checked, same, stored]
            | none =>
                have performed : fenceAction env txn action =
                    .ok ((createPromise env txn create none .dispatch).1, 200,
                      .inl (newPromise create none txn.now).record) := by
                  simp only [fenceAction, creates, decoded, checked, stored, if_true]
                  rw [createPromise_eq]
                rw [performed]
                refine .created create (action.data.create_id create decoded) fun other same => ?_
                simp [fenceAction, creates, decoded, checked, same]
  · by_cases settles : action.kind = "promise.settle"
    · cases decoded : action.data.settle with
      | error message =>
          exact refused (.err 400 (String.append "Invalid action data: " message)) fun other => by
            simp [fenceAction, settles, decoded]
      | ok settleData =>
          cases stored : txn.getPromise settleData.id with
          | none =>
              exact found 404 (.inr "Promise not found") fun other same => by
                simp [fenceAction, settles, decoded, same, stored]
          | some promise =>
              cases pending : promise.record.isPending with
              | false =>
                  exact found 200 (.inl promise.record) fun other same => by
                    simp [fenceAction, settles, decoded, same, stored, pending]
              | true =>
                  have own : promise.record.id = settleData.id := keyed.promise _ _ stored
                  have closed := settledPromise_settled promise settleData.state settleData.value
                    txn.now
                  have named : (settledPromise promise settleData.state settleData.value
                      txn.now).record.id = settleData.id := own
                  generalize final : settledPromise promise settleData.state settleData.value
                    txn.now = settled at closed named
                  have performed : fenceAction env txn action =
                      .ok ((settleChain env txn settled).1, 200,
                        .inl settled.cleared.record) := by
                    simp [fenceAction, settles, decoded, stored, pending, settle_eq, final,
                      settleChain_promise]
                  rw [performed]
                  refine .settled settled ?_ closed fun other same => ?_
                  · rw [named]
                    exact action.data.settle_id settleData decoded
                  · rw [named] at same
                    have shut : settled.cleared.record.isPending = false := closed
                    simp [fenceAction, settles, decoded, same, shut]
    · exact refused (.err 400 "Invalid fence action kind") fun other => by
        simp [fenceAction, creates, settles]

theorem resumed_isAcquiredAt {task : StoredTask} {version : Int} (awaited : String) (job : Nat)
    (acquired : task.isAcquiredAt version = true) :
    (task.resumed awaited .fanout job).isAcquiredAt version = true := by
  obtain ⟨state, same⟩ := acquired_of_isAcquiredAt acquired
  simp [StoredTask.resumed, StoredTask.isAcquiredAt, state, same]

/-- A fenced action on another promise leaves its task acquired, and finds its promise when it is
performed again. -/
theorem Fenced.again {action : Action ActionValue} {next : Txn} {status : Nat}
    {inner : PromiseRecord ⊕ String} (keyed : first.Keyed)
    (performed : Fenced env first action (.ok (next, status, inner)))
    (same : second.getPromise = next.getPromise) {id : String} (apart : action.data.id ≠ some id)
    {task : StoredTask} {version : Int} (found : first.getTask id = some task)
    (acquired : task.isAcquiredAt version = true) :
    fenceAction env second action = .ok (second, status, inner) ∧
      ∃ task, next.getTask id = some task ∧ task.isAcquiredAt version = true := by
  cases performed with
  | found status inner again => exact ⟨again second same, task, found, acquired⟩
  | created create named again =>
      constructor
      · apply again
        rw [same, getPromise_createPromise, if_pos rfl]
      · refine ⟨task, ?_, acquired⟩
        rw [getTask_createPromise, if_neg ?_]
        · exact found
        · intro own
          rw [named, own] at apart
          exact apart rfl
  | settled final named closed again =>
      constructor
      · apply again
        rw [same, getPromise_settleChain, if_pos rfl]
      · obtain ⟨job, _, later, _⟩ := settleChain_task env keyed final closed id
        have other : ¬ final.record.id = id := by
          intro own
          rw [named, own] at apart
          exact apart rfl
        rw [later, if_neg other, found]
        split
        · exact ⟨_, rfl, resumed_isAcquiredAt _ _ acquired⟩
        · exact ⟨task, rfl, acquired⟩

theorem Rereads.standing (rereads : Rereads first second)
    (fresh : first.enqueues = [] ∧ first.after = []) (held : second.held = first.held) :
    second.standing [] = first.standing [] := by
  unfold Txn.standing
  rw [rereads.promise, rereads.task, rereads.enqueues, rereads.after, held, fresh.1, fresh.2]

/-- Deadlines applied to stores that stand at the same leave the same tasks, but for their jobs. -/
theorem tryTimeout_unnumbered (keyed : first.Keyed) (keyed' : second.Keyed) (now : second.now = first.now)
    (stands : second.standing [] = first.standing []) (ids : List String) (id : String) :
    ((tryTimeout env second ids).getTask id).map StoredTask.unnumbered =
      ((tryTimeout env first ids).getTask id).map StoredTask.unnumbered := by
  have same : (tryTimeout env second ids).standing [] = (tryTimeout env first ids).standing [] := by
    rw [standing_tryTimeout keyed', standing_tryTimeout keyed, stands, now]
  exact congrFun (congrArg Standing.task same) id

theorem taskFence_repeats (keyed : txn.Keyed) (coupled : ∀ id, Coupled (txn.cell id))
    (fresh : txn.enqueues = [] ∧ txn.after = []) (keyed' : second.Keyed) (data : TaskFenceData)
    (corrId : String)
    (rereads : Rereads ((handle env txn (.taskFence data corrId)).left txn) second)
    (held : (handle env txn (.taskFence data corrId)).exit = .drop →
      second.held = (handle env txn (.taskFence data corrId)).txn.held) :
    Repeats env second (.taskFence data corrId)
      (handle env txn (.taskFence data corrId)).reply := by
  cases decoded : data.action.data.id with
  | none =>
      have first : handle env txn (.taskFence data corrId) =
          refuse txn (.err 400 "Action promise ID is required") := by
        simp only [handle, taskFence, decoded]
      apply Repeats.dropped first rereads
      intro _
      simp only [handle, taskFence, decoded]
  | some actionId =>
      by_cases own : actionId = data.id
      · have first : handle env txn (.taskFence data corrId) =
            refuse txn (.err 400 "Action promise must differ from the task's promise") := by
          simp only [handle, taskFence, decoded, if_pos own]
        apply Repeats.dropped first rereads
        intro _
        simp only [handle, taskFence, decoded, if_pos own]
      by_cases foreign : originOf actionId ≠ originOf data.id
      · have first : handle env txn (.taskFence data corrId) =
            refuse txn (.err 400 "Action must belong to the task's origin") := by
          simp only [handle, taskFence, decoded, if_neg own, if_pos foreign]
        apply Repeats.dropped first rereads
        intro _
        simp only [handle, taskFence, decoded, if_neg own, if_pos foreign]
      have named : (Request.taskFence data corrId).named = [data.id, actionId] := by
        simp [Request.named, decoded]
      have timedKeyed := tryTimeout_keyed env [data.id, actionId] keyed
      have paired := tryTimeout_coupled env [data.id, actionId] keyed coupled
      generalize timed : tryTimeout env txn [data.id, actionId] = start at timedKeyed paired
      cases stored : start.getTask data.id with
      | none =>
          have first : handle env txn (.taskFence data corrId) =
              done start (.err 404 "Task not found") := by
            simp only [handle, taskFence, decoded, if_neg own, if_neg foreign, timed, stored]
          apply Repeats.answered keyed first rereads
          intro rereads again
          rw [named] at again
          simp only [handle, taskFence, decoded, if_neg own, if_neg foreign, again, rereads.task,
            stored]
      | some task =>
          by_cases acquired : task.isAcquiredAt data.version = true
          · have outcome := @fenceAction_cases env start timedKeyed data.action
            cases performed : fenceAction env start data.action with
            | error reply =>
                have first : handle env txn (.taskFence data corrId) = refuse start reply := by
                  simp only [handle, taskFence, decoded, if_neg own, if_neg foreign, timed, stored,
                    acquired, not_true_eq_false, if_false, performed]
                rw [performed] at outcome
                cases outcome with
                | refused reply again =>
                    have dropped : (handle env txn (.taskFence data corrId)).exit = .drop := by
                      rw [first]
                      rfl
                    rw [Response.left, if_pos dropped] at rereads
                    rw [first]
                    have claims : second.held = txn.held := by
                      rw [held dropped, first]
                      change start.held = txn.held
                      rw [← timed]
                      exact (tryTimeout_buffers env [data.id, actionId] txn).held
                    have same := @tryTimeout_unnumbered env txn second keyed keyed' rereads.now
                      (rereads.standing fresh claims) [data.id, actionId] data.id
                    rw [timed, stored] at same
                    obtain ⟨other, found, alike⟩ := Option.map_eq_some_iff.mp same
                    have still : other.isAcquiredAt data.version = true := by
                      change other.unnumbered.isAcquiredAt data.version = true
                      rw [alike]
                      exact acquired
                    refine Repeats.refused ?_ (tryTimeout_buffers env [data.id, actionId] second)
                    simp only [handle, taskFence, decoded, if_neg own, if_neg foreign, found, still,
                      not_true_eq_false, if_false, again, refuse]
            | ok result =>
                obtain ⟨next, status, inner⟩ := result
                obtain ⟨promise, promised⟩ := fenceAction_promise data.action next status inner
                  data.id performed ((paired data.id).promise_of_task stored)
                have first : handle env txn (.taskFence data corrId) =
                    done next (ok (.fenced ⟨data.action.kind, corrId, status, protocolVersion, inner⟩
                      (next.preload promise.record))) := by
                  simp only [handle, taskFence, decoded, if_neg own, if_neg foreign, timed, stored,
                    acquired, not_true_eq_false, if_false, performed, promised]
                rw [performed] at outcome
                apply Repeats.answered keyed first rereads
                intro rereads again
                rw [named] at again
                have apart : data.action.data.id ≠ some data.id := by
                  rw [decoded]
                  exact fun same => own (Option.some.inj same)
                obtain ⟨repeated, task, found, still⟩ := outcome.again timedKeyed rereads.promise
                  apart stored acquired
                simp only [handle, taskFence, decoded, if_neg own, if_neg foreign, again,
                  rereads.task, found, still, not_true_eq_false, if_false, repeated, rereads.promise,
                  promised, rereads.preload]
          · have first : handle env txn (.taskFence data corrId) =
                done start (.err 409 "Version mismatch") := by
              simp only [handle, taskFence, decoded, if_neg own, if_neg foreign, timed, stored,
                if_pos acquired]
            apply Repeats.answered keyed first rereads
            intro rereads again
            rw [named] at again
            simp only [handle, taskFence, decoded, if_neg own, if_neg foreign, again, rereads.task,
              stored, if_pos acquired]

end

/-- The requests whose repetition is harmless. -/
def Request.isRepeatable : Request → Bool
  | .promiseCreate _ | .promiseSettle _ | .promiseRegisterCallback _ | .promiseRegisterListener _
  | .taskFence _ _ | .taskHalt _ | .scheduleCreate _ => true
  | _ => false

section

variable {env : Env} {txn left second : Txn} {before middle after : System} {request : Request}

theorem handle_repeats (keyed : txn.Keyed) (coupled : ∀ id, Coupled (txn.cell id))
    (fresh : txn.enqueues = [] ∧ txn.after = []) (keyed' : second.Keyed)
    (repeatable : request.isRepeatable = true)
    (rereads : Rereads ((handle env txn request).left txn) second)
    (held : (handle env txn request).exit = .drop →
      second.held = (handle env txn request).txn.held) :
    Repeats env second request (handle env txn request).reply := by
  cases request with
  | promiseCreate data => exact promiseCreate_repeats keyed data rereads
  | promiseSettle data => exact promiseSettle_repeats keyed data rereads
  | promiseRegisterCallback data => exact promiseRegisterCallback_repeats keyed data rereads
  | promiseRegisterListener data => exact promiseRegisterListener_repeats keyed data rereads
  | taskFence data corrId =>
      exact taskFence_repeats keyed coupled fresh keyed' data corrId rereads held
  | taskHalt id => exact taskHalt_repeats keyed id rereads
  | scheduleCreate data => exact scheduleCreate_repeats data rereads
  | _ => simp [Request.isRepeatable] at repeatable

/-! ## The state a request leaves -/

/-- The work that follows a commit moves no clock and enqueues nothing. -/
theorem run_finish_keeps {steps : Nat}
    (ran : Machine.run (step env) before (List.replicate steps .finish) = some after) :
    after.queue.clock = before.queue.clock ∧ after.log = before.log := by
  induction steps generalizing before with
  | zero =>
      cases ran
      exact ⟨rfl, rfl⟩
  | succ steps ih =>
      rw [List.replicate_succ, Machine.run_cons] at ran
      obtain ⟨next, taken, remaining⟩ := Option.bind_eq_some_iff.mp ran
      obtain ⟨clock, log⟩ := ih remaining
      cases step_cases taken with
      | finished action rest pending => exact ⟨clock.trans (perform_clock _ _ _), log⟩

theorem Completes.keeps {stored : Bool} (completed : Completes env before request stored after) :
    after.queue.clock = (conclude (handle env (before.txn env) request) stored).1.queue.clock ∧
      after.log = before.log ++ (conclude (handle env (before.txn env) request) stored).1.jobs := by
  obtain ⟨steps, ran, unlocked⟩ := completed
  obtain ⟨next, taken, remaining⟩ := Option.bind_eq_some_iff.mp ran
  change stepRequest env before request stored = some next at taken
  unfold stepRequest at taken
  split at taken
  · have kept := run_finish_keeps remaining
    cases taken
    exact kept
  · cases taken

/-- A store that holds what a transaction left lists the same siblings. -/
theorem preload_left (kept : ∀ key : String, left.writes.branches[key]? ≠ some none)
    (index : ∀ key, left.indexed key ↔ second.kv.branches[key]? = some ())
    (empty : second.writes = .empty) (limit : second.preloadLimit = left.preloadLimit)
    (same : second.getPromise = left.getPromise) (promise : PromiseRecord) :
    second.preload promise = left.preload promise := by
  cases tagged : promise.tags[tagBranch]? with
  | none => simp only [Txn.preload, tagged]
  | some branch =>
      have own (key : String) : second.indexed key ↔ second.kv.branches[key]? = some () := by
        unfold Txn.indexed
        rw [empty]
        exact iff_of_eq (congrArg (· = some ()) (Table.read_empty _ _))
      have unwritten (key : String) : second.writes.branches[key]? ≠ some none := by
        rw [empty]
        simp [Writes.empty]
      rw [Txn.preload_index unwritten second.kv.branches own promise branch tagged,
        Txn.preload_index kept second.kv.branches index promise branch tagged, limit, same]

/-- What the next transaction reads is what the request left. -/
theorem Completes.rereads (completed : Completes env before request true middle)
    (reached : Reachable env before)
    (plain : (handle env (before.txn env) request).exit.Plain) :
    Rereads ((handle env (before.txn env) request).left (before.txn env)) (middle.txn env) := by
  have keyed := Reachable.keyed reached
  obtain ⟨kv, performed⟩ := completed.performed
  obtain ⟨clock, _⟩ := completed.keeps
  have trail := (handle_outcome env keyed request).trail keyed
  generalize handle env (before.txn env) request = response at plain kv performed clock trail ⊢
  cases exit : response.exit with
  | drop =>
      have dropped : response.left (before.txn env) = before.txn env := by
        rw [Response.left, if_pos exit]
      have same : middle.kv = before.kv := by
        rw [kv]
        simp only [conclude, exit]
        exact trail.fixed.kv
      have now : middle.now = before.now := by
        refine now_of_clock (clock.trans ?_)
        simp only [conclude, exit]
        exact trail.fixed.clock
      rw [dropped]
      have stored : middle.txn env =
          { before.txn env with queue := middle.queue, held := middle.held } := by
        unfold System.txn
        rw [same, now]
      rw [stored]
      exact ⟨rfl, rfl, rfl, rfl, fun _ => rfl, rfl, rfl, rfl⟩
  | commit =>
      have committed : response.left (before.txn env) = response.txn := by
        rw [Response.left, exit]
        rfl
      simp only [conclude, exit] at kv clock
      have stores : Stores response.txn middle := stores_of_kv kv
      have now : middle.now = response.txn.now :=
        (now_of_clock ((clock.trans (commit_clock _)).trans trail.fixed.clock)).trans
          trail.fixed.now.symm
      have promise : (middle.txn env).getPromise = response.txn.getPromise := by
        funext id
        rw [System.getPromise_txn, stores.promise]
      have indexed : response.txn.Indexed := trail.indexed (Reachable.indexed reached)
      rw [committed]
      refine ⟨promise, ?_, ?_, now, ?_, rfl, rfl, rfl⟩
      · funext id
        rw [System.getTask_txn, stores.task]
      · funext id
        rw [System.getSchedule_txn, stores.schedule]
      · refine preload_left indexed.kept (fun key => ?_) rfl trail.fixed.preloadLimit.symm promise
        unfold Txn.indexed
        rw [show (middle.txn env).kv = middle.kv from rfl, kv]
        exact iff_of_eq (congrArg (· = some ()) (Table.find_apply _ _ _).symm)
  | commitAck id => simp [exit, Exit.Plain] at plain
  | panic => simp [exit, Exit.Plain] at plain

end

/-- Applying a request again right after it, at the same time, gives the same reply and leaves
everything as applying it once did. -/
theorem retries_harmless {env : Env} {before middle after : System} {request : Request}
    (reached : Reachable env before) (repeatable : request.isRepeatable = true)
    (first : Completes env before request true middle)
    (second : Completes env middle request true after) :
    answer env middle request true = answer env before request true ∧
      after.kv = middle.kv ∧ after.queue.jobs = middle.queue.jobs ∧ after.held = middle.held ∧
      after.log = middle.log := by
  have keyed := Reachable.keyed reached
  have coupled (id : String) : Coupled ((before.txn env).cell id) := by
    rw [System.cell_txn]
    exact Reachable.coupled reached id
  have plain : (handle env (before.txn env) request).exit.Plain := by
    rcases handle_exits env keyed coupled request with plain | ⟨_, ⟨data, rfl⟩ | ⟨data, rfl⟩⟩
    · exact plain
    · cases repeatable
    · cases repeatable
  have repeats : Repeats env (middle.txn env) request _ :=
    handle_repeats keyed coupled ⟨rfl, rfl⟩ (Reachable.keyed (first.reachable reached)) repeatable
      (first.rereads reached plain) fun dropped => by
        refine (congrArg Prod.snd first.performed.2).trans ?_
        simp only [conclude, dropped]
        rfl
  obtain ⟨kv, performed⟩ := second.performed
  rw [repeats.idle.after] at performed
  obtain ⟨_, log⟩ := second.keeps
  refine ⟨?_, kv.trans repeats.idle.kv, ?_, ?_, ?_⟩
  · unfold answer
    rw [repeats.idle.reply, repeats.same]
    generalize handle env (before.txn env) request = response at plain
    cases exit : response.exit with
    | drop => simp only [conclude, exit]
    | commit => simp only [conclude, exit]
    | commitAck id => simp [exit, Exit.Plain] at plain
    | panic => simp [exit, Exit.Plain] at plain
  · exact (congrArg (fun both => both.1.jobs) performed).trans repeats.idle.jobs
  · exact (congrArg Prod.snd performed).trans repeats.idle.held
  · rw [log, repeats.idle.log, List.append_nil]

/-- A promise with a callback and a listener is settled twice, with a commit's work in between. -/
theorem retries_harmless_registered :
    ∃ middle after, Completes .sample registered (.promiseSettle ⟨"root:1", .resolved, {}⟩) true
        middle ∧
      Completes .sample middle (.promiseSettle ⟨"root:1", .resolved, {}⟩) true after ∧
      answer .sample middle (.promiseSettle ⟨"root:1", .resolved, {}⟩) true =
        answer .sample registered (.promiseSettle ⟨"root:1", .resolved, {}⟩) true ∧
      after.queue.jobs = middle.queue.jobs ∧ registered.log.length < middle.log.length := by
  have enabled : (Machine.run (step .sample) registered
      [.request (.promiseSettle ⟨"root:1", .resolved, {}⟩) true, .finish]).any (fun middle =>
        middle.after = [] ∧ registered.log.length < middle.log.length ∧
        (Machine.run (step .sample) middle
          [.request (.promiseSettle ⟨"root:1", .resolved, {}⟩) true]).any (fun after =>
            after.after = []) = true) = true := by
    decide
  obtain ⟨middle, ran, checked⟩ := (Option.any_eq_true _ _).mp enabled
  obtain ⟨unlocked, grown, again⟩ := of_decide_eq_true checked
  obtain ⟨after, ran', unlocked'⟩ := (Option.any_eq_true _ _).mp again
  have first : Completes .sample registered (.promiseSettle ⟨"root:1", .resolved, {}⟩) true middle :=
    ⟨1, ran, unlocked⟩
  have second : Completes .sample middle (.promiseSettle ⟨"root:1", .resolved, {}⟩) true after :=
    ⟨0, ran', of_decide_eq_true unlocked'⟩
  obtain ⟨same, _, jobs, _⟩ := retries_harmless registered_reachable rfl first second
  exact ⟨middle, after, first, second, same, jobs, grown⟩

end Resonate
