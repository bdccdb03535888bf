import Resonate.Coupling
import Resonate.Ledger

set_option autoImplicit false

/-! Every move keeps the books of the jobs, except for a suspension, whose job is still
there. -/

namespace Resonate

open Kernel
open LeaseQueue (Queue EnqueueRequest)

namespace Kernel

variable {env : Env} {floor : Nat} {strict : Prop} {txn : Txn}

theorem transition_rewrites (task : StoredTask) (state : TaskState) (job : task.Live)
    (awake : state ≠ .suspended) (unhalted : strict → state ≠ .halted) :
    task.Rewrites strict (task.transition state) := by
  refine ⟨rfl, rfl, awake, ?_, ?_, fun _ _ => job, fun strictly halted =>
    absurd halted (unhalted strictly)⟩
  · intro fulfilled
    rcases job with live | live
    all_goals
      rw [fulfilled] at live
      cases live
  · intro _ halted
    rcases job with live | live
    all_goals
      rw [halted] at live
      cases live

theorem resumes_rewrites (task : StoredTask) (resumes : Finset String)
    (awake : task.state ≠ .suspended) : task.Rewrites strict { task with resumes } :=
  ⟨rfl, rfl, awake, fun state => state, fun _ state => .inl state, fun _ live => live,
    fun _ state => state⟩

theorem fulfilled_rewrites (task : StoredTask) :
    task.Rewrites strict { task.transition .fulfilled with resumes := ∅ } := by
  refine ⟨rfl, rfl, nofun, fun _ => rfl, fun _ _ => .inr rfl, ?_, nofun⟩
  rintro _ (state | state)
  all_goals cases state

theorem resumeAwaiter_sound (keyed : txn.Keyed) (sound : txn.Sound floor strict)
    (awaiter awaited : String) (wake : Wake) :
    (resumeAwaiter env txn awaiter awaited wake).Sound floor strict := by
  unfold resumeAwaiter
  cases found : txn.getTask awaiter with
  | none => exact sound
  | some task =>
      have own : task.id = awaiter := keyed.task _ _ found
      have stored : txn.getTask task.id = some task := own ▸ found
      have counted (awake : task.state ≠ .suspended) :
          (txn.putTask { task with resumes := insert awaited task.resumes }).Sound floor strict :=
        sound.putTask task _ stored (resumes_rewrites task _ awake) fun live => .inl live
      dsimp only
      split
      · rename_i state
        refine sound.dispatch env _ none (.inl rfl) ?_ ?_
        · intro job carried
          obtain ⟨other, same, _, awake⟩ := sound.ledger.named job _ carried
          cases stored.symm.trans same
          exact awake state
        · intro old same
          cases stored.symm.trans same
          rw [state]
          exact ⟨nofun, fun _ => nofun⟩
      · rename_i state
        exact counted (by rw [state]; nofun)
      · rename_i state
        exact counted (by rw [state]; nofun)
      · rename_i state
        split
        · exact counted (by rw [state]; nofun)
        · exact sound
      · exact sound

theorem wakeAll_sound (awaited : String) (callbacks : List String) (keyed : txn.Keyed)
    (sound : txn.Sound floor strict) :
    (callbacks.foldl (wakeAwaiter env awaited) txn).Sound floor strict := by
  induction callbacks generalizing txn with
  | nil => exact sound
  | cons awaiter rest ih =>
      refine ih (wakeAwaiter_keyed env awaited keyed awaiter) ?_
      rw [wakeAwaiter_eq]
      split
      · exact resumeAwaiter_sound keyed sound awaiter awaited .fanout
      · exact sound

theorem fulfillOwnTask_sound (keyed : txn.Keyed) (sound : txn.Sound floor strict) (id : String) :
    (fulfillOwnTask txn id).Sound floor strict := by
  unfold fulfillOwnTask
  split
  · rename_i task found
    have own : task.id = id := keyed.task _ _ found
    have stored : txn.getTask task.id = some task := own ▸ found
    split
    · refine (sound.putTask task _ stored (fulfilled_rewrites task) ?_).follow _ ?_
      · rintro (state | state)
        all_goals cases state
      · refine ⟨{ task.transition .fulfilled with resumes := ∅ }, ?_, .inl rfl⟩
        rw [Txn.getTask_putTask]
        exact if_pos rfl
    · exact sound
  · exact sound

theorem sendAll_sound (message : Message) (listeners : List String)
    (sound : txn.Sound floor strict) :
    (listeners.foldl (fun txn address => txn.sendUnblock env address message) txn).Sound
      floor strict := by
  induction listeners generalizing txn with
  | nil => exact sound
  | cons address rest ih => exact ih (sound.enqueue _ rfl nofun)

theorem settleChain_sound (keyed : txn.Keyed) (sound : txn.Sound floor strict)
    (promise : StoredPromise) : (settleChain env txn promise).1.Sound floor strict := by
  unfold settleChain
  have fulfilled := fulfillOwnTask_sound keyed sound promise.record.id
  have written : ((fulfillOwnTask txn promise.record.id).putPromise promise.cleared).Sound
      floor strict := fulfilled.same rfl rfl rfl rfl rfl
  exact sendAll_sound _ _ (wakeAll_sound _ _
    (putPromise_keyed (fulfillOwnTask_keyed keyed promise.record.id) _) written)

/-! ## Creation -/

/-- A task that never had a job may be stored under a free id. -/
theorem putFulfilled_sound (sound : txn.Sound floor strict) (task : StoredTask)
    (free : txn.getTask task.id = none) (state : task.state = .fulfilled)
    (unassigned : task.job = none) : (txn.putTask task).Sound floor strict := by
  have dead : ¬ task.Live := by
    rintro (live | live)
    all_goals
      rw [state] at live
      cases live
  have written (id : String) (other : task.id ≠ id) :
      (txn.putTask task).getTask id = txn.getTask id := by
    rw [Txn.getTask_putTask, if_neg other]
  have apart {id : String} {stored : StoredTask} (found : txn.getTask id = some stored) :
      task.id ≠ id := by
    rintro rfl
    rw [free] at found
    cases found
  have cases_ {id : String} {stored : StoredTask}
      (found : (txn.putTask task).getTask id = some stored) :
      task = stored ∧ task.id = id ∨ txn.getTask id = some stored := by
    rw [Txn.getTask_putTask] at found
    split at found
    · exact .inl ⟨Option.some.inj found, by assumption⟩
    · exact .inr found
  obtain ⟨accepts, floor_le, below, above, plain, owned, ledger, awake, held, actions⟩ := sound
  refine ⟨accepts, floor_le, below, above, plain, ?_, ⟨?_, ?_⟩, ?_, held, ?_⟩
  · intro id stored job found recorded
    rcases cases_ found with ⟨rfl, _⟩ | old
    · rw [unassigned] at recorded
      cases recorded
    · exact owned id stored job old recorded
  · intro id stored found live
    rcases cases_ found with ⟨rfl, _⟩ | old
    · exact absurd live dead
    · exact ledger.covered id stored old live
  · intro job id carried
    obtain ⟨stored, found, recorded, awake⟩ := ledger.named job id carried
    exact ⟨stored, (written id (apart found)).trans found, recorded, awake⟩
  · intro strictly request member id stored executes found
    rcases cases_ found with ⟨rfl, _⟩ | old
    · rw [state]
      nofun
    · exact awake strictly request member id stored executes old
  · intro action member
    have proper := actions action member
    cases action with
    | ack claim =>
        refine ⟨proper.1, proper.2.1, ?_⟩
        intro id stored executes found recorded
        rcases cases_ found with ⟨rfl, _⟩ | old
        · exact .inl state
        · exact proper.2.2 id stored executes old recorded
    | release id =>
        obtain ⟨stored, found, ended⟩ := proper
        exact ⟨stored, (written id (apart found)).trans found, ended⟩
    | hold id claim => exact proper
    | nack id => trivial
    | claim id job lease => exact proper

theorem startTask_sound (sound : txn.Sound floor strict) (promise : PromiseRecord)
    (target : String) (mode : CreateMode) (free : txn.getTask promise.id = none) :
    (startTask env txn promise target mode).Sound floor strict := by
  have idle (job : Nat) : ¬ txn.Carries job (.execute promise.id) := by
    intro carried
    obtain ⟨stored, found, _⟩ := sound.ledger.named job _ carried
    rw [free] at found
    cases found
  have started (task : StoredTask) (own : task.id = promise.id) (live : task.Live)
      (runAt : Option Int) : (txn.dispatch env task runAt).1.Sound floor strict := by
    refine sound.dispatch env task runAt live (own ▸ idle) ?_
    intro old found
    rw [own, free] at found
    cases found
  unfold startTask
  dsimp only
  split
  · exact putFulfilled_sound sound _ free rfl rfl
  · split
    · rename_i pid ttl
      have dispatched := started { StoredTask.new promise.id target .pending with
        state := .acquired
        version := 1
        pid := some pid
        ttl := some ttl } rfl (.inr rfl) (some (Text.saturatingAdd txn.now ttl))
      refine dispatched.follow (.claim promise.id txn.queue.nextJob (leaseOf ttl)) ?_
      exact dispatched.owned promise.id _ txn.queue.nextJob
        ((Txn.getTask_dispatch _ _ _ _ _).trans (if_pos rfl)) rfl
    · exact started _ rfl (.inl rfl) _

theorem createPromise_sound (sound : txn.Sound floor strict) (data : PromiseCreateData)
    (createdAt : Option Int) (mode : CreateMode) (free : txn.getTask data.id = none) :
    (createPromise env txn data createdAt mode).1.Sound floor strict := by
  have written : ((txn.indexBranch (newPromise data createdAt txn.now).record).putPromise
      (newPromise data createdAt txn.now)).Sound floor strict := by
    refine sound.same ?_ ?_ ?_ ?_ ?_
    · rw [Txn.getTask_putPromise, Txn.getTask_indexBranch]
    · exact indexed_queue txn _
    · exact indexed_enqueues txn _
    · exact (Txn.indexBranch_buffers txn _).held
    · exact indexed_after txn _
  have begun : (started env txn data createdAt mode).Sound floor strict := by
    unfold started
    dsimp only
    split
    · refine startTask_sound written _ _ _ ?_
      rw [newPromise_id, Txn.getTask_putPromise, Txn.getTask_indexBranch]
      exact free
    · exact written
  rw [createPromise_eq]
  dsimp only
  split
  · exact begun.enqueue _ rfl nofun
  · exact begun

/-- A halted task continues with the job it has, or with a new one when it has none. -/
theorem proceed_sound (sound : txn.Sound floor strict) (strictly : strict) (task : StoredTask)
    (stored : txn.getTask task.id = some task) (halted : task.state = .halted) :
    (proceed env txn task).Sound floor strict := by
  unfold proceed
  dsimp only
  split
  · rename_i exists_
    obtain ⟨job, recorded, found⟩ := (Option.any_eq_true _ _).mp exists_
    have carried : txn.Carries job (.execute task.id) := by
      obtain ⟨contents, queued⟩ : ∃ contents, txn.queue.contents job = some contents := by
        cases queued : txn.queue.contents job with
        | some contents => exact ⟨contents, rfl⟩
        | none =>
            have absent : txn.queue.jobs[job]? = none := Txn.jobs_of_contents.mp queued
            change (txn.queue.jobs[job]?).isSome = true at found
            rw [absent] at found
            cases found
      have only := (sound.owned task.id task job stored recorded).2
      have payload := only _ (.inl ⟨contents, queued, rfl⟩)
      exact .inl ⟨contents, queued, payload⟩
    refine sound.putTask task _ stored ?_ fun _ => .inr ⟨job, recorded, carried⟩
    refine ⟨rfl, rfl, nofun, ?_, fun lax => absurd strictly lax, fun lax => absurd strictly lax,
      nofun⟩
    intro fulfilled
    rw [halted] at fulfilled
    cases fulfilled
  · rename_i missing
    have dispatched : (txn.dispatch env (task.transition .pending) none).1.Sound floor strict := by
      refine sound.dispatch env _ none (.inl rfl) ?_ ?_
      · rintro job (⟨contents, queued, executes⟩ | ⟨request, member, _, executes⟩)
        · obtain ⟨other, same, recorded, _⟩ :=
            sound.ledger.named job task.id (.inl ⟨contents, queued, executes⟩)
          cases stored.symm.trans same
          refine missing ((Option.any_eq_true _ _).mpr ⟨job, recorded, ?_⟩)
          unfold Queue.contents at queued
          obtain ⟨found, present, _⟩ := Option.map_eq_some_iff.mp queued
          change (txn.queue.jobs[job]?).isSome = true
          rw [present]
          rfl
        · exact sound.unhalted strictly request member task.id task executes stored halted
      · intro old same
        cases stored.symm.trans same
        rw [halted]
        exact ⟨nofun, fun lax => absurd strictly lax⟩
    refine dispatched.same ?_ rfl rfl rfl rfl
    funext id
    rw [Txn.getTask_dispatch, Txn.getTask_dispatch, Txn.getTask_putTask]
    change (if task.id = id then _ else if task.id = id then _ else _) =
      if task.id = id then _ else _
    split <;> rfl

end Kernel

/-- The moves that keep the books. Where the claims of halted tasks are released, or the jobs of
pending tasks claimed, no task is revived, and the claims acknowledged or held were taken
before. -/
def Label.Allowed (strict : Prop) (taken : Claim → Prop) : Label → Prop
  | .halt _ => ¬ strict
  | .ack known => ¬ strict ∧ taken known
  | .hold _ known => taken known
  | .claim _ _ => ¬ strict
  | .proceed _ => strict
  | .suspend _ _ => False
  | _ => True

section

variable {env : Env} {floor : Nat} {strict : Prop} {txn next : Txn} {label : Label}

theorem holds_sound (sound : txn.Sound floor strict) (task : String) :
    (txn.holds task).1.Sound floor strict := by
  refine sound.touch (Txn.holds_touches txn task) ?_
  intro id claim found
  exact .inl (Txn.holds_held txn task id claim found)

theorem renew_held (txn : Txn) (task id : String) (lease : Nat) (claim : Claim)
    (found : (txn.renew task lease).1.held[id]? = some claim) : txn.held[id]? = some claim := by
  have dropped (next : Txn) (kept : ∀ claim, next.held[id]? = some claim →
      txn.held[id]? = some claim)
      (found : (next.held.erase task)[id]? = some claim) : txn.held[id]? = some claim := by
    rw [Table.find_erase] at found
    split at found
    · cases found
    · exact kept claim found
  have checked := Txn.holds_held txn task id
  unfold Txn.renew at found
  cases result : txn.holds task with
  | mk next outcome =>
      rw [result] at found checked
      cases outcome with
      | false => exact checked claim found
      | true =>
          dsimp only at found
          split at found
          · exact checked claim found
          · split at found
            · exact checked claim found
            · exact dropped next checked found

theorem renew_sound (sound : txn.Sound floor strict) (task : String) (lease : Nat) :
    (txn.renew task lease).1.Sound floor strict :=
  sound.touch (Txn.renew_touches txn task lease)
    fun id claim found => .inl (renew_held txn task id lease claim found)

theorem claimJob_sound (sound : txn.Sound floor strict) (task : StoredTask) (job lease : Nat)
    (stored : txn.getTask task.id = some task) (recorded : task.job = some job) :
    (txn.claimJob task.id job lease).1.Sound floor strict := by
  have touched := Txn.claimJob_touches txn task.id job lease
  unfold Txn.claimJob at touched ⊢
  split
  · rename_i claim queue claimed
    rw [claimed] at touched
    have granted := Queue.claimById_granted claimed
    refine sound.touch touched ?_
    intro id other found
    change (txn.held.insert task.id claim)[id]? = some other at found
    rw [Table.find_insert] at found
    split at found
    · rename_i own
      cases found
      right
      have only := (sound.owned task.id task job stored recorded).2
      refine ⟨⟨?_, ?_⟩, ?_⟩
      · rw [granted.named]
        exact sound.below job _ granted.contents
      · intro contents queued
        rw [granted.named, granted.contents] at queued
        exact (Option.some.inj queued).symm
      · rw [← own]
        exact only _ (.inl ⟨_, granted.contents, rfl⟩)
    · exact .inl found
  · exact sound

/-- Every move that is allowed keeps the books. -/
theorem Move.sound {taken : Claim → Prop} (move : Move env txn label next) (keyed : txn.Keyed)
    (coupled : ∀ id, Coupled (txn.cell id)) (sound : txn.Sound floor strict)
    (allowed : label.Allowed strict taken)
    (granted : ∀ claim, taken claim →
      Matches txn.queue.contents floor claim ∧ ∀ timer, claim.payload ≠ .timer timer) :
    next.Sound floor strict := by
  cases move with
  | expire promise stored pending due => exact settleChain_sound keyed sound _
  | strike promise stored pending => exact settleChain_sound keyed sound _
  | settle promise state value stored pending early => exact settleChain_sound keyed sound _
  | create data createdAt mode absent admitted =>
      refine createPromise_sound sound data createdAt mode ?_
      have target := (coupled data.id).target
      change (txn.getTask data.id).map _ = (txn.getPromise data.id).bind _ at target
      rw [absent] at target
      exact Option.map_eq_none_iff.mp target
  | register awaited awaiter awaitable valid known unlisted => exact sound.same rfl rfl rfl rfl rfl
  | listen awaited address awaitable valid unlisted => exact sound.same rfl rfl rfl rfl rfl
  | resume awaited awaiter stored settled external valid opened =>
      exact resumeAwaiter_sound keyed sound awaiter awaited.record.id .registration
  | acquire task pid ttl stored pending renewed =>
      have touched := Txn.renew_touches txn task.id (leaseOf ttl)
      refine (renew_sound sound task.id (leaseOf ttl)).putTask task _ (touched.getTask ▸ stored)
        ⟨rfl, rfl, nofun, ?_, ?_, fun _ _ => .inl pending, nofun⟩ fun _ => .inl (.inl pending)
      · intro fulfilled
        rw [pending] at fulfilled
        cases fulfilled
      · intro _ halted
        rw [pending] at halted
        cases halted
  | release task stored acquired =>
      have requeued : (txn.putTask (task.transition .pending)).Sound floor strict :=
        sound.putTask task _ stored (transition_rewrites task .pending (.inr acquired) nofun
          fun _ => nofun) fun _ => .inl (.inr acquired)
      exact requeued.follow (.nack task.id) trivial
  | lose task stored acquired =>
      exact sound.putTask task _ stored (transition_rewrites task .pending (.inr acquired) nofun
        fun _ => nofun) fun _ => .inl (.inr acquired)
  | suspend task awaited stored acquired some_awaited listed => exact absurd allowed id
  | clear task stored acquired =>
      exact sound.putTask task _ stored (resumes_rewrites task ∅ (by rw [acquired]; nofun))
        fun live => .inl live
  | halt task stored unfulfilled unhalted =>
      have lax : ¬ strict := allowed
      have halted : (txn.putTask (task.transition .halted)).Sound floor strict := by
        refine sound.putTask task _ stored ⟨rfl, rfl, nofun, fun state => absurd state unfulfilled,
          fun _ state => absurd state unhalted, ?_, fun strictly => absurd strictly lax⟩ ?_
        · rintro _ (state | state)
          all_goals cases state
        · rintro (state | state)
          all_goals cases state
      refine halted.follow _ ⟨task.transition .halted, ?_, .inr ⟨lax, rfl⟩⟩
      rw [Txn.getTask_putTask]
      exact if_pos rfl
  | proceed task stored halted => exact proceed_sound sound allowed task stored halted
  | addSchedule schedule absent next created unfired named plain targeted timeout =>
      have written : (txn.putSchedule schedule).Sound floor strict :=
        sound.same rfl rfl rfl rfl rfl
      exact written.enqueue _ rfl nofun
  | advance schedule stored =>
      unfold advanceSchedule
      split
      · rename_i next later
        have timed : (txn.scheduleTimer (.schedule schedule.id next) next).Sound floor strict :=
          sound.enqueue _ rfl nofun
        exact timed.same rfl rfl rfl rfl rfl
      · exact sound.same rfl rfl rfl rfl rfl
  | dropSchedule id => exact sound.same rfl rfl rfl rfl rfl
  | check task => exact holds_sound sound task
  | renew task lease => exact renew_sound sound task lease
  | claim task job lease stored pending dispatched =>
      exact claimJob_sound sound task job lease stored dispatched
  | ack claim dead =>
      obtain ⟨lax, known⟩ := allowed
      obtain ⟨matched, untimed⟩ := granted claim known
      refine sound.follow (.ack claim) ⟨matched, untimed, ?_⟩
      intro id task executes stored _
      obtain ⟨unsent, unheld⟩ := dead id task executes stored
      exact .inr ⟨lax, fun live => live.elim unsent unheld⟩
  | hold task claim executes stored pending =>
      exact sound.follow (.hold task.id claim) ⟨(granted claim allowed).1, executes⟩

/-- A trail of allowed moves keeps the books. -/
theorem Trail.sound {permits : Label → Prop} {taken : Claim → Prop}
    (trail : Trail env permits txn next) (keyed : txn.Keyed)
    (coupled : ∀ id, Coupled (txn.cell id)) (sound : txn.Sound floor strict)
    (allowed : ∀ label, permits label → label.Allowed strict taken)
    (granted : ∀ claim, taken claim →
      Matches txn.queue.contents floor claim ∧ ∀ timer, claim.payload ≠ .timer timer) :
    next.Sound floor strict := by
  induction trail with
  | refl txn => exact sound
  | step label permitted move rest ih =>
      refine ih (move.keyed keyed) (fun id => (move.change keyed id).coupled (coupled id))
        (move.sound keyed coupled sound (allowed label permitted) granted) ?_
      rw [move.fixed.contents]
      exact granted

end

end Resonate
