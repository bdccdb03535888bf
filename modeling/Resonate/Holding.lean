import Resonate.Bookkeeping

set_option autoImplicit false

/-! The claims held for tasks: each is of the task's own job while every delivered job is still
in the queue. -/

namespace Resonate

open Kernel
open LeaseQueue (Queue EnqueueRequest)

/-- The work a move adds to what follows the commit. -/
def Label.follows (txn : Txn) : Label → List After
  | .expire promise => releasesOf txn promise.record.id
  | .strike promise => releasesOf txn promise.record.id
  | .settle promise _ _ => releasesOf txn promise.record.id
  | .create data createdAt mode => createFollows txn data createdAt mode
  | .release task => [.nack task.id]
  | .halt task => [.release task.id]
  | .ack known => [.ack known]
  | .hold task known => [.hold task known]
  | _ => []

/-- The task and the job of the claim an action takes over. -/
def After.takes : After → Option (String × Nat)
  | .hold id known => some (id, known.id)
  | .claim id job _ => some (id, job)
  | _ => none

/-- The job is the task's, which is live or has its claim released by what follows. -/
def Backs (tasks : String → Option StoredTask) (id : String) (job : Nat) (follows : List After) :
    Prop :=
  ∃ task, tasks id = some task ∧ task.job = some job ∧ (task.Live ∨ .release id ∈ follows)

/-- Every claim taken over by an action is backed by what follows it. -/
def Backing (tasks : String → Option StoredTask) : List After → Prop
  | [] => True
  | action :: rest =>
      (∀ id job, action.takes = some (id, job) → Backs tasks id job rest) ∧ Backing tasks rest

/-- Every claim held, or taken over by an action, is backed. -/
structure Txn.Backed (txn : Txn) : Prop where
  held : ∀ (id : String) (claim : Claim), txn.held[id]? = some claim →
    Backs txn.getTask id claim.id txn.after
  taken : Backing txn.getTask txn.after

section

variable {env : Env} {floor : Nat} {strict : Prop} {txn next : Txn} {label : Label}

theorem after_proceed (task : StoredTask) : (Kernel.proceed env txn task).after = txn.after := by
  unfold Kernel.proceed
  dsimp only
  split <;> rfl

theorem Move.after (move : Move env txn label next) :
    next.after = txn.after ++ label.follows txn := by
  cases move with
  | expire promise stored pending due => exact after_settleChain env txn (expiredPromise promise)
  | strike promise stored pending => exact after_settleChain env txn (expiredPromise promise)
  | settle promise state value stored pending early =>
      exact after_settleChain env txn (settledPromise promise state value txn.now)
  | create data createdAt mode absent admitted => exact after_createPromise env txn data createdAt mode
  | register awaited awaiter awaitable valid known unlisted => exact (List.append_nil _).symm
  | listen awaited address awaitable valid unlisted => exact (List.append_nil _).symm
  | resume awaited awaiter stored settled external valid opened =>
      rw [resumeAwaiter_after]
      exact (List.append_nil _).symm
  | acquire task pid ttl stored pending renewed =>
      exact (Txn.renew_touches _ _ _).after.trans (List.append_nil _).symm
  | release task stored acquired => rfl
  | lose task stored acquired => exact (List.append_nil _).symm
  | suspend task awaited stored acquired some_awaited listed => exact (List.append_nil _).symm
  | clear task stored acquired => exact (List.append_nil _).symm
  | halt task stored unfulfilled unhalted => rfl
  | proceed task stored halted => exact (after_proceed task).trans (List.append_nil _).symm
  | addSchedule schedule absent next created unfired named plain targeted timeout =>
      exact (List.append_nil _).symm
  | advance schedule stored =>
      refine Eq.trans ?_ (List.append_nil _).symm
      unfold advanceSchedule
      split <;> rfl
  | dropSchedule id => exact (List.append_nil _).symm
  | check task => exact (Txn.holds_touches _ _).after.trans (List.append_nil _).symm
  | renew task lease => exact (Txn.renew_touches _ _ _).after.trans (List.append_nil _).symm
  | claim task job lease stored pending dispatched =>
      exact (Txn.claimJob_touches _ _ _ _).after.trans (List.append_nil _).symm
  | ack claim dead => rfl
  | hold task claim executes stored pending => rfl

theorem Backing.append {tasks later : String → Option StoredTask} {follows more : List After}
    (backing : Backing tasks follows) (fresh : Backing later more)
    (kept : ∀ id job rest, (∀ action ∈ rest, action ∈ follows) → Backs tasks id job rest →
      Backs later id job (rest ++ more)) : Backing later (follows ++ more) := by
  induction follows with
  | nil => exact fresh
  | cons action rest ih =>
      refine ⟨?_, ih backing.2 fun id job tail inside => kept id job tail fun other member =>
        List.mem_cons_of_mem _ (inside other member)⟩
      intro id job takes
      exact kept id job rest (fun other member => List.mem_cons_of_mem _ member)
        (backing.1 id job takes)

/-- A list without a claim to take over is backed. -/
theorem backing_of_none {tasks : String → Option StoredTask} {follows : List After}
    (none : ∀ action ∈ follows, action.takes = none) : Backing tasks follows := by
  induction follows with
  | nil => trivial
  | cons action rest ih =>
      refine ⟨?_, ih fun other member => none other (List.mem_cons_of_mem _ member)⟩
      intro id job takes
      rw [none action List.mem_cons_self] at takes
      cases takes

/-! ## One move -/

/-- Whether a move made at `now` ends the dispatch of a task. -/
def Label.Ends (now : Int) (id : String) (label : Label) : Prop :=
  (∃ promise final, label.settles now = some (promise, final) ∧ promise.record.id = id) ∨
    ∃ task, label = .halt task ∧ task.id = id

theorem fulfilled_job (task : StoredTask) : task.fulfilled.job = task.job := by
  unfold StoredTask.fulfilled
  split <;> rfl

/-- A wake-up leaves the job of every task that is not asleep. -/
theorem resumed_awake (awaited : String) (wake : Wake) (job : Nat) (task : StoredTask)
    (awake : task.state ≠ .suspended) : (task.resumed awaited wake job).job = task.job ∧
      (task.resumed awaited wake job).state = task.state := by
  cases state : task.state with
  | suspended => exact absurd state awake
  | halted =>
      simp only [StoredTask.resumed, state]
      split
      · exact ⟨rfl, rfl⟩
      · exact ⟨rfl, state⟩
  | _ => simp [StoredTask.resumed, state]

theorem live_of_state {before after : StoredTask} (same : after.state = before.state)
    (live : before.Live) : after.Live := by
  unfold StoredTask.Live
  rw [same]
  exact live

/-- A change keeps a task's job, and the task stays live unless the change ends its dispatch. The
exceptions are a task woken from its sleep and a halted one that continues. -/
theorem Change.keeps {now : Int} {id : String} {before after : Cell} {task : StoredTask}
    (change : Change env now id label before after) (coupled : Coupled before)
    (stored : before.task = some task) :
    ∃ new, after.task = some new ∧
      (new.job = task.job ∧ (task.Live → new.Live ∨ label.Ends now id ∨ label.Suspends) ∨
        task.state = .suspended ∨ task.state = .halted ∧ ∃ old, label = .proceed old) := by
  have woken (awaited : String) (wake : Wake) (job : Nat) :
      ∃ new, some (task.resumed awaited wake job) = some new ∧
        (new.job = task.job ∧ (task.Live → new.Live ∨ label.Ends now id ∨ label.Suspends) ∨
          task.state = .suspended ∨ task.state = .halted ∧ ∃ old, label = .proceed old) := by
    refine ⟨_, rfl, ?_⟩
    by_cases asleep : task.state = .suspended
    · exact .inr (.inl asleep)
    · obtain ⟨job, state⟩ := resumed_awake awaited wake job task asleep
      exact .inl ⟨job, fun live => .inl (live_of_state state live)⟩
  cases change with
  | settled label promise final old settles own pending timely =>
      cases stored
      exact ⟨task.fulfilled, rfl,
        .inl ⟨fulfilled_job task, fun _ => .inr (.inl (.inl ⟨promise, final, settles, own⟩))⟩⟩
  | woken label promise final awaiter old job settles other listed pending early =>
      cases stored
      exact woken promise.record.id .fanout job
  | spared label promise final cell settles other asleep =>
      exact ⟨task, stored, .inl ⟨rfl, .inl⟩⟩
  | created data createdAt mode old job own =>
      have absent : old = none := by simpa using coupled.target
      cases stored
      cases absent
  | registered awaited awaiter old own pending external valid unlisted =>
      exact ⟨task, stored, .inl ⟨rfl, .inl⟩⟩
  | listened awaited address old own pending external unlisted =>
      exact ⟨task, stored, .inl ⟨rfl, .inl⟩⟩
  | resumed awaited awaiter old job pending early =>
      cases stored
      exact woken awaited.record.id .registration job
  | moved label promise old later own move =>
      cases stored
      refine ⟨later, rfl, ?_⟩
      cases move with
      | acquire task pid ttl pending => exact .inl ⟨rfl, fun _ => .inl (.inr rfl)⟩
      | release task acquired => exact .inl ⟨rfl, fun _ => .inl (.inl rfl)⟩
      | lose task acquired => exact .inl ⟨rfl, fun _ => .inl (.inl rfl)⟩
      | suspend task awaited acquired => exact .inl ⟨rfl, fun _ => .inr (.inr trivial)⟩
      | clear task acquired => exact .inl ⟨rfl, fun _ => .inl (.inr acquired)⟩
      | halt task unfulfilled unhalted =>
          exact .inl ⟨rfl, fun _ => .inr (.inl (.inr ⟨task, rfl, own⟩))⟩
      | proceed task job halted => exact .inr (.inr ⟨halted, task, rfl⟩)
  | same label cell unsettling apart => exact ⟨task, stored, .inl ⟨rfl, .inl⟩⟩

/-- A move that ends a live task's dispatch releases its claim. -/
theorem Label.Ends.releases {id : String} {task : StoredTask} (ends : label.Ends txn.now id)
    (keyed : txn.Keyed) (stored : txn.getTask id = some task) (live : task.Live) :
    .release id ∈ label.follows txn := by
  have unfulfilled : task.state ≠ .fulfilled := by
    intro fulfilled
    rcases live with live | live
    all_goals
      rw [fulfilled] at live
      cases live
  have released : .release id ∈ releasesOf txn id := by
    unfold releasesOf
    rw [stored]
    simp only [if_pos unfulfilled, keyed.task id task stored, List.mem_singleton]
  rcases ends with ⟨promise, final, settles, own⟩ | ⟨old, rfl, own⟩
  · cases label with
    | expire stored =>
        cases settles
        exact own ▸ released
    | strike stored =>
        cases settles
        exact own ▸ released
    | settle stored state value =>
        cases settles
        exact own ▸ released
    | _ => cases settles
  · rw [← own]
    exact List.mem_singleton.mpr rfl

/-- A backed claim stays backed. -/
theorem Move.backs {taken : Claim → Prop} (move : Move env txn label next) (keyed : txn.Keyed)
    (coupled : ∀ id, Coupled (txn.cell id)) (sound : txn.Sound floor strict)
    (allowed : label.Allowed strict taken) {id : String} {job : Nat} {rest : List After}
    (inside : ∀ action ∈ rest, action ∈ txn.after) (backs : Backs txn.getTask id job rest) :
    Backs next.getTask id job (rest ++ label.follows txn) := by
  obtain ⟨task, stored, recorded, state⟩ := backs
  have released (release : .release id ∈ rest) :
      task.state = .fulfilled ∨ ¬ strict ∧ task.state = .halted := by
    obtain ⟨other, found, ended⟩ := sound.after _ (inside _ release)
    rw [stored] at found
    cases found
    exact ended
  obtain ⟨new, changed, outcome⟩ := (move.change keyed id).keeps (coupled id) stored
  rcases outcome with ⟨sameJob, kept⟩ | asleep | ⟨halted, old, rfl⟩
  · refine ⟨new, changed, sameJob.trans recorded, ?_⟩
    rcases state with live | release
    · rcases kept live with lives | ends | suspends
      · exact .inl lives
      · exact .inr (List.mem_append_right _ (ends.releases keyed stored live))
      · cases label with
        | suspend task awaited => exact allowed.elim
        | _ => exact suspends.elim
    · exact .inr (List.mem_append_left _ release)
  · rcases state with (live | live) | release
    · rw [asleep] at live
      cases live
    · rw [asleep] at live
      cases live
    · rcases released release with fulfilled | ⟨_, halted⟩
      · rw [asleep] at fulfilled
        cases fulfilled
      · rw [asleep] at halted
        cases halted
  · rcases state with (live | live) | release
    · rw [halted] at live
      cases live
    · rw [halted] at live
      cases live
    · rcases released release with fulfilled | ⟨lax, _⟩
      · rw [halted] at fulfilled
        cases fulfilled
      · exact absurd allowed lax

/-- A claim held after a move was held before it, or is one of a pending task's job just taken
from the queue. -/
theorem Move.held (move : Move env txn label next) {id : String} {claim : Claim}
    (found : next.held[id]? = some claim) :
    txn.held[id]? = some claim ∨ ∃ task lease, label = .claim task lease ∧ task.id = id ∧
      txn.getTask id = some task ∧ task.state = .pending ∧ task.job = some claim.id ∧
      txn.queue.contents claim.id = some claim.contents := by
  have buffered (buffers : Txn.Buffers txn next) : txn.held[id]? = some claim := by
    rw [← buffers.held]
    exact found
  cases move with
  | expire promise stored pending due => exact .inl (buffered (settleChain_buffers _ _ _))
  | strike promise stored pending => exact .inl (buffered (settleChain_buffers _ _ _))
  | settle promise state value stored pending early =>
      exact .inl (buffered (settleChain_buffers _ _ _))
  | create data createdAt mode absent admitted =>
      exact .inl (buffered (createPromise_buffers env txn data createdAt mode))
  | register awaited awaiter awaitable valid known unlisted => exact .inl found
  | listen awaited address awaitable valid unlisted => exact .inl found
  | resume awaited awaiter stored settled external valid opened =>
      exact .inl (buffered (resumeAwaiter_buffers _ _ _))
  | acquire task pid ttl stored pending renewed =>
      exact .inl (renew_held txn task.id id (leaseOf ttl) claim found)
  | release task stored acquired => exact .inl found
  | lose task stored acquired => exact .inl found
  | suspend task awaited stored acquired some_awaited listed => exact .inl found
  | clear task stored acquired => exact .inl found
  | halt task stored unfulfilled unhalted => exact .inl found
  | proceed task stored halted => exact .inl (buffered (proceed_buffers task))
  | addSchedule schedule absent next created unfired named plain targeted timeout =>
      exact .inl found
  | advance schedule stored => exact .inl (buffered (advanceSchedule_buffers schedule))
  | dropSchedule id => exact .inl found
  | check task => exact .inl (Txn.holds_held txn task id claim found)
  | renew task lease => exact .inl (renew_held txn task id lease claim found)
  | claim task job lease stored pending dispatched =>
      unfold Txn.claimJob at found
      split at found
      · rename_i taken queue claimed
        have granted := Queue.claimById_granted claimed
        rcases inserted_held found with old | ⟨rfl, rfl⟩
        · exact .inl old
        · refine .inr ⟨task, lease, rfl, rfl, stored, pending, ?_, ?_⟩
          · rw [dispatched, granted.named]
          · rw [granted.named]
            exact granted.contents
      · exact .inl found
  | ack claim dead => exact .inl found
  | hold task claim executes stored pending => exact .inl found

theorem releasesOf_takes (txn : Txn) (id : String) :
    ∀ action ∈ releasesOf txn id, action.takes = none := by
  intro action member
  unfold releasesOf at member
  split at member
  · split at member
    · rw [List.mem_singleton.mp member]
      rfl
    · cases member
  · cases member

/-- A move takes over claims of live tasks' own jobs only. -/
theorem Move.backing (move : Move env txn label next) (sound : txn.Sound floor strict)
    (present : ∀ task claim, label = .hold task claim →
      Matches txn.queue.contents floor claim ∧
        ∃ contents, txn.queue.contents claim.id = some contents) :
    Backing next.getTask (label.follows txn) := by
  cases move with
  | create data createdAt mode absent admitted =>
      change Backing _ (createFollows txn data createdAt mode)
      unfold createFollows startFollows
      split
      · rename_i target tagged
        split
        · trivial
        · rename_i early
          cases mode with
          | dispatch => trivial
          | acquire pid ttl =>
              refine ⟨?_, trivial⟩
              intro id job takes
              cases takes
              refine ⟨createdTask (newPromise data createdAt txn.now).record target
                (.acquire pid ttl) txn.now txn.queue.nextJob, ?_, ?_, .inl (.inr ?_)⟩
              · rw [newPromise_id, getTask_createPromise, if_pos rfl, taskOf, tagged]
                rfl
              · simp only [createdTask, if_neg early]
              · simp only [createdTask, if_neg early]
      · trivial
  | hold task claim executes stored pending =>
      refine ⟨?_, trivial⟩
      intro id job takes
      cases takes
      obtain ⟨matched, contents, queued⟩ := present _ _ rfl
      obtain ⟨other, found, recorded, _⟩ := sound.recorded matched executes queued
      rw [stored] at found
      cases found
      exact ⟨task, stored, recorded, .inl (.inl pending)⟩
  | expire promise stored pending due => exact backing_of_none (releasesOf_takes txn _)
  | strike promise stored pending => exact backing_of_none (releasesOf_takes txn _)
  | settle promise state value stored pending early =>
      exact backing_of_none (releasesOf_takes txn _)
  | release task stored acquired => exact ⟨nofun, trivial⟩
  | halt task stored unfulfilled unhalted => exact ⟨nofun, trivial⟩
  | ack claim dead => exact ⟨nofun, trivial⟩
  | _ => trivial

theorem Move.backed {taken : Claim → Prop} (move : Move env txn label next) (keyed : txn.Keyed)
    (coupled : ∀ id, Coupled (txn.cell id)) (sound : txn.Sound floor strict)
    (allowed : label.Allowed strict taken)
    (present : ∀ task claim, label = .hold task claim →
      Matches txn.queue.contents floor claim ∧
        ∃ contents, txn.queue.contents claim.id = some contents)
    (backed : txn.Backed) : next.Backed := by
  have kept (id : String) (job : Nat) (rest : List After)
      (inside : ∀ action ∈ rest, action ∈ txn.after) (backs : Backs txn.getTask id job rest) :=
    move.backs keyed coupled sound allowed inside backs
  refine ⟨?_, ?_⟩
  · intro id claim found
    rw [move.after]
    refine kept id claim.id txn.after (fun _ member => member) ?_
    rcases move.held found with old | ⟨task, lease, rfl, own, stored, pending, recorded, _⟩
    · exact backed.held id claim old
    · exact ⟨task, stored, recorded, .inl (.inl pending)⟩
  · rw [move.after]
    exact backed.taken.append (move.backing sound present) kept

/-- A trail whose held claims are of queued jobs keeps every claim backed. -/
theorem Trail.backed {permits : Label → Prop} {taken : Claim → Prop}
    (trail : Trail env permits txn next) (keyed : txn.Keyed)
    (coupled : ∀ id, Coupled (txn.cell id)) (sound : txn.Sound floor strict)
    (allowed : ∀ label, permits label → label.Allowed strict taken)
    (granted : ∀ claim, taken claim →
      Matches txn.queue.contents floor claim ∧ ∀ timer, claim.payload ≠ .timer timer)
    (present : ∀ task claim, permits (.hold task claim) →
      ∃ contents, txn.queue.contents claim.id = some contents)
    (backed : txn.Backed) : next.Backed := by
  induction trail with
  | refl txn => exact backed
  | step label permitted move rest ih =>
      refine ih (move.keyed keyed) (fun id => (move.change keyed id).coupled (coupled id))
        (move.sound keyed coupled sound (allowed label permitted) granted) ?_ ?_
        (move.backed keyed coupled sound (allowed label permitted) ?_ backed)
      · rw [move.fixed.contents]
        exact granted
      · rw [move.fixed.contents]
        exact present
      · rintro task claim rfl
        have known := allowed _ permitted
        exact ⟨(granted claim known).1, present task claim permitted⟩

/-! ## What an undone transaction leaves -/

/-- The claims held are of the jobs the tasks had at the start, where they were live. -/
structure Rooted (tasks : String → Option StoredTask) (strict : Prop) (txn : Txn) : Prop where
  held : ∀ (id : String) (claim : Claim), txn.held[id]? = some claim →
    ∃ task, tasks id = some task ∧ task.job = some claim.id ∧ task.Live
  ended : ¬ strict → ∀ id task, tasks id = some task →
    task.state = .halted ∨ task.state = .fulfilled →
    ∃ later, txn.getTask id = some later ∧ (later.state = .halted ∨ later.state = .fulfilled)

/-- A task that ended stays ended unless it is continued. -/
theorem Change.ended {now : Int} {id : String} {before after : Cell} {task : StoredTask}
    (change : Change env now id label before after) (coupled : Coupled before)
    (stored : before.task = some task) (unrevived : ∀ old, label ≠ .proceed old)
    (ended : task.state = .halted ∨ task.state = .fulfilled) :
    ∃ later, after.task = some later ∧ (later.state = .halted ∨ later.state = .fulfilled) := by
  have resumed (awaited : String) (wake : Wake) (job : Nat) :
      (task.resumed awaited wake job).state = .halted ∨
        (task.resumed awaited wake job).state = .fulfilled := by
    have awake : task.state ≠ .suspended := by
      rcases ended with state | state
      all_goals
        rw [state]
        nofun
    rw [(resumed_awake awaited wake job task awake).2]
    exact ended
  cases change with
  | settled label promise final old settles own pending timely =>
      cases stored
      exact ⟨task.fulfilled, rfl, .inr (StoredTask.fulfilled_state task)⟩
  | woken label promise final awaiter old job settles other listed pending early =>
      cases stored
      exact ⟨_, rfl, resumed promise.record.id .fanout job⟩
  | spared label promise final cell settles other asleep => exact ⟨task, stored, ended⟩
  | created data createdAt mode old job own =>
      have absent : old = none := by simpa using coupled.target
      cases stored
      cases absent
  | registered awaited awaiter old own pending external valid unlisted =>
      exact ⟨task, stored, ended⟩
  | listened awaited address old own pending external unlisted => exact ⟨task, stored, ended⟩
  | resumed awaited awaiter old job pending early =>
      cases stored
      exact ⟨_, rfl, resumed awaited.record.id .registration job⟩
  | moved label promise old later own move =>
      cases stored
      have lively (live : task.state = .pending ∨ task.state = .acquired) : False := by
        rcases live with live | live
        all_goals
          rw [live] at ended
          rcases ended with state | state
          all_goals cases state
      cases move with
      | acquire task pid ttl pending => exact (lively (.inl pending)).elim
      | release task acquired => exact (lively (.inr acquired)).elim
      | lose task acquired => exact (lively (.inr acquired)).elim
      | suspend task awaited acquired => exact (lively (.inr acquired)).elim
      | clear task acquired => exact (lively (.inr acquired)).elim
      | halt task unfulfilled unhalted => exact ⟨_, rfl, .inl rfl⟩
      | proceed task job halted => exact absurd rfl (unrevived task)
  | same label cell unsettling apart => exact ⟨task, stored, ended⟩

theorem Move.rooted {taken : Claim → Prop} {tasks : String → Option StoredTask}
    (move : Move env txn label next) (keyed : txn.Keyed) (coupled : ∀ id, Coupled (txn.cell id))
    (sound : txn.Sound floor strict) (allowed : label.Allowed strict taken)
    (named : ∀ job contents id, txn.queue.contents job = some contents →
      contents.2.1 = .execute id →
      ∃ task, tasks id = some task ∧ task.job = some job ∧ task.state ≠ .suspended)
    (rooted : Rooted tasks strict txn) : Rooted tasks strict next := by
  refine ⟨?_, ?_⟩
  · intro id claim found
    rcases move.held found with old | ⟨task, lease, rfl, own, stored, pending, recorded, queued⟩
    · exact rooted.held id claim old
    · have executes := (sound.owned id task claim.id stored recorded).2 _
        (.inl ⟨claim.contents, queued, rfl⟩)
      obtain ⟨root, found, same, awake⟩ := named claim.id _ id queued executes
      refine ⟨root, found, same, ?_⟩
      by_contra dead
      obtain ⟨later, present, ended⟩ := rooted.ended allowed id root found (by
        cases state : root.state with
        | pending => exact absurd (.inl state) dead
        | acquired => exact absurd (.inr state) dead
        | suspended => exact absurd state awake
        | halted => exact .inl rfl
        | fulfilled => exact .inr rfl)
      rw [stored] at present
      cases present
      rw [pending] at ended
      rcases ended with state | state
      all_goals cases state
  · intro lax id task stored ended
    obtain ⟨later, present, ends⟩ := rooted.ended lax id task stored ended
    refine (move.change keyed id).ended (coupled id) present ?_ ends
    rintro old rfl
    exact lax allowed

theorem Trail.rooted {permits : Label → Prop} {taken : Claim → Prop}
    {tasks : String → Option StoredTask} (trail : Trail env permits txn next) (keyed : txn.Keyed)
    (coupled : ∀ id, Coupled (txn.cell id)) (sound : txn.Sound floor strict)
    (allowed : ∀ label, permits label → label.Allowed strict taken)
    (granted : ∀ claim, taken claim →
      Matches txn.queue.contents floor claim ∧ ∀ timer, claim.payload ≠ .timer timer)
    (named : ∀ job contents id, txn.queue.contents job = some contents →
      contents.2.1 = .execute id →
      ∃ task, tasks id = some task ∧ task.job = some job ∧ task.state ≠ .suspended)
    (rooted : Rooted tasks strict txn) : Rooted tasks strict next := by
  induction trail with
  | refl txn => exact rooted
  | step label permitted move rest ih =>
      refine ih (move.keyed keyed) (fun id => (move.change keyed id).coupled (coupled id))
        (move.sound keyed coupled sound (allowed label permitted) granted) ?_ ?_
        (move.rooted keyed coupled sound (allowed label permitted) named rooted)
      · rw [move.fixed.contents]
        exact granted
      · rw [move.fixed.contents]
        exact named

end

end Resonate
