import Resonate.Invariants

set_option autoImplicit false

/-! The jobs of tasks as a transaction sees them: which job dispatches which task, which claims
of them are held, and which work after the commit may end them. -/

namespace Resonate

open Kernel
open LeaseQueue (Queue EnqueueRequest)

/-- A task that a job must dispatch or be dispatching. -/
def StoredTask.Live (task : StoredTask) : Prop := task.state = .pending ∨ task.state = .acquired

/-- Every live task has a job, and every job of a task is the one the task records. -/
structure Ledger (tasks : String → Option StoredTask) (dispatches : Nat → String → Prop) :
    Prop where
  covered : ∀ id task, tasks id = some task → task.Live →
    ∃ job, task.job = some job ∧ dispatches job id
  named : ∀ job id, dispatches job id →
    ∃ task, tasks id = some task ∧ task.job = some job ∧ task.state ≠ .suspended

/-- A claim of a job handed out below `floor`, which has the job's contents while the job
exists. -/
structure Matches (jobs : Nat → Option (String × Payload × Option Nat)) (floor : Nat)
    (claim : Claim) : Prop where
  below : claim.id < floor
  contents : ∀ contents, jobs claim.id = some contents → contents = claim.contents

namespace Txn

/-- The job is in the queue, or enqueued under its id, with this payload. -/
def Carries (txn : Txn) (job : Nat) (payload : Payload) : Prop :=
  (∃ contents, txn.queue.contents job = some contents ∧ contents.2.1 = payload) ∨
    ∃ request ∈ txn.enqueues, request.idOverride = some job ∧ request.payload = payload

/-- Whether an action after the commit leaves the job of every live task alone. `strict` is
whether only the claims of fulfilled tasks are released. -/
def Proper (floor : Nat) (strict : Prop) (txn : Txn) : After → Prop
  | .ack claim => Matches txn.queue.contents floor claim ∧ (∀ timer, claim.payload ≠ .timer timer) ∧
      ∀ id task, claim.payload = .execute id → txn.getTask id = some task →
        task.job = some claim.id → task.state = .fulfilled ∨ ¬ strict ∧ ¬ task.Live
  | .hold id claim => Matches txn.queue.contents floor claim ∧ claim.payload = .execute id
  | .release id => ∃ task, txn.getTask id = some task ∧
      (task.state = .fulfilled ∨ ¬ strict ∧ task.state = .halted)
  | .nack _ => True
  | .claim id job _ => job < txn.queue.nextJob ∧
      ∀ payload, txn.Carries job payload → payload = .execute id

/-- The jobs, claims and actions of a transaction over a queue whose ids lay below `floor`. -/
structure Sound (floor : Nat) (strict : Prop) (txn : Txn) : Prop where
  accepts : txn.queue.Accepts txn.enqueues
  floor_le : floor ≤ txn.queue.nextJob
  below : ∀ job contents, txn.queue.contents job = some contents → job < floor
  above : ∀ job ∈ EnqueueRequest.overrides txn.enqueues, floor ≤ job
  plain : ∀ request ∈ txn.enqueues, request.idOverride = none →
    ∀ id, request.payload ≠ .execute id
  owned : ∀ id task job, txn.getTask id = some task → task.job = some job →
    job < txn.queue.nextJob ∧ ∀ payload, txn.Carries job payload → payload = .execute id
  ledger : Ledger txn.getTask fun job id => txn.Carries job (.execute id)
  unhalted : strict → ∀ request ∈ txn.enqueues, ∀ id task, request.payload = .execute id →
    txn.getTask id = some task → task.state ≠ .halted
  held : ∀ id claim, txn.held[id]? = some claim →
    Matches txn.queue.contents floor claim ∧ claim.payload = .execute id
  after : ∀ action ∈ txn.after, txn.Proper floor strict action

theorem jobs_of_contents {queue : Queue Payload} {job : Nat} :
    queue.contents job = none ↔ queue.jobs[job]? = none := by
  unfold Queue.contents
  rw [Option.map_eq_none_iff]

theorem mem_overrides {requests : List (EnqueueRequest Payload)}
    {request : EnqueueRequest Payload} {job : Nat} (member : request ∈ requests)
    (named : request.idOverride = some job) : job ∈ EnqueueRequest.overrides requests :=
  List.mem_filterMap.mpr ⟨request, member, named⟩

namespace Sound

variable {floor : Nat} {strict : Prop} {txn next : Txn}

/-- Writes that reach no task, job, claim or action keep the books. -/
theorem same (sound : txn.Sound floor strict) (tasks : next.getTask = txn.getTask)
    (queue : next.queue = txn.queue) (enqueues : next.enqueues = txn.enqueues)
    (held : next.held = txn.held) (after : next.after = txn.after) :
    next.Sound floor strict := by
  have carries : next.Carries = txn.Carries := by
    unfold Carries
    rw [queue, enqueues]
  have proper : next.Proper floor strict = txn.Proper floor strict := by
    funext action
    cases action <;> simp only [Proper, tasks, queue, carries]
  obtain ⟨accepts, floor_le, below, above, plain, owned, ledger, unhalted, claims, actions⟩ := sound
  refine ⟨?_, ?_, ?_, ?_, ?_, ?_, ?_, ?_, ?_, ?_⟩
  · rw [queue, enqueues]
    exact accepts
  · rw [queue]
    exact floor_le
  · rw [queue]
    exact below
  · rw [enqueues]
    exact above
  · rw [enqueues]
    exact plain
  · rw [queue, tasks, carries]
    exact owned
  · rw [tasks, carries]
    exact ledger
  · rw [enqueues, tasks]
    exact unhalted
  · rw [queue, held]
    exact claims
  · rw [after, proper]
    exact actions

/-- An action that is proper may follow. -/
theorem follow (sound : txn.Sound floor strict) (action : After)
    (proper : txn.Proper floor strict action) : (txn.follow action).Sound floor strict := by
  obtain ⟨accepts, floor_le, below, above, plain, owned, ledger, unhalted, held, after⟩ := sound
  refine ⟨accepts, floor_le, below, above, plain, owned, ledger, unhalted, held, ?_⟩
  intro other member
  rcases List.mem_append.mp member with before | last
  · exact after other before
  · rw [List.mem_singleton.mp last]
    exact proper

/-- A job without an id of its own that dispatches no task may be enqueued. -/
theorem enqueue (sound : txn.Sound floor strict) (request : EnqueueRequest Payload)
    (unnamed : request.idOverride = none) (plain : ∀ id, request.payload ≠ .execute id) :
    (txn.enqueue request).Sound floor strict := by
  have overrides : EnqueueRequest.overrides (txn.enqueues ++ [request]) =
      EnqueueRequest.overrides txn.enqueues := by
    rw [Queue.overrides_append, Queue.overrides_cons_none unnamed]
    exact List.append_nil _
  have carries (job : Nat) (payload : Payload) :
      (txn.enqueue request).Carries job payload ↔ txn.Carries job payload := by
    constructor
    · rintro (queued | ⟨other, member, named, carried⟩)
      · exact .inl queued
      · rcases List.mem_append.mp member with before | last
        · exact .inr ⟨other, before, named, carried⟩
        · rw [List.mem_singleton.mp last, unnamed] at named
          cases named
    · rintro (queued | ⟨other, member, named, carried⟩)
      · exact .inl queued
      · exact .inr ⟨other, List.mem_append_left _ member, named, carried⟩
  obtain ⟨accepts, floor_le, below, above, plains, owned, ledger, unhalted, held, after⟩ := sound
  refine ⟨accepts.unnamed unnamed, floor_le, below, ?_, ?_, ?_, ⟨?_, ?_⟩, ?_, held, ?_⟩
  · exact fun job member => above job (overrides ▸ member)
  · intro other member none id
    rcases List.mem_append.mp member with before | last
    · exact plains other before none id
    · rw [List.mem_singleton.mp last]
      exact plain id
  · intro id task job stored recorded
    obtain ⟨handed, own⟩ := owned id task job stored recorded
    exact ⟨handed, fun payload carried => own payload ((carries job payload).mp carried)⟩
  · intro id task stored live
    obtain ⟨job, recorded, carried⟩ := ledger.covered id task stored live
    exact ⟨job, recorded, (carries job _).mpr carried⟩
  · intro job id carried
    exact ledger.named job id ((carries job _).mp carried)
  · intro strictly other member id task executes stored
    rcases List.mem_append.mp member with before | last
    · exact unhalted strictly other before id task executes stored
    · rw [List.mem_singleton.mp last] at executes
      exact absurd executes (plain id)
  · intro action member
    have proper := after action member
    cases action with
    | claim id job lease =>
        exact ⟨proper.1, fun payload carried => proper.2 payload ((carries job payload).mp carried)⟩
    | ack claim => exact proper
    | hold id claim => exact proper
    | release id => exact proper
    | nack id => exact proper

end Sound

end Txn

/-- A rewrite of a stored task that keeps its job. Where the claims of halted tasks are released
it revives no task, and elsewhere it halts none. -/
structure StoredTask.Rewrites (strict : Prop) (before after : StoredTask) : Prop where
  id : after.id = before.id
  job : after.job = before.job
  awake : after.state ≠ .suspended
  fulfilled : before.state = .fulfilled → after.state = .fulfilled
  halted : ¬ strict → before.state = .halted → after.state = .halted ∨ after.state = .fulfilled
  dead : ¬ strict → after.Live → before.Live
  unhalted : strict → after.state = .halted → before.state = .halted

namespace Txn

namespace Sound

variable {floor : Nat} {strict : Prop} {txn next : Txn}

/-- Rewriting a task keeps the books when a revived task still has a job. -/
theorem putTask (sound : txn.Sound floor strict) (before after : StoredTask)
    (stored : txn.getTask before.id = some before) (rewrites : before.Rewrites strict after)
    (covered : after.Live → before.Live ∨
      ∃ job, before.job = some job ∧ txn.Carries job (.execute before.id)) :
    (txn.putTask after).Sound floor strict := by
  have written (id : String) : (txn.putTask after).getTask id =
      if before.id = id then some after else txn.getTask id := by
    rw [getTask_putTask, rewrites.id]
  have carries : (txn.putTask after).Carries = txn.Carries := rfl
  obtain ⟨accepts, floor_le, below, above, plain, owned, ledger, awake, held, actions⟩ := sound
  refine ⟨accepts, floor_le, below, above, plain, ?_, ⟨?_, ?_⟩, ?_, held, ?_⟩
  · intro id task job found recorded
    rw [written] at found
    split at found
    · rename_i own
      cases found
      rw [carries, ← own]
      exact owned before.id before job stored (rewrites.job ▸ recorded)
    · exact owned id task job found recorded
  · intro id task found live
    rw [written] at found
    split at found
    · rename_i own
      cases found
      rw [← own, rewrites.job]
      rcases covered live with lived | carried
      · exact ledger.covered before.id before stored lived
      · exact carried
    · exact ledger.covered id task found live
  · intro job id carried
    obtain ⟨task, found, recorded, state⟩ := ledger.named job id carried
    rw [written]
    split
    · rename_i own
      rw [← own, stored] at found
      cases found
      exact ⟨after, rfl, rewrites.job.trans recorded, rewrites.awake⟩
    · exact ⟨task, found, recorded, state⟩
  · intro strictly request member id task executes found
    rw [written] at found
    split at found
    · rename_i own
      cases found
      intro halted
      exact awake strictly request member id before executes (own ▸ stored)
        (rewrites.unhalted strictly halted)
    · exact awake strictly request member id task executes found
  · intro action member
    have proper := actions action member
    cases action with
    | ack claim =>
        obtain ⟨granted, untimed, dead⟩ := proper
        refine ⟨granted, untimed, ?_⟩
        intro id task executes found recorded
        rw [written] at found
        split at found
        · rename_i own
          cases found
          rcases dead id before executes (own ▸ stored) (rewrites.job ▸ recorded) with
            fulfilled | ⟨lax, dead⟩
          · exact .inl (rewrites.fulfilled fulfilled)
          · exact .inr ⟨lax, fun live => dead (rewrites.dead lax live)⟩
        · exact dead id task executes found recorded
    | hold id claim => exact proper
    | release id =>
        obtain ⟨task, found, ended⟩ := proper
        change ∃ task, (txn.putTask after).getTask id = some task ∧ _
        rw [written]
        split
        · rename_i own
          rw [← own, stored] at found
          cases found
          refine ⟨after, rfl, ?_⟩
          rcases ended with fulfilled | ⟨lax, halted⟩
          · exact .inl (rewrites.fulfilled fulfilled)
          · rcases rewrites.halted lax halted with halted | fulfilled
            · exact .inr ⟨lax, halted⟩
            · exact .inl fulfilled
        · exact ⟨task, found, ended⟩
    | nack id => trivial
    | claim id job lease => exact proper

/-- Dispatching a task no job names keeps the books. -/
theorem dispatch (sound : txn.Sound floor strict) (env : Env) (task : StoredTask)
    (runAt : Option Int) (live : task.Live)
    (idle : ∀ job, ¬ txn.Carries job (.execute task.id))
    (unreleased : ∀ old, txn.getTask task.id = some old → old.state ≠ .fulfilled ∧
      (¬ strict → old.state ≠ .halted)) :
    (txn.dispatch env task runAt).1.Sound floor strict := by
  have awake : task.state ≠ .suspended := by
    rcases live with state | state
    all_goals
      rw [state]
      nofun
  have unhalted : task.state ≠ .halted := by
    rcases live with state | state
    all_goals
      rw [state]
      nofun
  have overrides : EnqueueRequest.overrides (txn.dispatch env task runAt).1.enqueues =
      EnqueueRequest.overrides txn.enqueues ++ [txn.queue.nextJob] :=
    Queue.overrides_append _ _
  have written := getTask_dispatch env txn task runAt
  obtain ⟨accepts, floor_le, below, above, plain, owned, ledger, woken, held, actions⟩ := sound
  have absent : txn.queue.contents txn.queue.nextJob = none :=
    jobs_of_contents.mpr (accepts.fresh _ (Nat.le_refl _))
  have carries (job : Nat) (payload : Payload) :
      (txn.dispatch env task runAt).1.Carries job payload ↔ txn.Carries job payload ∨
        job = txn.queue.nextJob ∧ payload = .execute task.id := by
    constructor
    · rintro (queued | ⟨other, member, named, carried⟩)
      · exact .inl (.inl queued)
      · rcases List.mem_append.mp member with before | last
        · exact .inl (.inr ⟨other, before, named, carried⟩)
        · rw [List.mem_singleton.mp last] at named carried
          cases named
          exact .inr ⟨rfl, carried.symm⟩
    · rintro ((queued | ⟨other, member, named, carried⟩) | ⟨rfl, rfl⟩)
      · exact .inl queued
      · exact .inr ⟨other, List.mem_append_left _ member, named, carried⟩
      · exact .inr ⟨_, List.mem_append_right _ (List.mem_singleton.mpr rfl), rfl, rfl⟩
  have fresh (payload : Payload) : ¬ txn.Carries txn.queue.nextJob payload := by
    rintro (⟨contents, queued, _⟩ | ⟨other, member, named, _⟩)
    · rw [absent] at queued
      cases queued
    · have handed := accepts.below _ (mem_overrides member named)
      omega
  refine ⟨accepts.handed rfl, Nat.le_succ_of_le floor_le, below, ?_, ?_, ?_, ⟨?_, ?_⟩, ?_, held, ?_⟩
  · intro job member
    rw [overrides] at member
    rcases List.mem_append.mp member with before | last
    · exact above job before
    · rw [List.mem_singleton.mp last]
      exact floor_le
  · intro request member unnamed id
    rcases List.mem_append.mp member with before | last
    · exact plain request before unnamed id
    · rw [List.mem_singleton.mp last] at unnamed
      cases unnamed
  · intro id stored job found recorded
    rw [written] at found
    split at found
    · rename_i own
      cases found
      cases recorded
      refine ⟨Nat.lt_succ_self _, ?_⟩
      intro payload carried
      rcases (carries _ payload).mp carried with old | ⟨_, same⟩
      · exact absurd old (fresh payload)
      · rw [same, own]
    · obtain ⟨handed, only⟩ := owned id stored job found recorded
      refine ⟨Nat.lt_succ_of_lt handed, ?_⟩
      intro payload carried
      rcases (carries job payload).mp carried with old | ⟨same, _⟩
      · exact only payload old
      · omega
  · intro id stored found lives
    rw [written] at found
    split at found
    · rename_i own
      cases found
      exact ⟨_, rfl, (carries _ _).mpr (.inr ⟨rfl, by rw [own]⟩)⟩
    · obtain ⟨job, recorded, carried⟩ := ledger.covered id stored found lives
      exact ⟨job, recorded, (carries job _).mpr (.inl carried)⟩
  · intro job id carried
    rw [written]
    rcases (carries job _).mp carried with old | ⟨rfl, same⟩
    · split
      · rename_i own
        exact absurd (own ▸ old) (idle job)
      · exact ledger.named job id old
    · cases same
      rw [if_pos rfl]
      exact ⟨_, rfl, rfl, awake⟩
  · intro strictly request member id stored executes found
    rw [written] at found
    split at found
    · cases found
      exact unhalted
    · rename_i other
      rcases List.mem_append.mp member with before | last
      · exact woken strictly request before id stored executes found
      · rw [List.mem_singleton.mp last] at executes
        cases executes
        exact absurd rfl other
  · intro action member
    have proper := actions action member
    cases action with
    | ack claim =>
        obtain ⟨granted, untimed, dead⟩ := proper
        refine ⟨granted, untimed, ?_⟩
        intro id stored executes found recorded
        rw [written] at found
        split at found
        · cases found
          have same : txn.queue.nextJob = claim.id := Option.some.inj recorded
          have handed := granted.below
          omega
        · exact dead id stored executes found recorded
    | hold id claim => exact proper
    | release id =>
        obtain ⟨stored, found, ended⟩ := proper
        change ∃ stored, (txn.dispatch env task runAt).1.getTask id = some stored ∧ _
        rw [written]
        split
        · rename_i own
          have open_ := unreleased stored (own ▸ found)
          rcases ended with fulfilled | ⟨lax, halted⟩
          · exact absurd fulfilled open_.1
          · exact absurd halted (open_.2 lax)
        · exact ⟨stored, found, ended⟩
    | nack id => trivial
    | claim id job lease =>
        obtain ⟨handed, only⟩ := proper
        refine ⟨Nat.lt_succ_of_lt handed, ?_⟩
        intro payload carried
        rcases (carries job payload).mp carried with old | ⟨same, _⟩
        · exact only payload old
        · omega

/-- Other claims of the same jobs keep the books. -/
theorem touch (sound : txn.Sound floor strict) (touches : Touches txn next)
    (held : ∀ id claim, next.held[id]? = some claim → txn.held[id]? = some claim ∨
      Matches txn.queue.contents floor claim ∧ claim.payload = .execute id) :
    next.Sound floor strict := by
  have keeps := touches.keeps
  have carries : next.Carries = txn.Carries := by
    unfold Carries
    rw [keeps.contents, touches.enqueues]
  have granted (claim : Claim) (granted : Matches txn.queue.contents floor claim) :
      Matches next.queue.contents floor claim :=
    keeps.contents ▸ granted
  have absent (job : Nat) : next.queue.jobs[job]? = none ↔ txn.queue.jobs[job]? = none := by
    rw [← jobs_of_contents, ← jobs_of_contents, keeps.contents]
  obtain ⟨accepts, floor_le, below, above, plain, owned, ledger, unhalted, claims, actions⟩ := sound
  refine ⟨⟨?_, ?_, ?_, ?_⟩, ?_, ?_, ?_, ?_, ?_, ?_, ?_, ?_, ?_⟩
  · intro job high
    rw [keeps.nextJob] at high
    exact (absent job).mpr (accepts.fresh job high)
  · intro job member
    rw [touches.enqueues] at member
    rw [keeps.nextJob]
    exact accepts.below job member
  · intro job member
    rw [touches.enqueues] at member
    exact (absent job).mpr (accepts.absent job member)
  · rw [touches.enqueues]
    exact accepts.distinct
  · rw [keeps.nextJob]
    exact floor_le
  · rw [keeps.contents]
    exact below
  · rw [touches.enqueues]
    exact above
  · rw [touches.enqueues]
    exact plain
  · rw [touches.getTask, keeps.nextJob, carries]
    exact owned
  · rw [touches.getTask, carries]
    exact ledger
  · rw [touches.enqueues, touches.getTask]
    exact unhalted
  · intro id claim found
    rcases held id claim found with before | ⟨taken, executes⟩
    · exact ⟨granted claim (claims id claim before).1, (claims id claim before).2⟩
    · exact ⟨granted claim taken, executes⟩
  · intro action member
    rw [touches.after] at member
    have proper := actions action member
    cases action with
    | ack claim =>
        obtain ⟨taken, untimed, dead⟩ := proper
        refine ⟨granted claim taken, untimed, ?_⟩
        rw [touches.getTask]
        exact dead
    | hold id claim => exact ⟨granted claim proper.1, proper.2⟩
    | release id =>
        change ∃ task, next.getTask id = some task ∧ _
        rw [touches.getTask]
        exact proper
    | nack id => trivial
    | claim id job lease =>
        change job < next.queue.nextJob ∧ ∀ payload, next.Carries job payload → _
        rw [keeps.nextJob, carries]
        exact proper

end Sound

end Txn

end Resonate
