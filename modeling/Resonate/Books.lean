import Resonate.Dispatches

set_option autoImplicit false

/-! The books across commits, acknowledgements and the queue's own steps, and in every reachable
state. -/

namespace Resonate

open Kernel
open LeaseQueue (Queue EnqueueRequest)

/-- A claim still matches once jobs above the floor are added and others removed. -/
theorem Matches.mono {earlier later : Nat → Option (String × Payload × Option Nat)}
    {floor above : Nat} {claim : Claim} (matched : Matches earlier floor claim)
    (raised : floor ≤ above)
    (kept : ∀ job < floor, ∀ contents, later job = some contents → earlier job = some contents) :
    Matches later above claim :=
  ⟨Nat.lt_of_lt_of_le matched.below raised,
    fun contents found => matched.contents contents (kept claim.id matched.below contents found)⟩

namespace Txn

namespace Sound

variable {floor removed : Nat} {strict : Prop} {txn next : Txn}

/-- What is carried under the id of a claim is what was claimed. -/
theorem carried_claim (sound : txn.Sound floor strict) {claim : Claim} {payload : Payload}
    (matched : Matches txn.queue.contents floor claim)
    (carried : txn.Carries claim.id payload) : payload = claim.payload := by
  rcases carried with ⟨contents, queued, rfl⟩ | ⟨request, member, named, _⟩
  · rw [matched.contents contents queued]
    rfl
  · have high := sound.above claim.id (mem_overrides member named)
    have low := matched.below
    omega

/-- A queued job of a claim that executes a task is the task's. -/
theorem recorded (sound : txn.Sound floor strict) {claim : Claim} {id : String}
    (matched : Matches txn.queue.contents floor claim) (executes : claim.payload = .execute id)
    {contents : String × Payload × Option Nat}
    (queued : txn.queue.contents claim.id = some contents) :
    ∃ task, txn.getTask id = some task ∧ task.job = some claim.id ∧ task.state ≠ .suspended := by
  refine sound.ledger.named claim.id id (.inl ⟨contents, queued, ?_⟩)
  rw [matched.contents contents queued]
  exact executes

/-- Every job of a task is the one the task records. -/
theorem job_unique (sound : txn.Sound floor strict) {first second : Nat} {id : String}
    (left : txn.Carries first (.execute id)) (right : txn.Carries second (.execute id)) :
    first = second := by
  obtain ⟨task, stored, recorded, _⟩ := sound.ledger.named first id left
  obtain ⟨other, same, names, _⟩ := sound.ledger.named second id right
  rw [stored] at same
  cases same
  exact Option.some.inj (recorded.symm.trans names)

/-! ## Commits -/

theorem kept (sound : txn.Sound floor strict) (job : Nat) (low : job < floor) :
    (txn.queue.enqueue txn.enqueues).2.contents job = txn.queue.contents job := by
  unfold Queue.contents
  rw [sound.accepts.kept job (Nat.lt_of_lt_of_le low sound.floor_le)]
  intro member
  have high := sound.above job member
  omega

theorem committed (sound : txn.Sound floor strict) {job : Nat} {payload : Payload}
    (carried : txn.Carries job payload) :
    ∃ contents, (txn.queue.enqueue txn.enqueues).2.contents job = some contents ∧
      contents.2.1 = payload := by
  rcases carried with ⟨contents, queued, holds⟩ | ⟨request, member, named, holds⟩
  · refine ⟨contents, ?_, holds⟩
    rw [sound.kept job (sound.below job contents queued)]
    exact queued
  · obtain ⟨id, place, found⟩ := sound.accepts.stored request member
    rcases place with own | ⟨unnamed, _⟩
    · rw [named] at own
      cases own
      refine ⟨(Queue.placed txn.queue.clock request).contents, ?_, holds⟩
      unfold Queue.contents
      rw [found]
      rfl
    · rw [named] at unnamed
      cases unnamed

/-- A job of the committed queue was carried, or is a fresh one that dispatches no task. -/
theorem origin (sound : txn.Sound floor strict) {job : Nat}
    {contents : String × Payload × Option Nat}
    (queued : (txn.queue.enqueue txn.enqueues).2.contents job = some contents) :
    txn.Carries job contents.2.1 ∨
      txn.queue.nextJob ≤ job ∧ ∀ id, contents.2.1 ≠ .execute id := by
  obtain ⟨found, stored, rfl⟩ := Option.map_eq_some_iff.mp queued
  rcases sound.accepts.origin job found stored with before | ⟨request, member, rfl, place⟩
  · left
    left
    refine ⟨found.contents, ?_, rfl⟩
    unfold Queue.contents
    rw [before]
    rfl
  · rcases place with named | ⟨unnamed, fresh⟩
    · exact .inl (.inr ⟨request, member, named, rfl⟩)
    · exact .inr ⟨fresh, sound.plain request member unnamed⟩

/-- The books of a transaction are those of the state its commit leaves. -/
theorem commit (sound : txn.Sound floor strict) (tasks : next.getTask = txn.getTask)
    (queue : next.queue = (txn.queue.enqueue txn.enqueues).2) (enqueues : next.enqueues = [])
    (held : next.held = txn.held) (after : next.after = txn.after) :
    next.Sound next.queue.nextJob False := by
  have raised : txn.queue.nextJob ≤ next.queue.nextJob := by
    rw [queue]
    exact Queue.enqueue_nextJob_le _ _
  have covers : floor ≤ next.queue.nextJob := Nat.le_trans sound.floor_le raised
  have carries {job : Nat} {payload : Payload} (carried : next.Carries job payload) :
      txn.Carries job payload ∨ txn.queue.nextJob ≤ job ∧ ∀ id, payload ≠ .execute id := by
    rcases carried with ⟨contents, queued, rfl⟩ | ⟨request, member, _⟩
    · rw [queue] at queued
      exact sound.origin queued
    · rw [enqueues] at member
      cases member
  have carried {job : Nat} {payload : Payload} (carried : txn.Carries job payload) :
      next.Carries job payload := by
    obtain ⟨contents, queued, holds⟩ := sound.committed carried
    exact .inl ⟨contents, queue ▸ queued, holds⟩
  have matches_ {claim : Claim} (matched : Matches txn.queue.contents floor claim) :
      Matches next.queue.contents next.queue.nextJob claim := by
    refine matched.mono covers ?_
    intro job low contents queued
    rw [queue, sound.kept job low] at queued
    exact queued
  have only {job : Nat} {id : String} (handed : job < txn.queue.nextJob ∧
      ∀ payload, txn.Carries job payload → payload = .execute id) :
      job < next.queue.nextJob ∧ ∀ payload, next.Carries job payload → payload = .execute id := by
    refine ⟨Nat.lt_of_lt_of_le handed.1 raised, ?_⟩
    intro payload holds
    rcases carries holds with old | ⟨fresh, _⟩
    · exact handed.2 payload old
    · omega
  have fresh : next.queue.Fresh := by
    rw [queue]
    exact sound.accepts.fresh_after
  refine ⟨⟨fresh, ?_, ?_, ?_⟩, Nat.le_refl _, ?_, ?_, ?_, ?_, ⟨?_, ?_⟩, nofun, ?_, ?_⟩
  · rw [enqueues]
    intro job member
    cases member
  · rw [enqueues]
    intro job member
    cases member
  · rw [enqueues]
    exact List.nodup_nil
  · intro job contents queued
    by_contra high
    rw [jobs_of_contents.mpr (fresh job (Nat.le_of_not_lt high))] at queued
    cases queued
  · rw [enqueues]
    intro job member
    cases member
  · rw [enqueues]
    intro request member
    cases member
  · rw [tasks]
    exact fun id task job stored recorded => only (sound.owned id task job stored recorded)
  · rw [tasks]
    intro id task stored live
    obtain ⟨job, recorded, holds⟩ := sound.ledger.covered id task stored live
    exact ⟨job, recorded, carried holds⟩
  · rw [tasks]
    intro job id holds
    rcases carries holds with old | ⟨_, plain⟩
    · exact sound.ledger.named job id old
    · exact absurd rfl (plain id)
  · rw [held]
    exact fun id claim found => ⟨matches_ (sound.held id claim found).1,
      (sound.held id claim found).2⟩
  · rw [after]
    intro action member
    have proper := sound.after action member
    cases action with
    | ack claim =>
        obtain ⟨matched, untimed, dead⟩ := proper
        refine ⟨matches_ matched, untimed, ?_⟩
        rw [tasks]
        intro id task executes stored recorded
        rcases dead id task executes stored recorded with fulfilled | ⟨_, dead⟩
        · exact .inl fulfilled
        · exact .inr ⟨not_false, dead⟩
    | hold id claim => exact ⟨matches_ proper.1, proper.2⟩
    | release id =>
        obtain ⟨task, stored, ended⟩ := proper
        refine ⟨task, (congrFun tasks id).trans stored, ?_⟩
        rcases ended with fulfilled | ⟨_, halted⟩
        · exact .inl fulfilled
        · exact .inr ⟨not_false, halted⟩
    | nack id => trivial
    | claim id job lease => exact only proper

/-! ## The queue's own steps -/

/-- Claims taken, renewed, returned or dropped between commits keep the books. -/
theorem shift (sound : txn.Sound floor strict) (tasks : next.getTask = txn.getTask)
    (contents : next.queue.contents = txn.queue.contents)
    (nextJob : txn.queue.nextJob ≤ next.queue.nextJob) (unsent : txn.enqueues = [])
    (enqueues : next.enqueues = [])
    (held : ∀ id claim, next.held[id]? = some claim →
      Matches txn.queue.contents floor claim ∧ claim.payload = .execute id)
    (after : ∀ action ∈ next.after, action ∈ txn.after) :
    next.Sound next.queue.nextJob strict := by
  have carries : next.Carries = txn.Carries := by
    unfold Carries
    rw [contents, enqueues, unsent]
  have raised : floor ≤ next.queue.nextJob := Nat.le_trans sound.floor_le nextJob
  have matches_ {claim : Claim} (matched : Matches txn.queue.contents floor claim) :
      Matches next.queue.contents next.queue.nextJob claim :=
    matched.mono raised fun _ _ _ queued => contents ▸ queued
  refine ⟨⟨?_, ?_, ?_, ?_⟩, Nat.le_refl _, ?_, ?_, ?_, ?_, ?_, ?_, ?_, ?_⟩
  · intro job high
    rw [← jobs_of_contents, contents, jobs_of_contents]
    exact sound.accepts.fresh job (Nat.le_trans nextJob high)
  · rw [enqueues]
    intro job member
    cases member
  · rw [enqueues]
    intro job member
    cases member
  · rw [enqueues]
    exact List.nodup_nil
  · intro job found queued
    rw [contents] at queued
    exact Nat.lt_of_lt_of_le (sound.below job found queued) raised
  · rw [enqueues]
    intro job member
    cases member
  · rw [enqueues]
    intro request member
    cases member
  · rw [tasks, carries]
    intro id task job stored recorded
    obtain ⟨handed, own⟩ := sound.owned id task job stored recorded
    exact ⟨Nat.lt_of_lt_of_le handed nextJob, own⟩
  · rw [tasks, carries]
    exact sound.ledger
  · rw [enqueues]
    intro _ request member
    cases member
  · intro id claim found
    obtain ⟨matched, executes⟩ := held id claim found
    exact ⟨matches_ matched, executes⟩
  · intro action member
    have proper := sound.after action (after action member)
    cases action with
    | ack claim =>
        refine ⟨matches_ proper.1, proper.2.1, ?_⟩
        rw [tasks]
        exact proper.2.2
    | hold id claim => exact ⟨matches_ proper.1, proper.2⟩
    | release id =>
        change ∃ task, next.getTask id = some task ∧ _
        rw [tasks]
        exact proper
    | nack id => trivial
    | claim id job lease =>
        change job < next.queue.nextJob ∧ ∀ payload, next.Carries job payload → _
        rw [carries]
        exact ⟨Nat.lt_of_lt_of_le proper.1 nextJob, proper.2⟩

/-- What is carried once a queued job is removed. -/
theorem carries_remove (queue : next.queue = txn.queue.remove removed)
    (enqueues : next.enqueues = txn.enqueues) {job : Nat} {payload : Payload} :
    (next.Carries job payload → txn.Carries job payload) ∧
      (job ≠ removed → txn.Carries job payload → next.Carries job payload) := by
  constructor
  · rintro (⟨contents, queued, holds⟩ | enqueued)
    · rw [queue, Queue.contents_remove] at queued
      split at queued
      · cases queued
      · exact .inl ⟨contents, queued, holds⟩
    · exact .inr (enqueues ▸ enqueued)
  · rintro other (⟨contents, queued, holds⟩ | enqueued)
    · refine .inl ⟨contents, ?_, holds⟩
      rw [queue, Queue.contents_remove, if_neg (Ne.symm other)]
      exact queued
    · exact .inr (enqueues.symm ▸ enqueued)

theorem matches_remove {claim : Claim} (queue : next.queue = txn.queue.remove removed)
    (matched : Matches txn.queue.contents floor claim) :
    Matches next.queue.contents floor claim := by
  refine matched.mono (Nat.le_refl _) ?_
  intro job _ contents queued
  rw [queue, Queue.contents_remove] at queued
  split at queued
  · cases queued
  · exact queued

/-- A job that dispatches no live task may be removed. -/
theorem remove (sound : txn.Sound floor strict) (queue : next.queue = txn.queue.remove removed)
    (tasks : next.getTask = txn.getTask) (enqueues : next.enqueues = txn.enqueues)
    (held : ∀ (id : String) (claim : Claim), next.held[id]? = some claim →
      txn.held[id]? = some claim)
    (after : ∀ action ∈ next.after, action ∈ txn.after)
    (dead : ∀ id task, txn.Carries removed (.execute id) → txn.getTask id = some task →
      ¬ task.Live) : next.Sound floor strict := by
  have nextJob : next.queue.nextJob = txn.queue.nextJob := by
    rw [queue]
    rfl
  have carried {job : Nat} {payload : Payload} :=
    @carries_remove removed txn next queue enqueues job payload
  have accepts : next.queue.Accepts next.enqueues := by
    rw [queue, enqueues]
    exact sound.accepts.remove removed
  refine ⟨accepts, nextJob ▸ sound.floor_le, ?_, ?_, ?_, ?_, ⟨?_, ?_⟩, ?_, ?_, ?_⟩
  · intro job contents queued
    rw [queue, Queue.contents_remove] at queued
    split at queued
    · cases queued
    · exact sound.below job contents queued
  · rw [enqueues]
    exact sound.above
  · rw [enqueues]
    exact sound.plain
  · rw [tasks, nextJob]
    intro id task job stored recorded
    obtain ⟨handed, own⟩ := sound.owned id task job stored recorded
    exact ⟨handed, fun payload holds => own payload (carried.1 holds)⟩
  · rw [tasks]
    intro id task stored live
    obtain ⟨job, recorded, holds⟩ := sound.ledger.covered id task stored live
    refine ⟨job, recorded, carried.2 ?_ holds⟩
    rintro rfl
    exact dead id task holds stored live
  · rw [tasks]
    exact fun job id holds => sound.ledger.named job id (carried.1 holds)
  · rw [enqueues, tasks]
    exact sound.unhalted
  · intro id claim found
    have before : txn.held[id]? = some claim := held id claim found
    obtain ⟨matched, executes⟩ := sound.held id claim before
    exact ⟨matches_remove queue matched, executes⟩
  · intro action member
    have proper := sound.after action (after action member)
    cases action with
    | ack claim =>
        refine ⟨matches_remove queue proper.1, proper.2.1, ?_⟩
        rw [tasks]
        exact proper.2.2
    | hold id claim => exact ⟨matches_remove queue proper.1, proper.2⟩
    | release id =>
        change ∃ task, next.getTask id = some task ∧ _
        rw [tasks]
        exact proper
    | nack id => trivial
    | claim id job lease =>
        exact ⟨nextJob ▸ proper.1, fun payload holds => proper.2 payload (carried.1 holds)⟩

/-- An acquired task may be put to sleep as its job is removed. -/
theorem sleep (sound : txn.Sound floor strict) (before after : StoredTask)
    (stored : txn.getTask before.id = some before) (acquired : before.state = .acquired)
    (asleep : after.state = .suspended) (sameJob : after.job = before.job)
    (dispatched : ∃ contents, txn.queue.contents removed = some contents ∧
      contents.2.1 = .execute before.id)
    (queue : next.queue = txn.queue.remove removed)
    (tasks : ∀ id, next.getTask id = if before.id = id then some after else txn.getTask id)
    (enqueues : next.enqueues = txn.enqueues)
    (held : ∀ (id : String) (claim : Claim), next.held[id]? = some claim →
      txn.held[id]? = some claim)
    (follows : next.after = txn.after) : next.Sound floor strict := by
  have nextJob : next.queue.nextJob = txn.queue.nextJob := by
    rw [queue]
    rfl
  have carried {job : Nat} {payload : Payload} :=
    @carries_remove removed txn next queue enqueues job payload
  have own : txn.Carries removed (.execute before.id) := .inl dispatched
  have dead : ¬ after.Live := by
    rintro (live | live)
    all_goals
      rw [asleep] at live
      cases live
  have gone (payload : Payload) : ¬ next.Carries removed payload := by
    rintro (⟨contents, queued, _⟩ | ⟨request, member, named, _⟩)
    · rw [queue, Queue.contents_remove, if_pos rfl] at queued
      cases queued
    · rw [enqueues] at member
      obtain ⟨contents, queued, _⟩ := dispatched
      have absent := sound.accepts.absent removed (mem_overrides member named)
      rw [← jobs_of_contents, queued] at absent
      cases absent
  have accepts : next.queue.Accepts next.enqueues := by
    rw [queue, enqueues]
    exact sound.accepts.remove removed
  refine ⟨accepts, nextJob ▸ sound.floor_le, ?_, ?_, ?_, ?_, ⟨?_, ?_⟩, ?_, ?_, ?_⟩
  · intro job contents queued
    rw [queue, Queue.contents_remove] at queued
    split at queued
    · cases queued
    · exact sound.below job contents queued
  · rw [enqueues]
    exact sound.above
  · rw [enqueues]
    exact sound.plain
  · intro id task job found recorded
    rw [nextJob]
    obtain ⟨handed, only⟩ : job < txn.queue.nextJob ∧
        ∀ payload, txn.Carries job payload → payload = .execute id := by
      rw [tasks] at found
      split at found
      · rename_i same
        cases found
        exact same ▸ sound.owned before.id before job stored (sameJob ▸ recorded)
      · exact sound.owned id task job found recorded
    exact ⟨handed, fun payload holds => only payload (carried.1 holds)⟩
  · intro id task found live
    rw [tasks] at found
    split at found
    · cases found
      exact absurd live dead
    · rename_i other
      obtain ⟨job, recorded, holds⟩ := sound.ledger.covered id task found live
      refine ⟨job, recorded, carried.2 ?_ holds⟩
      rintro rfl
      obtain ⟨_, only⟩ := sound.owned id task _ found recorded
      exact other (Payload.execute.inj (only _ own))
  · intro job id holds
    obtain ⟨task, found, recorded, awake⟩ := sound.ledger.named job id (carried.1 holds)
    rw [tasks]
    split
    · rename_i same
      rw [← same] at holds
      rw [sound.job_unique (carried.1 holds) own] at holds
      exact absurd holds (gone _)
    · exact ⟨task, found, recorded, awake⟩
  · rw [enqueues]
    intro strictly request member id task executes found
    rw [tasks] at found
    split at found
    · cases found
      rw [asleep]
      nofun
    · exact sound.unhalted strictly request member id task executes found
  · intro id claim found
    have before : txn.held[id]? = some claim := held id claim found
    obtain ⟨matched, executes⟩ := sound.held id claim before
    exact ⟨matches_remove queue matched, executes⟩
  · rw [follows]
    intro action member
    have proper := sound.after action member
    cases action with
    | ack claim =>
        obtain ⟨matched, untimed, ended⟩ := proper
        refine ⟨matches_remove queue matched, untimed, ?_⟩
        intro id task executes found recorded
        rw [tasks] at found
        split at found
        · rename_i same
          cases found
          rcases ended before.id before (same ▸ executes) stored (sameJob ▸ recorded) with
            fulfilled | ⟨lax, _⟩
          · rw [acquired] at fulfilled
            cases fulfilled
          · exact .inr ⟨lax, dead⟩
        · exact ended id task executes found recorded
    | hold id claim => exact ⟨matches_remove queue proper.1, proper.2⟩
    | release id =>
        obtain ⟨task, found, ended⟩ := proper
        refine ⟨task, ?_, ended⟩
        rw [tasks, if_neg]
        · exact found
        · rintro rfl
          rw [stored] at found
          cases found
          rw [acquired] at ended
          rcases ended with fulfilled | ⟨_, halted⟩
          · cases fulfilled
          · cases halted
    | nack id => trivial
    | claim id job lease =>
        exact ⟨nextJob ▸ proper.1, fun payload holds => proper.2 payload (carried.1 holds)⟩

end Sound

end Txn

end Resonate
