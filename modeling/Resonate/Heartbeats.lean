import Resonate.Acquisitions
import Resonate.OriginRuns

set_option autoImplicit false

/-! Heartbeats renew the leases they name and nothing else, and a renewed lease keeps its task usable
until its end. -/

namespace Resonate

open Kernel
open LeaseQueue (Queue Job)

namespace Txn

/-- What a renewal does: nothing is held, the claim is dropped, or its job is under the new lease. -/
inductive Renewal (txn : Txn) (id : String) (lease : Nat) : Txn × Bool → Prop
  | unheld (absent : txn.held[id]? = none) : Renewal txn id lease (txn, false)
  | dropped : Renewal txn id lease ({ txn with held := txn.held.erase id }, false)
  | renewed (claim : Claim) (queue : Queue Payload) (found : txn.held[id]? = some claim)
      (moved : txn.queue.renewLease claim lease = some queue) :
      Renewal txn id lease ({ txn with queue }, true)

variable {txn : Txn} {id : String} {claim : Claim} {leaseEnd : Nat}

theorem renew_cases (txn : Txn) (id : String) (lease : Nat) :
    Renewal txn id lease (txn.renew id lease) := by
  unfold renew holds
  cases found : txn.held[id]? with
  | none => exact .unheld found
  | some claim =>
      dsimp only
      split
      · rename_i ended
        split at ended
        · cases ended
        · cases ended
          exact .dropped
      · rename_i held
        split at held
        · cases held
          rw [found]
          dsimp only
          split
          · rename_i queue moved
            exact .renewed claim queue found moved
          · exact .dropped
        · cases held

/-- The claims held for spared tasks stay, and so do the jobs that dispatch no other. -/
structure Spares (spared : String → Prop) (earlier later : Txn) : Prop where
  held : ∀ id, spared id → later.held[id]? = earlier.held[id]?
  jobs : ∀ (number : Nat) (job : Job Payload), earlier.queue.jobs[number]? = some job →
    (∀ id, job.payload = .execute id → spared id) → later.queue.jobs[number]? = some job

theorem Spares.refl (spared : String → Prop) (txn : Txn) : Spares spared txn txn :=
  ⟨fun _ _ => rfl, fun _ _ found _ => found⟩

theorem Spares.trans {spared : String → Prop} {first second third : Txn}
    (left : Spares spared first second) (right : Spares spared second third) :
    Spares spared first third :=
  ⟨fun id kept => (right.held id kept).trans (left.held id kept), fun number job found kept =>
    right.jobs number job (left.jobs number job found kept) kept⟩

theorem Spares.mono {spared fewer : String → Prop} {earlier later : Txn}
    (spares : Spares spared earlier later) (within : ∀ id, fewer id → spared id) :
    Spares fewer earlier later :=
  ⟨fun id kept => spares.held id (within id kept), fun number job found kept =>
    spares.jobs number job found fun id executes => within id (kept id executes)⟩

/-- A renewal for one task spares every other. -/
theorem renew_spares (gripped : txn.leases.Gripped) (other : String) (lease : Nat) :
    Spares (· ≠ other) txn (txn.renew other lease).1 := by
  have renewal := renew_cases txn other lease
  generalize txn.renew other lease = last at renewal ⊢
  cases renewal with
  | unheld absent => exact .refl _ txn
  | dropped =>
      refine ⟨fun id apart => ?_, fun _ _ found _ => found⟩
      change (txn.held.erase other)[id]? = _
      rw [Table.find_erase, if_neg apart.symm]
  | renewed claim queue found moved =>
      refine ⟨fun _ _ => rfl, fun number job present apart => ?_⟩
      change queue.jobs[number]? = some job
      have distinct : number ≠ claim.id := by
        rintro rfl
        exact apart other (gripped other claim found job present) rfl
      unfold Queue.renewLease at moved
      split at moved
      · cases moved
        rw [Queue.setState_other _ _ distinct]
        exact present
      · cases moved

theorem renew_gripped (gripped : txn.leases.Gripped) (id : String) (lease : Nat) :
    (txn.renew id lease).1.leases.Gripped := by
  have renewal := renew_cases txn id lease
  have touches := renew_touches txn id lease
  generalize txn.renew id lease = last at renewal touches ⊢
  cases renewal with
  | unheld absent => exact gripped
  | dropped => exact gripped.drop id fun _ _ dispatches => dispatches
  | renewed claim queue found moved => exact gripped.keeps touches.keeps

/-- The renewal of a live claim succeeds. -/
theorem Leased.renew (leased : txn.Leased id claim leaseEnd) (live : txn.live claim = true)
    (lease : Nat) : (txn.renew id lease).1.Leased id claim (txn.queue.clock + lease) := by
  have renewed : ∃ next, txn.renew id lease = (next, true) ∧ next.held = txn.held := by
    unfold Txn.renew
    rw [leased.holds live]
    dsimp only
    rw [leased.held]
    dsimp only
    unfold Queue.renewLease
    rw [if_pos leased.current]
    exact ⟨_, rfl, rfl⟩
  obtain ⟨next, renewed, held⟩ := renewed
  obtain ⟨other, again⟩ := renew_leased renewed
  rw [renewed]
  have same : other = claim := by
    have found := again.held
    rw [held, leased.held] at found
    exact (Option.some.inj found).symm
  exact same ▸ again

/-- A claim is under its lease while its task is spared. -/
theorem Leased.spared {next : Txn} {spared : String → Prop} (leased : txn.Leased id claim leaseEnd)
    (dispatches : Dispatches txn.queue claim.id id) (spares : Spares spared txn next)
    (kept : spared id) : next.Leased id claim leaseEnd := by
  obtain ⟨job, found, state⟩ := leased.job
  refine ⟨(spares.held id kept).trans leased.held, job, spares.jobs claim.id job found ?_, state⟩
  intro other executes
  rw [dispatches job found] at executes
  cases executes
  exact kept

end Txn

/-! ## The entries of a heartbeat -/

/-- The entry names a task that the sender has acquired at its version for `ttl`. -/
def Beats (tasks : String → Option StoredTask) (pid : String) (entry : TaskVersionData) (ttl : Int) :
    Prop :=
  ∃ task, tasks entry.id = some task ∧ task.isAcquiredAt entry.version = true ∧
    task.pid = some pid ∧ task.ttl = some ttl

/-- No entry renews the lease of the task. -/
def Unbeaten (tasks : String → Option StoredTask) (pid : String) (entries : List TaskVersionData)
    (id : String) : Prop :=
  ∀ entry ∈ entries, entry.id = id → ∀ ttl, ¬ Beats tasks pid entry ttl

/-- Two entries that renew one task's lease renew it for the same time. -/
theorem Beats.unique {tasks : String → Option StoredTask} {pid : String}
    {entry other : TaskVersionData} {ttl again : Int} (beats : Beats tasks pid entry ttl)
    (same : Beats tasks pid other again) (named : entry.id = other.id) : ttl = again := by
  obtain ⟨task, stored, _, _, lasting⟩ := beats
  obtain ⟨_, found, _, _, renewed⟩ := same
  rw [← named, stored] at found
  cases found
  rw [lasting] at renewed
  exact Option.some.inj renewed

namespace Kernel

variable {txn : Txn} {pid : String}

/-- An entry renews the lease it names, or does nothing. -/
theorem heartbeatOne_cases (keyed : txn.Keyed) (pid : String) (entry : TaskVersionData) :
    (∃ ttl, Beats txn.getTask pid entry ttl ∧
      heartbeatOne pid txn entry = (txn.renew entry.id (leaseOf ttl)).1) ∨
    (∀ ttl, ¬ Beats txn.getTask pid entry ttl) ∧ heartbeatOne pid txn entry = txn := by
  unfold heartbeatOne
  cases stored : txn.getTask entry.id with
  | none =>
      refine .inr ⟨?_, rfl⟩
      rintro ttl ⟨task, found, _⟩
      rw [stored] at found
      cases found
  | some task =>
      dsimp only
      split
      · rename_i ttl own lasting
        obtain ⟨acquired, held⟩ := Bool.and_eq_true_iff.mp own
        refine .inl ⟨ttl, ⟨task, stored, acquired, eq_of_beq held, lasting⟩, ?_⟩
        rw [keyed.task entry.id task stored]
      · rename_i foreign
        refine .inr ⟨?_, rfl⟩
        rintro ttl ⟨other, found, acquired, held, lasting⟩
        rw [stored] at found
        cases found
        refine foreign ttl ?_ lasting
        rw [acquired, held]
        simp

/-- What the entries of a heartbeat do: they renew the live leases they name, spare every other task
and write nothing. -/
structure Beaten (pid : String) (entries : List TaskVersionData) (before after : Txn) : Prop where
  touches : Txn.Touches before after
  spares : Txn.Spares (Unbeaten before.getTask pid entries) before after
  lasts : ∀ entry ∈ entries, ∀ ttl claim leaseEnd, Beats before.getTask pid entry ttl → 1 ≤ ttl →
    before.Leased entry.id claim leaseEnd → before.live claim = true →
    after.Leased entry.id claim (before.queue.clock + leaseOf ttl)

/-- One entry spares every task it does not renew. -/
theorem heartbeatOne_spares (keyed : txn.Keyed) (gripped : txn.leases.Gripped) (pid : String)
    (entry : TaskVersionData) :
    Txn.Spares (Unbeaten txn.getTask pid [entry]) txn (heartbeatOne pid txn entry) := by
  rcases heartbeatOne_cases keyed pid entry with ⟨ttl, beats, renewed⟩ | ⟨_, same⟩
  · rw [renewed]
    refine (Txn.renew_spares gripped entry.id _).mono fun id unbeaten own => ?_
    exact unbeaten entry List.mem_cons_self own.symm ttl beats
  · rw [same]
    exact .refl _ txn

theorem heartbeatOne_touches (pid : String) (entry : TaskVersionData) :
    Txn.Touches txn (heartbeatOne pid txn entry) := by
  unfold heartbeatOne
  split
  · exact .refl txn
  · split
    · exact Txn.renew_touches _ _ _
    · exact .refl txn

theorem heartbeatOne_gripped (keyed : txn.Keyed) (gripped : txn.leases.Gripped) (pid : String)
    (entry : TaskVersionData) : (heartbeatOne pid txn entry).leases.Gripped := by
  rcases heartbeatOne_cases keyed pid entry with ⟨ttl, _, renewed⟩ | ⟨_, same⟩
  · rw [renewed]
    exact Txn.renew_gripped gripped entry.id _
  · rw [same]
    exact gripped

/-- A lease renewed for a positive time is live. -/
theorem live_renewed {next : Txn} {id : String} {claim : Claim} {ttl : Int}
    (leased : next.Leased id claim (txn.queue.clock + leaseOf ttl)) (now : next.now = txn.now)
    (timed : txn.now ≤ txn.queue.clock) (bounded : txn.now < Text.i64Max) (positive : 1 ≤ ttl) :
    next.live claim = true := by
  rw [leased.live_iff, now]
  unfold leaseOf
  omega

theorem heartbeats_beaten (pid : String) (entries : List TaskVersionData) (keyed : txn.Keyed)
    (gripped : txn.leases.Gripped) (timed : txn.now ≤ txn.queue.clock) :
    Beaten pid entries txn (entries.foldl (heartbeatOne pid) txn) := by
  induction entries generalizing txn with
  | nil => exact ⟨.refl txn, .refl _ txn, nofun⟩
  | cons head rest ih =>
      have touched : Txn.Touches txn (heartbeatOne pid txn head) := heartbeatOne_touches pid head
      have tasks : (heartbeatOne pid txn head).getTask = txn.getTask := touched.getTask
      have later := ih (touched.keyed keyed) (heartbeatOne_gripped keyed gripped pid head)
        (by rw [touched.now, touched.clock]; exact timed)
      rw [List.foldl_cons]
      refine ⟨touched.trans later.touches, ?_, ?_⟩
      · refine ((heartbeatOne_spares keyed gripped pid head).mono ?_).trans (later.spares.mono ?_)
        · intro id unbeaten entry member
          exact unbeaten entry (List.mem_cons.mpr (.inl (List.mem_singleton.mp member)))
        · intro id unbeaten entry member
          rw [tasks]
          exact unbeaten entry (List.mem_cons_of_mem _ member)
      · intro entry member ttl claim leaseEnd beats positive leased live
        have bounded : txn.now < Text.i64Max := by
          have running := leased.live_iff.mp live
          omega
        have dispatches : Dispatches txn.queue claim.id entry.id :=
          gripped entry.id claim leased.held
        -- The head renews this lease, or leaves it to an entry of the rest.
        by_cases first : head.id = entry.id ∧ ∃ again, Beats txn.getTask pid head again
        · obtain ⟨named, again, beating⟩ := first
          have same : again = ttl := beating.unique beats named
          have moved : (heartbeatOne pid txn head).Leased entry.id claim
              (txn.queue.clock + leaseOf ttl) := by
            rcases heartbeatOne_cases keyed pid head with ⟨other, beating', renewed⟩ | ⟨unbeaten, _⟩
            · rw [renewed, beating'.unique beating rfl, same, named]
              exact leased.renew live _
            · exact absurd beating (unbeaten again)
          have running : (heartbeatOne pid txn head).live claim = true :=
            live_renewed moved touched.now timed bounded positive
          by_cases more : ∃ next ∈ rest, next.id = entry.id ∧ Beats txn.getTask pid next ttl
          · obtain ⟨next, inside, own, beats'⟩ := more
            rw [← own] at moved ⊢
            rw [← touched.clock]
            exact later.lasts next inside ttl claim _ (tasks ▸ beats') positive moved running
          · refine moved.spared (dispatches.keeps touched.keeps) later.spares ?_
            intro next inside own ttl' beats'
            rw [tasks] at beats'
            exact more ⟨next, inside, own, beats'.unique beats own ▸ beats'⟩
        · have kept : (heartbeatOne pid txn head).Leased entry.id claim leaseEnd := by
            refine leased.spared dispatches (heartbeatOne_spares keyed gripped pid head) ?_
            intro other same own again beating
            cases List.mem_singleton.mp same
            exact first ⟨own, again, beating⟩
          have running : (heartbeatOne pid txn head).live claim = true := by
            rw [kept.live_iff, touched.now, ← leased.live_iff]
            exact live
          rcases List.mem_cons.mp member with rfl | inside
          · exact absurd ⟨rfl, ttl, beats⟩ first
          · rw [← touched.clock]
            exact later.lasts entry inside ttl claim leaseEnd (tasks ▸ beats) positive kept running

end Kernel

/-- A task acquired at a version is usable while its lease runs and its promise is open. -/
theorem usable_under {env : Env} {system : System} {id : String} {version : Int} {task : StoredTask}
    {claim : Claim} {leaseEnd : Nat} (reached : Reachable env system)
    (stored : system.task id = some task) (acquired : task.isAcquiredAt version = true)
    (leased : (system.txn env).Leased id claim leaseEnd)
    (running : system.now < min (leaseEnd : Int) Text.i64Max)
    (opened : (system.txn env).isOpen id = true) : Usable env system id version := by
  refine usable_of_granted reached
    ⟨⟨task, ?_, acquired⟩, ⟨claim, leaseEnd, leased, leased.live_iff.mpr running⟩, opened⟩
  rw [System.getTask_txn]
  exact stored

/-- A heartbeat leaves the leases and the held claims of its entries, and nothing to commit. -/
theorem stepRequest_beaten {env : Env} {system after : System} {data : TaskHeartbeatData}
    {stored : Bool} {next : Txn}
    (taken : step env system (.request (.taskHeartbeat data) stored) = some after)
    (last : data.tasks.foldl (heartbeatOne data.pid) (system.txn env) = next)
    (touches : Txn.Touches (system.txn env) next) :
    after = { system with queue := next.queue, held := next.held } := by
  change (if system.after = [] then
    some (system.absorb (conclude (taskHeartbeat (system.txn env) data) stored).1) else none) =
      some after at taken
  split at taken
  · rename_i unlocked
    cases taken
    have clean : next.writes = .empty := touches.writes
    have quiet : next.enqueues = [] := touches.enqueues
    have idle : next.after = [] := touches.after
    have kept : next.kv = system.kv := touches.kv
    unfold taskHeartbeat
    rw [last]
    cases stored with
    | false =>
        change system.absorb next.discard = _
        unfold System.absorb Txn.discard
        dsimp only
        rw [kept, List.append_nil, unlocked]
    | true =>
        change system.absorb next.commit = _
        unfold System.absorb Txn.commit
        rw [quiet, clean]
        dsimp only [Queue.enqueue]
        rw [Kv.apply_empty, kept, idle, List.append_nil, unlocked]
  · cases taken

/-- A heartbeat leaves everything but leases and lost claims as it was: no record, job, timer or message
is written, and the claims and jobs of tasks it does not name at their holder and version stay. A live
lease it names for a positive time lasts that time from now, and until it ends the holder can still
fulfil or suspend the task while its promise is open. -/
theorem heartbeat_extends {env : Env} {system after : System} {data : TaskHeartbeatData}
    {stored : Bool} (reached : Reachable env system)
    (taken : step env system (.request (.taskHeartbeat data) stored) = some after) :
    after.kv = system.kv ∧ after.log = system.log ∧ after.after = system.after ∧
    (∀ id, Unbeaten system.task data.pid data.tasks id →
      after.held[id]? = system.held[id]?) ∧
    (∀ (number : Nat) (job : Job Payload), system.queue.jobs[number]? = some job →
      (∀ id, job.payload = .execute id → Unbeaten system.task data.pid data.tasks id) →
      after.queue.jobs[number]? = some job) ∧
    ∀ entry ∈ data.tasks, ∀ ttl claim leaseEnd, Beats system.task data.pid entry ttl → 1 ≤ ttl →
      (system.txn env).Leased entry.id claim leaseEnd → (system.txn env).live claim = true →
      (after.txn env).Leased entry.id claim (system.queue.clock + leaseOf ttl) ∧
      ∀ time later, step env after (.clock time) = some later →
        time < system.queue.clock + leaseOf ttl → (time : Int) < Text.i64Max →
        (later.txn env).isOpen entry.id = true → Usable env later entry.id entry.version := by
  have keyed : (system.txn env).Keyed := Reachable.keyed reached
  have gripped : (system.txn env).leases.Gripped := Reachable.gripped reached
  have tasks : (system.txn env).getTask = system.task := System.getTask_txn env system
  have timed : (system.txn env).now ≤ (system.txn env).queue.clock := by
    change min (system.queue.clock : Int) Text.i64Max ≤ system.queue.clock
    omega
  have beaten := heartbeats_beaten data.pid data.tasks keyed gripped timed
  generalize last : data.tasks.foldl (heartbeatOne data.pid) (system.txn env) = next at beaten
  have left := stepRequest_beaten taken last beaten.touches
  subst left
  have lasts (entry : TaskVersionData) (member : entry ∈ data.tasks) (ttl : Int) (claim : Claim)
      (leaseEnd : Nat) (beats : Beats system.task data.pid entry ttl) (positive : 1 ≤ ttl)
      (leased : (system.txn env).Leased entry.id claim leaseEnd)
      (live : (system.txn env).live claim = true) :
      next.Leased entry.id claim (system.queue.clock + leaseOf ttl) :=
    beaten.lasts entry member ttl claim leaseEnd (tasks ▸ beats) positive leased live
  refine ⟨rfl, rfl, rfl, ?_, ?_, ?_⟩
  · intro id unbeaten
    exact beaten.spares.held id (tasks ▸ unbeaten)
  · intro number job found unbeaten
    refine beaten.spares.jobs number job found fun id executes => ?_
    rw [tasks]
    exact unbeaten id executes
  · intro entry member ttl claim leaseEnd beats positive leased live
    have moved := lasts entry member ttl claim leaseEnd beats positive leased live
    refine ⟨⟨moved.held, moved.job⟩, ?_⟩
    intro time later ticked ending bounded opened
    obtain ⟨task, stored, acquired, _, _⟩ := beats
    have again : Reachable env later := (reached.extend taken).extend ticked
    have running : min (time : Int) Text.i64Max <
        min ((system.queue.clock + leaseOf ttl : Nat) : Int) Text.i64Max := by omega
    cases ticked
    exact usable_under again stored acquired ⟨moved.held, moved.job⟩ running opened

/-- The holder of the first task renews its lease, and can use it until the renewed lease ends. -/
theorem heartbeat_extends_acquired :
    ∃ after later, step .sample acquiredTrace.2
        (.request (.taskHeartbeat ⟨"p", [⟨"root", 1⟩]⟩) true) = some after ∧
      step .sample after (.clock 100) = some later ∧ Usable .sample later "root" 1 := by
  have enabled : (step .sample acquiredTrace.2
      (.request (.taskHeartbeat ⟨"p", [⟨"root", 1⟩]⟩) true)).any (fun after =>
        (step .sample after (.clock 100)).any fun later =>
          (later.txn .sample).isOpen "root") = true := by
    decide
  obtain ⟨after, taken, opened⟩ := (Option.any_eq_true _ _).mp enabled
  obtain ⟨later, ticked, opened⟩ := (Option.any_eq_true _ _).mp opened
  have leased : (acquiredTrace.2.txn .sample).Leased "root" (.sample 0 0) 101 :=
    ⟨by decide, ⟨⟨"resonate.a.poll_3A_2F_2Fany_40g", .execute "root", none, .claimed 0 101⟩, by decide,
      rfl⟩⟩
  have beats : Beats acquiredTrace.2.task "p" ⟨"root", 1⟩ 100 := by
    unfold Beats
    decide
  have extended := (heartbeat_extends acquired_reachable taken).2.2.2.2.2 ⟨"root", 1⟩
    List.mem_cons_self 100 (.sample 0 0) 101 beats (by decide) leased (by decide)
  exact ⟨after, later, taken, ticked, extended.2 100 later ticked (by decide) (by decide) opened⟩

end Resonate
