import Resonate.Books
import Resonate.Conclusions

set_option autoImplicit false

/-! The books of the store hold in every reachable state. -/

namespace Resonate

open Kernel
open LeaseQueue (Queue EnqueueRequest)

/-- The store as a transaction that is yet to do the work of the last commit. -/
def System.view (env : Env) (system : System) : Txn :=
  { system.txn env with after := system.after }

/-- The jobs, the claims and the remaining work of the store fit its tasks. -/
structure Booked (env : Env) (system : System) : Prop where
  sound : (system.view env).Sound system.queue.nextJob False
  claims : ∀ claim ∈ system.claims,
    Matches system.queue.contents system.queue.nextJob claim
  fired : ∀ claim ∈ system.fired,
    Matches system.queue.contents system.queue.nextJob claim ∧
      ∃ timer, claim.payload = .timer timer

section

variable {env : Env} {before after system : System}

theorem view_getTask (env : Env) (system : System) : (system.view env).getTask = system.task :=
  system.getTask_txn env

theorem Matches.succeeds {earlier later : Queue Payload} {claim : Claim}
    (matched : Matches earlier.contents earlier.nextJob claim)
    (succeeds : Queue.Succeeds earlier later) : Matches later.contents later.nextJob claim :=
  matched.mono succeeds.nextJob succeeds.contents

/-- A step that takes over no claim keeps the books of the claims. -/
theorem Booked.step (booked : Booked env before)
    (sound : (after.view env).Sound after.queue.nextJob False)
    (succeeds : Queue.Succeeds before.queue after.queue)
    (claims : ∀ claim ∈ after.claims, claim ∈ before.claims)
    (fired : ∀ claim ∈ after.fired, claim ∈ before.fired ∨
      claim ∈ before.claims ∧ ∃ timer, claim.payload = .timer timer) : Booked env after := by
  refine ⟨sound, ?_, ?_⟩
  · intro claim member
    exact (booked.claims claim (claims claim member)).succeeds succeeds
  · intro claim member
    rcases fired claim member with old | ⟨taken, timed⟩
    · exact ⟨(booked.fired claim old).1.succeeds succeeds, (booked.fired claim old).2⟩
    · exact ⟨(booked.claims claim taken).succeeds succeeds, timed⟩

/-! ## What a transaction starts from and leaves behind -/

theorem Booked.start (booked : Booked env system) (strict : Prop) :
    (system.txn env).Sound system.queue.nextJob strict := by
  obtain ⟨accepts, floor_le, below, above, plain, owned, ledger, _, held, _⟩ := booked.sound
  refine ⟨accepts, floor_le, below, above, plain, owned, ledger, ?_, held, ?_⟩
  · intro _ request member
    cases member
  · intro action member
    cases member

/-- The queue of a transaction's commit succeeds the one it started from. -/
theorem commit_succeeds {floor : Nat} {strict : Prop} {txn : Txn} {queue : Queue Payload}
    (sound : txn.Sound floor strict) (floor_eq : floor = queue.nextJob)
    (contents : txn.queue.contents = queue.contents) :
    Queue.Succeeds queue txn.commit.queue := by
  refine ⟨?_, ?_⟩
  · rw [← floor_eq]
    exact Nat.le_trans sound.floor_le (Queue.enqueue_nextJob_le _ _)
  · intro job below found queued
    have kept := sound.kept job (floor_eq ▸ below)
    rw [← contents, ← kept]
    exact queued

/-- What is committed keeps the books. -/
theorem Txn.Sound.absorbed {floor : Nat} {strict : Prop} {txn : Txn}
    (sound : txn.Sound floor strict) (stores : Stores txn after)
    (queue : after.queue = txn.commit.queue) (held : after.held = txn.held)
    (follows : after.after = txn.after) : (after.view env).Sound after.queue.nextJob False := by
  have committed : (after.view env).Sound (after.view env).queue.nextJob False :=
    sound.commit ((view_getTask env after).trans stores.task) queue rfl held follows
  exact committed

/-- What is left of a transaction that is not committed keeps the books. -/
theorem Booked.discarded (booked : Booked env before) {strict : Prop} {txn : Txn}
    (sound : txn.Sound before.queue.nextJob strict) (fixed : Txn.Fixed (before.txn env) txn)
    (kv : after.kv = before.kv) (queue : after.queue = txn.queue)
    (held : ∀ (id : String) (claim : Claim), after.held[id]? = some claim →
      txn.held[id]? = some claim) (follows : after.after = []) :
    (after.view env).Sound after.queue.nextJob False := by
  have contents : after.queue.contents = before.queue.contents := by
    rw [queue]
    exact fixed.contents
  have shifted : (after.view env).Sound (after.view env).queue.nextJob False := by
    refine booked.sound.shift ?_ contents ?_ rfl rfl ?_ ?_
    · rw [view_getTask, view_getTask]
      unfold System.task
      rw [kv]
    · change before.queue.nextJob ≤ after.queue.nextJob
      rw [queue]
      exact fixed.nextJob
    · intro id claim found
      obtain ⟨matched, executes⟩ := sound.held id claim (held id claim found)
      refine ⟨?_, executes⟩
      change Matches before.queue.contents _ claim
      rw [← contents, queue]
      exact matched
    · change ∀ action ∈ after.after, _
      rw [follows]
      intro action member
      cases member
  exact shifted

/-! ## Requests -/

/-- Where a request continues a halted task no claim of a halted task is released. -/
def Request.Continues (request : Request) : Prop := ∃ id, request = .taskContinue id

theorem Request.allowed {request : Request} {label : Label} (awake : request.awake label) :
    label.Allowed request.Continues fun _ => False := by
  obtain ⟨permitted, asleep⟩ := awake
  cases label with
  | halt task =>
      rintro ⟨id, same⟩
      rw [show request = .taskHalt task.id from permitted] at same
      cases same
  | proceed task => exact ⟨task.id, permitted⟩
  | claim task lease =>
      obtain ⟨data, rfl, _⟩ := permitted
      rintro ⟨id, same⟩
      cases same
  | suspend task awaited => exact asleep trivial
  | ack claim => exact absurd permitted id
  | hold task claim => exact absurd permitted id
  | _ => trivial

theorem Booked.requested (booked : Booked env system) (keyed : (system.txn env).Keyed)
    (coupled : ∀ id, Coupled ((system.txn env).cell id)) {request : Request} {txn : Txn}
    (trail : Trail env request.awake (system.txn env) txn) :
    txn.Sound system.queue.nextJob request.Continues :=
  trail.sound keyed coupled (booked.start _) (fun _ => Request.allowed)
    fun _ none => absurd none id

/-- The queue still has the job of a claim that is current. -/
theorem contents_of_current {queue : Queue Payload} {claim : Claim}
    (current : queue.current claim = true) : ∃ contents, queue.contents claim.id = some contents := by
  obtain ⟨job, found, _⟩ := (queue.current_iff claim).mp current
  refine ⟨job.contents, ?_⟩
  unfold Queue.contents
  rw [found]
  rfl

/-- Removing the job of a fulfilled task's held claim keeps the books. -/
theorem Txn.Sound.acked {floor : Nat} {strict : Prop} {txn : Txn} {id : String} {claim : Claim}
    (sound : txn.Sound floor strict) (held : txn.held[id]? = some claim)
    (ended : ∀ task, txn.getTask id = some task → ¬ task.Live) :
    ({ txn with
      held := txn.held.erase id
      queue := txn.queue.remove claim.id } : Txn).Sound floor strict := by
  obtain ⟨matched, executes⟩ := sound.held id claim held
  refine sound.remove rfl rfl rfl ?_ (fun _ member => member) ?_
  · intro other found present
    change (txn.held.erase id)[other]? = some found at present
    rw [Table.find_erase] at present
    split at present
    · cases present
    · exact present
  · intro other task carried stored
    have same := sound.carried_claim matched carried
    rw [executes] at same
    cases same
    exact ended task stored

theorem fulfilled_of_settled {txn : Txn} {id : String} {promise : StoredPromise}
    {task : StoredTask} (coupled : Coupled (txn.cell id))
    (promised : txn.getPromise id = some promise) (settled : promise.record.isPending = false)
    (stored : txn.getTask id = some task) : ¬ task.Live := by
  have pending := coupled.pending promise task promised stored
  have fulfilled : task.state = .fulfilled := by
    by_contra open_
    rw [pending.mpr open_] at settled
    cases settled
  rintro (live | live)
  all_goals
    rw [fulfilled] at live
    cases live

/-- The books of a request that ends without its commit. -/
theorem Booked.undone (booked : Booked env before) (keyed : (before.txn env).Keyed)
    (coupled : ∀ id, Coupled ((before.txn env).cell id)) {request : Request} {response : Response}
    (handled : Handled env request (before.txn env) response) (held : Held)
    (fewer : ∀ (id : String) (claim : Claim), held[id]? = some claim →
      response.txn.held[id]? = some claim) :
    Booked env (before.absorb { response.txn with held }.discard) := by
  have ended {txn : Txn} (awake : Trail env request.awake (before.txn env) txn)
      (queue : response.txn.queue = txn.queue) (kept : response.txn.held = txn.held)
      (kv : response.txn.kv = txn.kv) :
      Booked env (before.absorb { response.txn with held }.discard) := by
    have sound := booked.requested keyed coupled awake
    refine booked.step (booked.discarded sound awake.fixed ?_ queue ?_ rfl) ?_
      (fun _ member => member) fun _ member => .inl member
    · exact kv.trans awake.fixed.kv
    · exact fun id claim found => kept ▸ fewer id claim found
    · change Queue.Succeeds before.queue response.txn.queue
      rw [queue]
      exact Queue.succeeds_of_contents awake.fixed.contents awake.fixed.nextJob
  cases handled with
  | plain response exit awake => exact ended awake rfl rfl rfl
  | fulfilled response id promise exit awake stored settled => exact ended awake rfl rfl rfl
  | asleep earlier next task awaited reply awake permitted move =>
      cases move with
      | suspend task awaited stored acquired some_awaited listed =>
          exact ended awake rfl rfl rfl

/-- The books of a request that commits as it acknowledges a claim. -/
theorem Booked.settled (booked : Booked env before) (keyed : (before.txn env).Keyed)
    (coupled : ∀ id, Coupled ((before.txn env).cell id)) {request : Request} {response : Response}
    (handled : Handled env request (before.txn env) response) (taskId : String) (claim : Claim)
    (exit : response.exit = .commitAck taskId) (held : response.txn.held[taskId]? = some claim)
    (current : response.txn.queue.current claim = true) :
    Booked env (before.absorb { response.txn with
      held := response.txn.held.erase taskId
      queue := response.txn.queue.remove claim.id }.commit) := by
  have succeeded {txn : Txn} (sound : txn.Sound before.queue.nextJob request.Continues)
      (contents : ∀ job contents, txn.queue.contents job = some contents →
        before.queue.contents job = some contents)
      (stores : Stores txn (before.absorb txn.commit)) : Booked env (before.absorb txn.commit) := by
    refine booked.step (sound.absorbed stores rfl rfl rfl) ⟨?_, ?_⟩ (fun _ member => member)
      fun _ member => .inl member
    · exact Nat.le_trans sound.floor_le (Queue.enqueue_nextJob_le _ _)
    · intro job below found queued
      rw [show (before.absorb txn.commit).queue = (txn.queue.enqueue txn.enqueues).2 from rfl,
        sound.kept job below] at queued
      exact contents job found queued
  have shrunk {txn : Txn} (fixed : Txn.Fixed (before.txn env) txn) (removed job : Nat)
      (contents : String × Payload × Option Nat)
      (queued : (txn.queue.remove removed).contents job = some contents) :
      before.queue.contents job = some contents := by
    rw [Queue.contents_remove] at queued
    split at queued
    · cases queued
    · rw [fixed.contents] at queued
      exact queued
  cases handled with
  | plain response plain awake => exact absurd exit (plain.ne_commitAck taskId)
  | fulfilled response id promise acked awake stored settled =>
      rw [exit] at acked
      cases acked
      have sound := booked.requested keyed coupled awake
      have paired := awake.coupled keyed coupled taskId
      exact succeeded (sound.acked held fun task => fulfilled_of_settled paired stored settled)
        (shrunk awake.fixed claim.id) (stores_of_kv rfl)
  | asleep earlier next task awaited reply awake permitted move =>
      cases exit
      have sound := booked.requested keyed coupled awake
      cases move with
      | suspend task awaited stored acquired some_awaited listed =>
          obtain ⟨matched, executes⟩ := sound.held task.id claim held
          obtain ⟨contents, queued⟩ := contents_of_current current
          refine succeeded (sound.sleep task { task.transition .suspended with resumes := ∅ }
            stored acquired rfl rfl ⟨contents, queued, ?_⟩ rfl (fun id => Txn.getTask_putTask _ _ _)
            rfl ?_ rfl) (shrunk awake.fixed claim.id) (stores_of_kv rfl)
          · rw [matched.contents contents queued]
            exact executes
          · intro id found present
            change (earlier.held.erase task.id)[id]? = some found at present
            rw [Table.find_erase] at present
            split at present
            · cases present
            · exact present

theorem Step.booked_request {request : Request} {stored : Bool}
    (booked : Booked env before) (keyed : (before.txn env).Keyed)
    (coupled : ∀ id, Coupled ((before.txn env).cell id))
    (step : Step env before (.request request stored) after) : Booked env after := by
  have handled := handle_cases env keyed coupled request
  cases step with
  | dropped request stored unlocked exit =>
      exact booked.undone keyed coupled handled _ fun _ _ found => found
  | committed request unlocked exit =>
      generalize handle env (before.txn env) request = response at handled exit
      cases handled with
      | plain response plain awake =>
          have sound := booked.requested keyed coupled awake
          exact booked.step (sound.absorbed (stores_of_kv rfl) rfl rfl rfl)
            (commit_succeeds sound rfl awake.fixed.contents) (fun _ member => member)
            fun _ member => .inl member
      | fulfilled response id promise acked awake promised settled =>
          rw [exit] at acked
          cases acked
      | asleep earlier next task awaited reply awake permitted move => cases exit
  | acked request taskId commit unlocked exit committed =>
      obtain ⟨claim, held, current, rfl⟩ := commitAck_acked committed
      exact booked.settled keyed coupled handled taskId claim exit held current
  | lost request taskId commit unlocked exit committed =>
      obtain ⟨held, rfl, fewer⟩ := commitAck_lost committed
      exact booked.undone keyed coupled handled held fewer

/-! ## Deliveries and firings -/

theorem delivery_allowed {claim : Claim} {label : Label}
    (permitted : deliveryPermits claim label) : label.Allowed False (· = claim) := by
  cases label with
  | expire promise => trivial
  | lose task => trivial
  | ack taken => exact ⟨not_false, permitted⟩
  | hold task taken => exact permitted
  | _ => exact absurd permitted id

theorem firing_allowed {timer : Timer} {label : Label} (permitted : firingPermits timer label) :
    label.Allowed False fun _ => False := by
  cases label with
  | strike promise => trivial
  | create data createdAt mode => trivial
  | advance schedule => trivial
  | _ => exact absurd permitted id

theorem deliver_untimed {txn : Txn} {claim : Claim} {result : Txn × Option Message}
    (delivered : deliver env txn claim = some result) (timer : Timer) :
    claim.payload ≠ .timer timer := by
  intro timed
  unfold deliver at delivered
  rw [timed] at delivered
  cases delivered

theorem Booked.delivered (booked : Booked env before) (keyed : (before.txn env).Keyed)
    (coupled : ∀ id, Coupled ((before.txn env).cell id)) {claim : Claim} {txn : Txn}
    {message : Option Message} (member : claim ∈ before.claims)
    (delivered : deliver env (before.txn env) claim = some (txn, message)) :
    txn.Sound before.queue.nextJob False := by
  refine (deliver_trail keyed claim txn message delivered).sound keyed coupled (booked.start _)
    (fun _ => delivery_allowed) ?_
  rintro taken rfl
  exact ⟨booked.claims taken member, deliver_untimed delivered⟩

theorem Step.booked_deliver {claim : Claim} {stored : Bool}
    (booked : Booked env before) (keyed : (before.txn env).Keyed)
    (coupled : ∀ id, Coupled ((before.txn env).cell id))
    (step : Step env before (.deliver claim stored) after) : Booked env after := by
  cases step with
  | undecoded claim stored unlocked member addressed refused =>
      exact booked.step booked.sound (Queue.succeeds_of_contents rfl (Nat.le_refl _))
        (fun _ => List.mem_of_mem_erase) fun _ old => .inl old
  | undelivered claim txn message unlocked member addressed delivered =>
      have sound := booked.delivered keyed coupled member delivered
      have fixed := (deliver_trail keyed claim txn message delivered).fixed
      exact booked.step
        (booked.discarded sound fixed fixed.kv rfl (fun _ _ found => found) rfl)
        (Queue.succeeds_of_contents fixed.contents fixed.nextJob)
        (fun _ => List.mem_of_mem_erase) fun _ old => .inl old
  | delivered claim txn message unlocked member addressed delivered =>
      have sound := booked.delivered keyed coupled member delivered
      have fixed := (deliver_trail keyed claim txn message delivered).fixed
      exact booked.step (sound.absorbed (stores_of_kv rfl) rfl rfl rfl)
        (commit_succeeds sound rfl fixed.contents)
        (fun _ => List.mem_of_mem_erase) fun _ old => .inl old

theorem Booked.struck (booked : Booked env before) (keyed : (before.txn env).Keyed)
    (coupled : ∀ id, Coupled ((before.txn env).cell id)) (timer : Timer) :
    (fire env (before.txn env) timer).1.Sound before.queue.nextJob False :=
  (fire_trail env keyed timer).sound keyed coupled (booked.start _) (fun _ => firing_allowed)
    fun _ none => absurd none id

theorem Step.booked_fire {claim : Claim} {stored : Bool}
    (booked : Booked env before) (keyed : (before.txn env).Keyed)
    (coupled : ∀ id, Coupled ((before.txn env).cell id))
    (step : Step env before (.fire claim stored) after) : Booked env after := by
  cases step with
  | unfired claim timer txn unlocked member timed payload fired =>
      have sound := booked.struck keyed coupled timer
      have fixed := (fire_trail env keyed timer).fixed
      rw [fired] at sound fixed
      exact booked.step
        (booked.discarded sound fixed fixed.kv rfl (fun _ _ found => found) rfl)
        (Queue.succeeds_of_contents fixed.contents fixed.nextJob)
        (fun _ member => member) fun _ old => .inl old
  | fired claim timer txn unlocked member timed payload fired =>
      have sound := booked.struck keyed coupled timer
      have fixed := (fire_trail env keyed timer).fixed
      rw [fired] at sound fixed
      refine booked.step (sound.absorbed (stores_of_kv rfl) rfl rfl rfl)
        (commit_succeeds sound rfl fixed.contents)
        (fun _ => List.mem_of_mem_erase) ?_
      intro other inside
      rcases List.mem_cons.mp inside with rfl | old
      · exact .inr ⟨member, timer, payload⟩
      · exact .inl old
  | outlived claim stored timer txn exit unlocked member timed payload fired idle =>
      have sound := booked.struck keyed coupled timer
      have fixed := (fire_trail env keyed timer).fixed
      rw [fired] at sound fixed
      refine booked.step
        (booked.discarded sound fixed fixed.kv rfl (fun _ _ found => found) rfl)
        (Queue.succeeds_of_contents fixed.contents fixed.nextJob)
        (fun _ => List.mem_of_mem_erase) ?_
      intro other inside
      rcases List.mem_cons.mp inside with rfl | old
      · exact .inr ⟨member, timer, payload⟩
      · exact .inl old

/-! ## The queue's own steps -/

/-- Claims that come and go leave the books of the tasks alone. -/
theorem Booked.shifted (booked : Booked env before) (kv : after.kv = before.kv)
    (keeps : Queue.Keeps before.queue after.queue)
    (held : ∀ (id : String) (claim : Claim), after.held[id]? = some claim →
      Matches before.queue.contents before.queue.nextJob claim ∧ claim.payload = .execute id)
    (follows : ∀ action ∈ after.after, action ∈ before.after) :
    (after.view env).Sound after.queue.nextJob False := by
  have shifted : (after.view env).Sound (after.view env).queue.nextJob False := by
    refine booked.sound.shift ?_ keeps.contents (Nat.le_of_eq keeps.nextJob.symm) rfl rfl held
      follows
    rw [view_getTask, view_getTask]
    unfold System.task
    rw [kv]
  exact shifted

/-- A claim just granted matches the job it was granted for. -/
theorem granted_matches {later : Queue Payload} {job : Nat} {claim : Claim}
    (booked : Booked env before) (granted : Queue.Granted before.queue later job claim) :
    Matches before.queue.contents before.queue.nextJob claim := by
  refine ⟨?_, ?_⟩
  · rw [granted.named]
    exact booked.sound.below job claim.contents granted.contents
  · intro contents queued
    rw [granted.named, granted.contents] at queued
    exact (Option.some.inj queued).symm

/-- A claim acknowledged for no live task leaves the books of the tasks alone. -/
theorem Booked.acked (booked : Booked env before) (claim : Claim)
    (dead : ∀ id task, (before.view env).Carries claim.id (.execute id) →
      before.task id = some task → ¬ task.Live) (kv : after.kv = before.kv)
    (queue : after.queue = (before.queue.ack claim).getD before.queue)
    (held : ∀ (id : String) (claim : Claim), after.held[id]? = some claim →
      before.held[id]? = some claim)
    (follows : ∀ action ∈ after.after, action ∈ before.after)
    (claims : ∀ claim ∈ after.claims, claim ∈ before.claims)
    (fired : ∀ claim ∈ after.fired, claim ∈ before.fired) : Booked env after := by
  cases acked : before.queue.ack claim with
  | none =>
      rw [acked] at queue
      change after.queue = before.queue at queue
      have keeps : Queue.Keeps before.queue after.queue := by
        rw [queue]
        exact .refl _
      exact booked.step
        (booked.shifted kv keeps (fun id claim found => booked.sound.held id claim (held id claim found))
          follows)
        keeps.succeeds claims fun claim member => .inl (fired claim member)
  | some later =>
      obtain ⟨_, rfl⟩ := Queue.ack_eq acked
      rw [acked] at queue
      change after.queue = before.queue.remove claim.id at queue
      have tasks : (after.view env).getTask = (before.view env).getTask := by
        rw [view_getTask, view_getTask]
        unfold System.task
        rw [kv]
      have removed : (after.view env).Sound before.queue.nextJob False := by
        refine booked.sound.remove queue tasks rfl held follows ?_
        rw [view_getTask]
        exact dead
      have nextJob : after.queue.nextJob = before.queue.nextJob := by
        rw [queue]
        rfl
      refine booked.step (nextJob ▸ removed) ?_ claims fun claim member => .inl (fired claim member)
      rw [queue]
      exact Queue.remove_succeeds _ _

theorem erased_held {held : Held} {task id : String} {claim : Claim}
    (found : (held.erase task)[id]? = some claim) : held[id]? = some claim := by
  rw [Table.find_erase] at found
  split at found
  · cases found
  · exact found

theorem inserted_held {held : Held} {task id : String} {claim other : Claim}
    (found : (held.insert task claim)[id]? = some other) :
    held[id]? = some other ∨ task = id ∧ claim = other := by
  rw [Table.find_insert] at found
  split at found
  · cases found
    exact .inr ⟨by assumption, rfl⟩
  · exact .inl found

theorem Step.booked_finish (booked : Booked env before)
    (step : Step env before .finish after) : Booked env after := by
  cases step with
  | finished action rest pending =>
      have fewer : ∀ other ∈ rest, other ∈ before.after := by
        intro other member
        rw [pending]
        exact List.mem_cons_of_mem _ member
      have proper := booked.sound.after action (by
        change action ∈ before.after
        rw [pending]
        exact List.mem_cons_self)
      have same (id : String) (claim : Claim) (found : before.held[id]? = some claim) :=
        booked.sound.held id claim found
      cases action with
      | ack claim =>
          obtain ⟨matched, _, ended⟩ := proper
          refine booked.acked claim ?_ rfl rfl (fun _ _ found => found) fewer
            (fun _ member => member) fun _ member => member
          intro id task carried stored live
          have executes := booked.sound.carried_claim matched carried
          obtain ⟨other, found, recorded, _⟩ := booked.sound.ledger.named _ _ carried
          rw [view_getTask, stored] at found
          cases found
          rcases ended id task executes.symm (by rw [view_getTask]; exact stored) recorded with
            fulfilled | ⟨_, dead⟩
          · rcases live with live | live
            all_goals
              rw [fulfilled] at live
              cases live
          · exact dead live
      | hold task claim =>
          have keeps := Queue.Keeps.refl before.queue
          refine booked.step (booked.shifted rfl keeps ?_ fewer) keeps.succeeds
            (fun _ member => member) fun _ member => .inl member
          intro id other found
          rcases inserted_held found with old | ⟨rfl, rfl⟩
          · exact same id other old
          · exact proper
      | release task =>
          cases held : before.held[task]? with
          | none =>
              have keeps := Queue.Keeps.refl before.queue
              simp only [After.perform, held]
              exact booked.step (booked.shifted rfl keeps same fewer) keeps.succeeds
                (fun _ member => member) fun _ member => .inl member
          | some claim =>
              simp only [After.perform, held]
              refine booked.acked claim ?_ rfl rfl (fun _ _ found => erased_held found) fewer
                (fun _ member => member) fun _ member => member
              intro id other carried stored live
              obtain ⟨matched, executes⟩ := same task claim held
              have payload := booked.sound.carried_claim matched carried
              rw [executes] at payload
              cases payload
              obtain ⟨owner, found, ended⟩ := proper
              rw [view_getTask, stored] at found
              cases found
              rcases ended with fulfilled | ⟨_, halted⟩
              · rcases live with live | live
                all_goals
                  rw [fulfilled] at live
                  cases live
              · rcases live with live | live
                all_goals
                  rw [halted] at live
                  cases live
      | nack task =>
          cases held : before.held[task]? with
          | none =>
              have keeps := Queue.Keeps.refl before.queue
              simp only [After.perform, held]
              exact booked.step (booked.shifted rfl keeps same fewer) keeps.succeeds
                (fun _ member => member) fun _ member => .inl member
          | some claim =>
              have keeps : Queue.Keeps before.queue
                  ((before.queue.nack claim).getD before.queue) := by
                cases nacked : before.queue.nack claim with
                | none => exact .refl _
                | some later => exact Queue.nack_keeps nacked
              simp only [After.perform, held]
              exact booked.step
                (booked.shifted rfl keeps (fun id other found => same id other (erased_held found))
                  fewer)
                keeps.succeeds (fun _ member => member) fun _ member => .inl member
      | claim task job lease =>
          cases claimed : before.queue.claimById job lease with
          | none =>
              have keeps := Queue.Keeps.refl before.queue
              simp only [After.perform, claimed]
              exact booked.step (booked.shifted rfl keeps same fewer) keeps.succeeds
                (fun _ member => member) fun _ member => .inl member
          | some result =>
              obtain ⟨claim, queue⟩ := result
              have granted := Queue.claimById_granted claimed
              simp only [After.perform, claimed]
              refine booked.step (booked.shifted rfl granted.keeps ?_ fewer)
                granted.keeps.succeeds (fun _ member => member) fun _ member => .inl member
              intro id other found
              rcases inserted_held found with old | ⟨rfl, rfl⟩
              · exact same id other old
              · exact ⟨granted_matches booked granted, proper.2 _ (.inl ⟨_, granted.contents, rfl⟩)⟩

theorem Step.booked {event : Event} (booked : Booked env before)
    (keyed : (before.txn env).Keyed) (coupled : ∀ id, Coupled ((before.txn env).cell id))
    (step : Step env before event after) : Booked env after := by
  have idle (queue : Queue Payload) (keeps : Queue.Keeps before.queue queue) :
      Booked env { before with queue } :=
    booked.step (booked.shifted rfl keeps booked.sound.held fun _ member => member) keeps.succeeds
      (fun _ member => member) fun _ member => .inl member
  cases event with
  | request request stored => exact step.booked_request booked keyed coupled
  | deliver claim stored => exact step.booked_deliver booked keyed coupled
  | fire claim stored => exact step.booked_fire booked keyed coupled
  | finish => exact step.booked_finish booked
  | pass entry =>
      cases step with
      | passed entry member => exact ⟨booked.sound, booked.claims, booked.fired⟩
  | ackTimer claim =>
      cases step with
      | ackedTimer claim member =>
          obtain ⟨matched, timer, timed⟩ := booked.fired claim member
          refine booked.acked claim ?_ rfl rfl (fun _ _ found => found) (fun _ member => member)
            (fun _ member => member) fun _ => List.mem_of_mem_erase
          intro id task carried _ _
          have executes := booked.sound.carried_claim matched carried
          rw [timed] at executes
          cases executes
  | nackTimer claim =>
      cases step with
      | nackedTimer claim member timed =>
          have keeps : Queue.Keeps before.queue
              ((before.queue.nack claim).getD before.queue) := by
            cases nacked : before.queue.nack claim with
            | none => exact .refl _
            | some later => exact Queue.nack_keeps nacked
          exact booked.step
            (booked.shifted rfl keeps booked.sound.held fun _ member => member) keeps.succeeds
            (fun _ => List.mem_of_mem_erase) fun _ member => .inl member
  | take job lease =>
      cases step with
      | taken job lease period claim queue granted =>
          have granted := Queue.take_granted granted
          have rest := idle queue granted.keeps
          refine ⟨rest.sound, ?_, rest.fired⟩
          intro other member
          rcases List.mem_cons.mp member with rfl | old
          · exact (granted_matches booked granted).succeeds granted.keeps.succeeds
          · exact rest.claims other old
  | promote job =>
      cases step with
      | promoted job queue moved => exact idle queue (Queue.promote_keeps moved)
  | reap job =>
      cases step with
      | reaped job queue moved => exact idle queue (Queue.reap_keeps moved)
  | clock time =>
      cases step with
      | ticked time => exact idle _ ⟨rfl, rfl, Nat.le_refl _⟩
  | reopen =>
      cases step with
      | reopened =>
          have keeps := Queue.reopen_keeps before.queue
          refine booked.step (booked.shifted rfl keeps ?_ (fun _ member => nomatch member))
            keeps.succeeds (fun _ member => nomatch member) fun _ member => nomatch member
          intro id claim found
          change (∅ : Held)[id]? = some claim at found
          rw [Std.ExtTreeMap.getElem?_empty] at found
          cases found

theorem empty_booked (env : Env) : Booked env .empty := by
  have untasked (id : String) (task : StoredTask) : ¬ (System.empty.view env).getTask id = some task := by
    rw [view_getTask]
    intro found
    change (∅ : Table String StoredTask)[id]? = some task at found
    rw [Std.ExtTreeMap.getElem?_empty] at found
    cases found
  have vacant (job : Nat) : (System.empty.view env).queue.jobs[job]? = none :=
    Std.ExtTreeMap.getElem?_empty
  have idle (job : Nat) (payload : Payload) : ¬ (System.empty.view env).Carries job payload := by
    rintro (⟨contents, queued, _⟩ | ⟨request, member, _⟩)
    · rw [Txn.jobs_of_contents.mpr (vacant job)] at queued
      cases queued
    · cases member
  refine ⟨⟨⟨fun job _ => vacant job, ?_, ?_, List.nodup_nil⟩, Nat.le_refl _, ?_, ?_, ?_, ?_,
    ⟨?_, ?_⟩, nofun, ?_, ?_⟩, ?_, ?_⟩
  · intro job member
    cases member
  · intro job member
    cases member
  · intro job contents queued
    rw [Txn.jobs_of_contents.mpr (vacant job)] at queued
    cases queued
  · intro job member
    cases member
  · intro request member
    cases member
  · intro id task job found
    exact absurd found (untasked id task)
  · intro id task found
    exact absurd found (untasked id task)
  · intro job id carried
    exact absurd carried (idle job _)
  · intro id claim found
    change (∅ : Held)[id]? = some claim at found
    rw [Std.ExtTreeMap.getElem?_empty] at found
    cases found
  · intro action member
    cases member
  · intro claim member
    cases member
  · intro claim member
    cases member

/-- The books hold in every reachable state. -/
theorem Reachable.booked (reached : Reachable env system) : Booked env system := by
  refine Machine.Reachable.invariant (Booked env) reached (empty_booked env) ?_
  intro before event after reached booked taken
  refine (step_cases taken).booked booked (Reachable.keyed reached) ?_
  intro id
  rw [System.cell_txn]
  exact Reachable.coupled reached id

end

end Resonate
