import Resonate.Outstanding
import Resonate.Registrations

set_option autoImplicit false

/-! The unblock messages of a promise: one for each listener, with the record it settled to. -/

namespace Resonate

open Kernel
open LeaseQueue (Queue Job EnqueueRequest)

/-! ## Messages of one promise -/

/-- Whether a job tells of the settlement of a promise. -/
def Payload.unblocks (id : String) : Payload → Bool
  | .unblock (.unblock promise) => promise.id == id
  | _ => false

/-- The jobs that tell of the settlement of a promise, with the queues they are for. -/
def unblocksOf (id : String) (jobs : List (String × Payload)) : List (String × Payload) :=
  jobs.filter fun job => job.2.unblocks id

/-- The job that tells a listener of a settled promise. -/
def unblockOf (env : Env) (promise : PromiseRecord) (address : String) : String × Payload :=
  (Keys.addressQueue env address, .unblock (.unblock promise))

def requested (request : EnqueueRequest Payload) : String × Payload :=
  (request.queue, request.payload)

def Txn.unblocks (txn : Txn) (id : String) : List (String × Payload) :=
  unblocksOf id (txn.enqueues.map requested)

/-- The unblock jobs ever committed for a promise. -/
def System.unblocks (system : System) (id : String) : List (String × Payload) :=
  unblocksOf id (system.log.map fun entry => (entry.2.queue, entry.2.payload))

@[simp] theorem unblocksOf_append (id : String) (first second : List (String × Payload)) :
    unblocksOf id (first ++ second) = unblocksOf id first ++ unblocksOf id second :=
  List.filter_append first second

/-- Only messages tell of a settlement. -/
theorem unblocksOf_announcements (id : String) (enqueues : List (EnqueueRequest Payload)) :
    unblocksOf id ((announcementsOf enqueues).map requested) =
      unblocksOf id (enqueues.map requested) := by
  unfold unblocksOf announcementsOf
  rw [List.filter_map, List.filter_map, List.filter_filter]
  congr 1
  apply List.filter_congr
  intro request member
  cases payload : request.payload <;> simp [requested, announces, payload, Payload.unblocks]

theorem unblocksOf_own (env : Env) (promise : PromiseRecord) (listeners : List String) :
    unblocksOf promise.id (listeners.map (unblockOf env promise)) =
      listeners.map (unblockOf env promise) := by
  apply List.filter_eq_self.mpr
  intro job member
  obtain ⟨address, _, rfl⟩ := List.mem_map.mp member
  simp [unblockOf, Payload.unblocks]

theorem unblocksOf_other (env : Env) (promise : PromiseRecord) (listeners : List String)
    {id : String} (other : promise.id ≠ id) :
    unblocksOf id (listeners.map (unblockOf env promise)) = [] := by
  apply List.filter_eq_nil_iff.mpr
  intro job member
  obtain ⟨address, _, rfl⟩ := List.mem_map.mp member
  simp [unblockOf, Payload.unblocks, other]

section

variable {env : Env} {txn next : Txn} {label : Label} {id : String}

theorem Move.unblocks (move : Move env txn label next) (id : String) :
    next.unblocks id =
      txn.unblocks id ++ unblocksOf id ((label.announcements env txn).map requested) := by
  unfold Txn.unblocks
  rw [← unblocksOf_announcements, move.announcements, List.map_append, unblocksOf_append,
    unblocksOf_announcements]

/-- A settlement tells the listeners of its promise and of no other. -/
theorem unblocks_settles {promise final : StoredPromise}
    (settles : label.settles txn.now = some (promise, final)) :
    (label.announcements env txn).map requested =
      promise.listeners.map (unblockOf env final.record) := by
  cases label with
  | expire old =>
      cases settles
      simp [Label.announcements, Label.settles, requested, Txn.unblockRequest, unblockOf]
  | strike old =>
      cases settles
      simp [Label.announcements, Label.settles, requested, Txn.unblockRequest, unblockOf]
  | settle old state value =>
      cases settles
      simp [Label.announcements, Label.settles, requested, Txn.unblockRequest, unblockOf]
  | _ => cases settles

theorem unblocks_unsettling (unsettling : label.settles txn.now = none) (id : String) :
    unblocksOf id ((label.announcements env txn).map requested) = [] := by
  apply List.filter_eq_nil_iff.mpr
  intro job member
  obtain ⟨request, inside, rfl⟩ := List.mem_map.mp member
  cases mem_announcements inside with
  | unblock label promise final address settles listed =>
      rw [unsettling] at settles
      cases settles
  | deadline data createdAt mode pending external => simp [requested, Txn.timerRequest, Payload.unblocks]
  | added schedule => simp [requested, Txn.timerRequest, Payload.unblocks]
  | advanced schedule following later => simp [requested, Txn.timerRequest, Payload.unblocks]

/-! ## What has been told -/

/-- The addresses that listen to a promise, and the messages sent to them: none while it is
pending, and one each with its record once it has settled. -/
inductive Told (env : Env) : Option StoredPromise → List (String × Payload) → List String → Prop
  | absent : Told env none [] []
  | pending (promise : StoredPromise) (pending : promise.record.isPending = true)
      (distinct : promise.listeners.Nodup) : Told env (some promise) [] promise.listeners
  | settled (promise : StoredPromise) (listening : List String)
      (settled : promise.record.isPending = false) (distinct : listening.Nodup) :
      Told env (some promise) (listening.map (unblockOf env promise.record)) listening

/-- The addresses that listen after a move: those before it, and the one it registers. -/
def Label.Hears (label : Label) (id : String) (listening later : List String) : Prop :=
  later = listening ∨ ∃ awaited address, label = .listen awaited address ∧
    awaited.record.id = id ∧ later = listening ++ [address]

theorem TaskMove.unsettling {before after : StoredTask} (move : TaskMove label before after)
    (now : Int) : label.settles now = none := by
  cases move <;> rfl

/-- A change tells the listeners of the promise it settles. -/
theorem Change.told {before after : Cell} (change : Change env txn.now id label before after)
    {sent : List (String × Payload)} {listening : List String}
    (told : Told env before.promise sent listening) :
    ∃ later, Told env after.promise
      (sent ++ unblocksOf id ((label.announcements env txn).map requested)) later ∧
      label.Hears id listening later := by
  have quiet (same : after.promise = before.promise)
      (silent : unblocksOf id ((label.announcements env txn).map requested) = []) :
      ∃ later, Told env after.promise
        (sent ++ unblocksOf id ((label.announcements env txn).map requested)) later ∧
        label.Hears id listening later := by
    rw [same, silent, List.append_nil]
    exact ⟨listening, told, .inl rfl⟩
  have other {promise final : StoredPromise} (settles : label.settles txn.now = some (promise, final))
      (apart : promise.record.id ≠ id) :
      unblocksOf id ((label.announcements env txn).map requested) = [] := by
    rw [unblocks_settles settles]
    apply unblocksOf_other
    rw [(Label.settles_final settles).2.1]
    exact apart
  cases change with
  | settled label promise final task settles own pending timely =>
      obtain ⟨settled, sameId, _⟩ := Label.settles_final settles
      cases told with
      | pending promise pending distinct =>
          refine ⟨promise.listeners, ?_, .inl rfl⟩
          rw [unblocks_settles settles, ← own, ← sameId, unblocksOf_own, List.nil_append]
          exact .settled final.cleared promise.listeners settled distinct
      | settled promise listening closed distinct => simp [closed] at pending
  | woken label promise final awaiter task job settles apart listed pending early =>
      exact quiet rfl (other settles apart)
  | spared label promise final cell settles apart asleep => exact quiet rfl (other settles apart)
  | created data createdAt mode task job own =>
      cases told with
      | absent =>
          refine ⟨[], ?_, .inl rfl⟩
          rw [unblocks_unsettling rfl, List.append_nil]
          cases pending : (newPromise data createdAt txn.now).record.isPending with
          | true => exact .pending (newPromise data createdAt txn.now) pending List.nodup_nil
          | false => exact .settled (newPromise data createdAt txn.now) [] pending List.nodup_nil
  | registered awaited awaiter task own pending external valid unlisted =>
      cases told with
      | pending promise _ distinct =>
          refine ⟨awaited.listeners, ?_, .inl rfl⟩
          rw [unblocks_unsettling rfl, List.append_nil]
          exact .pending { awaited with callbacks := awaited.callbacks ++ [awaiter] } pending distinct
      | settled promise listening closed distinct => simp [closed] at pending
  | listened awaited address task own pending external unlisted =>
      cases told with
      | pending promise _ distinct =>
          refine ⟨awaited.listeners ++ [address], ?_, .inr ⟨awaited, address, rfl, own, rfl⟩⟩
          rw [unblocks_unsettling rfl, List.append_nil]
          exact .pending { awaited with listeners := awaited.listeners ++ [address] } pending
            (nodup_append_one distinct unlisted)
      | settled promise listening closed distinct => simp [closed] at pending
  | resumed awaited awaiter task job pending early => exact quiet rfl (unblocks_unsettling rfl id)
  | moved label promise old new own move =>
      exact quiet rfl (unblocks_unsettling (move.unsettling txn.now) id)
  | same label cell unsettling apart => exact quiet rfl (unblocks_unsettling unsettling id)

/-- A settled promise is kept, and nothing more is told of it. -/
theorem Change.silent {before after : Cell} (change : Change env txn.now id label before after)
    {promise : StoredPromise} (found : before.promise = some promise)
    (closed : promise.record.isPending = false) : after.promise = some promise ∧
      unblocksOf id ((label.announcements env txn).map requested) = [] := by
  have other {promise final : StoredPromise} (settles : label.settles txn.now = some (promise, final))
      (apart : promise.record.id ≠ id) :
      unblocksOf id ((label.announcements env txn).map requested) = [] := by
    rw [unblocks_settles settles]
    apply unblocksOf_other
    rw [(Label.settles_final settles).2.1]
    exact apart
  cases change with
  | settled label old final task settles own pending timely =>
      cases found
      simp [closed] at pending
  | woken label settling final awaiter task job settles apart listed pending early =>
      exact ⟨found, other settles apart⟩
  | spared label settling final cell settles apart asleep => exact ⟨found, other settles apart⟩
  | created data createdAt mode task job own => cases found
  | registered awaited awaiter task own pending external valid unlisted =>
      cases found
      simp [closed] at pending
  | listened awaited address task own pending external unlisted =>
      cases found
      simp [closed] at pending
  | resumed awaited awaiter task job pending early => exact ⟨found, unblocks_unsettling rfl id⟩
  | moved label old before new own move =>
      exact ⟨found, unblocks_unsettling (move.unsettling txn.now) id⟩
  | same label cell unsettling apart => exact ⟨found, unblocks_unsettling unsettling id⟩

theorem Trail.silent {permits : Label → Prop} (trail : Trail env permits txn next)
    (keyed : txn.Keyed) {promise : StoredPromise} (found : txn.getPromise id = some promise)
    (closed : promise.record.isPending = false) :
    next.getPromise id = some promise ∧ next.unblocks id = txn.unblocks id := by
  induction trail with
  | refl txn => exact ⟨found, rfl⟩
  | @step first second third label permitted move rest ih =>
      obtain ⟨kept, silent⟩ := (move.change keyed id).silent found closed
      obtain ⟨last, same⟩ := ih (move.keyed keyed) kept
      refine ⟨last, ?_⟩
      rw [same, move.unblocks, silent, List.append_nil]

/-- Along a trail the listeners of a promise are those there were and those the trail registers. -/
theorem Trail.told {permits : Label → Prop} (trail : Trail env permits txn next)
    (keyed : txn.Keyed) {before : List (String × Payload)} {listening : List String}
    (told : Told env (txn.getPromise id) (before ++ txn.unblocks id) listening) :
    ∃ later, Told env (next.getPromise id) (before ++ next.unblocks id) later ∧
      (∀ address ∈ listening, address ∈ later) ∧
      ∀ address ∈ later, address ∈ listening ∨
        ∃ awaited, permits (.listen awaited address) ∧ awaited.record.id = id := by
  induction trail generalizing listening with
  | refl txn => exact ⟨listening, told, fun _ member => member, fun _ member => .inl member⟩
  | @step first second third label permitted move rest ih =>
      obtain ⟨middle, reached, hears⟩ := (move.change keyed id).told told
      rw [List.append_assoc, ← move.unblocks] at reached
      obtain ⟨later, ended, kept, origin⟩ := ih (move.keyed keyed) reached
      refine ⟨later, ended, ?_, ?_⟩
      · intro address member
        apply kept
        rcases hears with same | ⟨awaited, added, _, _, grown⟩
        · rw [same]
          exact member
        · rw [grown]
          exact List.mem_append_left _ member
      · intro address member
        rcases origin address member with old | added
        · rcases hears with same | ⟨awaited, registered, listens, own, grown⟩
          · rw [same] at old
            exact .inl old
          · rw [grown] at old
            rcases List.mem_append.mp old with earlier | new
            · exact .inl earlier
            · rw [List.mem_singleton.mp new]
              exact .inr ⟨awaited, listens ▸ permitted, own⟩
        · exact .inr added

/-! ## Registrations -/

/-- A step whose request registers a listener and is answered with a pending promise. -/
def Listens (env : Env) (entry : Machine.Entry System Event) (id address : String) : Prop :=
  ∃ stored record, entry.label = .request (.promiseRegisterListener ⟨id, address⟩) stored ∧
    answer env entry.before (.promiseRegisterListener ⟨id, address⟩) stored =
      .ok 200 (.promise record) ∧ record.isPending = true

/-- A registration is one move, and it is answered with the pending promise. -/
theorem listener_trail (keyed : txn.Keyed) (data : ListenerData) :
    Trail env (fun label => ∀ awaited address, label = .listen awaited address →
      awaited.record.id = data.awaited ∧ address = data.address ∧ ∃ record,
        (promiseRegisterListener env txn data).reply = .ok 200 (.promise record) ∧
        record.isPending = true) txn (promiseRegisterListener env txn data).txn := by
  have timed := tryTimeout_keyed env [data.awaited] keyed
  have lapse {permits : Label → Prop} (permitted : ∀ promise, permits (.expire promise)) :
      Trail env permits txn (tryTimeout env txn [data.awaited]) :=
    tryTimeout_trail [data.awaited] keyed fun promise _ => permitted promise
  unfold promiseRegisterListener
  split
  · exact .refl txn
  · rename_i valid
    have valid : env.isUrl data.address = true := by simpa using valid
    dsimp only
    split
    · apply lapse
      intro promise awaited address same
      cases same
    · rename_i awaited stored
      have own : awaited.record.id = data.awaited := timed.promise _ _ stored
      split
      · apply lapse
        intro promise awaited address same
        cases same
      · rename_i external
        have external : awaited.record.isExternal = true := by simpa using external
        split
        · rename_i listed
          refine Trail.trans (lapse ?_) (.one (.listen awaited data.address) ?_
            (.listen awaited data.address ⟨own ▸ stored, listed.1, external⟩ valid listed.2))
          · intro promise awaited address same
            cases same
          · intro other address same
            cases same
            exact ⟨own, rfl, awaited.record, rfl, listed.1⟩
        · apply lapse
          intro promise awaited address same
          cases same

/-- A promise answered as pending has the listener. -/
theorem listener_heard (keyed : txn.Keyed) (data : ListenerData) {record : PromiseRecord}
    (reply : (promiseRegisterListener env txn data).reply = .ok 200 (.promise record))
    (pending : record.isPending = true) :
    (promiseRegisterListener env txn data).exit = .commit ∧ ∃ promise,
      (promiseRegisterListener env txn data).txn.getPromise data.awaited = some promise ∧
      promise.record.isPending = true ∧ data.address ∈ promise.listeners := by
  have timed := tryTimeout_keyed env [data.awaited] keyed
  unfold promiseRegisterListener at reply ⊢
  split at reply
  · cases reply
  · rename_i valid
    rw [if_neg valid]
    dsimp only at reply ⊢
    split at reply
    · cases reply
    · rename_i awaited stored
      have own : awaited.record.id = data.awaited := timed.promise _ _ stored
      split at reply
      · cases reply
      · rename_i external
        cases reply
        rw [if_neg external]
        refine ⟨rfl, ?_⟩
        by_cases listed : data.address ∈ awaited.listeners
        · refine ⟨awaited, ?_, pending, listed⟩
          simp [done, listed, stored]
        · refine ⟨{ awaited with listeners := awaited.listeners ++ [data.address] }, ?_, pending, ?_⟩
          · simp [done, listed, pending, Txn.getPromise_putPromise, own]
          · simp

theorem listener_answered {system : System} (keyed : (system.txn env).Keyed) (data : ListenerData)
    {record : PromiseRecord}
    (reply : (promiseRegisterListener env (system.txn env) data).reply = .ok 200 (.promise record))
    (pending : record.isPending = true) :
    answer env system (.promiseRegisterListener data) true = .ok 200 (.promise record) := by
  have exit := (listener_heard keyed data reply pending).1
  unfold answer conclude handle
  rw [exit]
  exact reply

/-- Only a committed registration is answered with a pending promise. -/
theorem listener_accepted {system : System} {data : ListenerData} {stored : Bool}
    {record : PromiseRecord} (keyed : (system.txn env).Keyed)
    (replied : answer env system (.promiseRegisterListener data) stored = .ok 200 (.promise record))
    (pending : record.isPending = true) :
    stored = true ∧ (promiseRegisterListener env (system.txn env) data).exit = .commit ∧ ∃ promise,
      (promiseRegisterListener env (system.txn env) data).txn.getPromise data.awaited =
        some promise ∧ promise.record.isPending = true ∧ data.address ∈ promise.listeners := by
  have heard (reply : (promiseRegisterListener env (system.txn env) data).reply =
      .ok 200 (.promise record)) := listener_heard keyed data reply pending
  unfold answer conclude handle at replied
  dsimp only at replied
  cases exit : (promiseRegisterListener env (system.txn env) data).exit with
  | commit =>
      rw [exit] at replied
      cases stored with
      | true => exact ⟨rfl, rfl, (heard replied).2⟩
      | false => cases replied
  | drop =>
      rw [exit] at replied
      simp [exit] at heard
      exact absurd replied heard
  | panic =>
      rw [exit] at replied
      simp [exit] at heard
      exact absurd replied heard
  | commitAck taskId =>
      rw [exit] at replied
      simp [exit] at heard
      cases stored with
      | true =>
          dsimp only at replied
          split at replied
          · exact absurd replied heard
          · cases replied
      | false => cases replied

theorem unblocks_enqueue (queue : Queue Payload) (requests : List (EnqueueRequest Payload)) :
    (queue.enqueue requests).1.map (fun entry => (entry.2.queue, entry.2.payload)) =
      requests.map requested := by
  have jobs := congrArg (List.map fun job : Job Payload => (job.queue, job.payload))
    (queue.enqueue_jobs requests)
  rw [List.map_map, List.map_map] at jobs
  exact jobs

variable {before after system : System} {event : Event} {middle : Queue Payload}

theorem Enqueued.unblocks (enqueued : Enqueued env before event txn middle after) (id : String) :
    after.unblocks id = before.unblocks id ++ txn.unblocks id := by
  unfold System.unblocks Txn.unblocks
  rw [enqueued.log, List.map_append, unblocksOf_append, unblocks_enqueue]

/-- The only registrations of a step are those it is answered for. -/
theorem Enqueued.hears (enqueued : Enqueued env before event txn middle after)
    (keyed : (before.txn env).Keyed) :
    Trail env (fun label => ∀ awaited address, label = .listen awaited address →
      Listens env ⟨before, event, after⟩ awaited.record.id address) (before.txn env) txn := by
  by_cases listening : ∃ data stored, event = .request (.promiseRegisterListener data) stored
  · obtain ⟨data, stored, rfl⟩ := listening
    obtain ⟨rfl, rfl⟩ := enqueued.runs
    apply (listener_trail keyed data).mono
    intro label single awaited address same
    obtain ⟨own, rfl, record, reply, pending⟩ := single awaited address same
    rw [own]
    exact ⟨true, record, rfl, listener_answered keyed data reply pending, pending⟩
  · apply enqueued.committed.trail.mono
    rintro label permitted awaited address rfl
    apply False.elim
    cases event with
    | request asked stored =>
        have asks : asked = .promiseRegisterListener ⟨awaited.record.id, address⟩ := permitted
        exact listening ⟨_, stored, by rw [asks]⟩
    | deliver claim stored => exact permitted
    | fire claim stored =>
        obtain ⟨_, timer, payload, _⟩ := enqueued.runs
        rw [fire_permits claim stored timer payload] at permitted
        exact permitted
    | _ => exact permitted

/-- A registration that is answered with a pending promise is stored. -/
theorem Listens.stored {address : String} (listens : Listens env ⟨before, event, after⟩ id address)
    (keyed : (before.txn env).Keyed) (taken : step env before event = some after) :
    ∃ promise, after.promise id = some promise ∧ promise.record.isPending = true ∧
      address ∈ promise.listeners := by
  obtain ⟨stored, record, asked, replied, pending⟩ := listens
  change event = _ at asked
  subst asked
  obtain ⟨rfl, exit, promise, found, open_, listed⟩ := listener_accepted keyed replied pending
  refine ⟨promise, ?_, open_, listed⟩
  have handled : (handle env (before.txn env) (.promiseRegisterListener ⟨id, address⟩)).exit = .commit :=
    exit
  cases step_cases taken with
  | dropped request stored unlocked dropped =>
      rcases dropped with stored | dropped | dropped
      · cases stored
      · rw [handled] at dropped
        cases dropped
      · rw [handled] at dropped
        cases dropped
  | committed request unlocked _ =>
      have stores : Stores (handle env (before.txn env) (.promiseRegisterListener ⟨id, address⟩)).txn
          (before.absorb (handle env (before.txn env)
            (.promiseRegisterListener ⟨id, address⟩)).txn.commit) := stores_of_kv rfl
      rw [stores.promise]
      exact found
  | acked request taskId commit unlocked acked committed =>
      rw [handled] at acked
      cases acked
  | lost request taskId commit unlocked acked committed =>
      rw [handled] at acked
      cases acked

/-- In every run the messages of a promise are those of the listeners it was registered with. -/
theorem History.told {past : List (Machine.Entry System Event)} (history : History env past system)
    (id : String) : ∃ listening, Told env (system.promise id) (system.unblocks id) listening ∧
      ∀ address, address ∈ listening ↔ ∃ entry ∈ past, Listens env entry id address := by
  apply Machine.History.induct (fun past system => ∃ listening,
    Told env (system.promise id) (system.unblocks id) listening ∧
      ∀ address, address ∈ listening ↔ ∃ entry ∈ past, Listens env entry id address) history
  · refine ⟨[], .absent, ?_⟩
    simp
  · intro past before event after earlier ⟨listening, told, heard⟩ taken
    have reached : Reachable env before := ⟨past, earlier⟩
    have keyed : (before.txn env).Keyed := Reachable.keyed reached
    -- what is registered by the step is stored after it
    have grown (later : List String) (told : Told env (after.promise id) (after.unblocks id) later)
        (kept : ∀ address ∈ listening, address ∈ later)
        (new : ∀ address ∈ later, address ∈ listening ∨
          Listens env ⟨before, event, after⟩ id address) :
        ∃ listening, Told env (after.promise id) (after.unblocks id) listening ∧
          ∀ address, address ∈ listening ↔
            ∃ entry ∈ ⟨before, event, after⟩ :: past, Listens env entry id address := by
      refine ⟨later, told, ?_⟩
      intro address
      simp only [List.mem_cons, exists_eq_or_imp]
      constructor
      · intro member
        rcases new address member with old | listens
        · exact .inr ((heard address).mp old)
        · exact .inl listens
      · rintro (listens | earlier)
        · obtain ⟨promise, found, pending, listed⟩ := listens.stored keyed taken
          rw [found] at told
          generalize after.unblocks id = sent at told
          cases told with
          | pending promise pending distinct => exact listed
          | settled promise later settled distinct => simp [settled] at pending
        · exact kept address ((heard address).mpr earlier)
    rcases Reachable.enqueued reached taken with ⟨sameKv, sameLog⟩ | ⟨txn, middle, enqueued⟩
    · apply grown listening
      · unfold System.promise System.unblocks
        rw [sameKv, sameLog]
        exact told
      · exact fun address member => member
      · exact fun address member => .inl member
    · have started : Told env ((before.txn env).getPromise id)
          (before.unblocks id ++ (before.txn env).unblocks id) listening := by
        rw [System.getPromise_txn]
        simpa [Txn.unblocks, System.txn, unblocksOf] using told
      obtain ⟨later, ended, kept, origin⟩ := (enqueued.hears keyed).told keyed started
      rw [← enqueued.unblocks, ← enqueued.committed.stores.promise] at ended
      apply grown later ended kept
      intro address member
      rcases origin address member with old | ⟨awaited, registers, own⟩
      · exact .inl old
      · rw [← own]
        exact .inr (registers awaited address rfl)

theorem step_silent (reached : Reachable env before) (taken : step env before event = some after)
    {promise : StoredPromise} (found : before.promise id = some promise)
    (closed : promise.record.isPending = false) :
    after.promise id = some promise ∧ after.unblocks id = before.unblocks id := by
  rcases Reachable.enqueued reached taken with ⟨sameKv, sameLog⟩ | ⟨txn, middle, enqueued⟩
  · unfold System.promise System.unblocks
    rw [sameKv, sameLog]
    exact ⟨found, rfl⟩
  · have start : (before.txn env).getPromise id = some promise := by
      rw [System.getPromise_txn]
      exact found
    obtain ⟨kept, same⟩ := enqueued.committed.trail.silent (Reachable.keyed reached) start closed
    rw [enqueued.committed.stores.promise, enqueued.unblocks, same]
    exact ⟨kept, List.append_nil _⟩

/-- The jobs of a promise on the queue of an address. -/
def System.unblocksTo (env : Env) (system : System) (id address : String) :
    List (String × Payload) :=
  (system.unblocks id).filter fun job => job.1 = Keys.addressQueue env address

/-- Among distinct addresses one has a queue of its own. -/
theorem unblocksTo_length {promise : PromiseRecord} {listening : List String}
    (distinct : listening.Nodup) (sent : system.unblocks id = listening.map (unblockOf env promise))
    {address : String} (own : ∀ other ∈ listening,
      Keys.addressQueue env other = Keys.addressQueue env address → other = address) :
    (system.unblocksTo env id address).length = if address ∈ listening then 1 else 0 := by
  have queues (other : String) (member : other ∈ listening) :
      decide ((unblockOf env promise other).1 = Keys.addressQueue env address) =
        (other == address) := by
    by_cases same : other = address
    · simp [same, unblockOf]
    · have apart : Keys.addressQueue env other ≠ Keys.addressQueue env address :=
        fun queue => same (own other member queue)
      simp [same, unblockOf, apart]
  unfold System.unblocksTo
  rw [sent, List.filter_map, List.length_map]
  have counted : listening.filter (fun other => decide
      ((unblockOf env promise other).1 = Keys.addressQueue env address)) =
      listening.filter (· == address) := List.filter_congr queues
  change (listening.filter fun other => decide
    ((unblockOf env promise other).1 = Keys.addressQueue env address)).length = _
  rw [counted, ← List.count_eq_length_filter]
  split
  · rename_i member
    exact List.count_eq_one_of_mem distinct member
  · rename_i absent
    exact List.count_eq_zero_of_not_mem absent

/-- Once a promise has settled, one unblock job was committed for each address whose registration
was answered while it was pending, on the queue of the address and with the record that stays
stored. Before that there is none. -/
theorem unblocks_each_listener_once {past : List (Machine.Entry System Event)}
    (history : History env past system) (id : String) :
    (∀ promise, system.promise id = some promise → promise.record.isPending = false →
      (∃ listening : List String, listening.Nodup ∧
        (∀ address, address ∈ listening ↔ ∃ entry ∈ past, Listens env entry id address) ∧
        system.unblocks id = listening.map (unblockOf env promise.record)) ∧
      (∀ labels later, Machine.run (step env) system labels = some later →
        later.promise id = some promise ∧ later.unblocks id = system.unblocks id) ∧
      ∀ address, (∀ other, (∃ entry ∈ past, Listens env entry id other) →
          Keys.addressQueue env other = Keys.addressQueue env address → other = address) →
        ((∃ entry ∈ past, Listens env entry id address) →
          (system.unblocksTo env id address).length = 1) ∧
        ((¬ ∃ entry ∈ past, Listens env entry id address) →
          (system.unblocksTo env id address).length = 0)) ∧
    ((∀ promise, system.promise id = some promise → promise.record.isPending = true) →
      system.unblocks id = []) := by
  obtain ⟨listening, told, heard⟩ := history.told id
  constructor
  · intro promise found closed
    have reached : Reachable env system := ⟨past, history⟩
    rw [found] at told
    generalize messages : system.unblocks id = sent at told
    cases told with
    | pending promise pending distinct => simp [closed] at pending
    | settled promise listening _ distinct =>
        refine ⟨⟨listening, distinct, heard, rfl⟩, ?_, ?_⟩
        · intro labels later ran
          rw [← messages]
          have kept := Machine.run_respects (fun first second => ∀ promise,
            first.promise id = some promise → promise.record.isPending = false →
              second.promise id = some promise ∧ second.unblocks id = first.unblocks id)
            (fun state promise found _ => ⟨found, rfl⟩) ?_ ?_ reached ran
          · exact kept promise found closed
          · intro first second third left right promise found closed
            obtain ⟨middle, same⟩ := left promise found closed
            obtain ⟨last, kept⟩ := right promise middle closed
            exact ⟨last, kept.trans same⟩
          · intro before event after reached taken promise found closed
            exact step_silent reached taken found closed
        · intro address own
          have count := unblocksTo_length distinct messages
            fun other member => own other ((heard other).mp member)
          constructor
          · intro listens
            rw [count, if_pos ((heard address).mpr listens)]
          · intro unheard
            rw [count, if_neg fun member => unheard ((heard address).mp member)]
  · intro open_
    generalize system.unblocks id = sent at told
    cases stored : system.promise id with
    | none =>
        rw [stored] at told
        cases told
        rfl
    | some promise =>
        rw [stored] at told
        cases told with
        | pending promise pending distinct => rfl
        | settled promise listening closed distinct =>
            have pending := open_ promise stored
            simp [closed] at pending

end

/-- A promise with a listener registered twice, settled by a client and again by its timer. -/
def toldRun : List Event :=
  [.request (.promiseCreate .awaitedSample) true,
    .request (.promiseRegisterListener ⟨"root:0", "poll://any@a"⟩) true,
    .request (.promiseRegisterListener ⟨"root:0", "poll://any@a"⟩) true,
    .request (.promiseSettle ⟨"root:0", .resolved, {}⟩) true,
    .request (.promiseRegisterListener ⟨"root:0", "poll://any@b"⟩) true,
    .clock 1000, .promote 0, .take 0 100, .fire ⟨0, Keys.timerQueue,
      .timer (.promiseTimeout "root:0"), some 1000, 0⟩ true]

theorem toldRun_ends : (Machine.trace (step .sample) [] .empty toldRun).isSome = true := by
  decide

def toldTrace : List (Machine.Entry System Event) × System :=
  (Machine.trace (step .sample) [] .empty toldRun).get toldRun_ends

theorem told_history : History .sample toldTrace.1 toldTrace.2 :=
  Machine.history_of_trace toldRun_ends

theorem unblocks_each_listener_once_told :
    ∃ (promise : StoredPromise) (listening : List String), toldTrace.2.promise "root:0" = some promise ∧
      promise.record.isPending = false ∧ listening.length = 1 ∧
      (∀ address, address ∈ listening ↔
        ∃ entry ∈ toldTrace.1, Listens .sample entry "root:0" address) ∧
      toldTrace.2.unblocks "root:0" = listening.map (unblockOf .sample promise.record) := by
  have stored : (toldTrace.2.promise "root:0").any (fun promise =>
      promise.record.isPending = false) = true := by
    decide
  obtain ⟨promise, found, closed⟩ := (Option.any_eq_true _ _).mp stored
  have settled := of_decide_eq_true closed
  obtain ⟨listening, _, heard, sent⟩ :=
    ((unblocks_each_listener_once told_history "root:0").1 promise found settled).1
  have one : (toldTrace.2.unblocks "root:0").length = 1 := by decide
  rw [sent, List.length_map] at one
  exact ⟨promise, listening, found, settled, one, heard, sent⟩

end Resonate
