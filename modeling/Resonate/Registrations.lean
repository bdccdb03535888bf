import Resonate.Lifetimes

set_option autoImplicit false

/-! The callbacks and listeners of promises: who may be registered, and with what. -/

namespace Resonate

open Kernel

/-- The registrations of a promise: none unless a task can await it, each once, and awaiters of
its origin only. -/
structure StoredPromise.Enlisted (promise : StoredPromise) : Prop where
  idle : promise.record.isPending = false ∨ promise.record.isExternal = false →
    promise.callbacks = [] ∧ promise.listeners = []
  callbacks : promise.callbacks.Nodup
  listeners : promise.listeners.Nodup
  apart : ∀ awaiter ∈ promise.callbacks, awaiter ≠ promise.record.id
  origin : ∀ awaiter ∈ promise.callbacks, originOf awaiter = originOf promise.record.id

/-- A promise under `id` with a target. -/
def Views.Targeted (views : Views) (id : String) : Prop :=
  ∃ promise, views.promise id = some promise ∧ promise.record.target.isSome = true

/-- Every registration is sound, and every awaiter has a target. -/
structure Views.Registered (views : Views) : Prop where
  enlisted : ∀ id promise, views.promise id = some promise → promise.Enlisted
  known : ∀ id promise, views.promise id = some promise →
    ∀ awaiter ∈ promise.callbacks, views.Targeted awaiter

theorem validateCallback_valid {awaited awaiter : String}
    (valid : validateCallback awaited awaiter = none) :
    awaiter ≠ awaited ∧ originOf awaiter = originOf awaited := by
  unfold validateCallback at valid
  split at valid
  · simp at valid
  · split at valid
    · simp at valid
    · rename_i differ
      split at valid
      · simp at valid
      · rename_i same
        simp only [ne_eq, not_not] at same
        exact ⟨Ne.symm differ, same.symm⟩

namespace StoredPromise

theorem Enlisted.none {promise : StoredPromise} (uncalled : promise.callbacks = [])
    (unheard : promise.listeners = []) : promise.Enlisted := by
  refine ⟨fun _ => ⟨uncalled, unheard⟩, ?_, ?_, ?_, ?_⟩
  · simp [uncalled]
  · simp [unheard]
  · simp [uncalled]
  · simp [uncalled]

/-- A promise with registrations can be awaited. -/
theorem Enlisted.awaited {promise : StoredPromise} (enlisted : promise.Enlisted) {awaiter : String}
    (listed : awaiter ∈ promise.callbacks) :
    promise.record.isPending = true ∧ promise.record.isExternal = true := by
  by_contra unawaitable
  have settled : promise.record.isPending = false ∨ promise.record.isExternal = false := by
    simp only [← Bool.not_eq_true]
    tauto
  simp [(enlisted.idle settled).1] at listed

end StoredPromise

theorem nodup_append_one {entries : List String} {entry : String} (nodup : entries.Nodup)
    (unlisted : entry ∉ entries) : (entries ++ [entry]).Nodup := by
  simpa using nodup.concat unlisted

section

variable {env : Env} {now : Int} {id : String} {label : Label}

/-- Every change keeps the registrations of its promise sound. -/
theorem Change.enlisted {before after : Cell} (change : Change env now id label before after)
    (enlisted : ∀ promise, before.promise = some promise → promise.Enlisted) :
    ∀ promise, after.promise = some promise → promise.Enlisted := by
  intro promise found
  cases change with
  | settled label old final task settles own pending timely =>
      cases found
      exact .none rfl rfl
  | woken label settling final awaiter task job settles other listed pending early =>
      exact enlisted promise found
  | spared label settling final cell settles other asleep => exact enlisted promise found
  | created data createdAt mode task job own =>
      cases found
      exact .none rfl rfl
  | registered awaited awaiter task own pending external valid unlisted =>
      cases found
      subst own
      obtain ⟨idle, callbacks, listeners, apart, origin⟩ := enlisted awaited rfl
      obtain ⟨differ, same⟩ := validateCallback_valid valid
      refine ⟨?_, nodup_append_one callbacks unlisted, listeners, ?_, ?_⟩
      · simp [pending, external]
      · intro other listed
        rcases List.mem_append.mp listed with earlier | new
        · exact apart other earlier
        · rw [List.mem_singleton.mp new]
          exact differ
      · intro other listed
        rcases List.mem_append.mp listed with earlier | new
        · exact origin other earlier
        · rw [List.mem_singleton.mp new]
          exact same
  | listened awaited address task own pending external unlisted =>
      cases found
      obtain ⟨idle, callbacks, listeners, apart, origin⟩ := enlisted awaited rfl
      refine ⟨?_, callbacks, nodup_append_one listeners unlisted, apart, origin⟩
      simp [pending, external]
  | resumed awaited awaiter task job pending early => exact enlisted promise found
  | moved label same old new own move => exact enlisted promise found
  | same label cell unsettling apart => exact enlisted promise found

end

/-! ## Awaiters -/

section

variable {env : Env} {txn next : Txn} {label : Label} {system : System}

/-- A promise with a target keeps it. -/
theorem Move.targeted (move : Move env txn label next) (keyed : txn.Keyed) {id : String}
    (targeted : txn.views.Targeted id) : next.views.Targeted id := by
  obtain ⟨promise, found, target⟩ := targeted
  obtain ⟨later, stored, persists⟩ := (move.change keyed id).promise.persists promise found
  refine ⟨later, stored, ?_⟩
  rw [target_of_tags persists.tags]
  exact target

/-- A promise with a target has a task. -/
theorem Coupled.task_of_target {cell : Cell} (coupled : Coupled cell) {promise : StoredPromise}
    (stored : cell.promise = some promise) (target : promise.record.target.isSome = true) :
    ∃ task, cell.task = some task := by
  have paired := coupled.target
  rw [stored] at paired
  apply Option.isSome_iff_exists.mp
  rw [← Option.isSome_map, paired]
  exact target

/-- The awaiter of a registration has a target. -/
theorem targeted_of_known (coupled : ∀ id, Coupled (txn.cell id)) {id : String}
    (known : (txn.getTask id).isSome = true ∨
      (txn.getPromise id).any (·.record.target.isSome) = true) : txn.views.Targeted id := by
  rcases known with tasked | promised
  · obtain ⟨task, found⟩ := Option.isSome_iff_exists.mp tasked
    obtain ⟨promise, stored⟩ := (coupled id).promise_of_task found
    refine ⟨promise, stored, ?_⟩
    have target := (coupled id).target
    change (txn.getTask id).map _ = (txn.getPromise id).bind _ at target
    rw [found, stored] at target
    change some task.target = promise.record.target at target
    rw [← target]
    rfl
  · obtain ⟨promise, stored, target⟩ := (Option.any_eq_true _ _).mp promised
    exact ⟨promise, stored, target⟩

/-- A callback that a change leaves was there before, unless the change registers it. -/
theorem PromiseChange.callbacks {now : Int} {id : String} {first second : Option StoredPromise}
    (change : PromiseChange now id label first second) {promise : StoredPromise}
    (found : second = some promise) {awaiter : String} (listed : awaiter ∈ promise.callbacks) :
    (∃ old, first = some old ∧ awaiter ∈ old.callbacks) ∨
      ∃ awaited, label = .register awaited awaiter := by
  cases change with
  | kept same => exact .inl ⟨promise, found, listed⟩
  | settled old final settles own pending timely =>
      cases found
      cases listed
  | created data createdAt mode creates own =>
      cases found
      cases listed
  | registered awaited other registers own pending external =>
      cases found
      rcases List.mem_append.mp listed with earlier | new
      · exact .inl ⟨awaited, rfl, earlier⟩
      · rw [List.mem_singleton.mp new]
        exact .inr ⟨awaited, registers⟩
  | listened awaited address listens own pending external =>
      cases found
      exact .inl ⟨awaited, rfl, listed⟩

theorem Move.registered (move : Move env txn label next) (keyed : txn.Keyed)
    (coupled : ∀ id, Coupled (txn.cell id)) (registered : txn.views.Registered) :
    next.views.Registered := by
  constructor
  · intro id promise found
    exact (move.change keyed id).enlisted (registered.enlisted id) promise found
  · intro id promise found awaiter listed
    apply move.targeted keyed
    rcases (move.change keyed id).promise.callbacks found listed with ⟨old, stored, earlier⟩ | new
    · exact registered.known id old stored awaiter earlier
    · obtain ⟨awaited, rfl⟩ := new
      cases move with
      | register awaited awaiter awaitable valid known unlisted =>
          exact targeted_of_known coupled known

/-- The invariant rule for all records at a time, where promises and tasks are coupled. -/
theorem Reachable.records_invariant (invariant : Views → Prop) (reached : Reachable env system)
    (base : invariant .empty)
    (each : ∀ txn label next, Txn.Keyed txn → (∀ id, Coupled (txn.cell id)) →
      Move env txn label next → invariant txn.views → invariant next.views) :
    invariant system.views := by
  obtain ⟨past, history⟩ := reached
  have both : (∀ id, Coupled ⟨system.views.promise id, system.views.task id⟩) ∧
      invariant system.views := by
    refine History.views_invariant (fun _ views =>
      (∀ id, Coupled ⟨views.promise id, views.task id⟩) ∧ invariant views) history
      (Machine.meets_true past) ?_ ?_ ?_
    · exact ⟨fun _ => empty_coupled, base⟩
    · intro before time _ holds
      exact holds
    · intro event txn label next keyed permitted move holds
      exact ⟨fun id => (move.change keyed id).coupled (holds.1 id),
        each txn label next keyed holds.1 move holds.2⟩
  exact both.2

theorem Reachable.registered (reached : Reachable env system) : system.views.Registered := by
  refine Reachable.records_invariant Views.Registered reached ?_ ?_
  · constructor
    · intro id promise found
      cases found
    · intro id promise found
      cases found
  · intro txn label next keyed coupled move registered
    exact move.registered keyed coupled registered

/-- Registrations are sound: only pending promises that can be awaited have any, none is repeated,
and every awaiter is another promise of the same origin with a target and a task. -/
theorem registrations_sound (reached : Reachable env system) (id : String) (promise : StoredPromise)
    (stored : system.promise id = some promise) :
    (promise.record.isPending = false ∨ promise.record.isExternal = false →
      promise.callbacks = [] ∧ promise.listeners = []) ∧
    promise.callbacks.Nodup ∧ promise.listeners.Nodup ∧
    ∀ awaiter ∈ promise.callbacks, awaiter ≠ id ∧ originOf awaiter = originOf id ∧
      ∃ (other : StoredPromise) (task : StoredTask), system.promise awaiter = some other ∧
        other.record.target.isSome = true ∧ system.task awaiter = some task := by
  have registered : system.views.Registered := Reachable.registered reached
  have keyed : (system.txn env).Keyed := Reachable.keyed reached
  have own : promise.record.id = id := by
    apply keyed.promise id promise
    rw [System.getPromise_txn]
    exact stored
  obtain ⟨idle, callbacks, listeners, apart, origin⟩ := registered.enlisted id promise stored
  subst own
  refine ⟨idle, callbacks, listeners, ?_⟩
  intro awaiter listed
  obtain ⟨other, found, target⟩ := registered.known _ promise stored awaiter listed
  have paired : Coupled (system.cell awaiter) := Reachable.coupled reached awaiter
  obtain ⟨task, tasked⟩ := paired.task_of_target found target
  exact ⟨apart awaiter listed, origin awaiter listed, other, task, found, target, tasked⟩

end

/-- A promise with an awaiter and a listener. -/
def registeredRun : List Event :=
  [.request (.promiseCreate .sample) true,
    .request (.promiseCreate { PromiseCreateData.sample with id := "root:1" }) true,
    .request (.promiseRegisterCallback ⟨"root:1", "root"⟩) true,
    .request (.promiseRegisterListener ⟨"root:1", "poll://any@b"⟩) true]

theorem registeredRun_ends : (Machine.run (step .sample) .empty registeredRun).isSome = true := by
  decide

def registered : System := (Machine.run (step .sample) .empty registeredRun).get registeredRun_ends

theorem registered_reachable : Reachable .sample registered :=
  Machine.reachable_of_run (Option.some_get registeredRun_ends).symm

theorem registrations_sound_registered :
    ∃ promise, registered.promise "root:1" = some promise ∧ promise.callbacks = ["root"] ∧
      promise.listeners = ["poll://any@b"] ∧ originOf "root" = originOf "root:1" ∧
      ∃ task, registered.task "root" = some task := by
  have stored : (registered.promise "root:1").any (fun promise =>
      promise.callbacks = ["root"] ∧ promise.listeners = ["poll://any@b"]) = true := by
    decide
  obtain ⟨promise, found, both⟩ := (Option.any_eq_true _ _).mp stored
  obtain ⟨callbacks, listeners⟩ := of_decide_eq_true both
  obtain ⟨_, _, _, awaiters⟩ := registrations_sound registered_reachable "root:1" promise found
  obtain ⟨_, origin, other, task, _, _, tasked⟩ := awaiters "root" (by simp [callbacks])
  exact ⟨promise, found, callbacks, listeners, origin, task, tasked⟩

end Resonate
