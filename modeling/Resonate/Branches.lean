import Resonate.Siblings
import Resonate.WellFormed

set_option autoImplicit false

/-! The branches of promises where no schedule fires into an id with a null byte: each lies in the
origin of its promise, so what `preload` returns depends on one origin only. -/

namespace Resonate

open Kernel

/-- The id and the branch hold no null byte, and the branch is of the origin of the id. -/
def PromiseCreateData.Branched (data : PromiseCreateData) : Prop :=
  Text.contains data.id '\x00' = false ∧ ∀ branch, data.tags[tagBranch]? = some branch →
    Text.contains branch '\x00' = false ∧ originOf branch = originOf data.id

/-- Whether an event that fires a schedule creates a promise only under an id without a null
byte. -/
def Event.unbroken (before : System) : Event → Bool
  | .fire claim _ =>
      match claim.payload with
      | .timer (.schedule id time) => (before.schedule id).all fun schedule =>
          schedule.nextRunAt ≠ time || (before.promise (firedId schedule)).isSome ||
            !Text.contains (firedId schedule) '\x00'
      | _ => true
  | _ => true

section

variable {env : Env} {txn next : Txn} {before after system : System} {event : Event}

/-- An ancestor of an id without a null byte has none. -/
theorem unbroken_ancestor {ancestor id : String} (holds : isAncestor ancestor id = true)
    (unbroken : Text.contains id '\x00' = false) : Text.contains ancestor '\x00' = false := by
  rcases (isAncestor_iff ancestor id).mp holds with rfl | ⟨rest, parts⟩
  · exact unbroken
  · have absent : '\x00' ∉ id.toList := by simpa [Text.contains] using unbroken
    rw [parts] at absent
    simp only [List.mem_append, not_or] at absent
    simpa [Text.contains] using absent.1

theorem validateCreate_branched {data : PromiseCreateData} (valid : validateCreate env data = none) :
    data.Branched := by
  have checked := validateCreate_iff.mp valid
  refine ⟨checked.unbroken, fun branch tagged => ?_⟩
  have ancestor := checked.branch branch tagged
  exact ⟨unbroken_ancestor ancestor checked.unbroken, originOf_ancestor ancestor⟩

theorem firedData_branched {schedule : ScheduleRecord}
    (unbroken : Text.contains (firedId schedule) '\x00' = false) :
    (firedData schedule).Branched := by
  refine ⟨unbroken, ?_⟩
  intro branch tagged
  change (firedTags schedule (firedId schedule))[tagBranch]? = some branch at tagged
  rw [firedTags_lineage schedule (firedId schedule) (by simp)] at tagged
  cases tagged
  exact ⟨unbroken, rfl⟩

theorem branched_step (reached : Reachable env before) (taken : step env before event = some after)
    (unbroken : event.unbroken before = true)
    (holds : ∀ id promise, before.promise id = some promise → promise.record.creation.Branched) :
    ∀ id promise, after.promise id = some promise → promise.record.creation.Branched := by
  refine creations_step (fun data => validateCreate_branched) reached taken ?_ holds
  rintro claim stored id schedule rfl payload found absent
  apply firedData_branched
  simpa [Event.unbroken, payload, found, absent] using unbroken

/-- In a run whose schedules fire without null bytes, every branch is of its promise's origin. -/
theorem History.branched {past : List (Machine.Entry System Event)} (history : History env past system)
    (unbroken : Machine.Meets (fun before event => event.unbroken before = true) past) :
    ∀ id promise, system.promise id = some promise → promise.record.creation.Branched := by
  refine Machine.History.invariant (fun system => ∀ id promise, system.promise id = some promise →
    promise.record.creation.Branched) history unbroken ?_ ?_
  · intro id promise found
    cases found
  · intro before event after reached holds unbroken taken
    exact branched_step reached taken unbroken holds

/-! ## Transactions -/

/-- The index lists the promises of each branch, and every branch is of its promise's origin. -/
structure Txn.Shelved (txn : Txn) : Prop where
  keyed : txn.Keyed
  indexed : txn.Indexed
  branched : ∀ id promise, txn.getPromise id = some promise → promise.record.creation.Branched

theorem Txn.Shelved.plain (shelved : txn.Shelved) : txn.Plain := by
  intro id promise found
  have own := shelved.keyed.promise id promise found
  obtain ⟨unbroken, branch⟩ := shelved.branched id promise found
  refine ⟨?_, fun name tagged => (branch name tagged).1⟩
  rw [← own]
  exact unbroken

theorem History.shelved {past : List (Machine.Entry System Event)} (history : History env past system)
    (unbroken : Machine.Meets (fun before event => event.unbroken before = true) past) :
    (system.txn env).Shelved := by
  refine ⟨Reachable.keyed ⟨past, history⟩, Reachable.indexed ⟨past, history⟩, ?_⟩
  rw [System.getPromise_txn]
  exact History.branched history unbroken

/-- A request's moves keep the branches. -/
theorem Trail.shelved {permits : Label → Prop} (trail : Trail env permits txn next)
    (unfired : ∀ data time mode, ¬ permits (.create data (some time) mode))
    (shelved : txn.Shelved) : next.Shelved := by
  refine ⟨trail.keyed shelved.keyed, trail.indexed shelved.indexed, ?_⟩
  apply trail.preserves (fun txn => ∀ id promise, txn.getPromise id = some promise →
    promise.record.creation.Branched) shelved.keyed shelved.branched
  intro first label second keyed permitted move holds
  refine move.creations keyed (fun data => validateCreate_branched) ?_ holds
  rintro data time mode rfl
  exact unfired data time mode permitted

/-- Two transactions that read the same promises of an origin preload the same siblings there. -/
theorem Txn.Shelved.preload {first second : Txn} {origin : String} (shelved : first.Shelved)
    (shelved' : second.Shelved) (limit : second.preloadLimit = first.preloadLimit)
    (promises : ∀ id, originOf id = origin → second.getPromise id = first.getPromise id)
    {id : String} {promise : StoredPromise} (own : originOf id = origin)
    (found : first.getPromise id = some promise) :
    second.preload promise.record = first.preload promise.record := by
  cases tagged : promise.record.tags[tagBranch]? with
  | none =>
      unfold Txn.preload
      rw [tagged]
  | some branch =>
      have here : originOf branch = origin := by
        have branched := (shelved.branched id promise found).2 branch tagged
        rw [branched.2, ← own, ← shelved.keyed.promise id promise found]
        rfl
      have some_ : promise.record.tags[tagBranch]?.isSome = true := by rw [tagged]; rfl
      obtain ⟨ordered, listed⟩ := Txn.siblings_spec shelved.keyed promise.record
      obtain ⟨ordered', listed'⟩ := Txn.siblings_spec shelved'.keyed promise.record
      -- A record of the branch is stored under an id of the origin in either transaction.
      have inside (txn : Txn) (shelved : txn.Shelved) (record : PromiseRecord)
          (shared : record.tags[tagBranch]? = promise.record.tags[tagBranch]?)
          (stored : (txn.getPromise record.id).map (·.record) = some record) :
          originOf record.id = origin := by
        obtain ⟨other, present, rfl⟩ := Option.map_eq_some_iff.mp stored
        have branched := (shelved.branched _ other present).2 branch (shared.trans tagged)
        rw [← here, branched.2]
        rfl
      have same : second.siblings promise.record = first.siblings promise.record := by
        have asymm : Std.Antisymm fun first second : PromiseRecord => first.id < second.id :=
          ⟨fun _ _ below above => absurd above (lt_asymm below)⟩
        have irrefl : Std.Irrefl fun first second : PromiseRecord => first.id < second.id :=
          ⟨fun record => lt_irrefl record.id⟩
        refine List.Pairwise.eq_of_mem_iff ordered' ordered ?_
        intro record
        rw [listed, listed']
        constructor
        · intro ⟨apart, shared, stored⟩
          rw [promises _ (inside second shelved' record shared stored)] at stored
          exact ⟨apart, shared, stored⟩
        · intro ⟨apart, shared, stored⟩
          rw [← promises _ (inside first shelved record shared stored)] at stored
          exact ⟨apart, shared, stored⟩
      rw [Txn.preload_eq shelved.keyed shelved.indexed shelved.plain _ some_,
        Txn.preload_eq shelved'.keyed shelved'.indexed shelved'.plain _ some_, same, limit]

end

end Resonate
