import Resonate.Timing
import Resonate.Lapses

set_option autoImplicit false

/-! The life of a promise: it is created once, settles once, and its times agree with how it was
settled. -/

namespace Resonate

open Kernel
open LeaseQueue (Queue Job)

/-- What becomes of a promise: it keeps what it was created with, and a settled one is kept as it
is. -/
structure PromiseRecord.Persists (earlier later : PromiseRecord) : Prop where
  id : later.id = earlier.id
  param : later.param = earlier.param
  tags : later.tags = earlier.tags
  timeoutAt : later.timeoutAt = earlier.timeoutAt
  createdAt : later.createdAt = earlier.createdAt
  settled : earlier.isPending = false → later = earlier

/-- The times of a promise agree with its state at `now`. -/
structure PromiseRecord.Consistent (now : Int) (record : PromiseRecord) : Prop where
  settledAt : record.settledAt = none ↔ record.isPending = true
  pending : record.isPending = true →
    record.value = {} ∧ record.createdAt < record.timeoutAt ∧ record.createdAt ≤ now
  settled : ∀ time, record.settledAt = some time →
    record.createdAt ≤ time ∧ time ≤ record.timeoutAt
  deadline : record.settledAt = some record.timeoutAt →
    record.value = {} ∧ record.state = record.timeoutState
  client : ∀ time, record.settledAt = some time → time < record.timeoutAt →
    record.state ≠ .rejectedTimedout

namespace PromiseRecord

theorem Persists.refl (record : PromiseRecord) : record.Persists record :=
  ⟨rfl, rfl, rfl, rfl, rfl, fun _ => rfl⟩

theorem Persists.trans {first second third : PromiseRecord} (left : first.Persists second)
    (right : second.Persists third) : first.Persists third := by
  refine ⟨right.id.trans left.id, right.param.trans left.param, right.tags.trans left.tags,
    right.timeoutAt.trans left.timeoutAt, right.createdAt.trans left.createdAt, ?_⟩
  intro settled
  have same := left.settled settled
  rw [← same] at settled
  exact (right.settled settled).trans same

end PromiseRecord

/-- A promise that is stored stays stored. -/
def Persists (first second : Option StoredPromise) : Prop :=
  ∀ promise, first = some promise →
    ∃ later, second = some later ∧ promise.record.Persists later.record

theorem Persists.refl (promise : Option StoredPromise) : Persists promise promise :=
  fun stored found => ⟨stored, found, .refl _⟩

theorem Persists.trans {first second third : Option StoredPromise} (left : Persists first second)
    (right : Persists second third) : Persists first third := by
  intro promise found
  obtain ⟨middle, stored, earlier⟩ := left promise found
  obtain ⟨last, kept, later⟩ := right middle stored
  exact ⟨last, kept, earlier.trans later⟩

section

variable {env : Env} {now : Int} {id : String} {label : Label}
  {first second : Option StoredPromise}

theorem PromiseChange.persists (change : PromiseChange now id label first second) :
    Persists first second := by
  cases change with
  | kept promise => exact .refl _
  | settled promise final settles own pending timely =>
      intro stored found
      cases found
      obtain ⟨_, sameId, tags, _, _, param, timeoutAt, createdAt⟩ := Label.settles_final settles
      refine ⟨_, rfl, sameId, param, tags, timeoutAt, createdAt, ?_⟩
      intro settled
      rw [pending] at settled
      cases settled
  | created data createdAt mode creates own =>
      intro stored found
      cases found
  | registered awaited awaiter registers own pending external =>
      intro stored found
      cases found
      exact ⟨_, rfl, .refl _⟩
  | listened awaited address listens own pending external =>
      intro stored found
      cases found
      exact ⟨_, rfl, .refl _⟩

/-- How a promise was settled by a move at `now`: by its deadline, or by a client before it. -/
inductive Verdict (now : Int) (id : String) (record : PromiseRecord) : Label → Prop
  | expired (promise : StoredPromise) (due : record.timeoutAt ≤ now)
      (settledAt : record.settledAt = some record.timeoutAt) :
      Verdict now id record (.expire promise)
  | struck (promise : StoredPromise) (settledAt : record.settledAt = some record.timeoutAt) :
      Verdict now id record (.strike promise)
  | created (data : PromiseCreateData) (createdAt : Option Int) (mode : CreateMode)
      (due : record.timeoutAt ≤ now) (settledAt : record.settledAt = some record.timeoutAt) :
      Verdict now id record (.create data createdAt mode)
  | client (promise : StoredPromise) (state : SettleState) (value : PromiseValue)
      (own : promise.record.id = id) (early : now < record.timeoutAt)
      (settledAt : record.settledAt = some now) : Verdict now id record (.settle promise state value)

/-- A promise that a move settles is settled by its deadline or by a client. -/
theorem PromiseChange.verdict (change : PromiseChange now id label first second)
    {promise : StoredPromise} (open_ : ∀ old, first = some old → old.record.isPending = true)
    (found : second = some promise) (settled : promise.record.isPending = false) :
    Verdict now id promise.record label := by
  cases change with
  | kept same =>
      rw [open_ promise found] at settled
      cases settled
  | settled old final settles own pending timely =>
      cases found
      cases label with
      | expire expired =>
          cases settles
          exact .expired _ timely rfl
      | strike expired =>
          cases settles
          exact .struck _ rfl
      | settle closed state value =>
          cases settles
          exact .client _ state value own timely rfl
      | _ => cases settles
  | created data createdAt mode creates own =>
      cases found
      subst creates
      rw [newPromise_pending, decide_eq_false_iff_not] at settled
      have due : data.timeoutAt ≤ now := by omega
      refine .created data createdAt mode ?_ ?_
      · rw [newPromise_timeoutAt]
        exact due
      · rw [newPromise_timeoutAt]
        simp [newPromise, due]
  | registered awaited awaiter registers own pending external =>
      cases found
      rw [show awaited.record.isPending = false from settled] at pending
      cases pending
  | listened awaited address listens own pending external =>
      cases found
      rw [show awaited.record.isPending = false from settled] at pending
      cases pending

/-- A creation is not dated after it. -/
def Label.Dated (now : Int) : Label → Prop
  | .create data createdAt _ => now < data.timeoutAt → createdAt.getD now ≤ now
  | _ => True

theorem newPromise_consistent (data : PromiseCreateData) (createdAt : Option Int) (now : Int)
    (dated : now < data.timeoutAt → createdAt.getD now ≤ now) :
    (newPromise data createdAt now).record.Consistent now := by
  by_cases due : data.timeoutAt ≤ now
  · have settled : (newPromise data createdAt now).record.isPending = false := by
      rw [newPromise_pending, decide_eq_false_iff_not]
      omega
    have settledAt : (newPromise data createdAt now).record.settledAt = some data.timeoutAt := by
      simp [newPromise, due]
    have created : (newPromise data createdAt now).record.createdAt = data.timeoutAt := by
      simp [newPromise, due]
    have timeoutAt := newPromise_timeoutAt data createdAt now
    refine ⟨?_, ?_, ?_, ?_, ?_⟩
    · simp [settled, settledAt]
    · simp [settled]
    · intro time at_
      rw [settledAt] at at_
      cases at_
      omega
    · intro _
      simp [newPromise, due, PromiseRecord.timeoutState, PromiseRecord.isTimer]
    · intro time at_ early
      rw [settledAt] at at_
      cases at_
      omega
  · have early : now < data.timeoutAt := by omega
    have pending : (newPromise data createdAt now).record.isPending = true := by
      rw [newPromise_pending, decide_eq_true_eq]
      exact early
    have settledAt : (newPromise data createdAt now).record.settledAt = none := by
      simp [newPromise, due]
    have created : (newPromise data createdAt now).record.createdAt = createdAt.getD now := by
      simp [newPromise, due]
    have value : (newPromise data createdAt now).record.value = {} := by
      simp [newPromise, due]
    have past := dated early
    refine ⟨?_, ?_, ?_, ?_, ?_⟩
    · simp [pending, settledAt]
    · intro _
      rw [created, newPromise_timeoutAt]
      exact ⟨value, by omega, past⟩
    · simp [settledAt]
    · simp [settledAt]
    · simp [settledAt]

/-- A settlement keeps the times of its promise consistent. -/
theorem settled_consistent {promise final : StoredPromise}
    (settles : label.settles now = some (promise, final))
    (pending : promise.record.isPending = true) (timely : label.Timely now)
    (consistent : promise.record.Consistent now) : final.record.Consistent now := by
  have settled := (Label.settles_final settles).1
  obtain ⟨value, created, past⟩ := consistent.pending pending
  have expired : (expiredPromise promise).record.Consistent now := by
    have closed := expiredPromise_settled promise
    refine ⟨?_, ?_, ?_, ?_, ?_⟩
    · rw [closed]
      simp [expiredPromise]
    · simp [closed]
    · intro time at_
      cases at_
      exact ⟨Int.le_of_lt created, Int.le_refl _⟩
    · exact fun _ => ⟨value, rfl⟩
    · intro time at_ early
      cases at_
      exact absurd early (Int.lt_irrefl _)
  cases label with
  | expire stored =>
      cases settles
      exact expired
  | strike stored =>
      cases settles
      exact expired
  | settle stored state given =>
      cases settles
      have closed := settledPromise_settled promise state given now
      have early : now < promise.record.timeoutAt := timely
      refine ⟨?_, ?_, ?_, ?_, ?_⟩
      · rw [closed]
        simp [settledPromise]
      · simp [closed]
      · intro time at_
        cases at_
        exact ⟨past, Int.le_of_lt early⟩
      · intro at_
        have same : now = promise.record.timeoutAt := Option.some.inj at_
        omega
      · intro _ _ _
        cases state with
        | resolved => exact PromiseState.noConfusion
        | rejected => exact PromiseState.noConfusion
        | rejectedCanceled => exact PromiseState.noConfusion
  | _ => cases settles

theorem PromiseChange.consistent (change : PromiseChange now id label first second)
    (dated : label.Dated now)
    (consistent : ∀ promise, first = some promise → promise.record.Consistent now) :
    ∀ promise, second = some promise → promise.record.Consistent now := by
  intro promise found
  cases change with
  | kept same => exact consistent promise found
  | settled old final settles own pending timely =>
      cases found
      have kept : final.record.Consistent now :=
        settled_consistent settles pending timely (consistent old rfl)
      exact kept
  | created data createdAt mode creates own =>
      cases found
      subst creates
      exact newPromise_consistent data createdAt now dated
  | registered awaited awaiter registers own pending external =>
      cases found
      exact consistent awaited rfl
  | listened awaited address listens own pending external =>
      cases found
      exact consistent awaited rfl

theorem PromiseRecord.Consistent.mono {earlier later : Int} {record : PromiseRecord}
    (consistent : record.Consistent earlier) (forward : earlier ≤ later) :
    record.Consistent later := by
  refine ⟨consistent.settledAt, ?_, consistent.settled, consistent.deadline, consistent.client⟩
  intro pending
  obtain ⟨value, created, past⟩ := consistent.pending pending
  exact ⟨value, created, Int.le_trans past forward⟩

end

/-! ## Steps -/

section

variable {env : Env} {before after system : System} {event : Event}

theorem step_persists (reached : Reachable env before)
    (taken : step env before event = some after) (id : String) :
    Persists (before.promise id) (after.promise id) :=
  (step_cells reached taken id).respects (fun first second => Persists first.promise second.promise)
    (fun cell => .refl cell.promise) (fun _ _ _ => .trans)
    fun _ _ _ _ change => change.promise.persists

/-- A creation of a run in time is not dated after it. -/
theorem dated_of_ripe (reached : Reachable env before)
    (taken : step env before event = some after) (ripe : before.Ripe) {label : Label}
    (permitted : event.permits label) : label.Dated before.now := by
  cases label with
  | create data createdAt mode =>
      intro early
      cases event with
      | request request stored =>
          rw [permitted.1]
          exact Int.le_refl _
      | deliver claim stored => exact permitted.elim
      | fire claim stored =>
          have stepped := step_cases taken
          obtain ⟨timer, timed, member⟩ : ∃ timer, claim.payload = .timer timer ∧
              claim ∈ before.claims := by
            cases stepped with
            | unfired claim timer txn unlocked member addressed payload fired =>
                exact ⟨timer, payload, member⟩
            | fired claim timer txn unlocked member addressed payload fired =>
                exact ⟨timer, payload, member⟩
            | outlived claim stored timer txn exit unlocked member addressed payload fired idle =>
                exact ⟨timer, payload, member⟩
          rw [fire_permits claim stored timer timed] at permitted
          obtain ⟨schedule, time, rfl, next, rfl, rfl, _⟩ := permitted
          have runAt := Reachable.stamped reached claim member timed
          have due := ripe.claims claim member (by rw [timed]; rfl) _ runAt
          have bounded : Text.saturatingAdd schedule.nextRunAt schedule.promiseTimeout ≤
              Text.i64Max := by
            unfold Text.saturatingAdd
            have ordered : Text.i64Min ≤ Text.i64Max := by decide
            omega
          have ahead : before.now < Text.saturatingAdd schedule.nextRunAt schedule.promiseTimeout :=
            early
          have clock : before.now = min (before.queue.clock : Int) Text.i64Max := rfl
          change time ≤ before.now
          omega
      | _ => exact permitted.elim
  | _ => trivial

theorem consistent_step (reached : Reachable env before)
    (taken : step env before event = some after) (inTime : event.isInTime before = true)
    (ripe : before.Ripe)
    (consistent : ∀ id promise, before.promise id = some promise →
      promise.record.Consistent before.now) :
    ∀ id promise, after.promise id = some promise → promise.record.Consistent after.now := by
  intro id promise found
  have cells := step_cells reached taken id
  have kept := cells.preserves (fun cell => ∀ promise, cell.promise = some promise →
    promise.record.Consistent before.now) (consistent id) fun label first second permitted change
      held => change.promise.consistent (dated_of_ripe reached taken ripe permitted) held
  exact (kept promise found).mono
    (now_le ((step_cases taken).clock_le (Reachable.keyed reached) inTime))

/-- The step of an entry settles the promise under `id`. -/
def Settling (entry : Machine.Entry System Event) (id : String) : Prop :=
  (∀ old, entry.before.promise id = some old → old.record.isPending = true) ∧
    ∃ promise, entry.after.promise id = some promise ∧ promise.record.isPending = false

/-- A promise's deadline settled it: the step came at or after the deadline, or its timer fired. -/
def SettledByDeadline (past : List (Machine.Entry System Event)) (id : String) : Prop :=
  ∃ entry ∈ past, Settling entry id ∧ ∃ promise, entry.after.promise id = some promise ∧
    (promise.record.timeoutAt ≤ entry.before.now ∨ ∃ claim stored, entry.label = .fire claim stored)

/-- A client settled a promise: a request asked for the settlement before the deadline. -/
def SettledByClient (past : List (Machine.Entry System Event)) (id : String) : Prop :=
  ∃ entry ∈ past, Settling entry id ∧ ∃ promise, entry.after.promise id = some promise ∧
    entry.before.now < promise.record.timeoutAt ∧
    ∃ request stored state value, entry.label = .request request stored ∧
      request.settlement = some ⟨id, state, value⟩

/-- The verdict of the step that settles a promise. -/
theorem Settling.verdict {before after : System} {event : Event} {id : String}
    (settling : Settling ⟨before, event, after⟩ id) (reached : Reachable env before)
    (taken : step env before event = some after) {promise : StoredPromise}
    (found : after.promise id = some promise) :
    ∃ label, event.permits label ∧ Verdict before.now id promise.record label := by
  have settled : promise.record.isPending = false := by
    obtain ⟨other, stored, closed⟩ := settling.2
    cases found.symm.trans stored
    exact closed
  have judged := (step_cells reached taken id).preserves (fun cell => ∀ promise,
    cell.promise = some promise → promise.record.isPending = false →
      ∃ label, event.permits label ∧ Verdict before.now id promise.record label) ?_ ?_
  · exact judged promise found settled
  · intro old stored closed
    rw [settling.1 old stored] at closed
    cases closed
  · intro label first second permitted change held promise stored closed
    by_cases open_ : ∀ old, first.promise = some old → old.record.isPending = true
    · exact ⟨label, permitted, change.promise.verdict open_ stored closed⟩
    · obtain ⟨old, present, ended⟩ : ∃ old, first.promise = some old ∧
          old.record.isPending = false := by
        simpa using open_
      obtain ⟨later, same, persists⟩ := change.promise.persists old present
      cases stored.symm.trans same
      rw [persists.settled ended]
      exact held old present ended

theorem Verdict.cases {before : System} {event : Event} {label : Label} {id : String}
    {promise : StoredPromise} (verdict : Verdict before.now id promise.record label)
    (permitted : event.permits label) :
    (promise.record.settledAt = some promise.record.timeoutAt ∧
        (promise.record.timeoutAt ≤ before.now ∨ ∃ claim stored, event = .fire claim stored)) ∨
      promise.record.settledAt = some before.now ∧ before.now < promise.record.timeoutAt ∧
        ∃ request stored state value, event = .request request stored ∧
          request.settlement = some ⟨id, state, value⟩ := by
  cases verdict with
  | expired old due settledAt => exact .inl ⟨settledAt, .inl due⟩
  | struck old settledAt =>
      refine .inl ⟨settledAt, .inr ?_⟩
      cases event with
      | fire claim stored => exact ⟨claim, stored, rfl⟩
      | _ => exact permitted.elim
  | created data createdAt mode due settledAt => exact .inl ⟨settledAt, .inl due⟩
  | client old state value own early settledAt =>
      refine .inr ⟨settledAt, early, ?_⟩
      cases event with
      | request request stored =>
          have asked : request.settlement = some ⟨old.record.id, state, value⟩ := permitted
          rw [own] at asked
          exact ⟨request, stored, state, value, rfl, asked⟩
      | deliver claim stored => exact permitted.elim
      | fire claim stored =>
          cases payload : claim.payload with
          | timer timer =>
              rw [fire_permits claim stored timer payload] at permitted
              exact permitted.elim
          | _ => simp [Event.permits, payload] at permitted
      | _ => exact permitted.elim

/-- A settled promise was settled by one step of the run, and is as that step left it. -/
theorem History.settling {past : List (Machine.Entry System Event)}
    (history : History env past system) {id : String} {promise : StoredPromise}
    (found : system.promise id = some promise) (settled : promise.record.isPending = false) :
    ∃ entry ∈ past, Settling entry id ∧ Reachable env entry.before ∧
      step env entry.before entry.label = some entry.after ∧
      ∃ final, entry.after.promise id = some final ∧ final.record = promise.record := by
  induction history generalizing promise with
  | start =>
      change (∅ : Table String StoredPromise)[id]? = some promise at found
      rw [Std.ExtTreeMap.getElem?_empty] at found
      cases found
  | @extend past before after event previous taken ih =>
      by_cases open_ : ∀ old, before.promise id = some old → old.record.isPending = true
      · exact ⟨⟨before, event, after⟩, List.mem_cons_self, ⟨open_, promise, found, settled⟩,
          ⟨_, previous⟩, taken, promise, found, rfl⟩
      · obtain ⟨old, stored, ended⟩ : ∃ old, before.promise id = some old ∧
            old.record.isPending = false := by
          simpa using open_
        obtain ⟨later, same, persists⟩ := step_persists ⟨_, previous⟩ taken id old stored
        cases found.symm.trans same
        obtain ⟨entry, member, settling, reached, stepped, final, present, agrees⟩ := ih stored ended
        refine ⟨entry, List.mem_cons_of_mem _ member, settling, reached, stepped, final, present, ?_⟩
        rw [agrees, persists.settled ended]

/-- What was stored at any time of a run persists to its end. -/
theorem History.persists {past : List (Machine.Entry System Event)}
    (history : History env past system) (id : String) :
    ∀ entry ∈ past, Persists (entry.before.promise id) (system.promise id) ∧
      Persists (entry.after.promise id) (system.promise id) := by
  induction history with
  | start =>
      intro entry member
      cases member
  | extend previous taken ih =>
      intro entry member
      have last := step_persists ⟨_, previous⟩ taken id
      rcases List.mem_cons.mp member with rfl | older
      · exact ⟨last, .refl _⟩
      · obtain ⟨first, second⟩ := ih entry older
        exact ⟨first.trans last, second.trans last⟩

/-- A step that settles a promise leaves it as it is at the end of the run. -/
theorem History.verdict {past : List (Machine.Entry System Event)}
    (history : History env past system) {id : String} {promise final : StoredPromise}
    (found : system.promise id = some promise) {entry : Machine.Entry System Event}
    (member : entry ∈ past) (settling : Settling entry id)
    (present : entry.after.promise id = some final) :
    final.record = promise.record ∧
      ∃ label, entry.label.permits label ∧ Verdict entry.before.now id promise.record label := by
  have closed : final.record.isPending = false := by
    obtain ⟨other, stored, closed⟩ := settling.2
    cases present.symm.trans stored
    exact closed
  obtain ⟨later, same, persists⟩ := (history.persists id entry member).2 final present
  cases found.symm.trans same
  have agrees := persists.settled closed
  refine ⟨agrees.symm, ?_⟩
  obtain ⟨before, event, after⟩ := entry
  rw [agrees]
  exact settling.verdict (history.before_reachable _ member) (history.taken _ member) present

/-- A promise is settled at its deadline exactly when its deadline settled it. -/
theorem History.deadline_iff {past : List (Machine.Entry System Event)}
    (history : History env past system) {id : String} {promise : StoredPromise}
    (found : system.promise id = some promise) (settled : promise.record.isPending = false) :
    promise.record.settledAt = some promise.record.timeoutAt ↔ SettledByDeadline past id := by
  constructor
  · intro settledAt
    obtain ⟨entry, member, settling, reached, taken, final, present, agrees⟩ :=
      history.settling found settled
    obtain ⟨_, label, permitted, verdict⟩ := history.verdict found member settling present
    rcases verdict.cases permitted with ⟨_, how⟩ | ⟨other, early, _⟩
    · exact ⟨entry, member, settling, final, present, agrees ▸ how⟩
    · rw [settledAt] at other
      have same := Option.some.inj other
      omega
  · rintro ⟨entry, member, settling, final, present, how⟩
    obtain ⟨agrees, label, permitted, verdict⟩ := history.verdict found member settling present
    rcases verdict.cases permitted with ⟨settledAt, _⟩ | ⟨_, early, request, stored, _, _, asked, _⟩
    · exact settledAt
    · rcases how with due | ⟨claim, fired, same⟩
      · rw [agrees] at due
        omega
      · rw [asked] at same
        cases same

/-- A promise settled by a client is settled before its deadline. -/
theorem History.client_early {past : List (Machine.Entry System Event)}
    (history : History env past system) {id : String} {promise : StoredPromise}
    (found : system.promise id = some promise) (client : SettledByClient past id) :
    ∃ time, promise.record.settledAt = some time ∧ time < promise.record.timeoutAt := by
  obtain ⟨entry, member, settling, final, present, early, request, stored, _, _, asked, _⟩ := client
  obtain ⟨agrees, label, permitted, verdict⟩ := history.verdict found member settling present
  rcases verdict.cases permitted with ⟨_, due | ⟨claim, fired, same⟩⟩ | ⟨settledAt, ahead, _⟩
  · rw [agrees] at early
    omega
  · rw [asked] at same
    cases same
  · exact ⟨_, settledAt, ahead⟩

/-- A settled promise was settled by its deadline or by a client. -/
theorem History.settled_by {past : List (Machine.Entry System Event)}
    (history : History env past system) {id : String} {promise : StoredPromise}
    (found : system.promise id = some promise) (settled : promise.record.isPending = false) :
    SettledByDeadline past id ∨ SettledByClient past id := by
  obtain ⟨entry, member, settling, reached, taken, final, present, agrees⟩ :=
    history.settling found settled
  obtain ⟨_, label, permitted, verdict⟩ := history.verdict found member settling present
  rcases verdict.cases permitted with ⟨_, how⟩ | ⟨_, early, asked⟩
  · exact .inl ⟨entry, member, settling, final, present, agrees ▸ how⟩
  · exact .inr ⟨entry, member, settling, final, present, agrees ▸ early, asked⟩

theorem isPending_eq (record : PromiseRecord) :
    record.isPending = true ↔ record.state = .pending := beq_iff_eq

theorem isPending_ne (record : PromiseRecord) :
    record.isPending = false ↔ record.state ≠ .pending := by
  rw [Ne, ← isPending_eq, Bool.not_eq_true]

theorem History.consistent {past : List (Machine.Entry System Event)}
    (history : History env past system)
    (inTime : Machine.Meets (fun before event => event.isInTime before = true) past)
    (id : String) (promise : StoredPromise) (found : system.promise id = some promise) :
    promise.record.Consistent system.now := by
  have both : system.Ripe ∧ ∀ id promise, system.promise id = some promise →
      promise.record.Consistent system.now := by
    refine Machine.History.invariant (fun system => system.Ripe ∧ ∀ id promise,
      system.promise id = some promise → promise.record.Consistent system.now) history inTime
      ⟨empty_ripe, ?_⟩ ?_
    · intro id promise found
      change (∅ : Table String StoredPromise)[id]? = some promise at found
      rw [Std.ExtTreeMap.getElem?_empty] at found
      cases found
    · intro before event after reached ⟨ripe, consistent⟩ inTime taken
      exact ⟨ripe_step reached taken inTime ripe,
        consistent_step reached taken inTime ripe consistent⟩
  exact both.2 id promise found

end

/-- While the clock does not go back and no timer fires before its time, a promise is never removed,
keeps what it was created with and settles once; and its times are those of how it was settled. -/
theorem promises_settle_once {env : Env} {system : System}
    {past : List (Machine.Entry System Event)} (history : History env past system)
    (inTime : Machine.Meets (fun before event => event.isInTime before = true) past) :
    (∀ entry ∈ past, ∀ id promise, entry.before.promise id = some promise →
      ∃ later, system.promise id = some later ∧ later.record.id = promise.record.id ∧
        later.record.param = promise.record.param ∧ later.record.tags = promise.record.tags ∧
        later.record.timeoutAt = promise.record.timeoutAt ∧
        later.record.createdAt = promise.record.createdAt ∧
        (promise.record.state ≠ .pending → later.record.state = promise.record.state ∧
          later.record.value = promise.record.value ∧
          later.record.settledAt = promise.record.settledAt)) ∧
    ∀ id promise, system.promise id = some promise →
      (promise.record.settledAt = none ↔ promise.record.state = .pending) ∧
      (promise.record.state = .pending →
        promise.record.value = {} ∧ promise.record.createdAt < promise.record.timeoutAt) ∧
      (∀ time, promise.record.settledAt = some time →
        promise.record.createdAt ≤ time ∧ time ≤ promise.record.timeoutAt) ∧
      (promise.record.settledAt = some promise.record.timeoutAt ↔ SettledByDeadline past id) ∧
      (SettledByDeadline past id → promise.record.value = {} ∧ promise.record.state =
        if promise.record.tags[tagTimer]? = some "true" then .resolved else .rejectedTimedout) ∧
      (SettledByClient past id → promise.record.state ≠ .rejectedTimedout ∧
        ∃ time, promise.record.settledAt = some time ∧ time < promise.record.timeoutAt) ∧
      (promise.record.state ≠ .pending → SettledByDeadline past id ∨ SettledByClient past id) := by
  constructor
  · intro entry member id promise found
    obtain ⟨later, same, persists⟩ := (history.persists id entry member).1 promise found
    refine ⟨later, same, persists.id, persists.param, persists.tags, persists.timeoutAt,
      persists.createdAt, ?_⟩
    intro settled
    rw [persists.settled ((isPending_ne _).mpr settled)]
    exact ⟨rfl, rfl, rfl⟩
  · intro id promise found
    have consistent := history.consistent inTime id promise found
    have settledAt := consistent.settledAt
    rw [isPending_eq] at settledAt
    have deadline : promise.record.settledAt = some promise.record.timeoutAt ↔
        SettledByDeadline past id := by
      by_cases settled : promise.record.isPending = false
      · exact history.deadline_iff found settled
      · have pending : promise.record.isPending = true := by simpa using settled
        have absent := consistent.settledAt.mpr pending
        constructor
        · intro present
          rw [absent] at present
          cases present
        · rintro ⟨entry, member, settling, final, present, _⟩
          obtain ⟨agrees, _⟩ := history.verdict found member settling present
          obtain ⟨other, stored, closed⟩ := settling.2
          cases present.symm.trans stored
          rw [agrees] at closed
          exact absurd closed settled
    refine ⟨settledAt, ?_, consistent.settled, deadline, ?_, ?_, ?_⟩
    · intro pending
      obtain ⟨value, created, _⟩ := consistent.pending ((isPending_eq _).mpr pending)
      exact ⟨value, created⟩
    · intro struck
      obtain ⟨value, state⟩ := consistent.deadline (deadline.mpr struck)
      refine ⟨value, state.trans ?_⟩
      simp [PromiseRecord.timeoutState, PromiseRecord.isTimer]
    · intro client
      obtain ⟨time, settledAt, early⟩ := history.client_early found client
      exact ⟨consistent.client time settledAt early, time, settledAt, early⟩
    · exact fun settled => history.settled_by found ((isPending_ne _).mpr settled)

/-- A promise whose timer fires at its deadline. -/
def timedOutRun : List Event :=
  [.clock 1, .request (.promiseCreate .awaitedSample) true, .clock 1000, .promote 0, .take 0 50,
    .fire ⟨0, Keys.timerQueue, .timer (.promiseTimeout "root:0"), some 1000, 0⟩ true]

theorem timedOutRun_ends : (Machine.trace (step .sample) [] .empty timedOutRun).isSome = true := by
  decide

theorem promises_settle_once_timedOut :
    ∃ past system promise, History .sample past system ∧
      system.promise "root:0" = some promise ∧ promise.record.settledAt = some 1000 ∧
      SettledByDeadline past "root:0" ∧ promise.record.state = .rejectedTimedout := by
  have history := Machine.history_of_trace timedOutRun_ends
  have inTime : Machine.Meets (fun before event => event.isInTime before = true)
      ((Machine.trace (step .sample) [] .empty timedOutRun).get timedOutRun_ends).1 := by
    decide
  have stored : (((Machine.trace (step .sample) [] .empty timedOutRun).get timedOutRun_ends).2.promise
      "root:0").any (fun promise => promise.record.settledAt = some 1000 ∧
        promise.record.timeoutAt = 1000 ∧ promise.record.tags[tagTimer]? = none) = true := by
    decide
  obtain ⟨promise, found, times⟩ := (Option.any_eq_true _ _).mp stored
  obtain ⟨settledAt, timeoutAt, untimed⟩ := of_decide_eq_true times
  obtain ⟨_, _, _, settled, deadline, _⟩ :=
    (promises_settle_once history inTime).2 "root:0" promise found
  have struck := settled.mp (by rw [settledAt, timeoutAt])
  refine ⟨_, _, promise, history, found, settledAt, struck, ?_⟩
  rw [(deadline struck).2, untimed]
  decide

end Resonate
