import Resonate.Scan
import Resonate.Searches

set_option autoImplicit false

/-! The branch index and the siblings of a promise: what `preload` reads from the index is the
plain filter over all promises. -/

namespace Resonate

open Kernel

/-! ## The index -/

namespace Txn

/-- The branch the promise under `id` is in. -/
def branchOf (txn : Txn) (id : String) : Option String :=
  (txn.getPromise id).bind (·.record.tags[tagBranch]?)

/-- The index has one entry for each promise with a branch, and no request deletes one. -/
structure Indexed (txn : Txn) : Prop where
  entry : ∀ key, txn.indexed key ↔
    ∃ id branch, txn.branchOf id = some branch ∧ key = Keys.branchKey branch id
  kept : ∀ key : String, txn.writes.branches[key]? ≠ some none

/-- `later` has the index of `earlier`, over the same branches. -/
structure Shelves (earlier later : Txn) : Prop where
  kv : later.kv = earlier.kv
  written : later.writes.branches = earlier.writes.branches
  branches : later.branchOf = earlier.branchOf

variable {earlier later txn : Txn}

theorem Shelves.indexed (shelves : Shelves earlier later) (indexed : earlier.Indexed) :
    later.Indexed := by
  refine ⟨fun key => ?_, ?_⟩
  · unfold Txn.indexed
    rw [shelves.kv, shelves.written, shelves.branches]
    exact indexed.entry key
  · rw [shelves.written]
    exact indexed.kept

theorem branchOf_congr (same : later.getPromise = earlier.getPromise) :
    later.branchOf = earlier.branchOf := by
  funext id
  unfold branchOf
  rw [same]

theorem Touches.shelves (touches : Touches earlier later) : Shelves earlier later :=
  ⟨touches.kv, by rw [touches.writes], branchOf_congr touches.getPromise⟩

/-- A promise rewritten with its tags stays in its branch. -/
theorem branchOf_rewritten (promise : StoredPromise) (old : StoredPromise)
    (stored : earlier.getPromise promise.record.id = some old)
    (tags : promise.record.tags = old.record.tags)
    (reads : ∀ id, later.getPromise id =
      if promise.record.id = id then some promise else earlier.getPromise id) :
    later.branchOf = earlier.branchOf := by
  funext id
  unfold branchOf
  rw [reads]
  by_cases own : promise.record.id = id
  · rw [if_pos own, ← own, stored, Option.bind_some, Option.bind_some, tags]
  · rw [if_neg own]

end Txn

namespace Kernel

variable {env : Env} {txn : Txn}

theorem resumeAwaiter_branches (awaiter awaited : String) (wake : Wake) :
    (resumeAwaiter env txn awaiter awaited wake).writes.branches = txn.writes.branches := by
  unfold resumeAwaiter
  split
  · rfl
  · split
    · rfl
    · rfl
    · rfl
    · split <;> rfl
    · rfl

theorem fulfillOwnTask_branches (id : String) :
    (fulfillOwnTask txn id).writes.branches = txn.writes.branches := by
  unfold fulfillOwnTask
  split
  · split <;> rfl
  · rfl

theorem settleChain_shelves (promise : StoredPromise) (old : StoredPromise)
    (stored : txn.getPromise promise.record.id = some old)
    (tags : promise.record.tags = old.record.tags) :
    Txn.Shelves txn (settleChain env txn promise).1 := by
  refine ⟨(settleChain_buffers env txn promise).kv, ?_, ?_⟩
  · rw [settleChain_eq]
    change (woken env txn promise).writes.branches = _
    unfold woken
    rw [wakeAwaiter_same env promise.record.id (fun txn => txn.writes.branches)
      (fun _ awaiter => resumeAwaiter_branches awaiter promise.record.id .fanout)]
    exact fulfillOwnTask_branches promise.record.id
  · exact Txn.branchOf_rewritten promise.cleared old stored tags
      (getPromise_settleChain env txn promise)

theorem proceed_branches (task : StoredTask) :
    (proceed env txn task).writes.branches = txn.writes.branches := by
  unfold proceed
  dsimp only
  split <;> rfl

theorem advanceSchedule_branches (schedule : ScheduleRecord) :
    (advanceSchedule env txn schedule).writes.branches = txn.writes.branches := by
  unfold advanceSchedule
  split <;> rfl

theorem getPromise_advanceSchedule (schedule : ScheduleRecord) :
    (advanceSchedule env txn schedule).getPromise = txn.getPromise := by
  unfold advanceSchedule
  split <;> rfl

theorem startTask_branches (promise : PromiseRecord) (target : String) (mode : CreateMode) :
    (startTask env txn promise target mode).writes.branches = txn.writes.branches := by
  unfold startTask
  dsimp only
  split
  · rfl
  · split <;> rfl

theorem createPromise_branches (env : Env) (txn : Txn) (data : PromiseCreateData)
    (createdAt : Option Int) (mode : CreateMode) :
    (createPromise env txn data createdAt mode).1.writes.branches =
      match data.tags[tagBranch]? with
      | some branch => txn.writes.branches.insert (Keys.branchKey branch data.id) (some ())
      | none => txn.writes.branches := by
  have started : (started env txn data createdAt mode).writes.branches =
      (txn.indexBranch (newPromise data createdAt txn.now).record).writes.branches := by
    unfold started
    dsimp only
    split
    · rw [startTask_branches]
      rfl
    · rfl
  have written : (createPromise env txn data createdAt mode).1.writes.branches =
      (txn.indexBranch (newPromise data createdAt txn.now).record).writes.branches := by
    rw [createPromise_eq]
    dsimp only
    split
    · exact started
    · exact started
  rw [written]
  unfold Txn.indexBranch
  rw [newPromise_tags, newPromise_id]
  cases data.tags[tagBranch]? <;> rfl

theorem branchOf_createPromise (env : Env) (txn : Txn) (data : PromiseCreateData)
    (createdAt : Option Int) (mode : CreateMode) (id : String) :
    (createPromise env txn data createdAt mode).1.branchOf id =
      if data.id = id then data.tags[tagBranch]? else txn.branchOf id := by
  unfold Txn.branchOf
  rw [getPromise_createPromise]
  split
  · rw [Option.bind_some, newPromise_tags]
  · rfl

theorem createPromise_indexed (data : PromiseCreateData) (createdAt : Option Int)
    (mode : CreateMode) (absent : txn.getPromise data.id = none) (indexed : txn.Indexed) :
    (createPromise env txn data createdAt mode).1.Indexed := by
  have unbranched : txn.branchOf data.id = none := by
    unfold Txn.branchOf
    rw [absent, Option.bind_none]
  have kv := (createPromise_buffers env txn data createdAt mode).kv
  have written := createPromise_branches env txn data createdAt mode
  have branches := branchOf_createPromise env txn data createdAt mode
  cases tagged : data.tags[tagBranch]? with
  | none =>
      rw [tagged] at written
      refine Txn.Shelves.indexed ⟨kv, written, ?_⟩ indexed
      funext id
      rw [branches]
      by_cases own : data.id = id
      · rw [if_pos own, tagged, ← own, unbranched]
      · rw [if_neg own]
  | some branch =>
      rw [tagged] at written
      dsimp only at written
      refine ⟨fun key => ?_, fun key => ?_⟩
      · unfold Txn.indexed
        rw [kv, written, Table.read_insert]
        by_cases here : Keys.branchKey branch data.id = key
        · rw [if_pos here]
          refine ⟨fun _ => ⟨data.id, branch, ?_, here.symm⟩, fun _ => rfl⟩
          rw [branches, if_pos rfl, tagged]
        · rw [if_neg here]
          refine (indexed.entry key).trans ⟨?_, ?_⟩
          · intro ⟨id, other, inside, named⟩
            refine ⟨id, other, ?_, named⟩
            have apart : data.id ≠ id := fun same => by
              rw [← same, unbranched] at inside
              cases inside
            rw [branches, if_neg apart]
            exact inside
          · intro ⟨id, other, inside, named⟩
            rw [branches] at inside
            by_cases own : data.id = id
            · rw [if_pos own, tagged] at inside
              cases inside
              exact absurd (own ▸ named.symm) here
            · rw [if_neg own] at inside
              exact ⟨id, other, inside, named⟩
      · rw [written, Table.find_insert]
        by_cases here : Keys.branchKey branch data.id = key
        · rw [if_pos here]
          simp
        · rw [if_neg here]
          exact indexed.kept key

end Kernel

variable {env : Env}

/-- Every move keeps the index in step with the promises. -/
theorem Move.indexed {txn next : Txn} {label : Label} (move : Move env txn label next)
    (indexed : txn.Indexed) : next.Indexed := by
  have kv := move.fixed.kv
  cases move with
  | expire promise stored pending due =>
      exact (settleChain_shelves (expiredPromise promise) promise stored rfl).indexed indexed
  | strike promise stored pending =>
      exact (settleChain_shelves (expiredPromise promise) promise stored rfl).indexed indexed
  | settle promise state value stored pending early =>
      exact (settleChain_shelves (settledPromise promise state value txn.now) promise stored
        rfl).indexed indexed
  | create data createdAt mode absent admitted =>
      exact createPromise_indexed data createdAt mode absent indexed
  | register awaited awaiter awaitable valid known unlisted =>
      refine Txn.Shelves.indexed ⟨kv, rfl, ?_⟩ indexed
      exact Txn.branchOf_rewritten { awaited with callbacks := awaited.callbacks ++ [awaiter] }
        awaited awaitable.stored rfl (Txn.getPromise_putPromise txn _)
  | listen awaited address awaitable valid unlisted =>
      refine Txn.Shelves.indexed ⟨kv, rfl, ?_⟩ indexed
      exact Txn.branchOf_rewritten { awaited with listeners := awaited.listeners ++ [address] }
        awaited awaitable.stored rfl (Txn.getPromise_putPromise txn _)
  | resume awaited awaiter stored settled external valid opened =>
      refine Txn.Shelves.indexed ⟨kv, resumeAwaiter_branches _ _ _, ?_⟩ indexed
      exact Txn.branchOf_congr (getPromise_resumeAwaiter _ _ _)
  | acquire task pid ttl stored pending renewed =>
      have renewal := (Txn.renew_touches txn task.id (leaseOf ttl)).shelves
      exact Txn.Shelves.indexed ⟨kv, renewal.written, renewal.branches⟩ indexed
  | proceed task stored halted =>
      refine Txn.Shelves.indexed ⟨kv, proceed_branches task, ?_⟩ indexed
      exact Txn.branchOf_congr (getPromise_proceed task)
  | advance schedule stored =>
      refine Txn.Shelves.indexed ⟨kv, advanceSchedule_branches schedule, ?_⟩ indexed
      exact Txn.branchOf_congr (getPromise_advanceSchedule schedule)
  | check task => exact (Txn.holds_touches txn task).shelves.indexed indexed
  | renew task lease => exact (Txn.renew_touches txn task lease).shelves.indexed indexed
  | claim task job lease stored pending dispatched =>
      exact (Txn.claimJob_touches txn task.id job lease).shelves.indexed indexed
  | release task stored acquired => exact Txn.Shelves.indexed ⟨kv, rfl, rfl⟩ indexed
  | lose task stored acquired => exact Txn.Shelves.indexed ⟨kv, rfl, rfl⟩ indexed
  | suspend task awaited stored acquired some_awaited listed =>
      exact Txn.Shelves.indexed ⟨kv, rfl, rfl⟩ indexed
  | clear task stored acquired => exact Txn.Shelves.indexed ⟨kv, rfl, rfl⟩ indexed
  | halt task stored unfulfilled unhalted => exact Txn.Shelves.indexed ⟨kv, rfl, rfl⟩ indexed
  | addSchedule schedule absent next created unfired named plain targeted timeout =>
      exact Txn.Shelves.indexed ⟨kv, rfl, rfl⟩ indexed
  | dropSchedule id => exact Txn.Shelves.indexed ⟨kv, rfl, rfl⟩ indexed
  | ack claim dead => exact Txn.Shelves.indexed ⟨kv, rfl, rfl⟩ indexed
  | hold task claim executes stored pending => exact Txn.Shelves.indexed ⟨kv, rfl, rfl⟩ indexed

theorem Trail.indexed {permits : Label → Prop} {txn next : Txn}
    (trail : Trail env permits txn next) (indexed : txn.Indexed) : next.Indexed := by
  induction trail with
  | refl txn => exact indexed
  | step label permitted move rest ih => exact ih (move.indexed indexed)

theorem Kv.apply_empty (kv : Kv) : kv.apply .empty = kv := by
  unfold Kv.apply Writes.empty
  simp only [Table.apply_empty]

/-- A store whose branches are what a transaction read is indexed as the transaction was. -/
theorem indexed_of_kv {txn : Txn} {system : System} (indexed : txn.Indexed)
    (same : system.kv = txn.kv.apply txn.writes) : (system.txn env).Indexed := by
  have stores := stores_of_kv same
  have branches : (system.txn env).branchOf = txn.branchOf := by
    apply Txn.branchOf_congr
    rw [System.getPromise_txn, stores.promise]
  refine ⟨fun key => ?_, fun key => ?_⟩
  · rw [branches, ← indexed.entry key]
    unfold Txn.indexed
    change Table.read system.kv.branches ∅ key = some () ↔ _
    rw [Table.read_empty, same]
    change (Table.apply txn.kv.branches txn.writes.branches)[key]? = some () ↔ _
    rw [Table.find_apply]
  · change (∅ : Table.Buffer String Unit)[key]? ≠ some none
    simp

theorem empty_indexed : (System.empty.txn env).Indexed := by
  refine ⟨fun key => ⟨fun entry => ?_, ?_⟩, fun key => ?_⟩
  · cases entry
  · intro ⟨id, branch, inside, named⟩
    cases inside
  · change (∅ : Table.Buffer String Unit)[key]? ≠ some none
    simp

theorem Step.indexed {before after : System} {event : Event} (keyed : (before.txn env).Keyed)
    (indexed : (before.txn env).Indexed) (step : Step env before event after) :
    (after.txn env).Indexed := by
  rcases step.kv keyed with same | ⟨txn, trail, same, clock⟩
  · have whole : after.kv = (before.txn env).kv.apply (before.txn env).writes := by
      rw [same]
      exact (Kv.apply_empty before.kv).symm
    exact indexed_of_kv indexed whole
  · exact indexed_of_kv (trail.indexed indexed) same

/-- In every reachable state the index has one entry for each promise with a branch. -/
theorem Reachable.indexed {system : System} (reached : Reachable env system) :
    (system.txn env).Indexed :=
  Machine.Reachable.invariant (fun system => (system.txn env).Indexed) reached empty_indexed
    fun _ _ _ reached indexed taken =>
      (step_cases taken).indexed (Reachable.keyed reached) indexed

/-! ## Keys of a branch -/

theorem append_lt_append (pre first second : String) :
    pre ++ first < pre ++ second ↔ first < second := by
  rw [String.lt_iff, String.lt_iff, String.toList_append, String.toList_append]
  constructor
  · intro before
    by_contra above
    rcases lt_or_eq_of_le (not_lt.mp above) with smaller | same
    · exact absurd (List.append_left_lt smaller) before.asymm
    · rw [same] at before
      exact lt_irrefl _ before
  · intro before
    exact List.append_left_lt before

theorem append_inj (pre : String) {first second : String} (same : pre ++ first = pre ++ second) :
    first = second := by
  have lists := congrArg String.toList same
  rw [String.toList_append, String.toList_append] at lists
  exact String.toList_inj.mp (List.append_cancel_left lists)

theorem startsWith_append (pre rest : String) : Txn.startsWith pre (pre ++ rest) = true := by
  unfold Txn.startsWith
  rw [String.toList_append, List.isPrefixOf_iff_prefix]
  exact List.prefix_append _ _

theorem branchEntryId_append (pre id : String) : Keys.branchEntryId pre (pre ++ id) = some id := by
  unfold Keys.branchEntryId Text.stripPrefix
  rw [String.toList_append, if_pos (List.prefix_append _ _), List.drop_left, String.ofList_toList]

/-- A key under a branch's prefix is an entry of that branch. -/
theorem branch_of_startsWith {branch other id : String} (plain : Text.contains other '\x00' = false)
    (plain_id : Text.contains id '\x00' = false)
    (inside : Txn.startsWith (Keys.branchPrefix branch) (Keys.branchKey other id) = true) :
    other = branch := by
  have plain : '\x00' ∉ other.toList := by simpa [Text.contains] using plain
  have plain_id : '\x00' ∉ id.toList := by simpa [Text.contains] using plain_id
  unfold Txn.startsWith at inside
  rw [List.isPrefixOf_iff_prefix] at inside
  unfold Keys.branchKey Keys.branchPrefix at inside
  simp only [String.toList_append, List.append_assoc, List.prefix_append_right_inj] at inside
  have same := Scan.name_of_prefix '\x00' plain plain_id inside
  exact (String.toList_inj.mp same).symm

/-! ## The scan and the buffered entries -/

namespace Txn

variable {txn : Txn}

/-- The scan stops with one id more than the limit. -/
theorem scanBranch_eq (pre self : String) (limit : Nat) (ids found : List String)
    (short : found.length ≤ limit) :
    scanBranch pre self limit found (ids.map (pre ++ ·)) =
      (found ++ ids.filter (· ≠ self)).take (limit + 1) := by
  induction ids generalizing found with
  | nil =>
      rw [List.map_nil, List.filter_nil, List.append_nil, List.take_of_length_le (by omega)]
      rfl
  | cons id rest ih =>
      rw [List.map_cons, scanBranch, branchEntryId_append]
      dsimp only
      by_cases own : id = self
      · rw [if_neg (not_not.mpr own), if_neg (by omega), ih found short,
          List.filter_cons_of_neg (by simpa using own)]
      · have regroup := List.append_cons found id (rest.filter (· ≠ self))
        rw [if_pos own, List.filter_cons_of_pos (by simpa using own), regroup]
        have length : (found ++ [id]).length = found.length + 1 := by simp
        by_cases full : limit < (found ++ [id]).length
        · rw [if_pos full, List.take_append_of_le_length (by omega),
            List.take_of_length_le (by omega)]
        · rw [if_neg full, ih _ (by omega)]

/-- The buffered entries add the siblings the scan has not found, each once. -/
theorem addWritten_spec (pre self : String) (entries : List (String × Option Unit))
    (ids : List String) (distinct : ids.Nodup) :
    (addWritten pre self ids entries).Nodup ∧
      ∀ id, id ∈ addWritten pre self ids entries ↔ id ∈ ids ∨
        id ≠ self ∧ ∃ key, (key, some ()) ∈ entries ∧ Keys.branchEntryId pre key = some id := by
  induction entries generalizing ids with
  | nil => simp [addWritten, distinct]
  | cons entry rest ih =>
      obtain ⟨key, value⟩ := entry
      have skipped (none_here : ∀ id, value = some () → Keys.branchEntryId pre key = some id →
            id = self ∨ id ∈ ids) :
          (addWritten pre self ids rest).Nodup ∧
            ∀ id, id ∈ addWritten pre self ids rest ↔ id ∈ ids ∨ id ≠ self ∧
              ∃ other, (other, some ()) ∈ (key, value) :: rest ∧
                Keys.branchEntryId pre other = some id := by
        obtain ⟨nodup, member⟩ := ih ids distinct
        refine ⟨nodup, fun id => (member id).trans ?_⟩
        constructor
        · rintro (known | ⟨apart, other, among, named⟩)
          · exact .inl known
          · exact .inr ⟨apart, other, List.mem_cons_of_mem _ among, named⟩
        · rintro (known | ⟨apart, other, among, named⟩)
          · exact .inl known
          · rcases List.mem_cons.mp among with same | later
            · cases same
              rcases none_here id rfl named with own | known
              · exact absurd own apart
              · exact .inl known
            · exact .inr ⟨apart, other, later, named⟩
      unfold addWritten
      split
      · rename_i id named
        split
        · rename_i fresh
          have distinct : (ids ++ [id]).Nodup := by
            refine List.nodup_append.mpr ⟨distinct, List.nodup_singleton id, ?_⟩
            intro other known last member same
            exact fresh.2 (List.mem_singleton.mp member ▸ same ▸ known)
          obtain ⟨nodup, member⟩ := ih (ids ++ [id]) distinct
          refine ⟨nodup, fun other => (member other).trans ?_⟩
          constructor
          · rintro (known | ⟨apart, later, among, same⟩)
            · rcases List.mem_append.mp known with known | last
              · exact .inl known
              · rw [List.mem_singleton.mp last]
                exact .inr ⟨fresh.1, key, List.mem_cons_self, named⟩
            · exact .inr ⟨apart, later, List.mem_cons_of_mem _ among, same⟩
          · rintro (known | ⟨apart, later, among, same⟩)
            · exact .inl (List.mem_append_left _ known)
            · rcases List.mem_cons.mp among with here | among
              · cases here
                cases named.symm.trans same
                exact .inl (by simp)
              · exact .inr ⟨apart, later, among, same⟩
        · rename_i known
          refine skipped fun other _ same => ?_
          cases named.symm.trans same
          by_cases own : id = self
          · exact .inl own
          · exact .inr (by_contra fun absent => known ⟨own, absent⟩)
      · rename_i none_here
        refine skipped fun other written named => ?_
        exact (none_here other written named).elim

/-- The promises of the record's branch but itself, as the buffer overlays them, in id order. -/
def siblings (txn : Txn) (promise : PromiseRecord) : List PromiseRecord :=
  ((Table.apply txn.kv.promises txn.writes.promises).toList.map (·.2.record)).filter fun other =>
    other.id ≠ promise.id ∧ other.tags[tagBranch]? = promise.tags[tagBranch]?

/-- No id and no branch of a promise has a null byte. -/
def Plain (txn : Txn) : Prop :=
  ∀ id stored, txn.getPromise id = some stored → Text.contains id '\x00' = false ∧
    ∀ branch, stored.record.tags[tagBranch]? = some branch → Text.contains branch '\x00' = false

theorem startsWith_iff (pre key : String) :
    startsWith pre key = true ↔ ∃ rest, key = pre ++ rest := by
  constructor
  · intro inside
    unfold startsWith at inside
    obtain ⟨rest, same⟩ := List.isPrefixOf_iff_prefix.mp inside
    refine ⟨String.ofList rest, String.toList_inj.mp ?_⟩
    rw [String.toList_append, String.toList_ofList, same]
  · intro ⟨rest, same⟩
    rw [same]
    exact startsWith_append pre rest

/-- The buffered entries under a prefix are a range of the buffer. -/
theorem mem_written (pre : String) (entry : String × Option Unit) :
    entry ∈ (txn.writes.branches.toList.dropWhile (·.1 < pre)).takeWhile
        (fun entry => startsWith pre entry.1) ↔
      txn.writes.branches[entry.1]? = some entry.2 ∧ startsWith pre entry.1 = true := by
  have ordered : txn.writes.branches.toList.Pairwise fun first second =>
      decide (first.1 < pre) = false → decide (second.1 < pre) = false ∧
        (startsWith pre first.1 = false → startsWith pre second.1 = false) := by
    refine (table_ascending txn.writes.branches).imp ?_
    intro first second before reached
    have above : pre ≤ first.1 := not_lt.mp (decide_eq_false_iff_not.mp reached)
    have later : pre ≤ second.1 := above.trans before.le
    refine ⟨decide_eq_false_iff_not.mpr (not_lt.mpr later), fun past => ?_⟩
    by_contra inside
    obtain ⟨rest, same⟩ := (startsWith_iff pre second.1).mp (by simpa using inside)
    have below : first.1.toList < pre.toList ++ rest.toList := by
      rw [← String.toList_append, ← same]
      exact before
    have between := Scan.prefix_of_between pre.toList (String.le_iff_toList_le.mp above) below
    rw [startsWith, List.isPrefixOf_iff_prefix.mpr between] at past
    cases past
  rw [Scan.mem_range ordered, Std.ExtTreeMap.mem_toList_iff_getElem?_eq_some]
  refine and_congr_right fun _ => ⟨And.right, fun inside => ⟨?_, inside⟩⟩
  obtain ⟨rest, same⟩ := (startsWith_iff pre entry.1).mp inside
  rw [same]
  refine decide_eq_false_iff_not.mpr fun below => ?_
  have negative : rest < "" := (append_lt_append pre rest "").mp (by simpa using below)
  exact List.not_lt_nil _ negative

/-- A promise is in a branch when the index has its entry, committed or buffered. -/
theorem branchOf_iff (indexed : txn.Indexed) (plain : txn.Plain) (branch id : String) :
    txn.branchOf id = some branch ↔
      txn.kv.branches[Keys.branchKey branch id]? = some () ∨
        txn.writes.branches[Keys.branchKey branch id]? = some (some ()) := by
  have entry : txn.branchOf id = some branch ↔ txn.indexed (Keys.branchKey branch id) := by
    rw [indexed.entry]
    refine ⟨fun inside => ⟨id, branch, inside, rfl⟩, ?_⟩
    intro ⟨other, name, inside, same⟩
    obtain ⟨stored, found, tagged⟩ := Option.bind_eq_some_iff.mp inside
    have free := plain other stored found
    have here : name = branch := by
      refine branch_of_startsWith (free.2 name tagged) free.1 ?_
      rw [← same]
      exact startsWith_append _ _
    rw [here] at inside same
    rw [append_inj _ same]
    exact inside
  have kept := indexed.kept (Keys.branchKey branch id)
  rw [entry]
  unfold Txn.indexed Table.read
  cases written : txn.writes.branches[Keys.branchKey branch id]? with
  | none => simp
  | some value =>
      cases value with
      | none => exact absurd written kept
      | some present => simp

/-- The committed entries under a prefix, by their ids. -/
theorem committed_ids (pre : String) :
    ∃ ids : List String, (txn.kv.branches.toList.map Prod.fst).filter (startsWith pre) =
        ids.map (pre ++ ·) ∧ ids.Pairwise (· < ·) ∧
      ∀ id, id ∈ ids ↔ txn.kv.branches[pre ++ id]? = some () := by
  have keys : (txn.kv.branches.toList.map Prod.fst).Pairwise (· < ·) :=
    List.pairwise_map.mpr (table_ascending txn.kv.branches)
  generalize listed : (txn.kv.branches.toList.map Prod.fst).filter (startsWith pre) = entries
  have ordered : entries.Pairwise (· < ·) := by
    rw [← listed]
    exact keys.sublist List.filter_sublist
  have prefixed : ∀ key ∈ entries, key ∈ Set.range (pre ++ · : String → String) := by
    intro key member
    rw [← listed] at member
    obtain ⟨rest, same⟩ := (startsWith_iff pre key).mp (List.mem_filter.mp member).2
    exact ⟨rest, same.symm⟩
  have mapped : entries ∈ Set.range (List.map (pre ++ · : String → String)) := by
    rw [Set.range_list_map]
    exact prefixed
  obtain ⟨ids, rfl⟩ := mapped
  refine ⟨ids, rfl, ?_, fun id => ?_⟩
  · exact (List.pairwise_map.mp ordered).imp fun before => (append_lt_append pre _ _).mp before
  · have among : id ∈ ids ↔ pre ++ id ∈ ids.map (pre ++ ·) := by
      refine ⟨fun member => List.mem_map_of_mem member, fun member => ?_⟩
      obtain ⟨other, member, same⟩ := List.mem_map.mp member
      exact append_inj pre same ▸ member
    rw [among, ← listed, List.mem_filter, List.mem_map]
    constructor
    · intro ⟨⟨⟨key, _⟩, entry, same⟩, _⟩
      rw [← same]
      exact Std.ExtTreeMap.mem_toList_iff_getElem?_eq_some.mp entry
    · intro found
      exact ⟨⟨(pre ++ id, ()), Std.ExtTreeMap.mem_toList_iff_getElem?_eq_some.mpr found, rfl⟩,
        startsWith_append pre id⟩

/-- The siblings in id order, and which they are. -/
theorem siblings_spec (keyed : txn.Keyed) (promise : PromiseRecord) :
    (txn.siblings promise).Pairwise (fun first second => first.id < second.id) ∧
      ∀ record, record ∈ txn.siblings promise ↔ record.id ≠ promise.id ∧
        record.tags[tagBranch]? = promise.tags[tagBranch]? ∧
        (txn.getPromise record.id).map (·.record) = some record := by
  have filed : ∀ (id : String) (stored : StoredPromise),
      (Table.apply txn.kv.promises txn.writes.promises)[id]? = some stored →
        stored.record.id = id := by
    intro id stored found
    rw [Table.find_apply] at found
    exact keyed.promise id stored found
  unfold siblings
  constructor
  · have listed := listing_ascending _ (fun stored : StoredPromise => stored.record.id) filed
    refine List.Pairwise.sublist List.filter_sublist ?_
    unfold Paging.Ascending at listed
    rw [List.pairwise_map] at listed ⊢
    exact listed
  · intro record
    rw [List.mem_filter, decide_eq_true_eq]
    have stored : record ∈ (Table.apply txn.kv.promises txn.writes.promises).toList.map
        (·.2.record) ↔ (txn.getPromise record.id).map (·.record) = some record := by
      rw [List.mem_map, Option.map_eq_some_iff]
      constructor
      · intro ⟨⟨id, stored⟩, entry, same⟩
        have found := Std.ExtTreeMap.mem_toList_iff_getElem?_eq_some.mp entry
        have own := filed id stored found
        rw [Table.find_apply] at found
        exact ⟨stored, by rw [← same, own]; exact found, same⟩
      · intro ⟨stored, found, same⟩
        refine ⟨(record.id, stored), Std.ExtTreeMap.mem_toList_iff_getElem?_eq_some.mpr ?_, same⟩
        rw [Table.find_apply]
        exact found
    rw [stored, and_comm, and_assoc]

/-- The ids a preload sorts: at most one more than the limit from the index, and the buffered
ones. -/
theorem preload_ids (limit : Nat) (branch self : String) :
    ∃ ids : List String, ids.Pairwise (· < ·) ∧
      (∀ id, id ∈ ids ↔ id ≠ self ∧
        txn.kv.branches[Keys.branchKey branch id]? = some ()) ∧
      ∃ found : List String, found.Pairwise (· < ·) ∧
        (∀ id, id ∈ found ↔ id ∈ ids.take (limit + 1) ∨ id ≠ self ∧
          txn.writes.branches[Keys.branchKey branch id]? = some (some ())) ∧
        (addWritten (Keys.branchPrefix branch) self
          (scanBranch (Keys.branchPrefix branch) self limit []
            ((txn.kv.branches.toList.map Prod.fst).filter
              (startsWith (Keys.branchPrefix branch))))
          ((txn.writes.branches.toList.dropWhile (·.1 < Keys.branchPrefix branch)).takeWhile
            fun entry => startsWith (Keys.branchPrefix branch) entry.1)).insertionSort (· ≤ ·) =
          found := by
  obtain ⟨entries, listed, ordered, committed⟩ := txn.committed_ids (Keys.branchPrefix branch)
  have ascending : (entries.filter (· ≠ self)).Pairwise (· < ·) :=
    ordered.sublist List.filter_sublist
  have distinct : ((entries.filter (· ≠ self)).take (limit + 1)).Nodup :=
    (ascending.sublist (List.take_sublist _ _)).imp fun before => before.ne
  rw [listed, scanBranch_eq _ self limit entries [] (Nat.zero_le _), List.nil_append]
  obtain ⟨nodup, member⟩ := addWritten_spec (Keys.branchPrefix branch) self
    ((txn.writes.branches.toList.dropWhile (·.1 < Keys.branchPrefix branch)).takeWhile
      fun entry => startsWith (Keys.branchPrefix branch) entry.1) _ distinct
  refine ⟨entries.filter (· ≠ self), ascending, fun id => ?_, _, ?_, fun id => ?_, rfl⟩
  · rw [List.mem_filter, committed, and_comm, decide_eq_true_eq]
    rfl
  · have once := (List.perm_insertionSort (· ≤ ·) _).nodup_iff.mpr nodup
    exact ((List.pairwise_insertionSort (· ≤ ·) _).and once).imp
      fun both => lt_of_le_of_ne both.1 both.2
  · rw [List.mem_insertionSort, member]
    refine or_congr_right (and_congr_right fun _ => ⟨?_, fun written => ?_⟩)
    · intro ⟨key, among, named⟩
      obtain ⟨written, inside⟩ := (txn.mem_written _ _).mp among
      obtain ⟨rest, rfl⟩ := (startsWith_iff _ key).mp inside
      rw [branchEntryId_append] at named
      cases named
      exact written
    · exact ⟨Keys.branchKey branch id,
        (txn.mem_written _ _).mpr ⟨written, startsWith_append _ id⟩, branchEntryId_append _ id⟩

/-- Preloading is the plain filter over all promises. -/
theorem preload_eq (keyed : txn.Keyed) (indexed : txn.Indexed) (plain : txn.Plain)
    (promise : PromiseRecord) (tagged : promise.tags[tagBranch]?.isSome = true) :
    txn.preload promise = (txn.siblings promise).take txn.preloadLimit := by
  obtain ⟨branch, tag⟩ := Option.isSome_iff_exists.mp tagged
  obtain ⟨ordered, listed⟩ := siblings_spec keyed promise
  obtain ⟨entries, ascending, committed, found, ascending', cut, same⟩ :=
    txn.preload_ids txn.preloadLimit branch promise.id
  have whole : ∀ id, id ∈ (txn.siblings promise).map (·.id) ↔ id ∈ entries ∨ id ≠ promise.id ∧
      txn.writes.branches[Keys.branchKey branch id]? = some (some ()) := by
    intro id
    have inside : id ∈ (txn.siblings promise).map (·.id) ↔
        id ≠ promise.id ∧ txn.branchOf id = some branch := by
      rw [List.mem_map]
      constructor
      · intro ⟨record, member, named⟩
        obtain ⟨apart, shared, stored⟩ := (listed record).mp member
        obtain ⟨promise, found, rfl⟩ := Option.map_eq_some_iff.mp stored
        rw [named] at apart found
        refine ⟨apart, ?_⟩
        rw [branchOf, found, Option.bind_some, shared, tag]
      · intro ⟨apart, inside⟩
        obtain ⟨stored, found, shared⟩ := Option.bind_eq_some_iff.mp inside
        have own := keyed.promise id stored found
        refine ⟨stored.record, (listed stored.record).mpr ?_, own⟩
        rw [own, found]
        exact ⟨apart, shared.trans tag.symm, rfl⟩
    rw [inside, branchOf_iff indexed plain, committed]
    exact and_or_left
  have least := Scan.take_of_cut (List.pairwise_map.mpr ordered) ascending' ascending whole cut
  unfold preload
  rw [tag]
  dsimp only
  rw [same, least, ← List.map_take, List.filterMap_map]
  have each : ∀ record ∈ (txn.siblings promise).take txn.preloadLimit,
      (txn.getPromise record.id).map (·.record) = some record :=
    fun record member => ((listed record).mp (List.mem_of_mem_take member)).2.2
  exact (List.filterMap_congr each).trans List.filterMap_some

end Txn

/-- Whatever a request has buffered, preloading returns the first promises, in id order and as
many as the limit allows, of all other promises in the promise's branch, each as the buffer
overlays it. -/
theorem preload_siblings {env : Env} {system : System} {permits : Label → Prop} {txn : Txn}
    (reached : Reachable env system) (trail : Trail env permits (system.txn env) txn)
    (plain : txn.Plain) (promise : PromiseRecord)
    (tagged : promise.tags[tagBranch]?.isSome = true) :
    txn.preload promise = (txn.siblings promise).take env.preloadLimit ∧
    (txn.siblings promise).Pairwise (fun first second => first.id < second.id) ∧
    ∀ record, record ∈ txn.siblings promise ↔ record.id ≠ promise.id ∧
      record.tags[tagBranch]? = promise.tags[tagBranch]? ∧
      (txn.getPromise record.id).map (·.record) = some record := by
  have keyed := trail.keyed (Reachable.keyed reached)
  have indexed := trail.indexed (Reachable.indexed reached)
  have limit : txn.preloadLimit = env.preloadLimit := trail.fixed.preloadLimit
  rw [← limit]
  exact ⟨Txn.preload_eq keyed indexed plain promise tagged, Txn.siblings_spec keyed promise⟩

/-- The family while a request creates the first of the siblings. -/
def familyGrown : Txn :=
  (createPromise .brief (familyTrace.2.txn .brief) (.branchSample "root:0") none .dispatch).1

theorem familyGrown_trail :
    Trail .brief (fun _ => True) (familyTrace.2.txn .brief) familyGrown := by
  have admitted : Admitted .brief (familyTrace.2.txn .brief) (.branchSample "root:0") none
      .dispatch := .dispatched _ (by decide)
  exact .step _ trivial (.create _ _ _ (by decide) admitted) (.refl _)

theorem familyGrown_plain : familyGrown.Plain := by
  have listed : ∀ entry ∈ familyTrace.2.kv.promises.toList,
      Text.contains entry.1 '\x00' = false ∧
        entry.2.record.tags[tagBranch]?.all (fun branch => ! Text.contains branch '\x00') = true := by
    decide
  have created : Text.contains "root:0" '\x00' = false ∧
      (newPromise (.branchSample "root:0") none familyTrace.2.now).record.tags[tagBranch]?.all
        (fun branch => ! Text.contains branch '\x00') = true := by
    decide
  have plain : ∀ id stored, familyGrown.getPromise id = some stored →
      Text.contains id '\x00' = false ∧
        stored.record.tags[tagBranch]?.all (fun branch => ! Text.contains branch '\x00') = true := by
    intro id stored found
    unfold familyGrown at found
    rw [getPromise_createPromise] at found
    split at found
    · rename_i same
      cases found
      rw [← same]
      exact created
    · rw [System.getPromise_txn] at found
      exact listed _ (Std.ExtTreeMap.mem_toList_iff_getElem?_eq_some.mpr found)
  intro id stored found
  obtain ⟨unbroken, tagged⟩ := plain id stored found
  refine ⟨unbroken, fun branch inside => ?_⟩
  simpa [inside] using tagged

/-- Of the three siblings, one of them buffered, the limit lets the buffered one through. -/
theorem preload_siblings_family :
    familyGrown.preload (newPromise .rootSample none 1).record =
      (familyGrown.siblings (newPromise .rootSample none 1).record).take 1 ∧
    (familyGrown.siblings (newPromise .rootSample none 1).record).map (·.id) =
      ["root:0", "root:1", "root:2"] :=
  ⟨(preload_siblings family_reachable familyGrown_trail familyGrown_plain _ (by decide)).1,
    by decide⟩

end Resonate
