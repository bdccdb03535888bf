import Resonate.Lapses
import Resonate.Siblings
import Resonate.Acquisitions

set_option autoImplicit false

/-! Which promises a reply shows beside those its request names, and when one of them is still
pending past its deadline. -/

namespace Resonate

open Kernel

/-! ## The ids under a branch -/

/-- The ids an index lists under a branch, but one, in order. -/
def idsUnder (branches : Table String Unit) (branch own : String) : List String :=
  (((branches.toList.map Prod.fst).filter (Txn.startsWith (Keys.branchPrefix branch))).filterMap
    (Keys.branchEntryId (Keys.branchPrefix branch))).filter (· ≠ own)

theorem idsUnder_spec (branches : Table String Unit) (branch own : String) :
    (idsUnder branches branch own).Pairwise (· < ·) ∧
      ∀ id, id ∈ idsUnder branches branch own ↔
        id ≠ own ∧ branches[Keys.branchKey branch id]? = some () := by
  let reading : Txn := { System.empty.txn .sample with kv := { Kv.empty with branches } }
  obtain ⟨ids, listed, ordered, member⟩ := reading.committed_ids (Keys.branchPrefix branch)
  change (branches.toList.map Prod.fst).filter _ = _ at listed
  have stripped : idsUnder branches branch own = ids.filter (· ≠ own) := by
    unfold idsUnder
    rw [listed, List.filterMap_map]
    congr 1
    have each : ∀ id ∈ ids, (Keys.branchEntryId (Keys.branchPrefix branch) ∘
        (Keys.branchPrefix branch ++ ·)) id = some id :=
      fun id _ => branchEntryId_append _ id
    exact (List.filterMap_congr each).trans List.filterMap_some
  rw [stripped]
  refine ⟨ordered.sublist List.filter_sublist, fun id => ?_⟩
  rw [List.mem_filter, decide_eq_true_eq, member, and_comm]
  rfl

namespace Txn

variable {txn : Txn}

/-- Preloading reads the first promises the index lists under the branch. -/
theorem preload_index (kept : ∀ key : String, txn.writes.branches[key]? ≠ some none)
    (branches : Table String Unit)
    (index : ∀ key, txn.indexed key ↔ branches[key]? = some ()) (promise : PromiseRecord)
    (branch : String) (tagged : promise.tags[tagBranch]? = some branch) :
    txn.preload promise = ((idsUnder branches branch promise.id).take txn.preloadLimit).filterMap
      fun id => (txn.getPromise id).map (·.record) := by
  obtain ⟨entries, ascending, committed, found, ascending', cut, same⟩ :=
    txn.preload_ids txn.preloadLimit branch promise.id
  obtain ⟨ordered, listed⟩ := idsUnder_spec branches branch promise.id
  have whole : ∀ id, id ∈ idsUnder branches branch promise.id ↔ id ∈ entries ∨ id ≠ promise.id ∧
      txn.writes.branches[Keys.branchKey branch id]? = some (some ()) := by
    intro id
    rw [listed, ← index, committed, ← and_or_left]
    refine and_congr_right fun _ => ?_
    have present := kept (Keys.branchKey branch id)
    unfold Txn.indexed Table.read
    cases written : txn.writes.branches[Keys.branchKey branch id]? with
    | none => simp
    | some value =>
        cases value with
        | none => exact absurd written present
        | some entry => simp
  have least := Scan.take_of_cut ordered ascending' ascending whole cut
  unfold preload
  rw [tagged]
  dsimp only
  rw [same, least]

end Txn

/-! ## The branches a request leaves -/

/-- What a request leaves of a promise: it keeps its tags, or has those of its creation. -/
inductive Descends (request : Request) (id : String) :
    Option StoredPromise → Option StoredPromise → Prop
  | absent : Descends request id none none
  | kept (old new : StoredPromise) (tags : new.record.tags = old.record.tags) :
      Descends request id (some old) (some new)
  | created (data : PromiseCreateData) (mode : CreateMode) (new : StoredPromise)
      (asked : request.creation = some (data, mode)) (own : data.id = id)
      (tags : new.record.tags = data.tags) : Descends request id none (some new)

namespace Descends

variable {request : Request} {id : String} {start first second : Option StoredPromise}

theorem refl (promise : Option StoredPromise) : Descends request id promise promise := by
  cases promise with
  | none => exact .absent
  | some stored => exact .kept stored stored rfl

/-- A promise rewritten with its tags descends from what it did before. -/
theorem rewritten {old new : StoredPromise} (descends : Descends request id start (some old))
    (tags : new.record.tags = old.record.tags) : Descends request id start (some new) := by
  cases descends with
  | kept oldest old kept => exact .kept oldest new (tags.trans kept)
  | created data mode old asked own created => exact .created data mode new asked own (tags.trans created)

theorem step {now : Int} {label : Label} (descends : Descends request id start first)
    (permitted : request.permits label) (change : PromiseChange now id label first second) :
    Descends request id start second := by
  cases change with
  | kept promise => exact descends
  | settled promise final settles own pending timely =>
      exact descends.rewritten (Label.settles_final settles).2.2.1
  | created data createdAt mode creates own =>
      subst creates
      cases descends
      exact .created data mode _ permitted.2 own (newPromise_tags _ _ _)
  | registered awaited awaiter registers own pending external => exact descends.rewritten rfl
  | listened awaited address listens own pending external => exact descends.rewritten rfl

end Descends

namespace Kernel.Settles

variable {env : Env} {txn next : Txn} {request : Request}

theorem descends (settles : Settles env txn request next) (keyed : txn.Keyed) (id : String) :
    Descends request id (txn.getPromise id) (next.getPromise id) :=
  ((settles.whole keyed).cells keyed id).preserves
    (fun cell => Descends request id (txn.getPromise id) cell.promise) (.refl _)
    fun _ _ _ permitted change held => held.step permitted change.promise

/-- A promise is in the branch it was in, or in that of its creation. -/
theorem branchOf (settles : Settles env txn request next) (keyed : txn.Keyed)
    (creates : ∀ data mode, request.creation = some (data, mode) →
      next.getPromise data.id ≠ none) (id branch : String) :
    next.branchOf id = some branch ↔ txn.branchOf id = some branch ∨
      txn.getPromise id = none ∧ ∃ data mode, request.creation = some (data, mode) ∧
        data.id = id ∧ data.tags[tagBranch]? = some branch := by
  have descends := settles.descends keyed id
  unfold Txn.branchOf
  generalize txn.getPromise id = old at descends
  generalize last : next.getPromise id = new at descends
  cases descends with
  | absent =>
      simp only [Option.bind_none, reduceCtorEq, false_or, true_and, false_iff]
      rintro ⟨data, mode, asked, rfl, _⟩
      exact creates data mode asked last
  | kept old new tags => simp [tags]
  | created data mode new asked own tags =>
      simp only [Option.bind_some, Option.bind_none, reduceCtorEq, false_or, true_and, tags]
      constructor
      · intro tagged
        exact ⟨data, mode, asked, own, tagged⟩
      · rintro ⟨other, mode', same, _, tagged⟩
        rw [asked] at same
        cases same
        exact tagged

end Kernel.Settles

/-- The index entry of the promise a request creates. -/
def System.added (system : System) (request : Request) : Option String :=
  request.creation.bind fun create =>
    if (system.promise create.1.id).isNone then
      create.1.tags[tagBranch]?.map fun branch => Keys.branchKey branch create.1.id
    else none

/-- The branch index with the entry of the promise a request creates. -/
def System.index (system : System) (request : Request) : Table String Unit :=
  match system.added request with
  | some key => system.kv.branches.insert key ()
  | none => system.kv.branches

theorem System.added_iff (system : System) (request : Request) (key : String) :
    system.added request = some key ↔ ∃ data mode branch, request.creation = some (data, mode) ∧
      system.promise data.id = none ∧ data.tags[tagBranch]? = some branch ∧
      key = Keys.branchKey branch data.id := by
  unfold System.added
  cases asked : request.creation with
  | none => simp
  | some create =>
      obtain ⟨data, mode⟩ := create
      simp only [Option.bind_some, Option.isNone_iff_eq_none]
      by_cases absent : system.promise data.id = none
      · rw [if_pos absent]
        simp [absent, eq_comm]
      · rw [if_neg absent]
        simp [absent]

theorem System.index_iff (system : System) (request : Request) (key : String) :
    (system.index request)[key]? = some () ↔
      system.kv.branches[key]? = some () ∨ system.added request = some key := by
  unfold System.index
  cases system.added request with
  | none => simp
  | some entry =>
      dsimp only
      rw [Table.find_insert]
      by_cases same : entry = key
      · simp [same]
      · simp [same]

theorem Kernel.Settles.index {env : Env} {before : System} {request : Request} {next : Txn}
    (settles : Settles env (before.txn env) request next) (reached : Reachable env before)
    (creates : ∀ data mode, request.creation = some (data, mode) → next.getPromise data.id ≠ none)
    (key : String) : next.indexed key ↔ (before.index request)[key]? = some () := by
  have keyed := Reachable.keyed reached
  have indexed := Reachable.indexed reached
  have later := (settles.whole keyed).indexed indexed
  have committed : before.kv.branches[key]? = some () ↔ (before.txn env).indexed key := by
    have read : (before.txn env).indexed key ↔
        Table.read before.kv.branches (∅ : Table.Buffer String Unit) key = some () := Iff.rfl
    rw [read, Table.read_empty]
  rw [later.entry, System.index_iff, committed, indexed.entry, System.added_iff]
  constructor
  · rintro ⟨id, branch, inside, rfl⟩
    rcases (settles.branchOf keyed creates id branch).mp inside with
      old | ⟨absent, data, mode, asked, rfl, tagged⟩
    · exact .inl ⟨id, branch, old, rfl⟩
    · rw [System.getPromise_txn] at absent
      exact .inr ⟨data, mode, branch, asked, absent, tagged, rfl⟩
  · rintro (⟨id, branch, old, rfl⟩ | ⟨data, mode, branch, asked, absent, tagged, rfl⟩)
    · exact ⟨id, branch, (settles.branchOf keyed creates id branch).mpr (.inl old), rfl⟩
    · rw [← System.getPromise_txn env] at absent
      exact ⟨data.id, branch, (settles.branchOf keyed creates data.id branch).mpr
        (.inr ⟨absent, data, mode, asked, rfl, tagged⟩), rfl⟩

/-! ## Overdue siblings -/

/-- The siblings a reply shows: the first that the index lists under the branch. -/
def System.siblingIds (env : Env) (system : System) (request : Request) (own branch : String) :
    List String :=
  (idsUnder (system.index request) branch own).take env.preloadLimit

/-- None of these promises, but for those the request names, is overdue. -/
def System.Prompt (system : System) (request : Request) (ids : List String) : Prop :=
  ∀ id ∈ ids, id ∉ request.named → ∀ promise ∈ system.promise id,
    ¬ promise.record.Overdue system.now

/-- The siblings shown are not overdue exactly when those the request does not name were not. -/
theorem preload_prompt {env : Env} {before : System} {request : Request} {next : Txn}
    (settles : Settles env (before.txn env) request next) (reached : Reachable env before)
    (creates : ∀ data mode, request.creation = some (data, mode) → next.getPromise data.id ≠ none)
    (promise : PromiseRecord) (branch : String) (tagged : promise.tags[tagBranch]? = some branch) :
    (∀ record ∈ next.preload promise, ¬ record.Overdue before.now) ↔
      before.Prompt request (before.siblingIds env request promise.id branch) := by
  have keyed := Reachable.keyed reached
  have later := ((settles.whole keyed).indexed (Reachable.indexed reached)).kept
  have limit : next.preloadLimit = env.preloadLimit := (settles.whole keyed).fixed.preloadLimit
  rw [Txn.preload_index later (before.index request) (settles.index reached creates) promise branch
    tagged, limit]
  unfold System.Prompt System.siblingIds
  constructor
  · intro prompt id listed unnamed stored found
    refine prompt stored.record (List.mem_filterMap.mpr ⟨id, listed, ?_⟩)
    rw [settles.unnamed keyed unnamed, System.getPromise_txn, found]
    rfl
  · intro prompt record member
    obtain ⟨id, listed, read⟩ := List.mem_filterMap.mp member
    obtain ⟨stored, found, rfl⟩ := Option.map_eq_some_iff.mp read
    by_cases named : id ∈ request.named
    · exact settles.prompt keyed named stored found
    · rw [settles.unnamed keyed named, System.getPromise_txn] at found
      exact prompt id listed named stored found

/-! ## What each request shows -/

/-- The branch the promise under `id` is in. -/
def System.branchOf (system : System) (id : String) : Option String :=
  (system.promise id).bind (·.record.tags[tagBranch]?)

/-- The branch whose promises the reply to a request shows, when the request succeeds: that of a
task's promise, unless the task has ended or falls asleep. -/
def System.shownBranch (system : System) : Request → Option String
  | .taskAcquire data => system.branchOf data.id
  | .taskCreate data =>
      match system.promise data.action.data.id with
      | some promise =>
          if promise.record.isPending ∧ system.now < promise.record.timeoutAt then
            promise.record.tags[tagBranch]?
          else none
      | none =>
          if system.now < data.action.data.timeoutAt then data.action.data.tags[tagBranch]?
          else none
  | .taskSuspend data =>
      if data.actions.all fun action => (system.cell action.data.awaited).isOpen system.now then none
      else system.branchOf data.id
  | .taskFence data _ => system.branchOf data.id
  | _ => none

/-- The promises a successful reply shows beside those the request names: a page of a search, or
the first promises of a branch. -/
def System.shown (env : Env) (system : System) (request : Request) : List String :=
  match request with
  | .promiseSearch data =>
      match searchLimit data.limit defaultSearchLimit with
      | .ok limit => ((Paging.beyond (·.id) data.cursor
          (Search.listing system (.promises data.state data.tags))).take limit).map (·.id)
      | .error _ => []
  | request =>
      match system.shownBranch request, request.named.head? with
      | some branch, some own => system.siblingIds env request own branch
      | _, _ => []

namespace Kernel

variable {env : Env} {txn : Txn}

/-- A suspend falls asleep on promises that are pending once deadlines are applied, or shows the
siblings because one of them is settled. -/
inductive SuspendAnswer (env : Env) (txn : Txn) (data : TaskSuspendData) : Response → Prop
  | refused (next : Txn) (exit : Exit) (status : Nat) (message : String) :
      SuspendAnswer env txn data ⟨next, exit, .err status message⟩
  | slept (next : Txn) (exit : Exit)
      (pending : ∀ action ∈ data.actions, ∃ promise,
        (tryTimeout env txn (Request.taskSuspend data).named).getPromise action.data.awaited =
          some promise ∧ promise.record.isPending = true) :
      SuspendAnswer env txn data ⟨next, exit, ok .empty⟩
  | awake (next : Txn) (own : StoredPromise) (found : next.getPromise data.id = some own)
      (settled : ∃ action ∈ data.actions, ∃ promise,
        (tryTimeout env txn (Request.taskSuspend data).named).getPromise action.data.awaited =
          some promise ∧ promise.record.isPending = false) :
      SuspendAnswer env txn data ⟨next, .commit, .ok 300 (.preload (next.preload own.record))⟩

theorem suspendAnswer_err {data : TaskSuspendData} {next : Txn} {exit : Exit} {reply : Reply}
    {status : Nat} (refusal : ∃ message, reply = .err status message) :
    SuspendAnswer env txn data ⟨next, exit, reply⟩ := by
  obtain ⟨message, rfl⟩ := refusal
  exact .refused next exit status message

theorem taskSuspend_answer (data : TaskSuspendData) :
    SuspendAnswer env txn data (taskSuspend env txn data) := by
  unfold taskSuspend
  split
  · exact .refused _ _ 400 _
  · split
    · rename_i refused
      exact suspendAnswer_err (suspendIds_refusal refused)
    · rename_i awaitedIds accepted
      obtain ⟨listed, _, _⟩ := suspendIds_ok data.id data.actions [] awaitedIds accepted
      rw [List.nil_append] at listed
      subst listed
      dsimp only
      split
      · exact .refused _ _ 404 _
      · rename_i task stored
        by_cases acquired : task.isAcquiredAt data.version = true
        · rw [if_pos acquired]
          have reads := (Txn.holds_touches (tryTimeout env txn (Request.taskSuspend data).named)
            task.id).getPromise
          change ((tryTimeout env txn (data.id :: data.actions.map (·.data.awaited))).holds
            task.id).1.getPromise = _ at reads
          split
          · exact .refused _ _ 409 _
          · split
            · rename_i refused
              exact suspendAnswer_err (suspendAwaited_refusal refused)
            · rename_i awaited known
              obtain ⟨found, listed⟩ := suspendAwaited_known known
              rw [reads] at found listed
              split
              · rename_i settled
                split
                · exact .refused _ _ 500 _
                · rename_i own stored
                  refine .awake _ own stored ?_
                  obtain ⟨promise, member, ended⟩ := List.any_eq_true.mp settled
                  obtain ⟨id, among, read, _⟩ := listed promise member
                  obtain ⟨action, inside, rfl⟩ := List.mem_map.mp among
                  exact ⟨action, inside, promise, read, by simpa using ended⟩
              · rename_i open_
                refine .slept _ _ fun action member => ?_
                obtain ⟨promise, among, read⟩ := found _ (List.mem_map_of_mem member)
                refine ⟨promise, read, ?_⟩
                by_contra ended
                exact open_ (List.any_eq_true.mpr ⟨promise, among, by simpa using ended⟩)
        · rw [if_neg acquired]
          exact .refused _ _ 409 _

theorem fenced_creation {data : TaskFenceData} {corrId : String} {create : PromiseCreateData}
    {mode : CreateMode} (asked : (Request.taskFence data corrId).creation = some (create, mode)) :
    data.action.data.id = some create.id := by
  simp only [Request.creation] at asked
  split at asked
  · cases decoded : data.action.data.create with
    | error message =>
        rw [decoded] at asked
        cases asked
    | ok read =>
        rw [decoded] at asked
        cases asked
        exact data.action.data.create_id create decoded
  · cases asked

/-- A creation that a fence asks for is done when the fence succeeds. -/
theorem fenceAction_creates (action : Action ActionValue) (next : Txn) (status : Nat)
    (inner : PromiseRecord ⊕ String)
    (performed : fenceAction env txn action = .ok (next, status, inner))
    (kind : action.kind = "promise.create") (data : PromiseCreateData)
    (decoded : action.data.create = .ok data) : next.getPromise data.id ≠ none := by
  unfold fenceAction at performed
  rw [if_pos kind, decoded] at performed
  dsimp only at performed
  split at performed
  · cases performed
  · split at performed
    · rename_i existing found
      cases performed
      rw [found]
      exact Option.some_ne_none _
    · have created := getPromise_createPromise env txn data none .dispatch data.id
      rw [if_pos rfl] at created
      cases performed
      rw [created]
      exact Option.some_ne_none _

/-- A fence that succeeds shows the action's promise and the siblings. -/
inductive FenceAnswer (data : TaskFenceData) (corrId : String) : Response → Prop
  | refused (next : Txn) (exit : Exit) (status : Nat) (message : String) :
      FenceAnswer data corrId ⟨next, exit, .err status message⟩
  | fenced (next : Txn) (own : StoredPromise) (action : InnerReply)
      (found : next.getPromise data.id = some own)
      (inner : ∀ record, action.data = .inl record → ∃ id stored,
        data.action.data.id = some id ∧ next.getPromise id = some stored ∧ stored.record = record)
      (creates : ∀ create mode, (Request.taskFence data corrId).creation = some (create, mode) →
        next.getPromise create.id ≠ none)
      (apart : ∀ id, data.action.data.id = some id → id ≠ data.id) :
      FenceAnswer data corrId ⟨next, .commit, ok (.fenced action (next.preload own.record))⟩

theorem taskFence_answer (keyed : txn.Keyed) (data : TaskFenceData) (corrId : String) :
    FenceAnswer data corrId (taskFence env txn data corrId) := by
  unfold taskFence
  split
  · exact .refused _ _ 400 _
  · rename_i actionId decoded
    split
    · exact .refused _ _ 400 _
    · rename_i foreign
      split
      · exact .refused _ _ 400 _
      · dsimp only
        split
        · exact .refused _ _ 404 _
        · split
          · exact .refused _ _ 409 _
          · split
            · rename_i refused
              obtain ⟨message, rfl⟩ := fenceAction_refusal refused
              exact .refused _ _ 400 _
            · rename_i next status inner performed
              split
              · exact .refused _ _ 500 _
              · rename_i own found
                refine .fenced _ own _ found (fenceAction_inner (tryTimeout_keyed env _ keyed)
                  data.action next status inner performed) ?_ (by simp [decoded, foreign])
                intro create mode asked
                simp only [Request.creation] at asked
                split at asked
                · rename_i kind
                  cases read : data.action.data.create with
                  | error message =>
                      rw [read] at asked
                      cases asked
                  | ok create =>
                      rw [read] at asked
                      cases asked
                      exact fenceAction_creates data.action next status inner performed kind create read
                · cases asked

/-- The promise a `task.create` names: the stored one with its deadline applied, or a new one. -/
theorem taskCreate_promise (keyed : txn.Keyed) (data : TaskCreateData) {next : Txn}
    (settles : Settles env txn (.taskCreate data) next) :
    next.getPromise data.action.data.id =
        (txn.getPromise data.action.data.id).map (lapsed txn.now) ∨
      txn.getPromise data.action.data.id = none ∧ next.getPromise data.action.data.id =
        some (newPromise data.action.data none txn.now) := by
  have named : data.action.data.id ∈ (Request.taskCreate data).named := by simp [Request.named]
  have timed := tryTimeout_keyed env (Request.taskCreate data).named keyed
  have now := (tryTimeout_buffers env (Request.taskCreate data).named txn).now
  have start : ((tryTimeout env txn (Request.taskCreate data).named).cell
      data.action.data.id).promise = (txn.getPromise data.action.data.id).map (lapsed txn.now) := by
    change (tryTimeout env txn (Request.taskCreate data).named).getPromise _ = _
    rw [getPromise_tryTimeout _ keyed, if_pos named]
  have cells := settles.trail.cells timed data.action.data.id
  rw [now] at cells
  refine cells.preserves (fun cell =>
    cell.promise = (txn.getPromise data.action.data.id).map (lapsed txn.now) ∨
      txn.getPromise data.action.data.id = none ∧ cell.promise =
        some (newPromise data.action.data none txn.now)) (.inl start) ?_
  intro label before after permitted change held
  have prompt : ∀ promise, before.promise = some promise → ¬ promise.record.Overdue txn.now := by
    intro promise same
    rcases held with old | ⟨absent, new⟩
    · obtain ⟨stored, _, rfl⟩ := Option.map_eq_some_iff.mp (old.symm.trans same)
      exact lapsed_prompt txn.now stored
    · cases new.symm.trans same
      exact newPromise_prompt data.action.data none txn.now
  have change := change.promise
  generalize before.promise = first at change held prompt
  generalize after.promise = second at change
  cases change with
  | kept promise => exact held
  | settled promise final settled own pending timely =>
      cases label with
      | expire expired =>
          cases settled
          exact absurd ⟨pending, timely⟩ (prompt _ rfl)
      | strike expired => exact permitted.elim
      | settle closed state value => cases permitted
      | _ => cases settled
  | created create createdAt mode creates own =>
      subst creates
      obtain ⟨rfl, asked⟩ := permitted
      cases asked
      rcases held with absent | ⟨absent, new⟩
      · exact .inr ⟨Option.map_eq_none_iff.mp absent.symm, rfl⟩
      · cases new
  | registered awaited awaiter registers own pending external =>
      subst registers
      cases permitted
  | listened awaited address listens own pending external =>
      subst listens
      cases permitted

end Kernel

/-! ## The records of a reply -/

section

variable {env : Env} {before : System} {request : Request} {response : Response}

/-- The siblings read for a promise are not overdue exactly when those the request does not name
were not. -/
theorem siblings_prompt {next : Txn} (settles : Settles env (before.txn env) request next)
    (reached : Reachable env before)
    (creates : ∀ data mode, request.creation = some (data, mode) → next.getPromise data.id ≠ none)
    {own : String} {promise : StoredPromise} (found : next.getPromise own = some promise) :
    (∀ record ∈ next.preload promise.record, ¬ record.Overdue before.now) ↔
      before.Prompt request
        (((next.branchOf own).map (before.siblingIds env request own)).getD []) := by
  have keyed := (settles.whole (Reachable.keyed reached)).keyed (Reachable.keyed reached)
  have named : promise.record.id = own := keyed.promise own promise found
  have inside : next.branchOf own = promise.record.tags[tagBranch]? := by
    unfold Txn.branchOf
    rw [found]
    rfl
  rw [inside]
  cases tagged : promise.record.tags[tagBranch]? with
  | none =>
      unfold Txn.preload System.Prompt
      rw [tagged]
      simp
  | some branch =>
      rw [preload_prompt settles reached creates promise.record branch tagged, named]
      rfl

/-- A request that creates nothing leaves every promise in its branch. -/
theorem branchOf_uncreated {next : Txn} (settles : Settles env (before.txn env) request next)
    (reached : Reachable env before) (uncreating : request.creation = none) (id : String) :
    next.branchOf id = before.branchOf id := by
  have old : (before.txn env).branchOf id = before.branchOf id := by
    unfold Txn.branchOf System.branchOf
    rw [System.getPromise_txn]
  have same (branch : String) := settles.branchOf (Reachable.keyed reached)
    (by simp [uncreating]) id branch
  rw [← old]
  refine Option.ext fun branch => (same branch).trans ?_
  simp [uncreating]

/-- The promises a request names are not shown overdue. -/
theorem Answered.prompt (answered : Answered env (before.txn env) request response)
    (settles : Settles env (before.txn env) request response.txn)
    (keyed : (before.txn env).Keyed) (unviewed : request.viewed = none)
    (awake : ∀ data, request ≠ .taskSuspend data)
    (unfenced : ∀ data corrId, request ≠ .taskFence data corrId)
    (listed : ∀ data, request ≠ .promiseSearch data) (status : Nat) (data : ReplyData)
    (replied : response.reply = .ok status data) :
    ∀ record ∈ data.promiseRecords, ¬ record.Overdue before.now := by
  cases answered with
  | refused next exit status message failed => cases replied
  | empty next exit kept unviewed =>
      cases replied
      simp [ReplyData.promiseRecords]
  | promise next exit kept id promise unviewed named found =>
      cases replied
      intro record member
      rw [List.mem_singleton.mp member]
      exact settles.prompt keyed named promise found
  | task next id task unviewed found =>
      cases replied
      simp [ReplyData.promiseRecords]
  | schedule next exit id schedule unviewed found read =>
      cases replied
      simp [ReplyData.promiseRecords]
  | view next id task promise viewed tasked found => simp [unviewed] at viewed
  | preload next asking own asked found => exact absurd asked (awake asking)
  | fenced next asking corrId own action asked found inner =>
      exact absurd asked (unfenced asking corrId)
  | promises asking limit asked bounded => exact absurd asked (listed asking)
  | tasks asking limit asked bounded =>
      obtain ⟨page, cursor, same, _⟩ := taskSearch_eq (before.txn env) asking limit bounded
      rw [same] at replied
      cases replied
      simp [ReplyData.promiseRecords]
  | schedules asking limit asked bounded =>
      obtain ⟨page, cursor, same, _⟩ := scheduleSearch_eq (before.txn env) asking limit bounded
      rw [same] at replied
      cases replied
      simp [ReplyData.promiseRecords]

/-- The view of a task shows the siblings of its promise, unless the task has ended. -/
theorem view_prompt {next : Txn} (settles : Settles env (before.txn env) request next)
    (reached : Reachable env before)
    (creates : ∀ data mode, request.creation = some (data, mode) → next.getPromise data.id ≠ none)
    {id : String} {task : StoredTask} {promise : StoredPromise} (named : id ∈ request.named)
    (tasked : next.getTask id = some task) (found : next.getPromise id = some promise) :
    (∀ record ∈ (ReplyData.taskView task.record promise.record
        (if task.state = .fulfilled then [] else next.preload promise.record)).promiseRecords,
      ¬ record.Overdue before.now) ↔
    before.Prompt request (if promise.record.isPending then
      ((next.branchOf id).map (before.siblingIds env request id)).getD [] else []) := by
  have keyed := Reachable.keyed reached
  have own : ¬ promise.record.Overdue before.now := settles.prompt keyed named promise found
  have coupled := (settles.whole keyed).coupled keyed
    (fun id => by rw [System.cell_txn]; exact Reachable.coupled reached id) id
  have ended := coupled.pending promise task found tasked
  have siblings := siblings_prompt settles reached creates found
  simp only [ReplyData.promiseRecords, List.forall_mem_cons]
  by_cases pending : promise.record.isPending = true
  · rw [if_pos pending, if_neg (ended.mp pending), siblings]
    exact and_iff_right own
  · rw [if_neg pending, if_pos (by_contra fun unfulfilled => pending (ended.mpr unfulfilled))]
    simp [System.Prompt, own]

/-- The reply to an acquisition is the view of the task it names. -/
theorem Answered.viewed (answered : Answered env (before.txn env) request response) {id : String}
    (viewed : request.viewed = some id) {status : Nat} {data : ReplyData}
    (replied : response.reply = .ok status data) :
    status = 200 ∧ ∃ task promise, response.txn.getTask id = some task ∧
      response.txn.getPromise id = some promise ∧ data = .taskView task.record promise.record
        (if task.state = .fulfilled then [] else response.txn.preload promise.record) := by
  cases answered with
  | refused next exit status message failed => cases replied
  | view next other task promise asked tasked found =>
      cases replied
      cases asked.symm.trans viewed
      exact ⟨rfl, task, promise, tasked, found, rfl⟩
  | empty next exit kept unviewed => simp [unviewed] at viewed
  | promise next exit kept other stored unviewed named found => simp [unviewed] at viewed
  | task next other stored unviewed found => simp [unviewed] at viewed
  | schedule next exit other stored unviewed found read => simp [unviewed] at viewed
  | preload next asking own asked found => simp [asked, Request.viewed] at viewed
  | fenced next asking corrId own action asked found inner => simp [asked, Request.viewed] at viewed
  | promises asking limit asked bounded => simp [asked, Request.viewed] at viewed
  | tasks asking limit asked bounded => simp [asked, Request.viewed] at viewed
  | schedules asking limit asked bounded => simp [asked, Request.viewed] at viewed

theorem shown_eq (unsearched : ∀ data, request ≠ .promiseSearch data) {own : String}
    (named : request.named.head? = some own) : before.shown env request =
      ((before.shownBranch request).map (before.siblingIds env request own)).getD [] := by
  unfold System.shown
  split
  · exact absurd rfl (unsearched _)
  · rw [named]
    cases before.shownBranch request <;> rfl

theorem taskAcquire_prompt (reached : Reachable env before) (data : TaskAcquireData)
    (settles : Settles env (before.txn env) (.taskAcquire data)
      (taskAcquire env (before.txn env) data).txn) {status : Nat} {reply : ReplyData}
    (replied : (taskAcquire env (before.txn env) data).reply = .ok status reply) :
    (∀ record ∈ reply.promiseRecords, ¬ record.Overdue before.now) ↔
      before.Prompt (.taskAcquire data) (before.shown env (.taskAcquire data)) := by
  have keyed := Reachable.keyed reached
  obtain ⟨rfl, task, promise, tasked, found, rfl⟩ :=
    (handle_answered env keyed (.taskAcquire data)).viewed rfl replied
  change (taskAcquire env (before.txn env) data).txn.getTask _ = _ at tasked
  change (taskAcquire env (before.txn env) data).txn.getPromise _ = _ at found
  change (∀ record ∈ (ReplyData.taskView task.record promise.record (if task.state = .fulfilled
    then [] else (taskAcquire env (before.txn env) data).txn.preload promise.record)).promiseRecords,
    _) ↔ _
  have pending : promise.record.isPending = true := by
    have coupled (id : String) : Coupled ((before.txn env).cell id) := by
      rw [System.cell_txn]
      exact Reachable.coupled reached id
    have opened := (taskAcquire_acquires keyed coupled data replied).opened
    obtain ⟨stored, known, pending, _⟩ := (Txn.isOpen_iff _ _).mp opened
    cases known.symm.trans found
    exact pending
  rw [view_prompt settles reached (by simp [Request.creation]) (by simp [Request.named]) tasked
    found, if_pos pending, branchOf_uncreated settles reached rfl,
    shown_eq (fun _ same => Request.noConfusion same) rfl]
  rfl

/-- A `task.create` shows the branch of its promise while that is pending. -/
theorem taskCreate_shownBranch (reached : Reachable env before) (data : TaskCreateData)
    {next : Txn} (settles : Settles env (before.txn env) (.taskCreate data) next)
    {promise : StoredPromise} (found : next.getPromise data.action.data.id = some promise) :
    before.shownBranch (.taskCreate data) =
      if promise.record.isPending then next.branchOf data.action.data.id else none := by
  have inside : next.branchOf data.action.data.id = promise.record.tags[tagBranch]? := by
    unfold Txn.branchOf
    rw [found]
    rfl
  rw [inside]
  unfold System.shownBranch
  dsimp only
  rcases taskCreate_promise (Reachable.keyed reached) data settles with old | ⟨absent, new⟩
  · rw [found, System.getPromise_txn] at old
    obtain ⟨stored, known, rfl⟩ := Option.map_eq_some_iff.mp old.symm
    rw [known, lapsed_tags]
    dsimp only
    simp only [lapsed_pending_iff]
    rfl
  · rw [found] at new
    rw [System.getPromise_txn] at absent
    cases new
    rw [absent]
    dsimp only
    rw [newPromise_pending, newPromise_tags]
    simp only [decide_eq_true_eq]
    rfl

theorem taskCreate_prompt (reached : Reachable env before) (data : TaskCreateData)
    (settles : Settles env (before.txn env) (.taskCreate data)
      (taskCreate env (before.txn env) data).txn) {status : Nat} {reply : ReplyData}
    (replied : (taskCreate env (before.txn env) data).reply = .ok status reply) :
    (∀ record ∈ reply.promiseRecords, ¬ record.Overdue before.now) ↔
      before.Prompt (.taskCreate data) (before.shown env (.taskCreate data)) := by
  have keyed := Reachable.keyed reached
  obtain ⟨rfl, task, promise, tasked, found, rfl⟩ :=
    (handle_answered env keyed (.taskCreate data)).viewed rfl replied
  change (taskCreate env (before.txn env) data).txn.getTask _ = _ at tasked
  change (taskCreate env (before.txn env) data).txn.getPromise _ = _ at found
  change (∀ record ∈ (ReplyData.taskView task.record promise.record (if task.state = .fulfilled
    then [] else (taskCreate env (before.txn env) data).txn.preload promise.record)).promiseRecords,
    _) ↔ _
  have creates : ∀ create mode, (Request.taskCreate data).creation = some (create, mode) →
      (taskCreate env (before.txn env) data).txn.getPromise create.id ≠ none := by
    intro create mode asked
    cases asked
    rw [found]
    exact Option.some_ne_none _
  rw [view_prompt settles reached creates (by simp [Request.named]) tasked found,
    shown_eq (fun _ same => Request.noConfusion same) rfl,
    taskCreate_shownBranch reached data settles found]
  by_cases pending : promise.record.isPending = true
  · rw [if_pos pending, if_pos pending]
  · rw [if_neg pending, if_neg pending]
    rfl

/-- A promise is pending once its deadline is applied exactly when it is open. -/
theorem timed_pending (keyed : (before.txn env).Keyed) {id : String} (named : id ∈ request.named)
    {promise : StoredPromise}
    (found : (tryTimeout env (before.txn env) request.named).getPromise id = some promise) :
    promise.record.isPending = (before.cell id).isOpen before.now := by
  rw [getPromise_tryTimeout _ keyed, if_pos named, System.getPromise_txn] at found
  obtain ⟨stored, known, rfl⟩ := Option.map_eq_some_iff.mp found
  have open_ : (before.cell id).isOpen before.now =
      (stored.record.isPending && decide (before.now < stored.record.timeoutAt)) := by
    unfold Cell.isOpen System.cell
    rw [known]
    rfl
  rw [open_, Bool.eq_iff_iff, Bool.and_eq_true, decide_eq_true_eq]
  exact lapsed_pending_iff _ stored

theorem taskSuspend_prompt (reached : Reachable env before) (data : TaskSuspendData)
    (settles : Settles env (before.txn env) (.taskSuspend data)
      (taskSuspend env (before.txn env) data).txn) {status : Nat} {reply : ReplyData}
    (replied : (taskSuspend env (before.txn env) data).reply = .ok status reply) :
    (∀ record ∈ reply.promiseRecords, ¬ record.Overdue before.now) ↔
      before.Prompt (.taskSuspend data) (before.shown env (.taskSuspend data)) := by
  have keyed := Reachable.keyed reached
  have answer : SuspendAnswer env (before.txn env) data (taskSuspend env (before.txn env) data) :=
    taskSuspend_answer data
  have named (action : Action CallbackData) (member : action ∈ data.actions) :
      action.data.awaited ∈ (Request.taskSuspend data).named :=
    List.mem_cons_of_mem _ (List.mem_map_of_mem member)
  rw [shown_eq (fun _ same => Request.noConfusion same) rfl]
  unfold System.shownBranch
  dsimp only
  generalize taskSuspend env (before.txn env) data = response at answer settles replied
  cases answer with
  | refused next exit status message => cases replied
  | slept next exit pending =>
      cases replied
      rw [if_pos]
      · simp [ReplyData.promiseRecords, System.Prompt]
      · refine List.all_eq_true.mpr fun action member => ?_
        obtain ⟨promise, found, open_⟩ := pending action member
        rw [← timed_pending keyed (named action member) found]
        exact open_
  | awake next own found settled =>
      cases replied
      rw [if_neg]
      · exact (siblings_prompt settles reached (by simp [Request.creation]) found).trans
          (by rw [branchOf_uncreated settles reached rfl])
      · obtain ⟨action, member, promise, read, ended⟩ := settled
        intro all_open
        have open_ := List.all_eq_true.mp all_open action member
        rw [← timed_pending keyed (named action member) read, ended] at open_
        cases open_

theorem taskFence_prompt (reached : Reachable env before) (data : TaskFenceData) (corrId : String)
    (settles : Settles env (before.txn env) (.taskFence data corrId)
      (taskFence env (before.txn env) data corrId).txn) {status : Nat} {reply : ReplyData}
    (replied : (taskFence env (before.txn env) data corrId).reply = .ok status reply) :
    (∀ record ∈ reply.promiseRecords, ¬ record.Overdue before.now) ↔
      before.Prompt (.taskFence data corrId) (before.shown env (.taskFence data corrId)) := by
  have keyed := Reachable.keyed reached
  have answer : FenceAnswer data corrId (taskFence env (before.txn env) data corrId) :=
    taskFence_answer keyed data corrId
  rw [shown_eq (fun _ same => Request.noConfusion same) rfl]
  generalize taskFence env (before.txn env) data corrId = response at answer settles replied
  cases answer with
  | refused next exit status message => cases replied
  | fenced next own action found inner creates apart =>
      cases replied
      have siblings := siblings_prompt settles reached creates found
      have branch : next.branchOf data.id = before.branchOf data.id := by
        have descends := settles.descends keyed data.id
        unfold Txn.branchOf System.branchOf
        rw [System.getPromise_txn] at descends
        generalize next.getPromise data.id = new at descends found
        generalize before.promise data.id = old at descends
        cases descends with
        | absent => cases found
        | kept old new tags => rw [Option.bind_some, Option.bind_some, tags]
        | created create mode new asked same tags =>
            exact absurd same (apart create.id (fenced_creation asked))
      rw [branch] at siblings
      refine Iff.trans ?_ siblings
      simp only [ReplyData.promiseRecords, List.forall_mem_append]
      refine and_iff_right ?_
      intro record member
      obtain ⟨id, stored, named, read, rfl⟩ := inner record (by
        cases inside : action.data with
        | inl shown =>
            rw [inside] at member
            rw [List.mem_singleton.mp member]
        | inr message =>
            rw [inside] at member
            cases member)
      exact settles.prompt keyed (by simp [Request.named, named]) stored read

theorem promiseSearch_prompt (keyed : (before.txn env).Keyed) (data : PromiseSearchData)
    {status : Nat} {reply : ReplyData}
    (replied : (promiseSearch (before.txn env) data).reply = .ok status reply) :
    (∀ record ∈ reply.promiseRecords, ¬ record.Overdue before.now) ↔
      before.Prompt (.promiseSearch data) (before.shown env (.promiseSearch data)) := by
  unfold promiseSearch at replied
  unfold System.shown
  dsimp only
  cases bounded : searchLimit data.limit defaultSearchLimit with
  | error refusal =>
      obtain ⟨message, rfl⟩ := searchLimit_refusal bounded
      rw [bounded] at replied
      cases replied
  | ok limit =>
      rw [bounded] at replied
      dsimp only at replied ⊢
      rw [Search.page_eq] at replied
      cases replied
      have known (record : PromiseRecord) (member : record ∈ (Paging.beyond (·.id) data.cursor
          (Search.listing before (.promises data.state data.tags))).take limit) :
          ∃ stored, before.promise record.id = some stored ∧ stored.record = record := by
        have listed := (List.mem_filter.mp (List.mem_filter.mp (List.mem_of_mem_take member)).1).1
        obtain ⟨⟨id, stored⟩, entry, rfl⟩ := List.mem_map.mp listed
        have found := Std.ExtTreeMap.mem_toList_iff_getElem?_eq_some.mp entry
        rw [Search.stored_promise_id keyed id stored found]
        exact ⟨stored, found, rfl⟩
      unfold System.Prompt
      simp only [List.forall_mem_map]
      refine forall₂_congr fun record member => ?_
      obtain ⟨stored, found, same⟩ := known record member
      rw [found]
      simp [Request.named, same]

end

/-- No promise of a reply is pending past its deadline exactly when none of those the reply shows
beside the promises the request names was. -/
theorem replies_shown {env : Env} {before : System} {request : Request} {stored : Bool}
    {status : Nat} {data : ReplyData} (reached : Reachable env before)
    (replied : answer env before request stored = .ok status data) :
    (∀ record ∈ data.promiseRecords, ¬ record.Overdue before.now) ↔
      before.Prompt request (before.shown env request) := by
  have keyed := Reachable.keyed reached
  have handled := (conclude_ok replied).1
  have answered := handle_answered env keyed request
  rcases handle_settles keyed request with ⟨message, same⟩ | settles
  · rw [same] at handled
    cases handled
  · cases request with
    | promiseSearch search => exact promiseSearch_prompt keyed search handled
    | taskAcquire acquire => exact taskAcquire_prompt reached acquire settles handled
    | taskCreate create => exact taskCreate_prompt reached create settles handled
    | taskSuspend suspend => exact taskSuspend_prompt reached suspend settles handled
    | taskFence fence corrId => exact taskFence_prompt reached fence corrId settles handled
    | _ =>
        refine iff_of_true (Answered.prompt answered settles keyed rfl
          (fun _ same => Request.noConfusion same) (fun _ _ same => Request.noConfusion same)
          (fun _ same => Request.noConfusion same) status data handled) ?_
        intro id member
        exact absurd member List.not_mem_nil

/-! ## Stores in time -/

/-- Whether a reply may show a promise beside those its request names: a search's filter lets it
through, or the index lists it under the branch shown. -/
def System.matching (system : System) (request : Request) (id : String) (promise : PromiseRecord) :
    Bool :=
  match request with
  | .promiseSearch data =>
      data.state.all (promise.state == ·) && tagsMatch promise.tags data.tags
  | request => (system.shownBranch request).any fun branch =>
      (system.index request)[Keys.branchKey branch id]? == some ()

/-- No stored promise that matches is overdue, but for those the request names. -/
def System.OnTime (system : System) (request : Request) : Prop :=
  ∀ id promise, system.promise id = some promise → id ∉ request.named →
    system.matching request id promise.record = true → ¬ promise.record.Overdue system.now

instance (system : System) (request : Request) : Decidable (system.OnTime request) :=
  decidable_of_iff (∀ entry ∈ system.kv.promises.toList, entry.1 ∉ request.named →
    system.matching request entry.1 entry.2.record = true →
      ¬ entry.2.record.Overdue system.now) <| by
    simp only [Prod.forall, Std.ExtTreeMap.mem_toList_iff_getElem?_eq_some]
    rfl

/-- The limits leave room for all that matches. -/
def System.Uncut (env : Env) (system : System) : Request → Prop
  | .promiseSearch data => data.cursor = none ∧
      ∃ limit, searchLimit data.limit defaultSearchLimit = .ok limit ∧
        (Search.listing system (.promises data.state data.tags)).length ≤ limit
  | request => ∀ branch own, system.shownBranch request = some branch →
      request.named.head? = some own →
      (idsUnder (system.index request) branch own).length ≤ env.preloadLimit

section

variable {env : Env} {before : System} {request : Request}

theorem matching_branch (unsearched : ∀ data, request ≠ .promiseSearch data) (id : String)
    (promise : PromiseRecord) : before.matching request id promise = true ↔
      ∃ branch, before.shownBranch request = some branch ∧
        (before.index request)[Keys.branchKey branch id]? = some () := by
  unfold System.matching
  split
  · exact absurd rfl (unsearched _)
  · rw [Option.any_eq_true]
    simp only [beq_iff_eq]

/-- A search lists the stored promises that match. -/
theorem mem_search_iff (keyed : (before.txn env).Keyed) (data : PromiseSearchData)
    (record : PromiseRecord) :
    record ∈ Search.listing before (.promises data.state data.tags) ↔
      (∃ promise, before.promise record.id = some promise ∧ promise.record = record) ∧
        before.matching (.promiseSearch data) record.id record = true := by
  rw [Search.mem_listing_iff keyed]
  unfold Search.Matches System.matching
  rw [Bool.and_eq_true, Search.all_beq_iff, Search.tagsMatch_iff]

theorem matching_listed (keyed : (before.txn env).Keyed) (data : PromiseSearchData) {id : String}
    {promise : StoredPromise} (found : before.promise id = some promise)
    (matching : before.matching (.promiseSearch data) id promise.record = true) :
    promise.record ∈ Search.listing before (.promises data.state data.tags) := by
  have own : promise.record.id = id := Search.stored_promise_id keyed id promise found
  refine (mem_search_iff keyed data _).mpr ⟨⟨promise, ?_, rfl⟩, matching⟩
  rw [own]
  exact found

/-- The requests that show a branch name a promise. -/
theorem named_of_shownBranch {branch : String} (shown : before.shownBranch request = some branch) :
    ∃ own, request.named.head? = some own := by
  cases request with
  | taskAcquire data => exact ⟨_, rfl⟩
  | taskCreate data => exact ⟨_, rfl⟩
  | taskSuspend data => exact ⟨_, rfl⟩
  | taskFence data corrId => exact ⟨_, rfl⟩
  | _ => cases shown

/-- Of a store in time, nothing overdue is shown. -/
theorem OnTime.prompt (keyed : (before.txn env).Keyed) (ontime : before.OnTime request) :
    before.Prompt request (before.shown env request) := by
  intro id listed unnamed promise found
  refine ontime id promise found unnamed ?_
  unfold System.shown at listed
  split at listed
  · rename_i data
    split at listed
    · obtain ⟨record, member, rfl⟩ := List.mem_map.mp listed
      have inside := (Paging.mem_beyond.mp (List.mem_of_mem_take member)).1
      obtain ⟨⟨stored, known, rfl⟩, matching⟩ := (mem_search_iff keyed data record).mp inside
      cases known.symm.trans found
      exact matching
    · cases listed
  · rename_i unsearched
    split at listed
    · rename_i branch own shown named
      have inside := List.mem_of_mem_take listed
      exact (matching_branch unsearched id _).mpr
        ⟨branch, shown, (((idsUnder_spec _ branch own).2 id).mp inside).2⟩
    · cases listed

/-- Where the limits leave room, all that matches is shown. -/
theorem Uncut.ontime (keyed : (before.txn env).Keyed) (uncut : before.Uncut env request)
    (prompt : before.Prompt request (before.shown env request)) : before.OnTime request := by
  intro id promise found unnamed matching
  refine prompt id ?_ unnamed promise found
  unfold System.shown
  split
  · rename_i data
    obtain ⟨whole, limit, bounded, room⟩ := uncut
    have own : promise.record.id = id := Search.stored_promise_id keyed id promise found
    have listed := matching_listed keyed data found matching
    rw [bounded, whole, Paging.beyond_none]
    dsimp only
    rw [List.take_of_length_le room]
    exact List.mem_map.mpr ⟨promise.record, listed, own⟩
  · rename_i unsearched
    obtain ⟨branch, shown, indexed⟩ := (matching_branch unsearched id _).mp matching
    obtain ⟨own, named⟩ := named_of_shownBranch shown
    have other : id ≠ own := by
      rintro rfl
      exact unnamed (List.mem_of_head? named)
    have room : (idsUnder (before.index request) branch own).length ≤ env.preloadLimit := by
      unfold System.Uncut at uncut
      split at uncut
      · exact absurd rfl (unsearched _)
      · exact uncut branch own shown named
    rw [shown, named]
    dsimp only
    unfold System.siblingIds
    rw [List.take_of_length_le room]
    exact ((idsUnder_spec _ branch own).2 id).mpr ⟨other, indexed⟩

theorem searchLimit_positive {limit : Option Int} {bound : Nat}
    (bounded : searchLimit limit defaultSearchLimit = .ok bound) : 0 < bound := by
  unfold searchLimit at bounded
  split at bounded
  · cases bounded
    decide
  · split at bounded
    · cases bounded
      omega
    · cases bounded

/-- A search that is answered has a limit, and its answer is the page after the cursor. -/
theorem promiseSearch_page {data : PromiseSearchData} {stored : Bool} {status : Nat}
    {reply : ReplyData}
    (replied : answer env before (.promiseSearch data) stored = .ok status reply) :
    ∃ limit, 0 < limit ∧ ∀ cursor,
      answer env before (.promiseSearch { data with cursor }) stored = .ok 200 (.promises
        (Paging.fetch (·.id) cursor limit
          (Search.listing before (.promises data.state data.tags))).1
        (Paging.fetch (·.id) cursor limit
          (Search.listing before (.promises data.state data.tags))).2) := by
  have handled : (promiseSearch (before.txn env) data).reply = .ok status reply :=
    (conclude_ok replied).1
  unfold promiseSearch at handled
  cases bounded : searchLimit data.limit defaultSearchLimit with
  | error refusal =>
      obtain ⟨message, rfl⟩ := searchLimit_refusal bounded
      rw [bounded] at handled
      cases handled
  | ok limit =>
      refine ⟨limit, searchLimit_positive bounded, fun cursor => ?_⟩
      change (conclude (promiseSearch (before.txn env) { data with cursor }) stored).2 = _
      unfold promiseSearch
      rw [bounded]
      dsimp only
      rw [Search.page_eq]
      rfl

/-- An overdue promise that matches a search is on the page that some cursor asks for. -/
theorem overdue_page (keyed : (before.txn env).Keyed) {data : PromiseSearchData} {stored : Bool}
    {status : Nat} {reply : ReplyData}
    (replied : answer env before (.promiseSearch data) stored = .ok status reply)
    (late : ¬ before.OnTime (.promiseSearch data)) :
    ∃ cursor page next, answer env before (.promiseSearch { data with cursor }) stored =
        .ok 200 (.promises page next) ∧ ∃ record ∈ page, record.Overdue before.now := by
  obtain ⟨limit, positive, paged⟩ := promiseSearch_page replied
  simp only [System.OnTime, not_forall, not_not] at late
  obtain ⟨id, promise, found, _, matching, overdue⟩ := late
  obtain ⟨cursor, shown⟩ := Paging.exists_fetch_mem
    (Search.listing_ordered keyed (.promises data.state data.tags)) positive
    (matching_listed keyed data found matching)
  exact ⟨cursor, _, _, paged cursor, promise.record, shown, overdue⟩

end

/-- Over a store in time no promise of a reply is pending past its deadline. Conversely a reply that
leaves nothing out shows that the store is in time, and a search of a store that is not shows an
overdue promise on one of its pages. -/
theorem replies_prompt {env : Env} {before : System} {request : Request} {stored : Bool}
    {status : Nat} {data : ReplyData} (reached : Reachable env before)
    (replied : answer env before request stored = .ok status data) :
    (before.OnTime request → ∀ record ∈ data.promiseRecords, ¬ record.Overdue before.now) ∧
    (before.Uncut env request → (∀ record ∈ data.promiseRecords, ¬ record.Overdue before.now) →
      before.OnTime request) ∧
    ∀ search, request = .promiseSearch search → ¬ before.OnTime request →
      ∃ cursor page next, answer env before (.promiseSearch { search with cursor }) stored =
          .ok 200 (.promises page next) ∧ ∃ record ∈ page, record.Overdue before.now := by
  have keyed := Reachable.keyed reached
  have shown := replies_shown reached replied
  refine ⟨fun ontime => shown.mpr (OnTime.prompt keyed ontime),
    fun uncut prompt => Uncut.ontime keyed uncut (shown.mp prompt), ?_⟩
  rintro search rfl late
  exact overdue_page keyed replied late

/-- A search of every promise. -/
def searchAll : Request := .promiseSearch ⟨none, none, none, none⟩

theorem familyLate_taken : (step .brief familyTrace.2 (.clock 2000)).isSome = true := by decide

/-- The family when all its deadlines have passed. -/
def familyLate : System := (step .brief familyTrace.2 (.clock 2000)).get familyLate_taken

/-- The acquisition of a task with a sibling in time, a search of a store in time, and one of a store
that is not. -/
theorem replies_prompt_family :
    (∃ first sibling, answer .brief familyTrace.2 (.taskAcquire ⟨"root", 0, "p", 100⟩) true =
        .ok 200 (.taskView ⟨"root", .acquired, 1, 0, some 100, some "p"⟩ first [sibling]) ∧
      ¬ first.Overdue familyTrace.2.now ∧ ¬ sibling.Overdue familyTrace.2.now) ∧
    familyTrace.2.OnTime searchAll ∧
    ∃ cursor page next, answer .brief familyLate (.promiseSearch ⟨none, none, none, cursor⟩) true =
        .ok 200 (.promises page next) ∧ ∃ record ∈ page, record.Overdue familyLate.now := by
  refine ⟨⟨(newPromise .rootSample none 1).record,
    (newPromise (.branchSample "root:1") none 1).record, ?_⟩, ?_, ?_⟩
  · have replied : answer .brief familyTrace.2 (.taskAcquire ⟨"root", 0, "p", 100⟩) true =
        .ok 200 (.taskView ⟨"root", .acquired, 1, 0, some 100, some "p"⟩
          (newPromise .rootSample none 1).record
          [(newPromise (.branchSample "root:1") none 1).record]) := by
      decide
    have prompt := (replies_prompt family_reachable replied).1 (by decide)
    exact ⟨replied, prompt _ List.mem_cons_self,
      prompt _ (List.mem_cons_of_mem _ (List.mem_singleton_self _))⟩
  · have replied : answer .brief familyTrace.2 searchAll true =
        .ok 200 (.promises [(newPromise .rootSample none 1).record,
          (newPromise (.branchSample "root:1") none 1).record,
          (newPromise (.branchSample "root:2") none 1).record] none) := by
      decide
    exact (replies_prompt family_reachable replied).2.1 ⟨rfl, 100, rfl, by decide⟩ (by decide)
  · have reached : Reachable .brief familyLate :=
      family_reachable.extend (Option.some_get familyLate_taken).symm
    have replied : answer .brief familyLate searchAll true =
        .ok 200 (.promises [(newPromise .rootSample none 1).record,
          (newPromise (.branchSample "root:1") none 1).record,
          (newPromise (.branchSample "root:2") none 1).record] none) := by
      decide
    exact (replies_prompt reached replied).2.2 _ rfl (by decide)

/-- A search shows a promise that is pending past its deadline. -/
theorem overdue_promise_shown :
    ∃ system data, Reachable .sample system ∧
      answer .sample system searchAll true = .ok 200 data ∧
      ∃ record ∈ data.promiseRecords, record.isPending = true ∧ record.timeoutAt ≤ system.now := by
  have ran : (Machine.run (step .sample) .empty [.clock 1, .request (.promiseCreate .sample) true,
      .clock 2000]).any (fun system => answer .sample system searchAll true =
        .ok 200 (.promises [(newPromise .sample none 1).record] none) ∧
          (newPromise .sample none 1).record.timeoutAt ≤ system.now) = true := by
    decide
  obtain ⟨system, ends, holds⟩ := (Option.any_eq_true _ _).mp ran
  obtain ⟨replied, late⟩ := of_decide_eq_true holds
  exact ⟨system, _, Machine.reachable_of_run ends, replied, _, List.mem_singleton_self _, rfl, late⟩

end Resonate
