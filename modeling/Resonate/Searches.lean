import Resonate.Paging
import Resonate.Coupling

set_option autoImplicit false

/-! The three searches as walks over pages: what a client that follows the cursors lists. -/

namespace Resonate

open Kernel

/-- Keys in byte order. -/
theorem table_ascending {ν : Type} (table : Table String ν) :
    table.toList.Pairwise fun first second => first.1 < second.1 :=
  Std.ExtTreeMap.ordered_keys_toList.imp fun before => compare_lt_iff_lt.mp before

/-- A listing of values filed under their own keys, in key order. -/
theorem listing_ascending {ν : Type} (table : Table String ν) (idOf : ν → String)
    (keyed : ∀ id value, table[id]? = some value → idOf value = id) :
    Paging.Ascending idOf (table.toList.map Prod.snd) := by
  refine List.pairwise_map.mpr ((table_ascending table).imp_of_mem ?_)
  intro first second firstIn secondIn before
  rw [keyed _ _ (Std.ExtTreeMap.mem_toList_iff_getElem?_eq_some.mp firstIn),
    keyed _ _ (Std.ExtTreeMap.mem_toList_iff_getElem?_eq_some.mp secondIn)]
  exact before

theorem mem_listing {ν : Type} {table : Table String ν} {idOf : ν → String}
    (keyed : ∀ id value, table[id]? = some value → idOf value = id) {value : ν} :
    value ∈ table.toList.map Prod.snd ↔ table[idOf value]? = some value := by
  constructor
  · intro member
    obtain ⟨⟨id, _⟩, listed, rfl⟩ := List.mem_map.mp member
    have found := Std.ExtTreeMap.mem_toList_iff_getElem?_eq_some.mp listed
    rw [keyed _ _ found]
    exact found
  · intro found
    exact List.mem_map.mpr
      ⟨(_, value), Std.ExtTreeMap.mem_toList_iff_getElem?_eq_some.mpr found, rfl⟩

/-- The searches, by the type of the records they list. -/
inductive Search : Type → Type
  | promises (state : Option PromiseState) (tags : Option Tags) : Search PromiseRecord
  | tasks (state : Option TaskState) : Search TaskRecord
  | schedules (tags : Option Tags) : Search ScheduleRecord

namespace Search

variable {α : Type}

/-- The request for the page of `limit` records after `cursor`. -/
def request (limit : Int) (cursor : Option String) : Search α → Request
  | .promises state tags => .promiseSearch ⟨state, tags, some limit, cursor⟩
  | .tasks state => .taskSearch ⟨state, some limit, cursor⟩
  | .schedules tags => .scheduleSearch ⟨tags, some limit, cursor⟩

def reply : Search α → List α → Option String → ReplyData
  | .promises _ _ => .promises
  | .tasks _ => .tasks
  | .schedules _ => .schedules

def idOf : Search α → α → String
  | .promises _ _ => (·.id)
  | .tasks _ => (·.id)
  | .schedules _ => (·.id)

/-- Every filtered tag has the filter's value. -/
def Tagged (filter : Option Tags) (tags : Tags) : Prop :=
  ∀ wanted, filter = some wanted →
    ∀ (name value : String), wanted[name]? = some value → tags[name]? = some value

/-- Whether the store has the record and the search's filter lets it through. -/
def Matches (system : System) : Search α → α → Prop
  | .promises state tags => fun record =>
      (∃ stored, system.promise record.id = some stored ∧ stored.record = record) ∧
        (∀ wanted, state = some wanted → record.state = wanted) ∧ Tagged tags record.tags
  | .tasks state => fun record =>
      (∃ stored, system.task record.id = some stored ∧ stored.record = record) ∧
        ∀ wanted, state = some wanted → record.state = wanted
  | .schedules tags => fun record =>
      system.schedule record.id = some record ∧ Tagged tags record.promiseTags

/-- A walk that asks for the page after `cursor` and follows each reply's cursor until a reply
has none: the states that answered, and their pages. -/
inductive Walk (env : Env) (search : Search α) (limit : Int) :
    Option String → List System → List (List α) → Prop
  | last {cursor : Option String} {system : System} {page : List α} (stored : Bool)
      (replied : answer env system (search.request limit cursor) stored =
        .ok 200 (search.reply page none)) :
      Walk env search limit cursor [system] [page]
  | more {cursor : Option String} {system : System} {page : List α} {next : String}
      {systems : List System} {pages : List (List α)} (stored : Bool)
      (replied : answer env system (search.request limit cursor) stored =
        .ok 200 (search.reply page (some next)))
      (rest : Walk env search limit (some next) systems pages) :
      Walk env search limit cursor (system :: systems) (page :: pages)

/-- What the handler pages: the matching records. -/
def listing (system : System) : Search α → List α
  | .promises state tags => (system.kv.promises.toList.map (·.2.record)).filter fun promise =>
      state.all (promise.state == ·) && tagsMatch promise.tags tags
  | .tasks state => ((system.kv.tasks.toList.map (·.2)).map StoredTask.record).filter
      fun record => state.all (record.state == ·)
  | .schedules tags => (system.kv.schedules.toList.map (·.2)).filter
      fun schedule => tagsMatch schedule.promiseTags tags

/-! ## The filters -/

theorem tagsMatch_iff (tags : Tags) (filter : Option Tags) :
    tagsMatch tags filter = true ↔ Tagged filter tags := by
  cases filter with
  | none => simp [tagsMatch, Tagged]
  | some wanted =>
      simp only [tagsMatch, Tagged, Option.all_some, List.all_eq_true, beq_iff_eq, Prod.forall,
        Option.some.injEq, forall_eq']
      refine forall₂_congr fun name value => ?_
      rw [Std.ExtTreeMap.mem_toList_iff_getElem?_eq_some]

theorem all_beq_iff {κ : Type} [BEq κ] [LawfulBEq κ] (state : κ) (filter : Option κ) :
    filter.all (state == ·) = true ↔ ∀ wanted, filter = some wanted → state = wanted := by
  cases filter <;> simp

theorem page_eq (items : List α) (idOf : α → String) (cursor : Option String) (limit : Nat) :
    page items idOf cursor limit = Paging.fetch idOf cursor limit items := by
  unfold page Paging.fetch Paging.beyond
  dsimp only
  generalize (items.filter fun item => cursor.all (· < idOf item)) = rest
  rw [List.length_take]
  by_cases more : limit < rest.length
  · rw [if_pos (by omega), if_pos more, List.take_take, min_eq_left (by omega)]
  · rw [if_neg (by omega), if_neg more, List.take_of_length_le (by omega),
      List.take_of_length_le (by omega)]

variable {env : Env} {system : System}

/-! ## What a page lists -/

theorem stored_promise_id (keyed : (system.txn env).Keyed) (id : String) (stored : StoredPromise)
    (found : system.kv.promises[id]? = some stored) : stored.record.id = id :=
  keyed.promise id stored (by rw [System.getPromise_txn]; exact found)

theorem stored_task_id (keyed : (system.txn env).Keyed) (id : String) (stored : StoredTask)
    (found : system.kv.tasks[id]? = some stored) : stored.id = id :=
  keyed.task id stored (by rw [System.getTask_txn]; exact found)

theorem stored_schedule_id (keyed : (system.txn env).Keyed) (id : String) (stored : ScheduleRecord)
    (found : system.kv.schedules[id]? = some stored) : stored.id = id :=
  keyed.schedule id stored (by rw [System.getSchedule_txn]; exact found)

/-- The listing of a search is in id order. -/
theorem listing_ordered (keyed : (system.txn env).Keyed) (search : Search α) :
    Paging.Ascending search.idOf (search.listing system) := by
  cases search with
  | promises state tags =>
      have stored := listing_ascending _ (fun stored : StoredPromise => stored.record.id)
        (stored_promise_id keyed)
      refine List.Pairwise.sublist List.filter_sublist ?_
      unfold Paging.Ascending at stored
      rw [List.pairwise_map] at stored ⊢
      exact stored
  | tasks state =>
      have stored := listing_ascending _ StoredTask.id (stored_task_id keyed)
      refine List.Pairwise.sublist List.filter_sublist ?_
      exact List.pairwise_map.mpr stored
  | schedules tags =>
      have stored := listing_ascending _ ScheduleRecord.id (stored_schedule_id keyed)
      exact List.Pairwise.sublist List.filter_sublist stored

/-- The listing of a search has exactly the matching records. -/
theorem mem_listing_iff (keyed : (system.txn env).Keyed) (search : Search α) (record : α) :
    record ∈ search.listing system ↔ search.Matches system record := by
  cases search with
  | promises state tags =>
      unfold listing Matches
      rw [List.mem_filter, Bool.and_eq_true, all_beq_iff, tagsMatch_iff]
      refine and_congr_left fun _ => ?_
      constructor
      · intro member
        obtain ⟨⟨id, stored⟩, listed, rfl⟩ := List.mem_map.mp member
        have value : stored ∈ system.kv.promises.toList.map Prod.snd := List.mem_map_of_mem listed
        exact ⟨stored, (mem_listing (stored_promise_id keyed)).mp value, rfl⟩
      · rintro ⟨stored, found, rfl⟩
        exact List.mem_map.mpr
          ⟨(stored.record.id, stored), Std.ExtTreeMap.mem_toList_iff_getElem?_eq_some.mpr found, rfl⟩
  | tasks state =>
      unfold listing Matches
      rw [List.mem_filter, all_beq_iff]
      refine and_congr_left fun _ => ?_
      constructor
      · intro member
        obtain ⟨stored, listed, rfl⟩ := List.mem_map.mp member
        exact ⟨stored, (mem_listing (stored_task_id keyed)).mp listed, rfl⟩
      · rintro ⟨stored, found, rfl⟩
        exact List.mem_map.mpr ⟨stored, (mem_listing (stored_task_id keyed)).mpr found, rfl⟩
  | schedules tags =>
      unfold listing Matches
      rw [List.mem_filter, tagsMatch_iff]
      exact and_congr_left fun _ => mem_listing (stored_schedule_id keyed)

/-! ## Walks over replies are walks over listings -/

theorem searchLimit_eq {limit : Int} {default : Nat} (low : 1 ≤ limit) (high : limit ≤ 1000) :
    searchLimit (some limit) default = .ok limit.toNat := by
  unfold searchLimit maxSearchLimit
  exact if_pos ⟨low, by simpa using high⟩

theorem answer_eq (search : Search α) {limit : Int} (low : 1 ≤ limit) (high : limit ≤ 1000)
    (cursor : Option String) (stored : Bool) :
    answer env system (search.request limit cursor) stored =
      .ok 200 (search.reply
        (Paging.fetch search.idOf cursor limit.toNat (search.listing system)).1
        (Paging.fetch search.idOf cursor limit.toNat (search.listing system)).2) := by
  rw [← page_eq]
  cases search with
  | promises state tags =>
      change (conclude (promiseSearch (system.txn env) ⟨state, tags, some limit, cursor⟩) stored).2 = _
      unfold promiseSearch
      rw [searchLimit_eq low high]
      rfl
  | tasks state =>
      change (conclude (taskSearch (system.txn env) ⟨state, some limit, cursor⟩) stored).2 = _
      unfold taskSearch
      rw [searchLimit_eq low high]
      rfl
  | schedules tags =>
      change (conclude (scheduleSearch (system.txn env) ⟨tags, some limit, cursor⟩) stored).2 = _
      unfold scheduleSearch
      rw [searchLimit_eq low high]
      rfl

theorem reply_inj {search : Search α} {page other : List α} {next after : Option String}
    (same : search.reply page next = search.reply other after) : page = other ∧ next = after := by
  cases search with
  | promises state tags =>
      cases same
      exact ⟨rfl, rfl⟩
  | tasks state =>
      cases same
      exact ⟨rfl, rfl⟩
  | schedules tags =>
      cases same
      exact ⟨rfl, rfl⟩

variable {limit : Int} {cursor : Option String}

/-- A reply is the page of the listing. -/
theorem fetch_of_answer {search : Search α} (low : 1 ≤ limit) (high : limit ≤ 1000)
    {stored : Bool} {page : List α} {next : Option String}
    (replied : answer env system (search.request limit cursor) stored =
      .ok 200 (search.reply page next)) :
    Paging.fetch search.idOf cursor limit.toNat (search.listing system) = (page, next) := by
  rw [answer_eq search low high] at replied
  injection replied with _ data
  obtain ⟨paged, named⟩ := reply_inj data
  exact Prod.ext paged named

theorem Walk.paging {search : Search α} {systems : List System} {pages : List (List α)}
    (walk : Walk env search limit cursor systems pages) (low : 1 ≤ limit) (high : limit ≤ 1000) :
    Paging.Walk (fun system => search.listing system) search.idOf limit.toNat cursor systems
      pages := by
  induction walk with
  | last stored replied => exact .last (fetch_of_answer low high replied)
  | more stored replied rest ih => exact .more (fetch_of_answer low high replied) ih

theorem walk_of_paging {search : Search α} {systems : List System} {pages : List (List α)}
    (walk : Paging.Walk (fun system => search.listing system) search.idOf limit.toNat cursor systems
      pages) (low : 1 ≤ limit) (high : limit ≤ 1000) :
    Walk env search limit cursor systems pages := by
  induction walk with
  | last fetched =>
      refine .last true ?_
      rw [answer_eq search low high, fetched]
  | more fetched rest ih =>
      refine .more true ?_ ih
      rw [answer_eq search low high, fetched]

/-- A complete listing in pages: the records in increasing order of their ids, in pages of
`limit` records but for the last, which has some unless there are no records. -/
structure Lists (search : Search α) (limit : Int) (system : System) (pages : List (List α)) :
    Prop where
  ordered : pages.flatten.Pairwise fun first second => search.idOf first < search.idOf second
  complete : ∀ record, record ∈ pages.flatten ↔ search.Matches system record
  full : ∀ page ∈ pages.dropLast, page.length = limit
  final : ∃ page, pages.getLast? = some page ∧ page.length ≤ limit ∧
    (page = [] → ∀ record, ¬ search.Matches system record)

/-- A walk over one store lists its matching records. -/
theorem Walk.lists {search : Search α} {systems : List System} {pages : List (List α)}
    (walk : Walk env search limit none systems pages) (low : 1 ≤ limit) (high : limit ≤ 1000)
    (reached : Reachable env system) (unchanged : ∀ state ∈ systems, state.kv = system.kv) :
    search.Lists limit system pages := by
  have keyed := Reachable.keyed reached
  have paging := walk.paging low high
  have positive : 0 < limit.toNat := by omega
  have ordered := listing_ordered keyed search
  have same (state : System) (read : state ∈ systems) :
      search.listing state = search.listing system := by
    cases search <;> simp only [listing, unchanged state read]
  have flat := paging.flatten_eq positive ordered same
  rw [Paging.beyond_none] at flat
  obtain ⟨page, ends, short, empty⟩ := paging.final positive ordered same
  rw [Paging.beyond_none] at empty
  refine ⟨?_, fun record => ?_, fun page among => ?_, page, ends, by omega, fun none record => ?_⟩
  · rw [flat]
    exact ordered
  · rw [flat]
    exact mem_listing_iff keyed search record
  · have whole := paging.full page among
    omega
  · rw [← mem_listing_iff keyed, empty none]
    exact List.not_mem_nil

end Search

/-- Following the cursors of a search loses and repeats nothing. Over an unchanged store a walk
exists and lists exactly the matching records. Over a store that changes between the pages a
walk that ends repeats no id and lists every id that matches in all the states it read. -/
theorem search_walks {α : Type} (env : Env) (search : Search α) (limit : Int) (low : 1 ≤ limit)
    (high : limit ≤ 1000) :
    (∀ system, Reachable env system →
      (∃ pages, Search.Walk env search limit none (List.replicate pages.length system) pages) ∧
      ∀ systems pages, Search.Walk env search limit none systems pages →
        (∀ state ∈ systems, state.kv = system.kv) → search.Lists limit system pages) ∧
    ∀ systems pages, Search.Walk env search limit none systems pages →
      (∀ state ∈ systems, Reachable env state) →
      (pages.flatten.map search.idOf).Nodup ∧
      (∀ record ∈ pages.flatten, ∃ state ∈ systems, search.Matches state record) ∧
      ∀ id, (∀ state ∈ systems, ∃ record, search.Matches state record ∧ search.idOf record = id) →
        id ∈ pages.flatten.map search.idOf := by
  have positive : 0 < limit.toNat := by omega
  refine ⟨fun system reached => ⟨?_, ?_⟩, fun systems pages walk reached => ?_⟩
  · obtain ⟨pages, paging⟩ := Paging.Walk.exists_walk
      (fun system => search.listing system) limit.toNat system
      (Search.listing_ordered (Reachable.keyed reached) search) none
    exact ⟨pages, Search.walk_of_paging paging low high⟩
  · intro systems pages walk unchanged
    exact walk.lists low high reached unchanged
  · have paging := walk.paging low high
    have ordered (state : System) (read : state ∈ systems) :=
      Search.listing_ordered (Reachable.keyed (reached state read)) search
    refine ⟨?_, fun record member => ?_, fun id present => ?_⟩
    · refine List.pairwise_map.mpr ((paging.ascending ordered).imp ?_)
      intro first second before
      exact before.ne
    · obtain ⟨⟨state, read, listed⟩, _⟩ := paging.sound record member
      exact ⟨state, read,
        (Search.mem_listing_iff (Reachable.keyed (reached state read)) search record).mp listed⟩
    · have listed (state : System) (read : state ∈ systems) :
          ∃ record ∈ search.listing state, search.idOf record = id := by
        obtain ⟨record, matching, named⟩ := present state read
        exact ⟨record, (Search.mem_listing_iff (Reachable.keyed (reached state read)) search
          record).mpr matching, named⟩
      obtain ⟨record, member, named⟩ := paging.finds positive ordered id nofun listed
      exact List.mem_map.mpr ⟨record, member, named⟩

/-! ## Examples -/

/-- An environment that shows one sibling. -/
def Env.brief : Env := { Env.sample with preloadLimit := 1 }

/-- A promise in the branch of `root`. -/
def PromiseCreateData.branchSample (id : String) : PromiseCreateData where
  id := id
  timeoutAt := 1000
  param := {}
  tags := (∅ : Tags).insert tagBranch "root"

/-- A promise with a target that is in its own branch. -/
def PromiseCreateData.rootSample : PromiseCreateData :=
  { PromiseCreateData.sample with tags := PromiseCreateData.sample.tags.insert tagBranch "root" }

/-- Three promises of one branch, the first with a task whose dispatch is held. -/
def familyRun : List Event :=
  [.clock 1, .request (.promiseCreate .rootSample) true,
    .request (.promiseCreate (.branchSample "root:1")) true,
    .request (.promiseCreate (.branchSample "root:2")) true,
    .take 0 0, .deliver (.sample 0 0) true, .finish]

theorem familyRun_ends : (Machine.trace (step .brief) [] .empty familyRun).isSome = true := by
  decide

def familyTrace : List (Machine.Entry System Event) × System :=
  (Machine.trace (step .brief) [] .empty familyRun).get familyRun_ends

theorem family_reachable : Reachable .brief familyTrace.2 :=
  ⟨_, Machine.history_of_trace familyRun_ends⟩

/-- The settlement of the second of the promises. -/
def familySettles : Event := .request (.promiseSettle ⟨"root:1", .resolved, {}⟩) true

theorem familySettles_taken : (step .brief familyTrace.2 familySettles).isSome = true := by
  decide

def familySettled : System := (step .brief familyTrace.2 familySettles).get familySettles_taken

theorem familySettled_reachable : Reachable .brief familySettled :=
  family_reachable.extend (Option.some_get familySettles_taken).symm

/-- The pages of the pending promises, one by one, with the second promise settled behind the
first page. -/
theorem family_pages : ∃ first last : PromiseRecord, first.id = "root" ∧ last.id = "root:2" ∧
    Search.Walk .brief (.promises (some .pending) none) 1 none [familyTrace.2, familySettled]
      [[first], [last]] := by
  have begins : answer .brief familyTrace.2
      (Search.request 1 none (.promises (some .pending) none)) true =
        .ok 200 (.promises [(newPromise .rootSample none 1).record] (some "root")) := by
    decide
  have ends : answer .brief familySettled
      (Search.request 1 (some "root") (.promises (some .pending) none)) true =
        .ok 200 (.promises [(newPromise (.branchSample "root:2") none 1).record] none) := by
    decide
  exact ⟨_, _, rfl, rfl, .more true begins (.last true ends)⟩

/-- The walk over the unchanged store and the walk that the settlement interrupts. -/
theorem search_walks_family :
    (∃ pages, Search.Walk .brief (.promises none none) 1 none
        (List.replicate pages.length familyTrace.2) pages ∧
      Search.Lists (.promises none none) 1 familyTrace.2 pages) ∧
    ∃ pages, Search.Walk .brief (.promises (some .pending) none) 1 none
        [familyTrace.2, familySettled] pages ∧ pages.length = 2 ∧
      (pages.flatten.map (·.id)).Nodup ∧ "root:2" ∈ pages.flatten.map (·.id) := by
  constructor
  · obtain ⟨⟨pages, walk⟩, lists⟩ := (search_walks .brief (.promises none none) 1 (by decide)
      (by decide)).1 familyTrace.2 family_reachable
    refine ⟨pages, walk, lists _ pages walk ?_⟩
    intro state read
    rw [List.eq_of_mem_replicate read]
  · obtain ⟨first, last, _, _, walk⟩ := family_pages
    have reached : ∀ state ∈ [familyTrace.2, familySettled], Reachable .brief state := by
      simpa using ⟨family_reachable, familySettled_reachable⟩
    obtain ⟨distinct, _, finds⟩ := (search_walks .brief (.promises (some .pending) none) 1
      (by decide) (by decide)).2 _ _ walk reached
    refine ⟨_, walk, rfl, distinct, finds "root:2" ?_⟩
    intro state read
    refine ⟨(newPromise (.branchSample "root:2") none 1).record, ?_, rfl⟩
    have stays : ∀ state ∈ [familyTrace.2, familySettled], state.promise "root:2" =
        some (newPromise (.branchSample "root:2") none 1) := by
      decide
    exact ⟨⟨_, stays state read, rfl⟩, fun _ wanted => Option.some.inj wanted, nofun⟩

end Resonate
