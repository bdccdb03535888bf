import Resonate.RawStore
import Resonate.Codes
import Resonate.QueueNames
import Resonate.Siblings

set_option autoImplicit false

/-! The bytes hold the tables: what is written, read and listed through the keys of the store is
what the tables of records say. -/

namespace Resonate

open Keys (bytes)

/-! ## Keys -/

theorem bytes_eq (text : String) : bytes text = text.toList.flatMap String.utf8EncodeChar := by
  unfold Keys.bytes
  change text.toByteArray.data.toList = _
  rw [← String.utf8Encode_toList]
  exact List.toList_data_toByteArray

theorem bytes_append (first second : String) : bytes (first ++ second) = bytes first ++ bytes second := by
  rw [bytes_eq, bytes_eq, bytes_eq, String.toList_append, List.flatMap_append]

/-- Texts in order have their bytes in order. -/
theorem bytes_less {first second : String} (less : first < second) :
    compare (bytes first) (bytes second) = .lt := by
  rw [bytes_eq, bytes_eq]
  exact Codes.utf8_ordered.compare_flatMap (String.lt_iff.mp less)

theorem startsWith_bytes (pre text : String) :
    bytes pre <+: bytes text ↔ Txn.startsWith pre text = true := by
  rw [bytes_eq, bytes_eq, Codes.utf8_ordered.prefix_flatMap, Txn.startsWith,
    List.isPrefixOf_iff_prefix]

theorem fromUTF8_bytes (text : String) : String.fromUTF8? ⟨(bytes text).toArray⟩ = some text := by
  unfold Keys.bytes String.fromUTF8?
  simp only [Array.toArray_toList]
  exact dif_pos text.isValidUTF8

/-- The promise id of an index key is what follows the prefix. -/
theorem branchEntryId_bytes (pre key : String) :
    RawKeys.branchEntryId (bytes pre) (bytes key) = Keys.branchEntryId pre key := by
  unfold RawKeys.branchEntryId Keys.branchEntryId Text.stripPrefix
  by_cases leads : pre.toList <+: key.toList
  · obtain ⟨rest, parts⟩ := leads
    have same : key = pre ++ String.ofList rest := by
      apply String.toList_inj.mp
      rw [String.toList_append, String.toList_ofList, parts]
    subst same
    have leads : pre.toList <+: (pre ++ String.ofList rest).toList := by
      rw [String.toList_append]
      exact List.prefix_append _ _
    rw [bytes_append, if_pos (List.prefix_append _ _), List.drop_left, fromUTF8_bytes, if_pos leads,
      String.toList_append, List.drop_left, String.ofList_toList]
  · have unled : ¬ bytes pre <+: bytes key := by
      rw [startsWith_bytes, Txn.startsWith, List.isPrefixOf_iff_prefix]
      exact leads
    rw [if_neg leads, if_neg unled]

theorem branchPrefix_bytes (branch : String) :
    RawKeys.branchPrefix branch = bytes (Keys.branchPrefix branch) := by
  unfold Keys.branchPrefix
  rw [bytes_append, bytes_append]
  rfl

theorem branchKey_bytes (branch id : String) :
    RawKeys.branchKey branch id = bytes (Keys.branchKey branch id) := by
  unfold Keys.branchKey
  rw [bytes_append, ← branchPrefix_bytes]
  rfl

/-- Two listings in key order with the same entries are the same. -/
theorem listings_eq {κ γ : Type} [Ord κ] [Std.TransOrd κ] {first second : List (κ × γ)}
    (ordered : first.Pairwise fun entry later => compare entry.1 later.1 = .lt)
    (ordered' : second.Pairwise fun entry later => compare entry.1 later.1 = .lt)
    (same : ∀ entry, entry ∈ first ↔ entry ∈ second) : first = second := by
  have asymm : Std.Antisymm fun entry later : κ × γ => compare entry.1 later.1 = .lt :=
    ⟨fun entry later below above => by
      have swapped : compare later.1 entry.1 = (compare entry.1 later.1).swap :=
        Std.OrientedCmp.eq_swap
      rw [swapped, below] at above
      cases above⟩
  have irrefl : Std.Irrefl fun entry later : κ × γ => compare entry.1 later.1 = .lt :=
    ⟨fun entry below => by
      rw [Std.compare_self] at below
      cases below⟩
  exact List.Pairwise.eq_of_mem_iff ordered ordered' same

/-- The entries of interest of a table of bytes, where they are those of a table of texts under keys
in the order of the texts. -/
theorem filter_entries {ν γ : Type} {raw : Table Bytes γ} {table : Table String ν}
    {place : String → Bytes} {encode : ν → γ} {inside : Bytes → Bool} {within : String → Bool}
    (rising : ∀ first second : String, first < second → compare (place first) (place second) = .lt)
    (whole : ∀ key value, raw[key]? = some value ∧ inside key = true ↔
      ∃ id record, table[id]? = some record ∧ within id = true ∧ key = place id ∧
        value = encode record) :
    (raw.toList.filter fun entry => inside entry.1) =
      (table.toList.filter fun entry => within entry.1).map fun entry =>
        (place entry.1, encode entry.2) := by
  refine listings_eq (Std.ExtTreeMap.ordered_keys_toList.sublist List.filter_sublist) ?_ ?_
  · refine List.pairwise_map.mpr (((table_ascending table).sublist List.filter_sublist).imp ?_)
    intro first second before
    exact rising _ _ before
  · rintro ⟨key, value⟩
    rw [List.mem_filter, Std.ExtTreeMap.mem_toList_iff_getElem?_eq_some, whole, List.mem_map]
    constructor
    · rintro ⟨id, record, found, held, rfl, rfl⟩
      exact ⟨(id, record), List.mem_filter.mpr
        ⟨Std.ExtTreeMap.mem_toList_iff_getElem?_eq_some.mpr found, held⟩, rfl⟩
    · rintro ⟨⟨id, record⟩, listed, same⟩
      obtain ⟨member, held⟩ := List.mem_filter.mp listed
      cases same
      exact ⟨id, record, Std.ExtTreeMap.mem_toList_iff_getElem?_eq_some.mp member, held, rfl, rfl⟩

/-- The written entries from a prefix on are those with the prefix. -/
theorem range_eq {β : Type} (txn : RawTxn β) (pre : Bytes) :
    txn.range pre = txn.writes.toList.filter fun entry => decide (pre <+: entry.1) := by
  have keys : txn.writes.toList.Pairwise fun first second => compare first.1 second.1 = .lt :=
    Std.ExtTreeMap.ordered_keys_toList
  have ordered : txn.writes.toList.Pairwise fun first second =>
      (compare first.1 pre == .lt) = false → (compare second.1 pre == .lt) = false ∧
        (decide (pre <+: first.1) = false → decide (pre <+: second.1) = false) := by
    refine keys.imp ?_
    intro first second before reached
    have above : compare first.1 pre ≠ .lt := by simpa using reached
    constructor
    · rw [beq_eq_false_iff_ne]
      intro below
      exact above (Std.TransCmp.lt_trans before below)
    · intro past
      rw [decide_eq_false_iff_not] at past ⊢
      rintro ⟨rest, same⟩
      rw [← same] at before
      exact past (Codes.prefix_of_between pre above before)
  refine listings_eq ?_ (keys.sublist List.filter_sublist) ?_
  · exact keys.sublist ((List.takeWhile_sublist _).trans (List.dropWhile_sublist _))
  · intro entry
    unfold RawTxn.range
    rw [Scan.mem_range ordered, List.mem_filter]
    refine and_congr_right fun _ => ⟨And.right, fun inside => ⟨?_, inside⟩⟩
    obtain ⟨rest, same⟩ := of_decide_eq_true inside
    rw [← same, beq_eq_false_iff_ne]
    exact Codes.compare_extended pre rest

/-- So are those of the index of texts. -/
theorem written_eq (txn : Txn) (pre : String) :
    (txn.writes.branches.toList.dropWhile (·.1 < pre)).takeWhile
        (fun entry => Txn.startsWith pre entry.1) =
      txn.writes.branches.toList.filter fun entry => Txn.startsWith pre entry.1 := by
  have keys : txn.writes.branches.toList.Pairwise fun first second =>
      compare first.1 second.1 = .lt := Std.ExtTreeMap.ordered_keys_toList
  refine listings_eq ?_ (keys.sublist List.filter_sublist) ?_
  · exact keys.sublist ((List.takeWhile_sublist _).trans (List.dropWhile_sublist _))
  · intro entry
    rw [Txn.mem_written, List.mem_filter, Std.ExtTreeMap.mem_toList_iff_getElem?_eq_some]

/-- What a key of the store is for. -/
inductive Place
  | promise (id : String)
  | task (id : String)
  | schedule (id : String)
  | entry (name : String)
  deriving DecidableEq

def Place.stem : Place → Bytes
  | .promise _ => RawKeys.promisePrefix
  | .task _ => RawKeys.taskPrefix
  | .schedule _ => RawKeys.schedulePrefix
  | .entry _ => RawKeys.indexPrefix

def Place.name : Place → String
  | .promise id => id
  | .task id => id
  | .schedule id => id
  | .entry name => name

def Place.key (place : Place) : Bytes := place.stem ++ bytes place.name

theorem stem_length (place : Place) : place.stem.length = 11 := by
  cases place <;> rfl

/-- The kinds of keys start apart. -/
theorem stems_apart : [RawKeys.promisePrefix, RawKeys.taskPrefix, RawKeys.schedulePrefix,
    RawKeys.indexPrefix].Nodup := by
  decide

/-- No key is for two things. -/
theorem key_injective : Function.Injective Place.key := by
  intro first second same
  obtain ⟨stems, names⟩ := List.append_inj same ((stem_length first).trans (stem_length second).symm)
  have named := Keys.bytes_injective names
  have apart := stems_apart
  simp only [List.nodup_cons, List.mem_cons, List.not_mem_nil, or_false, not_or] at apart
  cases first <;> cases second <;> simp_all [Place.stem, Place.name]

/-- A key with the prefix of one kind of record is for such a record. -/
theorem stem_of_leads {first second : Place} (leads : first.stem <+: second.key) :
    second.stem = first.stem := by
  obtain ⟨more, same⟩ := leads
  exact (List.append_inj same ((stem_length first).trans (stem_length second).symm)).1.symm

/-- The keys of one kind, where `place` makes them from their names. -/
structure Place.Kind (stem : Bytes) (place : String → Place) : Prop where
  stem_eq : ∀ id, (place id).stem = stem
  name_eq : ∀ id, (place id).name = id
  only : ∀ other : Place, other.stem = stem → other = place other.name

theorem Place.Kind.key_eq {stem : Bytes} {place : String → Place} (kind : Place.Kind stem place)
    (id : String) : (place id).key = stem ++ bytes id := by
  unfold Place.key
  rw [kind.stem_eq, kind.name_eq]

theorem promise_kind : Place.Kind RawKeys.promisePrefix .promise where
  stem_eq _ := rfl
  name_eq _ := rfl
  only other same := by
    have apart := stems_apart
    cases other with
    | promise => rfl
    | task | schedule | entry => simp_all [Place.stem]

theorem task_kind : Place.Kind RawKeys.taskPrefix .task where
  stem_eq _ := rfl
  name_eq _ := rfl
  only other same := by
    have apart := stems_apart
    cases other with
    | task => rfl
    | promise | schedule | entry => simp_all [Place.stem]

theorem schedule_kind : Place.Kind RawKeys.schedulePrefix .schedule where
  stem_eq _ := rfl
  name_eq _ := rfl
  only other same := by
    have apart := stems_apart
    cases other with
    | schedule => rfl
    | promise | task | entry => simp_all [Place.stem]

theorem entry_kind : Place.Kind RawKeys.indexPrefix .entry where
  stem_eq _ := rfl
  name_eq _ := rfl
  only other same := by
    have apart := stems_apart
    cases other with
    | entry => rfl
    | promise | task | schedule => simp_all [Place.stem]

/-! ## What the bytes hold -/

/-- A record of any kind, or the mark of an index entry. -/
inductive Entry
  | promise (promise : StoredPromise)
  | task (task : StoredTask)
  | schedule (schedule : ScheduleRecord)
  | mark

def Entry.raw {β : Type} (formats : Formats β) : Entry → β
  | .promise stored => formats.toVec stored.json
  | .task stored => formats.toVec (stored.json formats.ids)
  | .schedule stored => formats.toVec stored.json
  | .mark => formats.empty

def Entry.Fits : Entry → Prop
  | .promise stored => stored.record.Fits
  | .task stored => stored.Fits
  | .schedule stored => stored.Fits
  | .mark => True

def Kv.find (kv : Kv) : Place → Option Entry
  | .promise id => kv.promises[id]?.map .promise
  | .task id => kv.tasks[id]?.map .task
  | .schedule id => kv.schedules[id]?.map .schedule
  | .entry name => kv.branches[Keys.branchIndex ++ name]?.map fun _ => .mark

def Writes.find (writes : Writes) : Place → Option (Option Entry)
  | .promise id => writes.promises[id]?.map (·.map .promise)
  | .task id => writes.tasks[id]?.map (·.map .task)
  | .schedule id => writes.schedules[id]?.map (·.map .schedule)
  | .entry name => writes.branches[Keys.branchIndex ++ name]?.map (·.map fun _ => .mark)

/-- The bytes hold the records of the tables under their keys, and nothing else. The whole numbers of
the records fit 64 bits. -/
structure Represents {β : Type} (formats : Formats β) (raw : RawTxn β) (txn : Txn) : Prop where
  limit : raw.preloadLimit = txn.preloadLimit
  fits : ∀ place entry, txn.kv.find place = some entry → entry.Fits
  fitting : ∀ place entry, txn.writes.find place = some (some entry) → entry.Fits
  stored : ∀ place, raw.kv[place.key]? = (txn.kv.find place).map (·.raw formats)
  written : ∀ place, raw.writes[place.key]? = (txn.writes.find place).map (·.map (·.raw formats))
  placed : ∀ (key : Bytes) (value : β), raw.kv[key]? = some value → ∃ place : Place, key = place.key
  replaced : ∀ (key : Bytes) (value : Option β), raw.writes[key]? = some value →
    ∃ place : Place, key = place.key
  indexed : ∀ (key : String), txn.kv.branches[key]? = some () → ∃ name, key = Keys.branchIndex ++ name
  indexing : ∀ (key : String) (value : Option Unit), txn.writes.branches[key]? = some value →
    ∃ name, key = Keys.branchIndex ++ name

/-- The bytes answer as the tables do. -/
structure Agree {β : Type} (formats : Formats β) (raw : RawTxn β) (txn : Txn) : Prop where
  getPromise : ∀ id, raw.getPromise formats id = some (txn.getPromise id)
  getTask : ∀ id, raw.getTask formats id = some (txn.getTask id)
  getSchedule : ∀ id, raw.getSchedule formats id = some (txn.getSchedule id)
  promises : raw.promises formats = some txn.promises
  tasks : raw.tasks formats = some txn.tasks
  schedules : raw.schedules formats = some txn.schedules
  preload : ∀ promise, raw.preload formats promise = some (txn.preload promise)

namespace Represents

variable {β : Type} {formats : Formats β} {raw : RawTxn β} {txn : Txn}

/-! ## Writes -/

/-- A write under the key of a place is a write to its table. -/
theorem write (represents : Represents formats raw txn) (next : Txn) (place : Place) (value : Option Entry)
    (fits : ∀ entry, value = some entry → entry.Fits)
    (kv : next.kv = txn.kv) (limit : next.preloadLimit = txn.preloadLimit)
    (found : ∀ other, next.writes.find other =
      if place = other then some value else txn.writes.find other)
    (indexing : ∀ (key : String) (value : Option Unit), next.writes.branches[key]? = some value →
      ∃ name, key = Keys.branchIndex ++ name) :
    Represents formats (raw.write place.key (value.map (·.raw formats))) next := by
  refine ⟨represents.limit.trans limit.symm, ?_, ?_, ?_, ?_, represents.placed, ?_, ?_, indexing⟩
  · rw [kv]
    exact represents.fits
  · intro other entry written
    rw [found] at written
    split at written
    · exact fits entry (Option.some.inj written)
    · exact represents.fitting other entry written
  · intro other
    rw [kv]
    exact represents.stored other
  · intro other
    unfold RawTxn.write
    dsimp only
    rw [Table.find_insert, found]
    by_cases same : place = other
    · rw [if_pos (congrArg Place.key same), if_pos same]
      rfl
    · rw [if_neg (fun keys => same (key_injective keys)), if_neg same]
      exact represents.written other
  · intro key stored present
    unfold RawTxn.write at present
    dsimp only at present
    rw [Table.find_insert] at present
    split at present
    · rename_i same
      exact ⟨place, same.symm⟩
    · exact represents.replaced key stored present
  · rw [kv]
    exact represents.indexed

theorem putPromise (represents : Represents formats raw txn) (promise : StoredPromise)
    (fits : promise.record.Fits) :
    Represents formats (raw.putPromise formats promise) (txn.putPromise promise) := by
  refine represents.write (txn.putPromise promise) (.promise promise.record.id)
    (some (.promise promise)) (by rintro _ ⟨⟩; exact fits) rfl rfl ?_ represents.indexing
  intro other
  cases other with
  | promise id =>
      simp only [Writes.find, Txn.putPromise, Table.find_insert, Place.promise.injEq]
      split <;> rfl
  | task | schedule | entry => rfl

theorem putTask (represents : Represents formats raw txn) (task : StoredTask) (fits : task.Fits) :
    Represents formats (raw.putTask formats task) (txn.putTask task) := by
  refine represents.write (txn.putTask task) (.task task.id) (some (.task task))
    (by rintro _ ⟨⟩; exact fits) rfl rfl ?_ represents.indexing
  intro other
  cases other with
  | task id =>
      simp only [Writes.find, Txn.putTask, Table.find_insert, Place.task.injEq]
      split <;> rfl
  | promise | schedule | entry => rfl

theorem putSchedule (represents : Represents formats raw txn) (schedule : ScheduleRecord)
    (fits : schedule.Fits) :
    Represents formats (raw.putSchedule formats schedule) (txn.putSchedule schedule) := by
  refine represents.write (txn.putSchedule schedule) (.schedule schedule.id)
    (some (.schedule schedule)) (by rintro _ ⟨⟩; exact fits) rfl rfl ?_ represents.indexing
  intro other
  cases other with
  | schedule id =>
      simp only [Writes.find, Txn.putSchedule, Table.find_insert, Place.schedule.injEq]
      split <;> rfl
  | promise | task | entry => rfl

theorem deleteSchedule (represents : Represents formats raw txn) (id : String) :
    Represents formats (raw.deleteSchedule id) (txn.deleteSchedule id) := by
  refine represents.write (txn.deleteSchedule id) (.schedule id) none nofun rfl rfl ?_
    represents.indexing
  intro other
  cases other with
  | schedule id =>
      simp only [Writes.find, Txn.deleteSchedule, Table.find_insert, Place.schedule.injEq]
      split <;> rfl
  | promise | task | entry => rfl

theorem indexBranch (represents : Represents formats raw txn) (promise : PromiseRecord) :
    Represents formats (raw.indexBranch formats promise) (txn.indexBranch promise) := by
  unfold RawTxn.indexBranch Txn.indexBranch
  cases promise.tags[tagBranch]? with
  | none => exact represents
  | some branch =>
      have named : Keys.branchKey branch promise.id =
          Keys.branchIndex ++ (branch ++ "\x00" ++ promise.id) := by
        unfold Keys.branchKey Keys.branchPrefix
        simp only [String.append_assoc]
      have placed : RawKeys.branchKey branch promise.id =
          (Place.entry (branch ++ "\x00" ++ promise.id)).key := by
        rw [branchKey_bytes, named, bytes_append]
        rfl
      dsimp only
      rw [placed]
      refine represents.write _ (.entry (branch ++ "\x00" ++ promise.id)) (some .mark)
        (by rintro _ ⟨⟩; trivial) rfl rfl ?_ ?_
      · intro other
        cases other with
        | entry name =>
            simp only [Writes.find, Table.find_insert, Place.entry.injEq, named]
            by_cases same : branch ++ "\x00" ++ promise.id = name
            · rw [if_pos same, if_pos (congrArg (Keys.branchIndex ++ ·) same)]
              rfl
            · rw [if_neg same, if_neg fun keys => same (append_inj _ keys)]
        | promise | task | schedule => rfl
      · intro key value present
        dsimp only at present
        rw [Table.find_insert] at present
        split at present
        · rename_i same
          exact ⟨_, same ▸ named⟩
        · exact represents.indexing key value present

/-- What a place reads as through the buffer. -/
theorem find_apply (kv : Kv) (writes : Writes) (place : Place) :
    (kv.apply writes).find place = match writes.find place with
      | some written => written
      | none => kv.find place := by
  cases place with
  | promise id =>
      simp only [Kv.find, Writes.find, Kv.apply, Table.find_apply, Table.read]
      cases writes.promises[id]? <;> rfl
  | task id =>
      simp only [Kv.find, Writes.find, Kv.apply, Table.find_apply, Table.read]
      cases writes.tasks[id]? <;> rfl
  | schedule id =>
      simp only [Kv.find, Writes.find, Kv.apply, Table.find_apply, Table.read]
      cases writes.schedules[id]? <;> rfl
  | entry name =>
      simp only [Kv.find, Writes.find, Kv.apply, Table.find_apply, Table.read]
      cases writes.branches[Keys.branchIndex ++ name]? <;> rfl

/-- What is read through the buffer fits. -/
theorem fits_apply (represents : Represents formats raw txn) (place : Place) (entry : Entry)
    (found : (txn.kv.apply txn.writes).find place = some entry) : entry.Fits := by
  rw [find_apply] at found
  split at found
  · rename_i written replaced
    exact represents.fitting place entry (replaced.trans (congrArg some found))
  · exact represents.fits place entry found

/-- A read of a key through the buffer. -/
theorem getRaw (represents : Represents formats raw txn) (place : Place) :
    raw.getRaw place.key = ((txn.kv.apply txn.writes).find place).map (·.raw formats) := by
  unfold RawTxn.getRaw Table.read
  rw [represents.written, represents.stored, find_apply]
  cases txn.writes.find place <;> rfl

theorem empty (formats : Formats β) (env : Env) :
    Represents formats ⟨∅, ∅, env.preloadLimit⟩ (System.empty.txn env) where
  limit := rfl
  fits place entry found := by
    cases place <;> simp [Kv.find, System.txn, System.empty, Kv.empty] at found
  fitting place entry found := by
    cases place <;> simp [Writes.find, System.txn, System.empty, Writes.empty] at found
  stored place := by
    rw [Std.ExtTreeMap.getElem?_empty]
    cases place <;> simp [Kv.find, System.txn, System.empty, Kv.empty]
  written place := by
    rw [Std.ExtTreeMap.getElem?_empty]
    cases place <;> simp [Writes.find, System.txn, System.empty, Writes.empty]
  placed key value present := by
    rw [Std.ExtTreeMap.getElem?_empty] at present
    cases present
  replaced key value present := by
    rw [Std.ExtTreeMap.getElem?_empty] at present
    cases present
  indexed key present := by simp [System.txn, System.empty, Kv.empty] at present
  indexing key value present := by simp [System.txn, System.empty, Writes.empty] at present

/-- The bytes written hold nothing, and so does the buffer. -/
theorem cleared {kv : Table Bytes β} {tables : Kv}
    (limit : raw.preloadLimit = txn.preloadLimit)
    (fits : ∀ place entry, tables.find place = some entry → entry.Fits)
    (stored : ∀ place : Place, kv[place.key]? = (tables.find place).map (·.raw formats))
    (placed : ∀ (key : Bytes) (value : β), kv[key]? = some value → ∃ place : Place, key = place.key)
    (indexed : ∀ (key : String), tables.branches[key]? = some () →
      ∃ name, key = Keys.branchIndex ++ name) :
    Represents formats { raw with kv, writes := ∅ } { txn with kv := tables, writes := .empty } where
  limit := limit
  fits := fits
  fitting place entry found := by
    cases place <;> simp [Writes.find, Writes.empty] at found
  stored := stored
  written place := by
    dsimp only
    rw [Std.ExtTreeMap.getElem?_empty]
    cases place <;> simp [Writes.find, Writes.empty]
  placed := placed
  replaced key value present := by
    dsimp only at present
    rw [Std.ExtTreeMap.getElem?_empty] at present
    cases present
  indexed := indexed
  indexing key value present := by simp [Writes.empty] at present

theorem commit (represents : Represents formats raw txn) :
    Represents formats { raw with kv := raw.commit, writes := ∅ }
      { txn with kv := txn.commit.kv, writes := .empty } := by
  refine cleared represents.limit represents.fits_apply ?_ ?_ ?_
  · intro place
    have read := represents.getRaw place
    unfold RawTxn.commit
    rw [Table.find_apply]
    exact read
  · intro key value present
    unfold RawTxn.commit at present
    rw [Table.find_apply] at present
    unfold Table.read at present
    split at present
    · rename_i written found
      exact represents.replaced key written found
    · exact represents.placed key value present
  · intro key present
    change (Table.apply txn.kv.branches txn.writes.branches)[key]? = some () at present
    rw [Table.find_apply] at present
    unfold Table.read at present
    split at present
    · rename_i written found
      exact represents.indexing key written found
    · exact represents.indexed key present

theorem discard (represents : Represents formats raw txn) :
    Represents formats { raw with writes := ∅ }
      { txn with kv := txn.discard.kv, writes := .empty } :=
  cleared represents.limit represents.fits represents.stored represents.placed represents.indexed

/-! ## Reads -/

/-- A record decodes to what its place holds. -/
theorem getJson {α : Type} (represents : Represents formats raw txn) (place : Place)
    {decode : Json.Decoder α} {record : Option α} {value : α → Json} {entry : α → Entry}
    (undoes : ∀ record, decode (value record) = some record)
    (written : ∀ record, (entry record).raw formats = formats.toVec (value record))
    (found : (txn.kv.apply txn.writes).find place = record.map entry)
    (stores : ∀ record, (entry record).Fits → Stored formats.ids (value record)) :
    raw.getJson formats decode place.key = some record := by
  unfold RawTxn.getJson
  rw [represents.getRaw, found]
  cases record with
  | none => rfl
  | some record =>
      change ((formats.fromSlice ((entry record).raw formats)).bind decode).map some = _
      have kept := stores record (represents.fits_apply place _ found)
      rw [written, formats.fromSlice_toVec _ kept, Option.bind_some, undoes]
      rfl

theorem getPromise (represents : Represents formats raw txn) (id : String) :
    raw.getPromise formats id = some (txn.getPromise id) :=
  represents.getJson (.promise id) StoredPromise.ofJson_json (fun _ => rfl)
    (congrArg (Option.map Entry.promise) (Table.find_apply _ _ id)) Stored.promise

theorem getTask (represents : Represents formats raw txn) (id : String) :
    raw.getTask formats id = some (txn.getTask id) :=
  represents.getJson (.task id) (StoredTask.ofJson_json formats.ids) (fun _ => rfl)
    (congrArg (Option.map Entry.task) (Table.find_apply _ _ id)) Stored.task

theorem getSchedule (represents : Represents formats raw txn) (id : String) :
    raw.getSchedule formats id = some (txn.getSchedule id) :=
  represents.getJson (.schedule id) ScheduleRecord.ofJson_json (fun _ => rfl)
    (congrArg (Option.map Entry.schedule) (Table.find_apply _ _ id)) Stored.schedule

/-! ## Listings -/

/-- The listing of a prefix decodes to the records of its table, in the order of their ids. -/
theorem list {α : Type} (represents : Represents formats raw txn) (table : Table String α)
    {stem : Bytes} {place : String → Place} (kind : Place.Kind stem place) {decode : Json.Decoder α}
    {value : α → Json} {entry : α → Entry} (undoes : ∀ record, decode (value record) = some record)
    (written : ∀ record, (entry record).raw formats = formats.toVec (value record))
    (found : ∀ id, txn.kv.find (place id) = table[id]?.map entry)
    (stores : ∀ record, (entry record).Fits → Stored formats.ids (value record)) :
    raw.list formats decode stem = some (table.toList.map (·.2)) := by
  have whole (key : Bytes) (stored : β) :
      raw.kv[key]? = some stored ∧ decide (stem <+: key) = true ↔
        ∃ id record, table[id]? = some record ∧ true = true ∧ key = stem ++ bytes id ∧
          stored = formats.toVec (value record) := by
    constructor
    · rintro ⟨present, leads⟩
      obtain ⟨other, rfl⟩ := represents.placed key stored present
      have leads := of_decide_eq_true leads
      rw [← kind.stem_eq ""] at leads
      have same := kind.only other ((stem_of_leads leads).trans (kind.stem_eq ""))
      rw [represents.stored, same, found, Option.map_map] at present
      obtain ⟨record, listed, rfl⟩ := Option.map_eq_some_iff.mp present
      refine ⟨other.name, record, listed, rfl, ?_, written record⟩
      rw [← kind.key_eq, ← same]
    · rintro ⟨id, record, listed, -, rfl, rfl⟩
      constructor
      · rw [← kind.key_eq, represents.stored, found, listed, ← written]
        rfl
      · exact decide_eq_true (List.prefix_append _ _)
  have rising (first second : String) (less : first < second) :
      compare (stem ++ bytes first) (stem ++ bytes second) = .lt := by
    rw [Codes.compare_common]
    exact bytes_less less
  have entries := filter_entries rising whole
  have kept : ∀ listed ∈ table.toList, Stored formats.ids (value listed.2) := by
    intro listed member
    have present := Std.ExtTreeMap.mem_toList_iff_getElem?_eq_some.mp member
    refine stores listed.2 (represents.fits (place listed.1) _ ?_)
    rw [found, present]
    rfl
  unfold RawTxn.list RawTxn.entries
  rw [entries, List.filter_true]
  generalize table.toList = records at kept
  induction records with
  | nil => rfl
  | cons head rest ih =>
      rw [List.map_cons, List.mapM_cons, ih fun other member => kept other (List.mem_cons_of_mem _ member)]
      dsimp only
      rw [formats.fromSlice_toVec _ (kept head List.mem_cons_self), Option.bind_some, undoes]
      rfl

theorem promises (represents : Represents formats raw txn) :
    raw.promises formats = some txn.promises := by
  have listed := represents.list txn.kv.promises promise_kind StoredPromise.ofJson_json (fun _ => rfl)
    (fun _ => rfl) Stored.promise
  unfold RawTxn.promises Txn.promises
  rw [listed, Option.map_some, List.map_map]
  rfl

theorem tasks (represents : Represents formats raw txn) : raw.tasks formats = some txn.tasks :=
  represents.list txn.kv.tasks task_kind (StoredTask.ofJson_json formats.ids) (fun _ => rfl)
    (fun _ => rfl) Stored.task

theorem schedules (represents : Represents formats raw txn) :
    raw.schedules formats = some txn.schedules :=
  represents.list txn.kv.schedules schedule_kind ScheduleRecord.ofJson_json (fun _ => rfl)
    (fun _ => rfl) Stored.schedule

/-! ## Siblings -/

theorem scanBranch_bytes (pre self : String) (limit : Nat) (ids keys : List String) :
    RawTxn.scanBranch (bytes pre) self limit ids (keys.map bytes) =
      Txn.scanBranch pre self limit ids keys := by
  induction keys generalizing ids with
  | nil => rfl
  | cons key rest ih =>
      rw [List.map_cons, RawTxn.scanBranch, Txn.scanBranch, branchEntryId_bytes]
      cases Keys.branchEntryId pre key with
      | none => exact ih ids
      | some id =>
          dsimp only
          rw [ih]

theorem addWritten_bytes (formats : Formats β) (pre self : String) (ids : List String)
    (entries : List (String × Option Unit)) :
    RawTxn.addWritten (bytes pre) self ids
        (entries.map fun entry => (bytes entry.1, entry.2.map fun _ => formats.empty)) =
      Txn.addWritten pre self ids entries := by
  induction entries generalizing ids with
  | nil => rfl
  | cons entry rest ih =>
      obtain ⟨key, value⟩ := entry
      rw [List.map_cons]
      unfold RawTxn.addWritten Txn.addWritten
      dsimp only
      rw [branchEntryId_bytes]
      cases value with
      | none => exact ih ids
      | some mark =>
          cases Keys.branchEntryId pre key with
          | none => exact ih ids
          | some id =>
              dsimp only [Option.map_some]
              rw [ih, ih]

/-- The entries of a branch, in the index of bytes and in that of texts. -/
theorem branch_whole {ν γ : Type} {raw : Table Bytes γ} {table : Table String ν} {mark : ν → γ}
    (placed : ∀ key value, raw[key]? = some value → ∃ place : Place, key = place.key)
    (indexed : ∀ (key : String) (value : ν), table[key]? = some value →
      ∃ name, key = Keys.branchIndex ++ name)
    (found : ∀ name, raw[(Place.entry name).key]? = table[Keys.branchIndex ++ name]?.map mark)
    (branch : String) (key : Bytes) (value : γ) :
    raw[key]? = some value ∧ decide (RawKeys.branchPrefix branch <+: key) = true ↔
      ∃ id record, table[id]? = some record ∧ Txn.startsWith (Keys.branchPrefix branch) id = true ∧
        key = bytes id ∧ value = mark record := by
  constructor
  · rintro ⟨present, leads⟩
    obtain ⟨place, rfl⟩ := placed key value present
    have leads := of_decide_eq_true leads
    have within : (Place.entry "").stem <+: place.key := by
      refine List.IsPrefix.trans ?_ leads
      unfold RawKeys.branchPrefix
      rw [List.append_assoc]
      exact List.prefix_append _ _
    have same := entry_kind.only place (stem_of_leads within)
    rw [same, found] at present
    obtain ⟨record, listed, rfl⟩ := Option.map_eq_some_iff.mp present
    have named : place.key = bytes (Keys.branchIndex ++ place.name) := by
      rw [same, bytes_append]
      rfl
    rw [named, branchPrefix_bytes, startsWith_bytes] at leads
    exact ⟨_, record, listed, leads, named, rfl⟩
  · rintro ⟨id, record, listed, leads, rfl, rfl⟩
    obtain ⟨name, rfl⟩ := indexed id record listed
    constructor
    · rw [bytes_append]
      exact (found name).trans (by rw [listed]; rfl)
    · rw [branchPrefix_bytes]
      exact decide_eq_true ((startsWith_bytes _ _).mpr leads)

theorem preload (represents : Represents formats raw txn) (promise : PromiseRecord) :
    raw.preload formats promise = some (txn.preload promise) := by
  unfold RawTxn.preload Txn.preload
  cases promise.tags[tagBranch]? with
  | none => rfl
  | some branch =>
      have committed := filter_entries (fun _ _ => bytes_less)
        (branch_whole represents.placed (fun key value present => represents.indexed key present)
          (fun name => by
            rw [represents.stored]
            exact Option.map_map ..) branch)
      have written := filter_entries (fun _ _ => bytes_less)
        (branch_whole represents.replaced (fun key value present => represents.indexing key value present)
          (fun name => by
            rw [represents.written]
            exact Option.map_map ..) branch)
      have keys : (raw.entries (RawKeys.branchPrefix branch)).map Prod.fst =
          ((txn.kv.branches.toList.map Prod.fst).filter
            (Txn.startsWith (Keys.branchPrefix branch))).map bytes := by
        unfold RawTxn.entries
        rw [committed, List.map_map, List.filter_map, List.map_map]
        rfl
      have ranged : raw.range (RawKeys.branchPrefix branch) =
          ((txn.writes.branches.toList.dropWhile (·.1 < Keys.branchPrefix branch)).takeWhile
            fun entry => Txn.startsWith (Keys.branchPrefix branch) entry.1).map
              fun entry => (bytes entry.1, entry.2.map fun _ => formats.empty) := by
        rw [range_eq, written, written_eq]
        refine List.map_congr_left fun entry _ => congrArg _ ?_
        cases entry.2 <;> rfl
      dsimp only
      rw [keys, ranged, branchPrefix_bytes, scanBranch_bytes, addWritten_bytes, represents.limit]
      have read (ids : List String) :
          ids.mapM (fun id => raw.getPromise formats id) = some (ids.map txn.getPromise) := by
        induction ids with
        | nil => rfl
        | cons id rest ih =>
            rw [List.mapM_cons, ih, represents.getPromise]
            rfl
      rw [read, Option.map_some, List.filterMap_map]
      rfl

/-- Every read and every listing of the bytes is that of the tables, and nothing stored fails to
decode. -/
theorem agrees (represents : Represents formats raw txn) : Agree formats raw txn where
  getPromise := represents.getPromise
  getTask := represents.getTask
  getSchedule := represents.getSchedule
  promises := represents.promises
  tasks := represents.tasks
  schedules := represents.schedules
  preload := represents.preload

end Represents

/-! ## Runs -/

/-- What requests do to the store: the writes of their transactions and how these end. -/
inductive Access
  | putPromise (promise : StoredPromise)
  | indexBranch (promise : PromiseRecord)
  | putTask (task : StoredTask)
  | putSchedule (schedule : ScheduleRecord)
  | deleteSchedule (id : String)
  | commit
  | discard

/-- The whole numbers of a record that is written are of 64 bits. -/
def Access.Fits : Access → Prop
  | .putPromise stored => stored.record.Fits
  | .putTask stored => stored.Fits
  | .putSchedule record => record.Fits
  | .indexBranch _ | .deleteSchedule _ | .commit | .discard => True

instance : (access : Access) → Decidable access.Fits
  | .putPromise stored => inferInstanceAs (Decidable stored.record.Fits)
  | .putTask stored => inferInstanceAs (Decidable stored.Fits)
  | .putSchedule record => inferInstanceAs (Decidable record.Fits)
  | .indexBranch _ | .deleteSchedule _ | .commit | .discard => isTrue trivial

def Access.perform (txn : Txn) : Access → Txn
  | .putPromise stored => txn.putPromise stored
  | .indexBranch record => txn.indexBranch record
  | .putTask stored => txn.putTask stored
  | .putSchedule record => txn.putSchedule record
  | .deleteSchedule id => txn.deleteSchedule id
  | .commit => { txn with kv := txn.commit.kv, writes := .empty }
  | .discard => { txn with kv := txn.discard.kv, writes := .empty }

def Access.performRaw {β : Type} (formats : Formats β) (raw : RawTxn β) : Access → RawTxn β
  | .putPromise stored => raw.putPromise formats stored
  | .indexBranch record => raw.indexBranch formats record
  | .putTask stored => raw.putTask formats stored
  | .putSchedule record => raw.putSchedule formats record
  | .deleteSchedule id => raw.deleteSchedule id
  | .commit => { raw with kv := raw.commit, writes := ∅ }
  | .discard => { raw with writes := ∅ }

theorem Represents.perform {β : Type} {formats : Formats β} {raw : RawTxn β} {txn : Txn}
    (represents : Represents formats raw txn) (access : Access) (fits : access.Fits) :
    Represents formats (access.performRaw formats raw) (access.perform txn) := by
  cases access with
  | putPromise promise => exact represents.putPromise promise fits
  | indexBranch promise => exact represents.indexBranch promise
  | putTask task => exact represents.putTask task fits
  | putSchedule schedule => exact represents.putSchedule schedule fits
  | deleteSchedule id => exact represents.deleteSchedule id
  | commit => exact represents.commit
  | discard => exact represents.discard

/-- Whatever requests write, commit and discard, with whole numbers of 64 bits, one namespace of bytes
answers every read, every listing and every preload as the tables of records do. -/
theorem bytes_hold_tables {β : Type} (formats : Formats β) (env : Env) (accesses : List Access)
    (fits : ∀ access ∈ accesses, access.Fits) :
    Agree formats (accesses.foldl (Access.performRaw formats) ⟨∅, ∅, env.preloadLimit⟩)
      (accesses.foldl Access.perform (System.empty.txn env)) := by
  have represents : Represents formats
      (accesses.foldl (Access.performRaw formats) ⟨∅, ∅, env.preloadLimit⟩)
      (accesses.foldl Access.perform (System.empty.txn env)) := by
    have start := Represents.empty formats env
    generalize (⟨∅, ∅, env.preloadLimit⟩ : RawTxn β) = raw at start ⊢
    generalize System.empty.txn env = txn at start ⊢
    induction accesses generalizing raw txn with
    | nil => exact start
    | cons access rest ih =>
        exact ih (fun later member => fits later (List.mem_cons_of_mem _ member)) _ _
          (start.perform access (fits access List.mem_cons_self))
  exact represents.agrees

/-- JSON values as they are, and job ids in unary. -/
def Formats.sample : Formats Json where
  toVec value := value
  fromSlice := some
  empty := .null
  ids := .unary
  fromSlice_toVec _ _ := rfl

/-- A sibling on the branch of `sampleAwaited`. -/
def sampleSibling : StoredPromise where
  record := { sampleAwaited.record with id := "root:1" }
  callbacks := []
  listeners := []

/-- A promise on a branch, a task and a schedule are committed, and a sibling is written. -/
def sampleAccesses : List Access :=
  [.putPromise sampleAwaited, .indexBranch sampleAwaited.record, .putTask sampleAwaiting,
    .putSchedule sampleSchedule, .commit, .putPromise sampleSibling,
    .indexBranch sampleSibling.record]

/-- The bytes of these writes give the records back, list those that are committed and preload both
siblings. -/
theorem bytes_hold_tables_written :
    let raw := sampleAccesses.foldl (Access.performRaw Formats.sample) ⟨∅, ∅, 10⟩
    raw.getPromise Formats.sample "root:0" = some (some sampleAwaited) ∧
      raw.getTask Formats.sample "root" = some (some sampleAwaiting) ∧
      raw.getSchedule Formats.sample "nightly" = some (some sampleSchedule) ∧
      raw.promises Formats.sample = some [sampleAwaited.record] ∧
      raw.preload Formats.sample { sampleAwaited.record with id := "root" } =
        some [sampleAwaited.record, sampleSibling.record] := by
  have fits : ∀ access ∈ sampleAccesses, access.Fits := by decide
  have agree := bytes_hold_tables Formats.sample .sample sampleAccesses fits
  refine ⟨(agree.getPromise _).trans ?_, (agree.getTask _).trans ?_, (agree.getSchedule _).trans ?_,
    agree.promises.trans ?_, (agree.preload _).trans ?_⟩
  · decide
  · decide
  · decide
  · decide
  · decide

end Resonate
