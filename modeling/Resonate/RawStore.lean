import Resonate.Wire

set_option autoImplicit false

/-! One namespace of bytes that holds every record, as the queue stores it. The tables of records
are what is read through its keys. -/

namespace Resonate

open Keys (bytes)
open Json (IsI64)

abbrev Bytes := List UInt8

/-- The whole numbers of a promise are of 64 bits. -/
def PromiseRecord.Fits (promise : PromiseRecord) : Prop :=
  IsI64 promise.timeoutAt ∧ IsI64 promise.createdAt ∧ ∀ time ∈ promise.settledAt, IsI64 time

def StoredTask.Fits (task : StoredTask) : Prop := IsI64 task.version ∧ ∀ ttl ∈ task.ttl, IsI64 ttl

def ScheduleRecord.Fits (schedule : ScheduleRecord) : Prop :=
  IsI64 schedule.promiseTimeout ∧ IsI64 schedule.createdAt ∧ IsI64 schedule.nextRunAt ∧
    ∀ time ∈ schedule.lastRunAt, IsI64 time

instance (promise : PromiseRecord) : Decidable promise.Fits :=
  inferInstanceAs (Decidable (_ ∧ _ ∧ ∀ time ∈ promise.settledAt, IsI64 time))

instance (task : StoredTask) : Decidable task.Fits :=
  inferInstanceAs (Decidable (_ ∧ ∀ ttl ∈ task.ttl, IsI64 ttl))

instance (schedule : ScheduleRecord) : Decidable schedule.Fits :=
  inferInstanceAs (Decidable (_ ∧ _ ∧ _ ∧ ∀ time ∈ schedule.lastRunAt, IsI64 time))

/-- The values the store writes under the keys of records. -/
inductive Stored (ids : JobIds) : Json → Prop
  | promise (promise : StoredPromise) (fits : promise.record.Fits) : Stored ids promise.json
  | task (task : StoredTask) (fits : task.Fits) : Stored ids (task.json ids)
  | schedule (schedule : ScheduleRecord) (fits : schedule.Fits) : Stored ids schedule.json

/-- How records are written to the store and read back, and the empty value of an index entry. -/
structure Formats (β : Type) where
  toVec : Json → β
  fromSlice : β → Option Json
  empty : β
  ids : JobIds
  fromSlice_toVec : ∀ value, Stored ids value → fromSlice (toVec value) = some value

namespace RawKeys

def promisePrefix : Bytes := bytes "resonate/p/"

def taskPrefix : Bytes := bytes "resonate/t/"

def schedulePrefix : Bytes := bytes "resonate/s/"

def indexPrefix : Bytes := bytes Keys.branchIndex

def promiseKey (id : String) : Bytes := promisePrefix ++ bytes id

def taskKey (id : String) : Bytes := taskPrefix ++ bytes id

def scheduleKey (id : String) : Bytes := schedulePrefix ++ bytes id

def branchPrefix (branch : String) : Bytes := indexPrefix ++ bytes branch ++ [0]

def branchKey (branch id : String) : Bytes := branchPrefix branch ++ bytes id

/-- The promise id of an index key, where what follows the prefix is UTF-8. -/
def branchEntryId (pre key : Bytes) : Option String :=
  if pre <+: key then String.fromUTF8? ⟨(key.drop pre.length).toArray⟩ else none

end RawKeys

/-- A request's transaction over the bytes of the store. -/
structure RawTxn (β : Type) where
  kv : Table Bytes β
  writes : Table.Buffer Bytes β
  preloadLimit : Nat

namespace RawTxn

variable {α β : Type} (formats : Formats β)

def getRaw (txn : RawTxn β) (key : Bytes) : Option β := Table.read txn.kv txn.writes key

/-- The outer `none` is a stored value that does not decode. -/
def getJson (decode : Json.Decoder α) (txn : RawTxn β) (key : Bytes) : Option (Option α) :=
  match txn.getRaw key with
  | some stored => ((formats.fromSlice stored).bind decode).map some
  | none => some none

def write (txn : RawTxn β) (key : Bytes) (value : Option β) : RawTxn β :=
  { txn with writes := txn.writes.insert key value }

def putJson (txn : RawTxn β) (key : Bytes) (value : Json) : RawTxn β :=
  txn.write key (some (formats.toVec value))

def getPromise (txn : RawTxn β) (id : String) : Option (Option StoredPromise) :=
  txn.getJson formats StoredPromise.ofJson (RawKeys.promiseKey id)

def putPromise (txn : RawTxn β) (promise : StoredPromise) : RawTxn β :=
  txn.putJson formats (RawKeys.promiseKey promise.record.id) promise.json

def indexBranch (txn : RawTxn β) (promise : PromiseRecord) : RawTxn β :=
  match promise.tags[tagBranch]? with
  | some branch => txn.write (RawKeys.branchKey branch promise.id) (some formats.empty)
  | none => txn

def getTask (txn : RawTxn β) (id : String) : Option (Option StoredTask) :=
  txn.getJson formats (StoredTask.ofJson formats.ids) (RawKeys.taskKey id)

def putTask (txn : RawTxn β) (task : StoredTask) : RawTxn β :=
  txn.putJson formats (RawKeys.taskKey task.id) (task.json formats.ids)

def getSchedule (txn : RawTxn β) (id : String) : Option (Option ScheduleRecord) :=
  txn.getJson formats ScheduleRecord.ofJson (RawKeys.scheduleKey id)

def putSchedule (txn : RawTxn β) (schedule : ScheduleRecord) : RawTxn β :=
  txn.putJson formats (RawKeys.scheduleKey schedule.id) schedule.json

def deleteSchedule (txn : RawTxn β) (id : String) : RawTxn β :=
  txn.write (RawKeys.scheduleKey id) none

/-- Every committed entry with a prefix, in key order. -/
def entries (txn : RawTxn β) (pre : Bytes) : List (Bytes × β) :=
  txn.kv.toList.filter fun entry => decide (pre <+: entry.1)

def list (decode : Json.Decoder α) (txn : RawTxn β) (pre : Bytes) : Option (List α) :=
  (txn.entries pre).mapM fun entry => (formats.fromSlice entry.2).bind decode

def promises (txn : RawTxn β) : Option (List PromiseRecord) :=
  (txn.list formats StoredPromise.ofJson RawKeys.promisePrefix).map (·.map (·.record))

def tasks (txn : RawTxn β) : Option (List StoredTask) :=
  txn.list formats (StoredTask.ofJson formats.ids) RawKeys.taskPrefix

def schedules (txn : RawTxn β) : Option (List ScheduleRecord) :=
  txn.list formats ScheduleRecord.ofJson RawKeys.schedulePrefix

/-- The ascending scan of the committed index. -/
def scanBranch (pre : Bytes) (self : String) (limit : Nat) : List String → List Bytes → List String
  | ids, [] => ids
  | ids, key :: rest =>
      match RawKeys.branchEntryId pre key with
      | none => scanBranch pre self limit ids rest
      | some id =>
          let ids := if id ≠ self then ids ++ [id] else ids
          if limit < ids.length then ids else scanBranch pre self limit ids rest

/-- The siblings this request indexed, added to those of the scan. -/
def addWritten (pre : Bytes) (self : String) (ids : List String) :
    List (Bytes × Option β) → List String
  | [] => ids
  | (key, value) :: rest =>
      match value, RawKeys.branchEntryId pre key with
      | some _, some id =>
          if id ≠ self ∧ id ∉ ids then addWritten pre self (ids ++ [id]) rest
          else addWritten pre self ids rest
      | _, _ => addWritten pre self ids rest

/-- The written entries from a prefix on, up to the first without it. -/
def range (txn : RawTxn β) (pre : Bytes) : List (Bytes × Option β) :=
  (txn.writes.toList.dropWhile fun entry => compare entry.1 pre == .lt).takeWhile
    fun entry => decide (pre <+: entry.1)

def preload (txn : RawTxn β) (promise : PromiseRecord) : Option (List PromiseRecord) :=
  match promise.tags[tagBranch]? with
  | none => some []
  | some branch =>
      let pre := RawKeys.branchPrefix branch
      let ids := scanBranch pre promise.id txn.preloadLimit [] ((txn.entries pre).map Prod.fst)
      let ids := addWritten pre promise.id ids (txn.range pre)
      let ids := (ids.insertionSort (· ≤ ·)).take txn.preloadLimit
      (ids.mapM fun id => txn.getPromise formats id).map fun found =>
        found.filterMap fun sibling => sibling.map (·.record)

/-- The bytes of the store after the commit. -/
def commit (txn : RawTxn β) : Table Bytes β := Table.apply txn.kv txn.writes

end RawTxn

end Resonate
