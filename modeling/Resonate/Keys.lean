import Resonate.Text

set_option autoImplicit false

namespace Resonate

/-- What the crate takes from other crates and from its options: whether an address parses
as a URL, the next firing of a cron expression, the SHA-256 digest, the queue name limit,
the lease of a delivered message and the number of siblings returned with a task. -/
structure Env where
  isUrl : String → Bool
  nextAfter : String → Int → Option Int
  sha256 : List UInt8 → List UInt8
  maxQueueNameLen : Nat
  retryTimeout : Nat
  preloadLimit : Nat

/-- An environment with one address scheme and one cron expression, the start of every minute. -/
def Env.sample : Env where
  isUrl address := (Text.stripPrefix address "poll://").isSome
  nextAfter cron time := if cron = "* * * * *" then some ((time / 60000 + 1) * 60000) else none
  sha256 _ := []
  maxQueueNameLen := 200
  retryTimeout := 30
  preloadLimit := 10

namespace Keys

def timerQueue : String := "resonate.timers"

def branchIndex : String := "resonate/b/"

def isAsciiAlphanumeric (byte : UInt8) : Bool :=
  (48 ≤ byte && byte ≤ 57) || (65 ≤ byte && byte ≤ 90) || (97 ≤ byte && byte ≤ 122)

/-- A hexadecimal digit whose letters start at `letter`. -/
def hexDigit (letter : Char) (value : Nat) : Char :=
  if value < 10 then Char.ofNat ('0'.toNat + value) else Char.ofNat (letter.toNat + (value - 10))

def hexByte (letter : Char) (byte : UInt8) : List Char :=
  [hexDigit letter (byte.toNat / 16), hexDigit letter (byte.toNat % 16)]

def escapeByte (byte : UInt8) : List Char :=
  if isAsciiAlphanumeric byte || byte == 46 || byte == 45 then [Char.ofNat byte.toNat]
  else '_' :: hexByte 'A' byte

def bytes (text : String) : List UInt8 := text.toUTF8.data.toList

/-- The queue of the jobs for `address`. Each byte outside `[A-Za-z0-9.-]` is escaped, and a
name over the limit is replaced by the digest of the address. -/
def addressQueue (env : Env) (address : String) : String :=
  let name := "resonate.a.".toList ++ (bytes address).flatMap escapeByte
  if name.length ≤ env.maxQueueNameLen then String.ofList name
  else String.ofList ("resonate.h.".toList ++ (env.sha256 (bytes address)).flatMap (hexByte 'a'))

/-- The prefix of every index entry within `branch`. -/
def branchPrefix (branch : String) : String :=
  branchIndex ++ branch ++ "\x00"

/-- The index entry of promise `id` within `branch`. -/
def branchKey (branch id : String) : String :=
  branchPrefix branch ++ id

/-- The promise id of an index key. -/
def branchEntryId (pre key : String) : Option String :=
  Text.stripPrefix key pre

end Keys

end Resonate
