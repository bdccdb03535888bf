import Mathlib.Data.Set.Function
import Resonate.Keys

set_option autoImplicit false

/-! The names of the queues of addresses: distinct, valid and within the limit. -/

/-! ## Codes -/

namespace Code

variable {α β : Type} {code : α → List β}

/-- A code whose words can be cancelled from the front of a longer one. -/
def Cancels (code : α → List β) : Prop :=
  ∀ first second rest others, code first ++ rest = code second ++ others →
    first = second ∧ rest = others

theorem flatMap_injective (cancels : Cancels code) (nonempty : ∀ symbol, code symbol ≠ []) :
    Function.Injective (List.flatMap code) := by
  intro first second same
  induction first generalizing second with
  | nil =>
      cases second with
      | nil => rfl
      | cons head rest =>
          rw [List.flatMap_cons, List.flatMap_nil] at same
          exact absurd (List.append_eq_nil_iff.mp same.symm).1 (nonempty head)
  | cons head rest ih =>
      cases second with
      | nil =>
          rw [List.flatMap_cons, List.flatMap_nil] at same
          exact absurd (List.append_eq_nil_iff.mp same).1 (nonempty head)
      | cons other others =>
          rw [List.flatMap_cons, List.flatMap_cons] at same
          obtain ⟨heads, rests⟩ := cancels head other _ _ same
          rw [heads, ih rests]

end Code

namespace Resonate

namespace Keys

/-- The characters of queue names. -/
def isNameChar (char : Char) : Bool :=
  char.isAlphanum || char == '.' || char == '-' || char == '_'

/-! ## Bytes -/

theorem toNat_byte (byte : UInt8) : (Char.ofNat byte.toNat).toNat = byte.toNat := by
  have bounded := byte.toNat_lt
  rw [Char.toNat_ofNat, if_pos (.inl (by omega))]

/-- A byte is its character. -/
theorem ofNat_injective {first second : UInt8}
    (same : Char.ofNat first.toNat = Char.ofNat second.toNat) : first = second := by
  have codes := congrArg Char.toNat same
  rw [toNat_byte, toNat_byte] at codes
  exact UInt8.toNat_inj.mp codes

theorem upper_injective : ∀ first second : Fin 16,
    hexDigit 'A' first.val = hexDigit 'A' second.val → first = second := by decide

theorem lower_injective : ∀ first second : Fin 16,
    hexDigit 'a' first.val = hexDigit 'a' second.val → first = second := by decide

/-- A byte is its two hexadecimal digits. -/
theorem hexByte_cancels {letter : Char} (injective : ∀ first second : Fin 16,
    hexDigit letter first.val = hexDigit letter second.val → first = second) :
    Code.Cancels (hexByte letter) := by
  intro first second rest others same
  have bounded := first.toNat_lt
  have limited := second.toNat_lt
  simp only [hexByte, List.cons_append, List.nil_append, List.cons.injEq] at same
  obtain ⟨high, low, tails⟩ := same
  have upper := injective ⟨first.toNat / 16, by omega⟩ ⟨second.toNat / 16, by omega⟩ high
  have lower := injective ⟨first.toNat % 16, by omega⟩ ⟨second.toNat % 16, by omega⟩ low
  simp only [Fin.mk.injEq] at upper lower
  refine ⟨?_, tails⟩
  apply UInt8.toNat_inj.mp
  omega

/-- A byte that stands for itself in a name. -/
def isPlain (byte : UInt8) : Bool := isAsciiAlphanumeric byte || byte == 46 || byte == 45

theorem escapeByte_plain {byte : UInt8} (plain : isPlain byte = true) :
    escapeByte byte = [Char.ofNat byte.toNat] := if_pos plain

theorem escapeByte_escaped {byte : UInt8} (escaped : ¬ isPlain byte = true) :
    escapeByte byte = '_' :: hexByte 'A' byte := if_neg escaped

theorem ofNat_plain {byte : UInt8} (plain : isPlain byte = true) :
    Char.ofNat byte.toNat ≠ '_' := by
  intro same
  have own : byte = 95 := ofNat_injective same
  subst own
  revert plain
  decide

theorem escapeByte_cancels : Code.Cancels escapeByte := by
  intro first second rest others same
  by_cases plain : isPlain first = true
  · rw [escapeByte_plain plain] at same
    by_cases other : isPlain second = true
    · rw [escapeByte_plain other] at same
      obtain ⟨chars, tails⟩ := List.cons.inj same
      exact ⟨ofNat_injective chars, tails⟩
    · rw [escapeByte_escaped other] at same
      exact absurd (List.cons.inj same).1 (ofNat_plain plain)
  · rw [escapeByte_escaped plain] at same
    by_cases other : isPlain second = true
    · rw [escapeByte_plain other] at same
      exact absurd (List.cons.inj same).1.symm (ofNat_plain other)
    · rw [escapeByte_escaped other] at same
      exact hexByte_cancels upper_injective first second rest others (List.cons.inj same).2

theorem escapeByte_ne_nil (byte : UInt8) : escapeByte byte ≠ [] := by
  unfold escapeByte
  split <;> simp

theorem bytes_injective : Function.Injective bytes := by
  intro first second same
  apply String.toByteArray_inj.mp
  apply ByteArray.ext
  apply Array.toList_inj.mp
  exact same

/-- The escaped name of an address. -/
def escapedName (address : String) : List Char :=
  "resonate.a.".toList ++ (bytes address).flatMap escapeByte

/-- The name of the digest of an address. -/
def digestName (env : Env) (address : String) : List Char :=
  "resonate.h.".toList ++ (env.sha256 (bytes address)).flatMap (hexByte 'a')

/-- An address whose escaped name is over the limit. -/
def Hashed (env : Env) (address : String) : Prop :=
  env.maxQueueNameLen < (escapedName address).length

theorem addressQueue_escaped {env : Env} {address : String} (short : ¬ Hashed env address) :
    addressQueue env address = String.ofList (escapedName address) := by
  unfold addressQueue
  exact if_pos (Nat.not_lt.mp short)

theorem addressQueue_hashed {env : Env} {address : String} (long : Hashed env address) :
    addressQueue env address = String.ofList (digestName env address) := by
  unfold addressQueue
  exact if_neg (Nat.not_le.mpr long)

theorem escapedName_injective : Function.Injective escapedName := by
  intro first second same
  have names := List.append_cancel_left same
  exact bytes_injective (Code.flatMap_injective escapeByte_cancels escapeByte_ne_nil names)

theorem digestName_cancel {env : Env} {first second : String}
    (same : digestName env first = digestName env second) :
    env.sha256 (bytes first) = env.sha256 (bytes second) := by
  have names := List.append_cancel_left same
  exact Code.flatMap_injective (hexByte_cancels lower_injective) (fun byte => by simp [hexByte]) names

/-! ## Names -/

theorem addressQueue_cases (env : Env) (address : String) :
    (¬ Hashed env address ∧ (addressQueue env address).toList = escapedName address) ∨
      (Hashed env address ∧ (addressQueue env address).toList = digestName env address) := by
  by_cases long : Hashed env address
  · rw [addressQueue_hashed long, String.toList_ofList]
    exact .inr ⟨long, rfl⟩
  · rw [addressQueue_escaped long, String.toList_ofList]
    exact .inl ⟨long, rfl⟩

/-- An escaped name is no digest's. -/
theorem escapedName_ne (env : Env) (first second : String) :
    escapedName first ≠ digestName env second := by
  intro same
  unfold escapedName digestName at same
  simp at same

theorem addressQueue_ne_timer (env : Env) (address : String) :
    addressQueue env address ≠ timerQueue := by
  intro same
  have chars := congrArg String.toList same
  rcases addressQueue_cases env address with ⟨_, name⟩ | ⟨_, name⟩
  · rw [name] at chars
    unfold escapedName timerQueue at chars
    simp at chars
  · rw [name] at chars
    unfold digestName timerQueue at chars
    simp at chars

theorem hexDigit_valid : ∀ value : Fin 16, isNameChar (hexDigit 'A' value.val) = true ∧
    isNameChar (hexDigit 'a' value.val) = true := by decide

theorem hexByte_valid {letter : Char}
    (valid : ∀ value : Fin 16, isNameChar (hexDigit letter value.val) = true) (byte : UInt8) :
    ∀ char ∈ hexByte letter byte, isNameChar char = true := by
  intro char member
  have bounded := byte.toNat_lt
  simp only [hexByte, List.mem_cons, List.not_mem_nil, or_false] at member
  rcases member with rfl | rfl
  · exact valid ⟨byte.toNat / 16, by omega⟩
  · exact valid ⟨byte.toNat % 16, by omega⟩

theorem isNameChar_of_toNat {char : Char}
    (range : (48 ≤ char.toNat ∧ char.toNat ≤ 57) ∨ (65 ≤ char.toNat ∧ char.toNat ≤ 90) ∨
      (97 ≤ char.toNat ∧ char.toNat ≤ 122) ∨ char.toNat = 46 ∨ char.toNat = 45) :
    isNameChar char = true := by
  have dot : char.toNat = 46 → char = '.' := fun code => Char.toNat_inj.mp code
  have dash : char.toNat = 45 → char = '-' := fun code => Char.toNat_inj.mp code
  simp only [isNameChar, Char.isAlphanum, Char.isAlpha, Char.isUpper, Char.isLower, Char.isDigit,
    Bool.or_eq_true, Bool.and_eq_true, decide_eq_true_eq, beq_iff_eq, UInt32.le_iff_toNat_le]
  change (((((65 ≤ char.toNat ∧ char.toNat ≤ 90) ∨ 97 ≤ char.toNat ∧ char.toNat ≤ 122) ∨
    48 ≤ char.toNat ∧ char.toNat ≤ 57) ∨ char = '.') ∨ char = '-') ∨ char = '_'
  tauto

theorem plain_valid {byte : UInt8} (plain : isPlain byte = true) :
    isNameChar (Char.ofNat byte.toNat) = true := by
  apply isNameChar_of_toNat
  rw [toNat_byte]
  simp only [isPlain, isAsciiAlphanumeric, Bool.or_eq_true, Bool.and_eq_true, decide_eq_true_eq,
    beq_iff_eq, UInt8.le_iff_toNat_le] at plain
  have dot : byte = 46 → byte.toNat = 46 := fun same => by rw [same]; rfl
  have dash : byte = 45 → byte.toNat = 45 := fun same => by rw [same]; rfl
  change ((((48 ≤ byte.toNat ∧ byte.toNat ≤ 57) ∨ (65 ≤ byte.toNat ∧ byte.toNat ≤ 90) ) ∨
    97 ≤ byte.toNat ∧ byte.toNat ≤ 122) ∨ byte = 46) ∨ byte = 45 at plain
  tauto

theorem escapeByte_valid (byte : UInt8) : ∀ char ∈ escapeByte byte, isNameChar char = true := by
  intro char member
  by_cases plain : isPlain byte = true
  · rw [escapeByte_plain plain, List.mem_singleton] at member
    rw [member]
    exact plain_valid plain
  · rw [escapeByte_escaped plain] at member
    rcases List.mem_cons.mp member with rfl | digit
    · decide
    · exact hexByte_valid (fun value => (hexDigit_valid value).1) byte char digit

theorem front_valid : ∀ char ∈ "resonate.a.".toList ++ "resonate.h.".toList,
    isNameChar char = true := by
  intro char front
  simp only [String.reduceToList, List.cons_append, List.nil_append, List.mem_cons,
    List.not_mem_nil, or_false] at front
  rcases front with rfl | rfl | rfl | rfl | rfl | rfl | rfl | rfl | rfl | rfl | rfl | rfl | rfl |
    rfl | rfl | rfl | rfl | rfl | rfl | rfl | rfl | rfl
  all_goals decide

theorem addressQueue_valid (env : Env) (address : String) :
    ∀ char ∈ (addressQueue env address).toList, isNameChar char = true := by
  intro char member
  rcases addressQueue_cases env address with ⟨_, name⟩ | ⟨_, name⟩
  · rw [name] at member
    rcases List.mem_append.mp member with front | back
    · exact front_valid char (List.mem_append_left _ front)
    · obtain ⟨byte, _, inside⟩ := List.mem_flatMap.mp back
      exact escapeByte_valid byte char inside
  · rw [name] at member
    rcases List.mem_append.mp member with front | back
    · exact front_valid char (List.mem_append_right _ front)
    · obtain ⟨byte, _, inside⟩ := List.mem_flatMap.mp back
      exact hexByte_valid (fun value => (hexDigit_valid value).2) byte char inside

theorem hexBytes_length (digest : List UInt8) :
    (digest.flatMap (hexByte 'a')).length = 2 * digest.length := by
  induction digest with
  | nil => rfl
  | cons byte rest ih =>
      rw [List.flatMap_cons, List.length_append, ih]
      simp only [hexByte, List.length_cons, List.length_nil]
      omega

theorem digestName_length {env : Env} {address : String}
    (digest : (env.sha256 (bytes address)).length = 32) : (digestName env address).length = 75 := by
  unfold digestName
  rw [List.length_append, hexBytes_length, digest]
  simp

/-! ## Lengths -/

theorem utf8Size_of_nameChar {char : Char} (valid : isNameChar char = true) :
    char.utf8Size = 1 := by
  apply Char.utf8Size_eq_one_iff.mpr
  simp only [isNameChar, Char.isAlphanum, Char.isAlpha, Char.isUpper, Char.isLower, Char.isDigit,
    Bool.or_eq_true, Bool.and_eq_true, decide_eq_true_eq, beq_iff_eq] at valid
  rw [UInt32.le_iff_toNat_le]
  rcases valid with ((((upper | lower) | digit) | rfl) | rfl) | rfl
  · exact Nat.le_trans (UInt32.le_iff_toNat_le.mp upper.2) (by decide)
  · exact Nat.le_trans (UInt32.le_iff_toNat_le.mp lower.2) (by decide)
  · exact Nat.le_trans (UInt32.le_iff_toNat_le.mp digit.2) (by decide)
  · decide
  · decide
  · decide

/-- A name has a byte for each character. -/
theorem utf8Len_of_valid {name : List Char} (valid : ∀ char ∈ name, isNameChar char = true) :
    String.utf8Len name = name.length := by
  induction name with
  | nil => rfl
  | cons char rest ih =>
      have first := utf8Size_of_nameChar (valid char List.mem_cons_self)
      have others := ih (fun other member => valid other (List.mem_cons_of_mem _ member))
      rw [String.utf8Len_cons, List.length_cons, first, others]

theorem addressQueue_size (env : Env) (address : String) :
    (addressQueue env address).utf8ByteSize = (addressQueue env address).toList.length := by
  have valid := utf8Len_of_valid (addressQueue_valid env address)
  rw [← String.utf8ByteSize_ofList, String.ofList_toList] at valid
  exact valid

theorem addressQueue_bounded {env : Env} (digest : ∀ input, (env.sha256 input).length = 32)
    (limit : 75 ≤ env.maxQueueNameLen) (address : String) :
    (addressQueue env address).utf8ByteSize ≤ env.maxQueueNameLen := by
  rw [addressQueue_size]
  rcases addressQueue_cases env address with ⟨short, name⟩ | ⟨_, name⟩
  · rw [name]
    exact Nat.not_lt.mp short
  · rw [name, digestName_length (digest (bytes address))]
    exact limit

/-! ## Distinct queues -/

theorem addressQueue_injOn {env : Env} {addresses : Set String}
    (noCollision : Set.InjOn (fun address => env.sha256 (bytes address))
      {address ∈ addresses | Hashed env address}) :
    Set.InjOn (addressQueue env) addresses := by
  intro first known second recorded same
  have chars := congrArg String.toList same
  rcases addressQueue_cases env first with ⟨_, name⟩ | ⟨long, name⟩
  · rcases addressQueue_cases env second with ⟨_, other⟩ | ⟨_, other⟩
    · rw [name, other] at chars
      exact escapedName_injective chars
    · rw [name, other] at chars
      exact absurd chars (escapedName_ne env first second)
  · rcases addressQueue_cases env second with ⟨_, other⟩ | ⟨lengthy, other⟩
    · rw [name, other] at chars
      exact absurd chars.symm (escapedName_ne env second first)
    · rw [name, other] at chars
      exact noCollision ⟨known, long⟩ ⟨recorded, lengthy⟩ (digestName_cancel chars)

/-- Addresses whose digests do not collide have distinct queues, with valid names within the
limit that are not the timer queue's. -/
theorem addresses_have_distinct_queues (env : Env) (addresses : Set String)
    (noCollision : Set.InjOn (fun address => env.sha256 (bytes address))
      {address ∈ addresses | Hashed env address})
    (digest : ∀ input, (env.sha256 input).length = 32) (limit : 75 ≤ env.maxQueueNameLen) :
    Set.InjOn (addressQueue env) addresses ∧ ∀ address : String,
      addressQueue env address ≠ timerQueue ∧
        (∀ char ∈ (addressQueue env address).toList, isNameChar char = true) ∧
        (addressQueue env address).utf8ByteSize ≤ env.maxQueueNameLen := by
  constructor
  · exact addressQueue_injOn noCollision
  · intro address
    exact ⟨addressQueue_ne_timer env address, addressQueue_valid env address,
      addressQueue_bounded digest limit address⟩

/-- An environment with a limit of 75 that knows the digests of two addresses. -/
def digesting : Env where
  isUrl := Env.sample.isUrl
  nextAfter := Env.sample.nextAfter
  sha256 input :=
    if input = bytes "poll://any@g/g/g/g/g/g/g/g/g/g/g/g/" then
      [113, 216, 177, 80, 31, 45, 160, 214, 108, 177, 255, 76, 0, 94, 107, 238, 3, 229, 170, 250,
      100, 35, 24, 82, 37, 66, 117, 154, 183, 125, 44, 23]
    else
      [255, 2, 74, 145, 162, 138, 92, 50, 186, 154, 186, 80, 11, 154, 167, 217, 170, 212, 242,
      139, 18, 47, 244, 217, 50, 129, 224, 114, 206, 170, 85, 55]
  maxQueueNameLen := 75
  retryTimeout := 30
  preloadLimit := 10

theorem digesting_distinct : Set.InjOn (addressQueue digesting)
    {"poll://any@g/g/g/g/g/g/g/g/g/g/g/g/", "poll://uni@g/g/g/g/g/g/g/g/g/g/g/g/"} := by
  refine (addresses_have_distinct_queues digesting _ ?_ ?_ (by decide)).1
  · rintro first ⟨rfl | rfl, _⟩ second ⟨rfl | rfl, _⟩ same
    · rfl
    · exact absurd same (by decide +kernel)
    · exact absurd same (by decide +kernel)
    · rfl
  · intro input
    simp only [digesting]
    split <;> rfl

end Keys

end Resonate
