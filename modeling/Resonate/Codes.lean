import Mathlib

set_option autoImplicit false

/-! Codes of symbols by words over an ordered alphabet: where smaller symbols have smaller words that
are no prefixes, coded texts compare as the texts do and no text is cut within a symbol. -/

namespace Codes

variable {α β : Type} [Ord β]

/-- The words differ at a place within both, where the first is below. -/
inductive Below : List β → List β → Prop
  | head {low high : β} (first second : List β) (less : compare low high = .lt) :
      Below (low :: first) (high :: second)
  | tail (symbol : β) {first second : List β} (below : Below first second) :
      Below (symbol :: first) (symbol :: second)

/-- Whatever follows, the lower word comes first. -/
theorem Below.compare_append [Std.ReflOrd β] {first second : List β} (below : Below first second)
    (left right : List β) : compare (first ++ left) (second ++ right) = .lt := by
  induction below with
  | head first second less =>
      rw [List.cons_append, List.cons_append, List.compare_cons_cons, less]
      rfl
  | tail symbol below ih =>
      rw [List.cons_append, List.cons_append, List.compare_cons_cons, Std.compare_self]
      exact ih

theorem Below.unled [Std.ReflOrd β] {first second : List β} (below : Below first second)
    (left right : List β) :
    ¬ first ++ left <+: second ++ right ∧ ¬ second ++ right <+: first ++ left := by
  induction below with
  | @head low high first second less =>
      have apart : low ≠ high := by
        rintro rfl
        rw [Std.compare_self] at less
        cases less
      constructor
      · intro leads
        exact apart (List.cons_prefix_cons.mp leads).1
      · intro leads
        exact apart (List.cons_prefix_cons.mp leads).1.symm
  | tail symbol below ih =>
      constructor
      · intro leads
        exact ih.1 (List.cons_prefix_cons.mp leads).2
      · intro leads
        exact ih.2 (List.cons_prefix_cons.mp leads).2

theorem compare_common [Std.ReflOrd β] (common first second : List β) :
    compare (common ++ first) (common ++ second) = compare first second := by
  induction common with
  | nil => rfl
  | cons symbol rest ih =>
      rw [List.cons_append, List.cons_append, List.compare_cons_cons, Std.compare_self]
      exact ih

/-- A word below one with a prefix and not below the prefix has the prefix. -/
theorem prefix_of_between [Std.LawfulEqOrd β] (pre : List β) {word rest : List β}
    (above : compare word pre ≠ .lt) (below : compare word (pre ++ rest) = .lt) :
    pre <+: word := by
  induction pre generalizing word with
  | nil => exact List.nil_prefix
  | cons head pre ih =>
      cases word with
      | nil => exact absurd rfl above
      | cons first word =>
          rw [List.cons_append, List.compare_cons_cons] at below
          rw [List.compare_cons_cons] at above
          cases compared : compare first head with
          | lt =>
              rw [compared] at above
              exact absurd rfl above
          | gt =>
              rw [compared] at below
              cases below
          | eq =>
              rw [compared] at above below
              cases Std.LawfulEqOrd.eq_of_compare compared
              exact List.cons_prefix_cons.mpr ⟨rfl, ih above below⟩

/-- A word with a prefix is not below it. -/
theorem compare_extended [Std.ReflOrd β] (pre rest : List β) : compare (pre ++ rest) pre ≠ .lt := by
  have same := compare_common pre rest []
  rw [List.append_nil] at same
  rw [same]
  cases rest with
  | nil => exact fun below => by cases below
  | cons symbol rest => exact fun below => by cases below

section

variable [LinearOrder α]

/-- The words of a code are not empty, and smaller symbols have words that are smaller at a place
within both. -/
structure Ordered (code : α → List β) : Prop where
  nonempty : ∀ symbol, code symbol ≠ []
  below : ∀ low high, low < high → Below (code low) (code high)

variable {code : α → List β} [Std.ReflOrd β]

theorem Ordered.unled (ordered : Ordered code) {first second : α} (apart : first ≠ second)
    (left right : List β) : ¬ code first ++ left <+: code second ++ right := by
  rcases lt_or_gt_of_ne apart with less | more
  · exact ((ordered.below _ _ less).unled _ _).1
  · exact ((ordered.below _ _ more).unled _ _).2

/-- A smaller text has a smaller code. -/
theorem Ordered.compare_flatMap (ordered : Ordered code) {first second : List α}
    (less : first < second) : compare (first.flatMap code) (second.flatMap code) = .lt := by
  induction less with
  | @nil symbol rest =>
      rw [List.flatMap_nil, List.flatMap_cons]
      obtain ⟨head, tail, word⟩ := List.exists_cons_of_ne_nil (ordered.nonempty symbol)
      rw [word]
      rfl
  | cons less ih =>
      rw [List.flatMap_cons, List.flatMap_cons, compare_common]
      exact ih
  | rel less =>
      rw [List.flatMap_cons, List.flatMap_cons]
      exact (ordered.below _ _ less).compare_append _ _

/-- A coded text starts another only where the text does. -/
theorem Ordered.prefix_flatMap (ordered : Ordered code) (first second : List α) :
    first.flatMap code <+: second.flatMap code ↔ first <+: second := by
  constructor
  · intro leads
    induction first generalizing second with
    | nil => exact List.nil_prefix
    | cons symbol rest ih =>
        rw [List.flatMap_cons] at leads
        cases second with
        | nil =>
            obtain ⟨head, tail, word⟩ := List.exists_cons_of_ne_nil (ordered.nonempty symbol)
            rw [word] at leads
            exact absurd (List.prefix_nil.mp leads) (List.cons_ne_nil _ _)
        | cons other later =>
            rw [List.flatMap_cons] at leads
            by_cases same : symbol = other
            · subst same
              rw [List.prefix_append_right_inj] at leads
              exact List.cons_prefix_cons.mpr ⟨rfl, ih later leads⟩
            · exact absurd leads (ordered.unled same _ _)
  · rintro ⟨rest, rfl⟩
    rw [List.flatMap_append]
    exact List.prefix_append _ _

end

/-! ## UTF-8 -/

/-- Words that start with bytes in order, or go on in order after the same byte. -/
theorem below_byte {low high : Nat} {first second : List UInt8} (bounded : high < 256)
    (ordered : low < high ∨ low = high ∧ Below first second) :
    Below (UInt8.ofNat low :: first) (UInt8.ofNat high :: second) := by
  rcases ordered with less | ⟨rfl, below⟩
  · apply Below.head
    change compareOfLessAndEq _ _ = .lt
    rw [compareOfLessAndEq, if_pos]
    rw [UInt8.lt_iff_toNat_lt, UInt8.toNat_ofNat', UInt8.toNat_ofNat']
    omega
  · exact .tail _ below

/-- UTF-8 is an ordered code: of two characters the one with the smaller scalar value has the smaller
bytes. -/
theorem utf8_ordered : Ordered String.utf8EncodeChar := by
  refine ⟨fun _ => String.utf8EncodeChar_ne_nil, ?_⟩
  intro low high less
  have less : low.val.toNat < high.val.toNat := less
  have bounded : high.val.toNat < 0x110000 := by
    rcases high.valid with small | ⟨_, large⟩
    · exact Nat.lt_of_lt_of_le small (by decide)
    · exact large
  unfold String.utf8EncodeChar
  dsimp only
  generalize low.val.toNat = first at less
  generalize high.val.toNat = second at less bounded
  -- The first byte tells the length of a word, and then come six bits a byte.
  split
  · split
    · exact below_byte (by omega) (.inl less)
    · split
      · exact below_byte (by omega) (.inl (by omega))
      · split <;> exact below_byte (by omega) (.inl (by omega))
  · rw [if_neg (show ¬ second ≤ 127 by omega)]
    split
    · split
      · refine below_byte (by omega) ?_
        rcases Nat.lt_or_ge (first / 64) (second / 64) with smaller | _
        · exact .inl (by omega)
        · exact .inr ⟨by omega, below_byte (by omega) (.inl (by omega))⟩
      · split <;> exact below_byte (by omega) (.inl (by omega))
    · rw [if_neg (show ¬ second ≤ 2047 by omega)]
      split
      · split
        · refine below_byte (by omega) ?_
          rcases Nat.lt_or_ge (first / 4096) (second / 4096) with smaller | _
          · exact .inl (by omega)
          · refine .inr ⟨by omega, below_byte (by omega) ?_⟩
            rcases Nat.lt_or_ge (first / 64) (second / 64) with smaller | _
            · exact .inl (by omega)
            · exact .inr ⟨by omega, below_byte (by omega) (.inl (by omega))⟩
        · exact below_byte (by omega) (.inl (by omega))
      · rw [if_neg (show ¬ second ≤ 65535 by omega)]
        refine below_byte (by omega) ?_
        rcases Nat.lt_or_ge (first / 262144) (second / 262144) with smaller | _
        · exact .inl (by omega)
        · refine .inr ⟨by omega, below_byte (by omega) ?_⟩
          rcases Nat.lt_or_ge (first / 4096) (second / 4096) with smaller | _
          · exact .inl (by omega)
          · refine .inr ⟨by omega, below_byte (by omega) ?_⟩
            rcases Nat.lt_or_ge (first / 64) (second / 64) with smaller | _
            · exact .inl (by omega)
            · exact .inr ⟨by omega, below_byte (by omega) (.inl (by omega))⟩

end Codes
