import Mathlib

set_option autoImplicit false

/-! Scans of ordered entries: the range of a prefix, names told apart by a separator, and the
least few of two listings of which one is cut short. -/

namespace Scan

/-! ## Prefixes -/

section Prefix

variable {α : Type} [LinearOrder α]

/-- What lies between a prefix and something with that prefix has the prefix too. -/
theorem prefix_of_between (pre : List α) {key rest : List α} (above : pre ≤ key)
    (below : key < pre ++ rest) : pre <+: key := by
  induction pre generalizing key with
  | nil => exact List.nil_prefix
  | cons head pre ih =>
      cases key with
      | nil => exact absurd above (not_le.mpr (List.nil_lt_cons head pre))
      | cons first key =>
          rw [List.cons_append, List.cons_lt_cons_iff] at below
          rw [← not_lt, List.cons_lt_cons_iff, not_or, not_and] at above
          rcases below with smaller | ⟨rfl, below⟩
          · exact absurd smaller above.1
          · have tail := ih (not_lt.mp (above.2 rfl)) below
            exact List.cons_prefix_cons.mpr ⟨rfl, tail⟩

omit [LinearOrder α] in
/-- A name ends at the first separator, so names closed by a separator are told apart. -/
theorem name_of_prefix (separator : α) {name other rest : List α}
    (other_plain : separator ∉ other) (rest_plain : separator ∉ rest)
    (prefixed : name ++ [separator] <+: other ++ separator :: rest) : name = other := by
  induction name generalizing other with
  | nil =>
      cases other with
      | nil => rfl
      | cons first other =>
          rw [List.nil_append, List.cons_append, List.cons_prefix_cons] at prefixed
          exact absurd prefixed.1 fun same => other_plain (same ▸ List.mem_cons_self)
  | cons head name ih =>
      cases other with
      | nil =>
          rw [List.cons_append, List.nil_append, List.cons_prefix_cons] at prefixed
          have member := prefixed.2.mem (List.mem_append_right name (List.mem_singleton_self _))
          exact absurd member rest_plain
      | cons first other =>
          rw [List.cons_append, List.cons_append, List.cons_prefix_cons] at prefixed
          obtain ⟨rfl, prefixed⟩ := prefixed
          rw [ih (fun member => other_plain (List.mem_cons_of_mem _ member)) prefixed]

end Prefix

/-! ## Ranges -/

/-- Skipping what is below a range and stopping at its end keeps exactly the range, when nothing
below the range or inside it follows what is past it. -/
theorem mem_range {α : Type} {below inside : α → Bool} {items : List α}
    (ordered : items.Pairwise fun first second => below first = false →
      below second = false ∧ (inside first = false → inside second = false))
    {item : α} :
    item ∈ (items.dropWhile below).takeWhile inside ↔
      item ∈ items ∧ below item = false ∧ inside item = true := by
  induction items with
  | nil => simp
  | cons head rest ih =>
      obtain ⟨later, ordered⟩ := List.pairwise_cons.mp ordered
      have ih := ih ordered
      by_cases under : below head = true
      · rw [List.dropWhile_cons_of_pos under, ih]
        simp only [List.mem_cons]
        constructor
        · intro found
          exact ⟨.inr found.1, found.2⟩
        · rintro ⟨rfl | member, found⟩
          · simp [under] at found
          · exact ⟨member, found⟩
      · have reached : below head = false := by simpa using under
        have rest_reached : rest.dropWhile below = rest := by
          cases rest with
          | nil => rfl
          | cons next rest =>
              refine List.dropWhile_cons_of_neg ?_
              rw [(later next List.mem_cons_self reached).1]
              exact Bool.false_ne_true
        rw [rest_reached] at ih
        rw [List.dropWhile_cons_of_neg under]
        by_cases within : inside head = true
        · rw [List.takeWhile_cons_of_pos within, List.mem_cons, List.mem_cons, ih]
          constructor
          · rintro (rfl | found)
            · exact ⟨.inl rfl, reached, within⟩
            · exact ⟨.inr found.1, found.2⟩
          · rintro ⟨rfl | member, found⟩
            · exact .inl rfl
            · exact .inr ⟨member, found⟩
        · rw [List.takeWhile_cons_of_neg within, List.mem_cons]
          constructor
          · intro found
            cases found
          · rintro ⟨rfl | member, found⟩
            · exact absurd found.2 within
            · have past := (later item member reached).2 (by simpa using within)
              rw [past] at found
              simp at found

/-! ## The least few -/

section Least

variable {κ : Type} [LinearOrder κ]

/-- An ascending list is cut at any bound. -/
theorem filter_append {items : List κ} (ascending : items.Pairwise (· < ·)) (bound : κ) :
    items.filter (· ≤ bound) ++ items.filter (bound < ·) = items := by
  induction items with
  | nil => rfl
  | cons head rest ih =>
      obtain ⟨above, ascending⟩ := List.pairwise_cons.mp ascending
      by_cases within : head ≤ bound
      · rw [List.filter_cons_of_pos (by simpa using within),
          List.filter_cons_of_neg (by simpa using within), List.cons_append, ih ascending]
      · have past : bound < head := not_le.mp within
        have none : rest.filter (· ≤ bound) = [] := by
          refine List.filter_eq_nil_iff.mpr fun item member => ?_
          simpa using past.trans (above item member)
        have all : rest.filter (bound < ·) = rest := by
          refine List.filter_eq_self.mpr fun item member => ?_
          simpa using past.trans (above item member)
        rw [List.filter_cons_of_neg (by simpa using past), none,
          List.filter_cons_of_pos (by simpa using past), all, List.nil_append]

/-- Two ascending lists that agree up to a bound, below which there are at least `count` items,
agree on their first `count` items. -/
theorem take_of_agree {first second : List κ} (ascending : first.Pairwise (· < ·))
    (ascending' : second.Pairwise (· < ·)) (bound : κ)
    (agree : ∀ item ≤ bound, item ∈ first ↔ item ∈ second) {count : Nat}
    (enough : count ≤ (first.filter (· ≤ bound)).length) :
    first.take count = second.take count := by
  have same : first.filter (· ≤ bound) = second.filter (· ≤ bound) := by
    refine List.Pairwise.eq_of_mem_iff (ascending.sublist List.filter_sublist)
      (ascending'.sublist List.filter_sublist) fun item => ?_
    simp only [List.mem_filter, decide_eq_true_eq]
    exact and_congr_left (agree item)
  calc first.take count
      = (first.filter (· ≤ bound)).take count := by
        conv => lhs; rw [← filter_append ascending bound]
        exact List.take_append_of_le_length enough
    _ = (second.filter (· ≤ bound)).take count := by rw [same]
    _ = second.take count := by
        conv => rhs; rw [← filter_append ascending' bound]
        exact (List.take_append_of_le_length (same ▸ enough)).symm

/-- The least `count` of a listing and other items need no more of the listing than its first
`count` and one more. -/
theorem take_of_cut {all kept listing : List κ} {other : κ → Prop} {count : Nat}
    (ascending : all.Pairwise (· < ·)) (ascending' : kept.Pairwise (· < ·))
    (listed : listing.Pairwise (· < ·))
    (whole : ∀ item, item ∈ all ↔ item ∈ listing ∨ other item)
    (cut : ∀ item, item ∈ kept ↔ item ∈ listing.take (count + 1) ∨ other item) :
    kept.take count = all.take count := by
  by_cases short : listing.length ≤ count
  · -- Nothing was cut.
    rw [List.take_of_length_le (by omega)] at cut
    rw [List.Pairwise.eq_of_mem_iff ascending' ascending fun item => (cut item).trans
      (whole item).symm]
  · -- The last of the first `count + 1` items bounds what the cut leaves alone.
    have long : count < listing.length := by omega
    have taken : listing.take (count + 1) = listing.take count ++ [listing[count]] := by
      rw [List.take_add_one, List.getElem?_eq_getElem long, Option.toList_some]
    have below : ∀ item ∈ listing.take (count + 1), item ≤ listing[count] := by
      have order := listed.sublist (List.take_sublist (count + 1) listing)
      rw [taken] at order ⊢
      intro item member
      rcases List.mem_append.mp member with before | last
      · exact ((List.pairwise_append.mp order).2.2 item before _ (by simp)).le
      · exact (List.mem_singleton.mp last).le
    have above : ∀ item ∈ listing, item ≤ listing[count] → item ∈ listing.take (count + 1) := by
      intro item member low
      have parts := List.take_append_drop (count + 1) listing
      rw [← parts] at member
      rcases List.mem_append.mp member with before | after
      · exact before
      · have last : listing[count] ∈ listing.take (count + 1) := by
          rw [taken]
          exact List.mem_append_right _ (List.mem_singleton_self _)
        have order : (listing.take (count + 1) ++ listing.drop (count + 1)).Pairwise (· < ·) := by
          rw [parts]
          exact listed
        have higher := (List.pairwise_append.mp order).2.2 _ last item after
        exact absurd low (not_le.mpr higher)
    refine take_of_agree ascending' ascending listing[count] (fun item low => ?_) ?_
    · rw [cut, whole]
      refine or_congr_left ⟨fun member => List.mem_of_mem_take member, fun member => ?_⟩
      exact above item member low
    · have distinct : (listing.take (count + 1)).Nodup :=
        (listed.sublist (List.take_sublist _ _)).imp fun before => before.ne
      have among : ∀ item ∈ listing.take (count + 1), item ∈ kept.filter (· ≤ listing[count]) := by
        intro item member
        simpa using ⟨(cut item).mpr (.inl member), below item member⟩
      have length := (List.subperm_of_subset distinct among).length_le
      rw [List.length_take] at length
      omega

end Least

end Scan
