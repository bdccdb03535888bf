import Mathlib

set_option autoImplicit false

/-! Ordered tables, and a write buffer over a table: what a read through the buffer
sees is what the table holds once the buffer is applied. -/

/-- A finite map whose entries are listed in key order. -/
abbrev Table (κ ν : Type) [Ord κ] := Std.ExtTreeMap κ ν compare

namespace Table

variable {κ ν : Type} [Ord κ] [Std.TransOrd κ] [Std.LawfulEqOrd κ] [DecidableEq κ]

theorem find_insert (table : Table κ ν) (key other : κ) (value : ν) :
    (table.insert key value)[other]? = if key = other then some value else table[other]? := by
  rw [Std.ExtTreeMap.getElem?_insert]
  simp only [Std.LawfulEqCmp.compare_eq_iff_eq]

theorem find_erase (table : Table κ ν) (key other : κ) :
    (table.erase key)[other]? = if key = other then none else table[other]? := by
  rw [Std.ExtTreeMap.getElem?_erase]
  simp only [Std.LawfulEqCmp.compare_eq_iff_eq]

/-- A table is the table of its entries. -/
theorem ofList_toList (table : Table κ ν) : Std.ExtTreeMap.ofList table.toList compare = table := by
  apply Std.ExtTreeMap.ext_getElem?
  intro key
  cases found : table[key]? with
  | some value =>
      exact Std.ExtTreeMap.getElem?_ofList_of_mem Std.compare_self Std.ExtTreeMap.distinct_keys_toList
        (Std.ExtTreeMap.mem_toList_iff_getElem?_eq_some.mpr found)
  | none =>
      apply Std.ExtTreeMap.getElem?_ofList_of_contains_eq_false
      rw [Bool.eq_false_iff]
      intro listed
      obtain ⟨entry, member, same⟩ := List.mem_map.mp (List.contains_iff_mem.mp listed)
      rw [← same, Std.ExtTreeMap.mem_toList_iff_getElem?_eq_some.mp member] at found
      cases found

omit [DecidableEq κ] in
/-- Tables with the same entries of interest answer the same of them. -/
theorem find_filter (p : κ → ν → Bool) {first second : Table κ ν}
    (same : (second.toList.filter fun entry => p entry.1 entry.2) =
      first.toList.filter fun entry => p entry.1 entry.2) (key : κ) :
    second[key]?.filter (p key) = first[key]?.filter (p key) := by
  apply Option.ext
  intro value
  have listed : (key, value) ∈ (second.toList.filter fun entry => p entry.1 entry.2) ↔
      (key, value) ∈ first.toList.filter fun entry => p entry.1 entry.2 := by rw [same]
  rw [List.mem_filter, List.mem_filter, Std.ExtTreeMap.mem_toList_iff_getElem?_eq_some,
    Std.ExtTreeMap.mem_toList_iff_getElem?_eq_some] at listed
  rw [Option.filter_eq_some_iff, Option.filter_eq_some_iff]
  exact listed

/-- Pending writes over a table. `none` records a deletion. -/
abbrev Buffer (κ ν : Type) [Ord κ] := Table κ (Option ν)

/-- Read a key through the buffer. -/
def read (base : Table κ ν) (buffer : Buffer κ ν) (key : κ) : Option ν :=
  match buffer[key]? with
  | some written => written
  | none => base[key]?

/-- One pending write. -/
def write (base : Table κ ν) (key : κ) : Option ν → Table κ ν
  | some value => base.insert key value
  | none => base.erase key

/-- Apply every pending write. -/
def apply (base : Table κ ν) (buffer : Buffer κ ν) : Table κ ν :=
  buffer.toList.foldl (fun table entry => write table entry.1 entry.2) base

omit [Std.LawfulEqOrd κ] [DecidableEq κ] in
theorem read_empty (base : Table κ ν) (key : κ) : read base ∅ key = base[key]? := by
  simp only [read, Std.ExtTreeMap.getElem?_empty]

theorem read_insert (base : Table κ ν) (buffer : Buffer κ ν) (key other : κ)
    (written : Option ν) :
    read base (buffer.insert key written) other =
      if key = other then written else read base buffer other := by
  unfold read
  rw [find_insert]
  by_cases same : key = other
  · simp only [same, ↓reduceIte]
  · simp only [same, ↓reduceIte]

theorem find_write (base : Table κ ν) (key other : κ) (written : Option ν) :
    (write base key written)[other]? = if key = other then written else base[other]? := by
  cases written with
  | none => exact find_erase base key other
  | some value => exact find_insert base key other value

private theorem find_foldl_absent (entries : List (κ × Option ν)) (base : Table κ ν) (key : κ)
    (absent : ∀ entry ∈ entries, entry.1 ≠ key) :
    (entries.foldl (fun table entry => write table entry.1 entry.2) base)[key]? =
      base[key]? := by
  induction entries generalizing base with
  | nil => rfl
  | cons entry rest ih =>
      rw [List.foldl_cons, ih _ fun later member => absent later (List.mem_cons_of_mem _ member),
        find_write, if_neg (absent entry List.mem_cons_self)]

private theorem find_foldl_present (entries : List (κ × Option ν)) (base : Table κ ν) (key : κ)
    (written : Option ν) (distinct : entries.Pairwise fun first second => first.1 ≠ second.1)
    (present : (key, written) ∈ entries) :
    (entries.foldl (fun table entry => write table entry.1 entry.2) base)[key]? = written := by
  induction entries generalizing base with
  | nil => cases present
  | cons entry rest ih =>
      obtain ⟨apart, distinct⟩ := List.pairwise_cons.mp distinct
      rw [List.foldl_cons]
      rcases List.mem_cons.mp present with rfl | later
      · rw [find_foldl_absent rest _ key fun other member => (apart other member).symm,
          find_write, if_pos rfl]
      · exact ih _ distinct later

/-- Applying the buffer makes the table hold what a read through the buffer saw. -/
theorem find_apply (base : Table κ ν) (buffer : Buffer κ ν) (key : κ) :
    (apply base buffer)[key]? = read base buffer key := by
  have distinct : buffer.toList.Pairwise fun first second => first.1 ≠ second.1 := by
    refine Std.ExtTreeMap.distinct_keys_toList.imp ?_
    intro first second apart same
    exact apart (Std.LawfulEqCmp.compare_eq_iff_eq.mpr same)
  unfold apply read
  cases found : buffer[key]? with
  | none =>
      apply find_foldl_absent
      rintro ⟨other, written⟩ member rfl
      rw [Std.ExtTreeMap.mem_toList_iff_getElem?_eq_some.mp member] at found
      cases found
  | some written =>
      exact find_foldl_present _ base key written distinct
        (Std.ExtTreeMap.mem_toList_iff_getElem?_eq_some.mpr found)

/-- A buffer through which every key reads as before leaves the table as it is. -/
theorem apply_unchanged {base : Table κ ν} {buffer : Buffer κ ν}
    (same : ∀ key, read base buffer key = base[key]?) : apply base buffer = base := by
  apply Std.ExtTreeMap.ext_getElem?
  intro key
  rw [find_apply, same]

/-- An empty buffer leaves the table as it is. -/
theorem apply_empty (base : Table κ ν) : apply base ∅ = base :=
  apply_unchanged (read_empty base)

end Table
