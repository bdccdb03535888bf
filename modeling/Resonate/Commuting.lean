import Mathlib.Data.List.Basic

set_option autoImplicit false

/-! Updates of a state that commute: the order and the repetitions of a list of them do not
matter. -/

namespace Commuting

variable {σ α : Type} {update : σ → α → σ}

/-- An update that a list repeats can be made first as well. -/
theorem foldl_absorb (commutes : ∀ state first second,
      update (update state first) second = update (update state second) first)
    (settles : ∀ state each, update (update state each) each = update state each)
    {each : α} {list : List α} (member : each ∈ list) (state : σ) :
    list.foldl update (update state each) = list.foldl update state := by
  induction list generalizing state with
  | nil => cases member
  | cons head rest ih =>
      rw [List.foldl_cons, List.foldl_cons]
      rcases List.mem_cons.mp member with rfl | later
      · rw [settles]
      · rw [commutes, ih later]

theorem foldl_swap (commutes : ∀ state first second,
      update (update state first) second = update (update state second) first)
    (each : α) (list : List α) (state : σ) :
    list.foldl update (update state each) = update (list.foldl update state) each := by
  induction list generalizing state with
  | nil => rfl
  | cons head rest ih => rw [List.foldl_cons, List.foldl_cons, commutes, ih]

theorem foldl_comm (commutes : ∀ state first second,
      update (update state first) second = update (update state second) first)
    (first second : List α) (state : σ) :
    second.foldl update (first.foldl update state) =
      first.foldl update (second.foldl update state) := by
  induction first generalizing state with
  | nil => rfl
  | cons head rest ih => rw [List.foldl_cons, ih, foldl_swap commutes, List.foldl_cons]

/-- The order and the repetitions of commuting updates do not matter, nor do the updates that do
nothing to the state they start from. -/
theorem foldl_agree (commutes : ∀ state first second,
      update (update state first) second = update (update state second) first)
    (settles : ∀ state each, update (update state each) each = update state each)
    {first second : List α} {state : σ}
    (agree : ∀ each, update state each ≠ state → (each ∈ first ↔ each ∈ second)) :
    first.foldl update state = second.foldl update state := by
  have covered {fewer list : List α}
      (inside : ∀ each, update state each ≠ state → each ∈ fewer → each ∈ list) :
      list.foldl update (fewer.foldl update state) = list.foldl update state := by
    induction fewer with
    | nil => rfl
    | cons head rest ih =>
        have later := ih fun each acts member => inside each acts (List.mem_cons_of_mem _ member)
        by_cases acts : update state head = state
        · rw [List.foldl_cons, acts, later]
        · rw [List.foldl_cons, foldl_swap commutes, ← later,
            foldl_absorb commutes settles (inside head acts List.mem_cons_self)]
  rw [← covered fun each acts member => (agree each acts).mpr member, foldl_comm commutes,
    covered fun each acts member => (agree each acts).mp member]

end Commuting
