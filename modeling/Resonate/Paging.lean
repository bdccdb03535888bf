import Mathlib

set_option autoImplicit false

/-! Paging an ordered listing by the key of the last item: the pages of a walk over one
listing are the listing cut into pieces, and a walk whose listing changes between the pages
repeats no key and passes over none that is always there. -/

namespace Paging

variable {α κ σ : Type} [LinearOrder κ] (key : α → κ)

/-- Strictly increasing keys. -/
def Ascending (items : List α) : Prop := items.Pairwise fun first second => key first < key second

/-- The items after the cursor. -/
def beyond (cursor : Option κ) (items : List α) : List α :=
  items.filter fun item => cursor.all (· < key item)

/-- At most `limit` items after the cursor, and the last one's key when more remain. -/
def fetch (cursor : Option κ) (limit : Nat) (items : List α) : List α × Option κ :=
  let rest := beyond key cursor items
  (rest.take limit, if limit < rest.length then (rest.take limit).getLast?.map key else none)

variable {key} {items : List α} {cursor : Option κ} {limit : Nat}

theorem mem_beyond {item : α} :
    item ∈ beyond key cursor items ↔ item ∈ items ∧ ∀ last, cursor = some last → last < key item := by
  cases cursor with
  | none => simp [beyond]
  | some last => simp [beyond]

theorem beyond_none : beyond key none items = items := by simp [beyond]

theorem Ascending.beyond (ascending : Ascending key items) (cursor : Option κ) :
    Ascending key (beyond key cursor items) :=
  List.Pairwise.sublist List.filter_sublist ascending

/-- What lies after the last item of a prefix is what the prefix leaves. -/
theorem beyond_append {first rest : List α} {last : α}
    (ascending : Ascending key (first ++ last :: rest)) :
    beyond key (some (key last)) (first ++ last :: rest) = rest := by
  obtain ⟨_, tail, across⟩ := List.pairwise_append.mp ascending
  obtain ⟨above, _⟩ := List.pairwise_cons.mp tail
  have before : first.filter (fun item => (some (key last)).all (· < key item)) = [] := by
    refine List.filter_eq_nil_iff.mpr fun item member => ?_
    have smaller := across item member last List.mem_cons_self
    simpa using smaller.le
  have after : rest.filter (fun item => (some (key last)).all (· < key item)) = rest := by
    refine List.filter_eq_self.mpr fun item member => ?_
    simpa using above item member
  unfold Paging.beyond
  rw [List.filter_append, before, List.filter_cons, after]
  simp

/-- What lies after an item that lies after the cursor. -/
theorem fetched_rest {first rest : List α} {last : α} (ascending : Ascending key items)
    (cut : beyond key cursor items = first ++ last :: rest) :
    beyond key (some (key last)) items = rest := by
  have order := ascending.beyond cursor
  have member : last ∈ beyond key cursor items := by rw [cut]; simp
  have after := (mem_beyond.mp member).2
  rw [cut] at order
  rw [← beyond_append order, ← cut]
  unfold beyond
  rw [List.filter_filter]
  refine List.filter_congr fun item _ => ?_
  cases cursor with
  | none => simp
  | some bound =>
      have above : bound < key last := after bound rfl
      simp only [Option.all_some, ← Bool.decide_and]
      exact decide_eq_decide.mpr ⟨fun later => ⟨later, above.trans later⟩, And.left⟩

/-- The cursor of a page is the key of its last item, and stands before what remains. -/
theorem fetch_next {page : List α} {next : κ}
    (fetched : fetch key cursor limit items = (page, some next)) :
    ∃ first last rest, beyond key cursor items = first ++ last :: rest ∧
      page = first ++ [last] ∧ next = key last ∧ page.length = limit ∧ rest ≠ [] := by
  unfold fetch at fetched
  dsimp only at fetched
  generalize remaining : beyond key cursor items = pending at fetched
  have more : limit < pending.length := by
    by_contra short
    rw [if_neg short] at fetched
    cases fetched
  rw [if_pos more] at fetched
  obtain ⟨taken, named⟩ := Prod.mk.inj fetched
  obtain ⟨last, ends, same⟩ := Option.map_eq_some_iff.mp named
  obtain ⟨first, cut⟩ := List.getLast?_eq_some_iff.mp ends
  refine ⟨first, last, pending.drop limit, ?_, ?_, same.symm, ?_, ?_⟩
  · have whole := List.take_append_drop limit pending
    rw [cut, List.append_assoc, List.singleton_append] at whole
    exact whole.symm
  · rw [← taken, cut]
  · rw [← taken, List.length_take]
    omega
  · intro empty
    have drops := congrArg List.length empty
    rw [List.length_drop, List.length_nil] at drops
    omega

/-- A page without a cursor is all that remains. -/
theorem fetch_last {page : List α} (positive : 0 < limit)
    (fetched : fetch key cursor limit items = (page, none)) :
    page = beyond key cursor items ∧ page.length ≤ limit := by
  unfold fetch at fetched
  dsimp only at fetched
  generalize beyond key cursor items = pending at fetched
  obtain ⟨taken, named⟩ := Prod.mk.inj fetched
  by_cases more : limit < pending.length
  · rw [if_pos more] at named
    have nonempty : pending.take limit ≠ [] := by
      intro empty
      have short := congrArg List.length empty
      rw [List.length_take, List.length_nil] at short
      omega
    rw [List.getLast?_eq_some_getLast nonempty] at named
    cases named
  · have whole : pending.take limit = pending := List.take_of_length_le (by omega)
    rw [whole] at taken
    rw [← taken]
    exact ⟨rfl, by omega⟩

theorem fetch_ascending {page : List α} {next : Option κ} (ascending : Ascending key items)
    (fetched : fetch key cursor limit items = (page, next)) : Ascending key page := by
  have taken : (beyond key cursor items).take limit = page := congrArg Prod.fst fetched
  rw [← taken]
  exact List.Pairwise.sublist (List.take_sublist _ _) (ascending.beyond cursor)

theorem fetch_mem {page : List α} {next : Option κ} {item : α}
    (fetched : fetch key cursor limit items = (page, next)) (member : item ∈ page) :
    item ∈ items ∧ ∀ last, cursor = some last → last < key item := by
  have taken : (beyond key cursor items).take limit = page := congrArg Prod.fst fetched
  rw [← taken] at member
  exact mem_beyond.mp (List.mem_of_mem_take member)

/-- Every item is on the page that some cursor asks for. -/
theorem exists_fetch_mem {item : α} (ascending : Ascending key items) (positive : 0 < limit)
    (member : item ∈ items) : ∃ cursor, item ∈ (fetch key cursor limit items).1 := by
  obtain ⟨first, rest, rfl⟩ := List.append_of_mem member
  have head : item ∈ (item :: rest).take limit := by
    obtain ⟨more, rfl⟩ := Nat.exists_eq_succ_of_ne_zero positive.ne'
    exact List.mem_cons_self
  unfold fetch
  rcases List.eq_nil_or_concat first with rfl | ⟨init, last, rfl⟩
  · refine ⟨none, ?_⟩
    rw [beyond_none]
    exact head
  · refine ⟨some (key last), ?_⟩
    rw [List.concat_append] at ascending ⊢
    rw [beyond_append ascending]
    exact head

/-- A walk from a cursor to the end: the states it reads, one for each page, and the pages. -/
inductive Walk (listing : σ → List α) (key : α → κ) (limit : Nat) :
    Option κ → List σ → List (List α) → Prop
  | last {cursor : Option κ} {state : σ} {page : List α}
      (fetched : fetch key cursor limit (listing state) = (page, none)) :
      Walk listing key limit cursor [state] [page]
  | more {cursor : Option κ} {state : σ} {page : List α} {next : κ} {states : List σ}
      {pages : List (List α)}
      (fetched : fetch key cursor limit (listing state) = (page, some next))
      (rest : Walk listing key limit (some next) states pages) :
      Walk listing key limit cursor (state :: states) (page :: pages)

namespace Walk

variable {listing : σ → List α} {states : List σ} {pages : List (List α)}

/-- Every item listed lies after the cursor and was in the listing of a state the walk read. -/
theorem sound (walk : Walk listing key limit cursor states pages) :
    ∀ item ∈ pages.flatten, (∃ state ∈ states, item ∈ listing state) ∧
      ∀ last, cursor = some last → last < key item := by
  induction walk with
  | last fetched =>
      intro item member
      rw [List.flatten_singleton] at member
      have found := fetch_mem fetched member
      exact ⟨⟨_, List.mem_singleton_self _, found.1⟩, found.2⟩
  | more fetched rest ih =>
      intro item member
      rw [List.flatten_cons] at member
      rcases List.mem_append.mp member with here | later
      · have found := fetch_mem fetched here
        exact ⟨⟨_, List.mem_cons_self, found.1⟩, found.2⟩
      · obtain ⟨⟨state, read, listed⟩, above⟩ := ih item later
        obtain ⟨first, final, _, _, paged, rfl, _, _⟩ := fetch_next fetched
        have ends : final ∈ first ++ [final] := by simp
        rw [← paged] at ends
        have found := fetch_mem fetched ends
        exact ⟨⟨state, List.mem_cons_of_mem _ read, listed⟩,
          fun last at_ => (found.2 last at_).trans (above _ rfl)⟩

/-- A walk over ordered listings lists its items in order, whatever happens between the
pages. -/
theorem ascending (walk : Walk listing key limit cursor states pages)
    (ordered : ∀ state ∈ states, Ascending key (listing state)) :
    Ascending key pages.flatten := by
  induction walk with
  | last fetched =>
      rw [List.flatten_singleton]
      exact fetch_ascending (ordered _ List.mem_cons_self) fetched
  | more fetched rest ih =>
      have head := ordered _ List.mem_cons_self
      have tail := ih fun state member => ordered state (List.mem_cons_of_mem _ member)
      have here := fetch_ascending head fetched
      rw [List.flatten_cons]
      refine List.pairwise_append.mpr ⟨here, tail, fun item member later listed => ?_⟩
      have above := (rest.sound later listed).2 _ rfl
      obtain ⟨first, final, _, _, rfl, rfl, _, _⟩ := fetch_next fetched
      rcases List.mem_append.mp member with before | ends
      · have below := (List.pairwise_append.mp here).2.2 item before final (by simp)
        exact below.trans above
      · rw [List.mem_singleton.mp ends]
        exact above

/-- A key that every state read lists after the cursor is listed by the walk. -/
theorem finds (walk : Walk listing key limit cursor states pages) (positive : 0 < limit)
    (ordered : ∀ state ∈ states, Ascending key (listing state)) (wanted : κ)
    (after : ∀ last, cursor = some last → last < wanted)
    (present : ∀ state ∈ states, ∃ item ∈ listing state, key item = wanted) :
    ∃ item ∈ pages.flatten, key item = wanted := by
  induction walk with
  | last fetched =>
      obtain ⟨item, listed, rfl⟩ := present _ List.mem_cons_self
      refine ⟨item, ?_, rfl⟩
      rw [List.flatten_singleton, (fetch_last positive fetched).1]
      exact mem_beyond.mpr ⟨listed, after⟩
  | more fetched rest ih =>
      obtain ⟨item, listed, rfl⟩ := present _ List.mem_cons_self
      obtain ⟨first, final, remaining, cut, paged, rfl, _, _⟩ := fetch_next fetched
      by_cases passed : key final < key item
      · -- The cursor still stands before the key, so a later page lists it.
        obtain ⟨other, member, same⟩ := ih
          (fun state member => ordered state (List.mem_cons_of_mem _ member))
          (fun last at_ => by cases at_; exact passed)
          (fun state member => present state (List.mem_cons_of_mem _ member))
        exact ⟨other, List.mem_flatten.mpr (by
          obtain ⟨page, among, within⟩ := List.mem_flatten.mp member
          exact ⟨page, List.mem_cons_of_mem _ among, within⟩), same⟩
      · have pending := mem_beyond.mpr ⟨listed, after⟩
        have order := (ordered _ List.mem_cons_self).beyond (by assumption)
        rw [cut] at pending order
        have here : item ∈ first ++ [final] := by
          rcases List.mem_append.mp pending with before | rest
          · exact List.mem_append_left _ before
          · rcases List.mem_cons.mp rest with rfl | behind
            · simp
            · obtain ⟨_, tail, _⟩ := List.pairwise_append.mp order
              exact absurd ((List.pairwise_cons.mp tail).1 item behind) passed
        refine ⟨item, ?_, rfl⟩
        rw [List.flatten_cons, paged]
        exact List.mem_append_left _ here

/-! ## One listing -/

/-- A walk over one listing is that listing after the cursor. -/
theorem flatten_eq (walk : Walk listing key limit cursor states pages) (positive : 0 < limit)
    (ordered : Ascending key items) (same : ∀ state ∈ states, listing state = items) :
    pages.flatten = beyond key cursor items := by
  induction walk with
  | last fetched =>
      rw [same _ List.mem_cons_self] at fetched
      rw [List.flatten_singleton, (fetch_last positive fetched).1]
  | more fetched rest ih =>
      rw [same _ List.mem_cons_self] at fetched
      obtain ⟨first, final, remaining, cut, rfl, rfl, _, _⟩ := fetch_next fetched
      rw [List.flatten_cons, ih fun state member => same state (List.mem_cons_of_mem _ member),
        fetched_rest ordered cut, cut, List.append_assoc, List.singleton_append]

/-- Every page but the last is full. -/
theorem full (walk : Walk listing key limit cursor states pages) :
    ∀ page ∈ pages.dropLast, page.length = limit := by
  induction walk with
  | last fetched => simp
  | more fetched rest ih =>
      obtain ⟨_, _, _, _, _, _, length, _⟩ := fetch_next fetched
      intro page member
      cases rest with
      | last final =>
          obtain rfl : page = _ := by simpa using member
          exact length
      | more next rest =>
          rw [List.dropLast_cons_of_ne_nil (List.cons_ne_nil _ _)] at member
          rcases List.mem_cons.mp member with rfl | later
          · exact length
          · exact ih page later

/-- The last page has at most `limit` items, and has one unless nothing lies after the
cursor. -/
theorem final (walk : Walk listing key limit cursor states pages) (positive : 0 < limit)
    (ordered : Ascending key items) (same : ∀ state ∈ states, listing state = items) :
    ∃ page, pages.getLast? = some page ∧ page.length ≤ limit ∧
      (page = [] → beyond key cursor items = []) := by
  induction walk with
  | last fetched =>
      rw [same _ List.mem_cons_self] at fetched
      obtain ⟨rfl, short⟩ := fetch_last positive fetched
      exact ⟨_, rfl, short, id⟩
  | more fetched rest ih =>
      rw [same _ List.mem_cons_self] at fetched
      obtain ⟨page, ends, short, empty⟩ :=
        ih fun state member => same state (List.mem_cons_of_mem _ member)
      obtain ⟨first, final, remaining, cut, _, rfl, _, more⟩ := fetch_next fetched
      refine ⟨page, ?_, short, fun nothing => ?_⟩
      · rw [List.getLast?_cons, ends, Option.getD_some]
      · rw [fetched_rest ordered cut] at empty
        exact absurd (empty nothing) more

/-- A walk over one listing ends. -/
theorem exists_walk (listing : σ → List α) (limit : Nat) (state : σ)
    (ordered : Ascending key (listing state)) (cursor : Option κ) :
    ∃ pages, Walk listing key limit cursor (List.replicate pages.length state) pages := by
  induction count : (beyond key cursor (listing state)).length using Nat.strong_induction_on
    generalizing cursor with
  | _ size ih =>
      cases fetched : fetch key cursor limit (listing state) with
      | mk page next =>
          cases next with
          | none => exact ⟨[page], .last fetched⟩
          | some next =>
              obtain ⟨first, final, remaining, cut, _, rfl, _, _⟩ := fetch_next fetched
              have fewer : remaining.length < size := by
                rw [← count, cut, List.length_append, List.length_cons]
                omega
              have left := congrArg List.length (fetched_rest ordered cut)
              obtain ⟨pages, walk⟩ := ih _ fewer (some (key final)) left
              exact ⟨page :: pages, .more fetched walk⟩

end Walk

end Paging
