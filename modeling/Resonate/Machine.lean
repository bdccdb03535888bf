import Mathlib.Logic.Basic

set_option autoImplicit false

/-! Partial labelled machines: executable runs, histories and the induction rules
every invariant of a run is proved by. -/

namespace Machine

variable {σ ε : Type}

/-- Execute the labels in order. A label the state does not enable ends the run
with `none`. -/
def run (step : σ → ε → Option σ) : σ → List ε → Option σ
  | state, [] => some state
  | state, label :: rest => (step state label).bind fun next => run step next rest

/-- One entry of a history: the state before a step, its label and the state after. -/
structure Entry (σ ε : Type) where
  before : σ
  label : ε
  after : σ

/-- The history of a run from `initial`, newest entry first. -/
inductive History (step : σ → ε → Option σ) (initial : σ) : List (Entry σ ε) → σ → Prop
  | start : History step initial [] initial
  | extend {past : List (Entry σ ε)} {before after : σ} {label : ε}
      (previous : History step initial past before) (taken : step before label = some after) :
      History step initial (⟨before, label, after⟩ :: past) after

/-- A state some run from `initial` ends in. -/
def Reachable (step : σ → ε → Option σ) (initial state : σ) : Prop :=
  ∃ past, History step initial past state

/-- Every entry of a history satisfies a condition on the state before and the label. -/
def Meets (condition : σ → ε → Prop) (past : List (Entry σ ε)) : Prop :=
  ∀ entry ∈ past, condition entry.before entry.label

instance (condition : σ → ε → Prop) [∀ state label, Decidable (condition state label)]
    (past : List (Entry σ ε)) : Decidable (Meets condition past) :=
  inferInstanceAs (Decidable (∀ entry ∈ past, condition entry.before entry.label))

/-- Execute the labels in order and record the history. -/
def trace (step : σ → ε → Option σ) :
    List (Entry σ ε) → σ → List ε → Option (List (Entry σ ε) × σ)
  | past, state, [] => some (past, state)
  | past, state, label :: rest =>
      (step state label).bind fun next => trace step (⟨state, label, next⟩ :: past) next rest

variable {step : σ → ε → Option σ} {initial : σ}

@[simp] theorem run_nil (state : σ) : run step state [] = some state := rfl

@[simp] theorem run_cons (state : σ) (label : ε) (rest : List ε) :
    run step state (label :: rest) =
      (step state label).bind fun next => run step next rest := rfl

theorem run_append (state : σ) (first second : List ε) :
    run step state (first ++ second) =
      (run step state first).bind fun next => run step next second := by
  induction first generalizing state with
  | nil => rfl
  | cons label rest ih =>
      rw [List.cons_append, run_cons, run_cons]
      cases step state label with
      | none => rfl
      | some next => exact ih next

theorem Meets.tail {condition : σ → ε → Prop} {entry : Entry σ ε} {past : List (Entry σ ε)}
    (met : Meets condition (entry :: past)) : Meets condition past :=
  fun older member => met older (List.mem_cons_of_mem _ member)

theorem Meets.head {condition : σ → ε → Prop} {entry : Entry σ ε} {past : List (Entry σ ε)}
    (met : Meets condition (entry :: past)) : condition entry.before entry.label :=
  met entry List.mem_cons_self

theorem meets_true (past : List (Entry σ ε)) : Meets (fun _ _ => True) past :=
  fun _ _ => trivial

/-- An executable run extends any history that ends where it starts. -/
theorem History.append_run {past : List (Entry σ ε)} {before after : σ} {labels : List ε}
    (history : History step initial past before) (ran : run step before labels = some after) :
    ∃ newer, History step initial (newer ++ past) after := by
  induction labels generalizing past before with
  | nil =>
      cases ran
      exact ⟨[], history⟩
  | cons label rest ih =>
      obtain ⟨next, taken, remaining⟩ := Option.bind_eq_some_iff.mp ran
      obtain ⟨newer, extended⟩ := ih (history.extend taken) remaining
      refine ⟨newer ++ [⟨before, label, next⟩], ?_⟩
      simpa only [List.append_assoc, List.singleton_append] using extended

/-- A run of labels that meet a condition in any state extends a history that meets it. -/
theorem History.append_met {condition : σ → ε → Prop} {past : List (Entry σ ε)} {before after : σ}
    {labels : List ε} (history : History step initial past before) (met : Meets condition past)
    (allowed : ∀ label ∈ labels, ∀ state, condition state label)
    (ran : run step before labels = some after) :
    ∃ newer, History step initial newer after ∧ Meets condition newer := by
  induction labels generalizing past before with
  | nil =>
      cases ran
      exact ⟨past, history, met⟩
  | cons label rest ih =>
      obtain ⟨next, taken, remaining⟩ := Option.bind_eq_some_iff.mp ran
      refine ih (history.extend taken) ?_
        (fun later member => allowed later (List.mem_cons_of_mem _ member)) remaining
      intro entry member
      rcases List.mem_cons.mp member with rfl | older
      · exact allowed label List.mem_cons_self before
      · exact met entry older

theorem History.append_trace {past newer : List (Entry σ ε)} {before after : σ} {labels : List ε}
    (history : History step initial past before)
    (traced : trace step past before labels = some (newer, after)) :
    History step initial newer after := by
  induction labels generalizing past before with
  | nil =>
      cases traced
      exact history
  | cons label rest ih =>
      obtain ⟨next, taken, remaining⟩ := Option.bind_eq_some_iff.mp traced
      exact ih (history.extend taken) remaining

/-- A run that is recorded to its end has that history. -/
theorem history_of_trace {labels : List ε} (ends : (trace step [] initial labels).isSome = true) :
    History step initial ((trace step [] initial labels).get ends).1
      ((trace step [] initial labels).get ends).2 :=
  History.start.append_trace (Option.some_get ends).symm

/-- A recorded run took its labels in order. -/
theorem trace_labels {past newer : List (Entry σ ε)} {before after : σ} {labels : List ε}
    (traced : trace step past before labels = some (newer, after)) :
    newer.map Entry.label = labels.reverse ++ past.map Entry.label := by
  induction labels generalizing past before with
  | nil =>
      cases traced
      rfl
  | cons label rest ih =>
      obtain ⟨next, taken, remaining⟩ := Option.bind_eq_some_iff.mp traced
      rw [ih remaining, List.reverse_cons, List.append_assoc]
      rfl

theorem reachable_of_run {labels : List ε} {state : σ}
    (ran : run step initial labels = some state) : Reachable step initial state := by
  obtain ⟨newer, history⟩ := History.start.append_run ran
  exact ⟨_, history⟩

theorem reachable_start : Reachable step initial initial := ⟨[], .start⟩

theorem Reachable.extend {before after : σ} {label : ε} (reached : Reachable step initial before)
    (taken : step before label = some after) : Reachable step initial after := by
  obtain ⟨past, history⟩ := reached
  exact ⟨_, history.extend taken⟩

/-- The states of a history's entries are reachable. -/
theorem History.before_reachable {past : List (Entry σ ε)} {state : σ}
    (history : History step initial past state) :
    ∀ entry ∈ past, Reachable step initial entry.before := by
  induction history with
  | start => intro entry member; cases member
  | extend previous taken ih =>
      intro entry member
      rcases List.mem_cons.mp member with rfl | member
      · exact ⟨_, previous⟩
      · exact ih entry member

theorem History.taken {past : List (Entry σ ε)} {state : σ}
    (history : History step initial past state) :
    ∀ entry ∈ past, step entry.before entry.label = some entry.after := by
  induction history with
  | start => intro entry member; cases member
  | extend previous taken ih =>
      intro entry member
      rcases List.mem_cons.mp member with rfl | member
      · exact taken
      · exact ih entry member

/-- A history cut at one of its entries is the history of the state before it. -/
theorem History.split {newer older : List (Entry σ ε)} {entry : Entry σ ε} {state : σ}
    (history : History step initial (newer ++ entry :: older) state) :
    History step initial older entry.before := by
  induction newer generalizing state with
  | nil =>
      cases history with
      | extend previous taken => exact previous
  | cons head rest ih =>
      cases history with
      | extend previous taken => exact ih previous

/-- The invariant rule for runs whose steps all meet a condition. -/
theorem History.invariant {condition : σ → ε → Prop} (invariant : σ → Prop)
    {past : List (Entry σ ε)} {state : σ} (history : History step initial past state)
    (met : Meets condition past) (base : invariant initial)
    (preserved : ∀ before label after, Reachable step initial before → invariant before →
      condition before label → step before label = some after → invariant after) :
    invariant state := by
  induction history with
  | start => exact base
  | extend previous taken ih =>
      exact preserved _ _ _ ⟨_, previous⟩ (ih met.tail) met.head taken

/-- The invariant rule for all runs. -/
theorem Reachable.invariant (invariant : σ → Prop) {state : σ}
    (reached : Reachable step initial state) (base : invariant initial)
    (preserved : ∀ before label after, Reachable step initial before → invariant before →
      step before label = some after → invariant after) : invariant state := by
  obtain ⟨past, history⟩ := reached
  exact history.invariant invariant (meets_true past) base
    fun before label after reached holds _ taken => preserved before label after reached holds taken

/-- The invariant rule for properties of a state together with its history. -/
theorem History.induct (motive : List (Entry σ ε) → σ → Prop)
    {past : List (Entry σ ε)} {state : σ} (history : History step initial past state)
    (base : motive [] initial)
    (grown : ∀ past before label after, History step initial past before → motive past before →
      step before label = some after → motive (⟨before, label, after⟩ :: past) after) :
    motive past state := by
  induction history with
  | start => exact base
  | extend previous taken ih => exact grown _ _ _ _ previous ih taken

/-- A reflexive and transitive relation that every step from a reachable state respects
relates any reachable state to every later one. -/
theorem run_respects (relation : σ → σ → Prop) (refl : ∀ state, relation state state)
    (trans : ∀ first second third, relation first second → relation second third →
      relation first third)
    (respected : ∀ before label after, Reachable step initial before →
      step before label = some after → relation before after)
    {before after : σ} {labels : List ε} (reached : Reachable step initial before)
    (ran : run step before labels = some after) : relation before after := by
  induction labels generalizing before with
  | nil =>
      cases ran
      exact refl _
  | cons label rest ih =>
      obtain ⟨next, taken, remaining⟩ := Option.bind_eq_some_iff.mp ran
      exact trans _ _ _ (respected before label next reached taken)
        (ih (reached.extend taken) remaining)

end Machine
