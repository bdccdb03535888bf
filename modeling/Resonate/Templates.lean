import Resonate.Text

set_option autoImplicit false

/-! Substitution into a template: the pieces between the matches do not depend on what is
substituted, and a match of one pattern survives the substitution of another. -/

namespace Text

variable {pattern other new : List Char}

/-- No match of `other` starts inside a match of `pattern`. -/
def Apart (pattern other : List Char) : Prop :=
  ∀ rest ∈ pattern.tails, rest ≠ [] → ¬ other <+: rest ∧ ¬ rest <+: other

instance (pattern other : List Char) : Decidable (Apart pattern other) :=
  inferInstanceAs (Decidable (∀ rest ∈ pattern.tails, rest ≠ [] →
    ¬ other <+: rest ∧ ¬ rest <+: other))

theorem Apart.not_prefix (apart : Apart pattern other) {rest : List Char}
    (member : rest <:+ pattern) (some_ : rest ≠ []) (after : List Char) :
    ¬ other <+: rest ++ after := by
  obtain ⟨longer, shorter⟩ := apart rest ((List.mem_tails _ _).mpr member) some_
  intro matched
  rcases List.prefix_or_prefix_of_prefix matched (List.prefix_append rest after) with first | first
  · exact longer first
  · exact shorter first

/-- What is substituted stands between pieces that the text and the pattern alone decide. -/
theorem replaceChars_pieces (present : pattern ≠ []) (skip : Nat) (text : List Char) :
    ∃ (first : List Char) (pieces : List (List Char)),
      (∀ new, replaceChars pattern new skip text =
        first ++ (pieces.map fun piece => new ++ piece).flatten) ∧
      (pattern <:+: text.drop skip → pieces ≠ []) := by
  induction text generalizing skip with
  | nil =>
      refine ⟨[], [], fun new => by cases skip <;> rfl, ?_⟩
      intro occurs
      simp only [List.drop_nil, List.infix_nil] at occurs
      exact absurd occurs present
  | cons char rest ih =>
      cases skip with
      | succ skip =>
          obtain ⟨first, pieces, split, occurs⟩ := ih skip
          exact ⟨first, pieces, split, occurs⟩
      | zero =>
          by_cases matched : pattern <+: char :: rest
          · obtain ⟨first, pieces, split, _⟩ := ih (pattern.length - 1)
            refine ⟨[], first :: pieces, ?_, by simp⟩
            intro new
            simp [replaceChars, matched, split]
          · obtain ⟨first, pieces, split, occurs⟩ := ih 0
            refine ⟨char :: first, pieces, ?_, ?_⟩
            · intro new
              simp [replaceChars, matched, split]
            · intro inside
              apply occurs
              rcases List.infix_cons_iff.mp inside with start | later
              · exact absurd start matched
              · exact later

theorem length_flatten_pieces (new : List Char) (pieces : List (List Char)) :
    ((pieces.map fun piece => new ++ piece).flatten).length =
      pieces.length * new.length + pieces.flatten.length := by
  induction pieces with
  | nil => simp
  | cons piece pieces ih =>
      simp only [List.map_cons, List.flatten_cons, List.length_append, List.length_cons, ih,
        Nat.add_mul]
      omega

/-- Different substitutions into a text that matches give different texts. -/
theorem replaceChars_injective (present : pattern ≠ []) {text : List Char}
    (occurs : pattern <:+: text) {left right : List Char}
    (same : replaceChars pattern left 0 text = replaceChars pattern right 0 text) :
    left = right := by
  obtain ⟨first, pieces, split, some_⟩ := replaceChars_pieces present 0 text
  rw [split left, split right] at same
  have tails := List.append_cancel_left same
  cases pieces with
  | nil => exact absurd rfl (some_ occurs)
  | cons piece pieces =>
      have lengths : left.length = right.length := by
        have total := congrArg List.length tails
        rw [length_flatten_pieces, length_flatten_pieces] at total
        have scaled : (piece :: pieces).length * left.length =
            (piece :: pieces).length * right.length := by
          omega
        exact Nat.eq_of_mul_eq_mul_left (by simp) scaled
      simp only [List.map_cons, List.flatten_cons, List.append_assoc] at tails
      exact (List.append_inj tails lengths).1

/-- Where no match starts, the substitution copies. -/
theorem replaceChars_copies (after : List Char) (front : List Char)
    (unmatched : ∀ rest, rest <:+ front → rest ≠ [] → ¬ pattern <+: rest ++ after) :
    replaceChars pattern new 0 (front ++ after) = front ++ replaceChars pattern new 0 after := by
  induction front with
  | nil => rfl
  | cons char front ih =>
      have start := unmatched (char :: front) (List.suffix_refl _) (by simp)
      simp only [List.cons_append] at start ⊢
      rw [replaceChars, if_neg start, ih]
      intro rest suffix some_
      exact unmatched rest (suffix.trans (List.suffix_cons char front)) some_

/-- A match survives the substitution of a pattern it is apart from. -/
theorem infix_replaceChars (apart : Apart pattern other) (reverse : Apart other pattern)
    (front after : List Char) (skip : Nat) (short : skip ≤ front.length) :
    pattern <:+: replaceChars other new skip (front ++ (pattern ++ after)) := by
  induction front generalizing skip with
  | nil =>
      have none_ : skip = 0 := by simpa using short
      rw [none_, List.nil_append, replaceChars_copies after pattern]
      · exact (List.prefix_append _ _).isInfix
      · intro rest member some_
        exact apart.not_prefix member some_ after
  | cons char front ih =>
      cases skip with
      | succ skip => exact ih skip (by simpa using short)
      | zero =>
          rw [List.cons_append, replaceChars]
          split
          · rename_i matched
            apply List.IsInfix.trans (ih (other.length - 1) ?_) (List.suffix_append _ _).isInfix
            by_contra long
            -- the match of the other pattern would end inside this one
            obtain ⟨inner, whole⟩ : char :: front <+: other := by
              apply List.prefix_of_prefix_length_le (List.prefix_append (char :: front) _) matched
              simp only [List.length_cons]
              omega
            rw [← whole, ← List.cons_append] at matched
            have reached : inner <+: pattern ++ after := (List.prefix_append_right_inj _).mp matched
            have some_ : inner ≠ [] := by
              rintro rfl
              simp only [List.append_nil] at whole
              simp [← whole] at long
            obtain ⟨longer, shorter⟩ := reverse inner
              ((List.mem_tails _ _).mpr ⟨char :: front, whole⟩) some_
            rcases List.prefix_or_prefix_of_prefix reached (List.prefix_append pattern after) with
              first | first
            · exact shorter first
            · exact longer first
          · exact (ih 0 (Nat.zero_le _)).trans (List.suffix_cons _ _).isInfix

/-- Whether a template holds a pattern. -/
def holds (template pattern : String) : Prop := pattern.toList <:+: template.toList

instance (template pattern : String) : Decidable (holds template pattern) :=
  inferInstanceAs (Decidable (pattern.toList <:+: template.toList))

theorem toList_replace (text pattern new : String) : (replace text pattern new).toList =
    replaceChars pattern.toList new.toList 0 text.toList := by
  simp [replace]

theorem replace_injective {text pattern left right : String} (present : pattern ≠ "")
    (occurs : holds text pattern) (same : replace text pattern left = replace text pattern right) :
    left = right := by
  have lists := congrArg String.toList same
  rw [toList_replace, toList_replace] at lists
  apply String.toList_inj.mp
  exact replaceChars_injective (by simpa using present) occurs lists

theorem holds_replace {text pattern other new : String}
    (apart : Apart pattern.toList other.toList) (reverse : Apart other.toList pattern.toList)
    (occurs : holds text pattern) : holds (replace text other new) pattern := by
  obtain ⟨front, after, split⟩ := occurs
  unfold holds
  rw [toList_replace, ← split, List.append_assoc]
  exact infix_replaceChars apart reverse front after 0 (Nat.zero_le _)

end Text
