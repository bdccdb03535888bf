import Resonate.Kernel

set_option autoImplicit false

/-! The lineage of a promise id, and the ancestor check as its prefix order. -/

namespace Text

variable {text pre before after : String} {char : Char}

theorem contains_iff : contains text char = true ↔ char ∈ text.toList := by
  simp [contains]

/-- The text up to the first `char` and what remains. -/
theorem takeWhile_dropWhile (chars rest : List Char) (char : Char) (absent : char ∉ chars) :
    (chars ++ char :: rest).takeWhile (· ≠ char) = chars ∧
      (chars ++ char :: rest).dropWhile (· ≠ char) = char :: rest := by
  have passed : ∀ each ∈ chars, decide (each ≠ char) = true := by
    intro each member
    rw [decide_eq_true_eq]
    rintro rfl
    exact absent member
  rw [List.takeWhile_append_of_pos passed, List.dropWhile_append_of_pos passed]
  simp

theorem splitOnce_none : splitOnce text char = none ↔ char ∉ text.toList := by
  constructor
  · intro unsplit member
    obtain ⟨chars, rest, split, absent⟩ := List.eq_append_cons_of_mem member
    unfold splitOnce at unsplit
    rw [split, (takeWhile_dropWhile chars rest char absent).2] at unsplit
    cases unsplit
  · intro absent
    have passed : text.toList.dropWhile (· ≠ char) = [] := by
      rw [List.dropWhile_eq_nil_iff]
      intro each member
      rw [decide_eq_true_eq]
      rintro rfl
      exact absent member
    unfold splitOnce
    rw [passed]

theorem splitOnce_some : splitOnce text char = some (before, after) ↔
    text.toList = before.toList ++ char :: after.toList ∧ char ∉ before.toList := by
  constructor
  · intro split
    have member : char ∈ text.toList := by
      by_contra absent
      rw [splitOnce_none.mpr absent] at split
      cases split
    obtain ⟨chars, rest, parts, absent⟩ := List.eq_append_cons_of_mem member
    unfold splitOnce at split
    rw [parts, (takeWhile_dropWhile chars rest char absent).1,
      (takeWhile_dropWhile chars rest char absent).2] at split
    cases split
    rw [String.toList_ofList, String.toList_ofList]
    exact ⟨parts, absent⟩
  · intro ⟨parts, absent⟩
    unfold splitOnce
    rw [parts, (takeWhile_dropWhile _ _ char absent).1, (takeWhile_dropWhile _ _ char absent).2]
    simp

theorem stripPrefix_some : stripPrefix text pre = some after ↔
    text.toList = pre.toList ++ after.toList := by
  unfold stripPrefix
  constructor
  · intro stripped
    split at stripped
    · rename_i begins
      obtain ⟨rest, parts⟩ := begins
      cases stripped
      rw [← parts]
      simp
    · cases stripped
  · intro parts
    rw [if_pos ⟨_, parts.symm⟩, parts, List.drop_left]
    simp

theorem startsWith_iff : startsWith text char = true ↔ ∃ rest, text.toList = char :: rest := by
  unfold startsWith
  cases text.toList with
  | nil => simp
  | cons head rest => simp

theorem intercalate_append {left right : List (List Char)} (char : Char) (some_left : left ≠ [])
    (some_right : right ≠ []) : [char].intercalate (left ++ right) =
      [char].intercalate left ++ char :: [char].intercalate right := by
  induction left with
  | nil => exact absurd rfl some_left
  | cons piece rest ih =>
      cases rest with
      | nil => rw [List.singleton_append, List.intercalate_cons_of_ne_nil some_right]; simp
      | cons next others =>
          have joined := ih (List.cons_ne_nil next others)
          rw [List.cons_append, List.intercalate_cons_of_ne_nil (by simp), joined,
            List.intercalate_cons_of_ne_nil (List.cons_ne_nil next others), List.append_assoc]
          simp only [List.append_assoc]

/-- The pieces of one list begin those of another exactly when it is the other, or begins it up to
a separator. -/
theorem splitOn_prefix (first second : List Char) (char : Char) :
    first.splitOn char <+: second.splitOn char ↔
      first = second ∨ ∃ rest, second = first ++ char :: rest := by
  constructor
  · intro ⟨pieces, parts⟩
    have joined : [char].intercalate (second.splitOn char) = second :=
      List.intercalate_splitOn char
    rw [← parts] at joined
    by_cases last : pieces = []
    · rw [last, List.append_nil, List.intercalate_splitOn] at joined
      exact .inl joined
    · rw [intercalate_append char (List.splitOn_ne_nil _ _) last, List.intercalate_splitOn] at joined
      exact .inr ⟨_, joined.symm⟩
  · rintro (rfl | ⟨rest, rfl⟩)
    · exact List.prefix_rfl
    · rw [List.splitOn_append_cons_self]
      exact List.prefix_append _ _

end Text

namespace Resonate

open Kernel

/-- The lineage of an id: its origin, then the segments of its path. -/
def lineageOf (id : String) : List String :=
  match Text.splitOnce id ':' with
  | some (origin, path) => origin :: (path.toList.splitOn '.').map String.ofList
  | none => [id]

theorem lineageOf_plain {id : String} (plain : ':' ∉ id.toList) : lineageOf id = [id] := by
  unfold lineageOf
  rw [Text.splitOnce_none.mpr plain]

theorem lineageOf_path {id origin path : String} (split : Text.splitOnce id ':' = some (origin, path)) :
    lineageOf id = origin :: (path.toList.splitOn '.').map String.ofList := by
  unfold lineageOf
  rw [split]

theorem lineageOf_head (id : String) : (lineageOf id).head? = some (originOf id) := by
  unfold lineageOf originOf
  cases Text.splitOnce id ':' with
  | none => rfl
  | some parts => rfl

/-- The ancestors of an id are itself and what it continues after their separator. -/
theorem isAncestor_iff (ancestor id : String) : isAncestor ancestor id = true ↔
    ancestor = id ∨ ∃ rest, id.toList =
      ancestor.toList ++ (if ':' ∈ ancestor.toList then '.' else ':') :: rest := by
  unfold isAncestor
  by_cases same : ancestor = id
  · simp [same]
  · have separator : (if Text.contains ancestor ':' = true then '.' else ':') =
        if ':' ∈ ancestor.toList then '.' else ':' := by
      simp only [Text.contains_iff]
    rw [if_neg same]
    dsimp only
    rw [separator]
    constructor
    · intro begins
      split at begins
      · rename_i after stripped
        obtain ⟨rest, parts⟩ := Text.startsWith_iff.mp begins
        refine .inr ⟨rest, ?_⟩
        rw [Text.stripPrefix_some.mp stripped, parts]
      · cases begins
    · rintro (own | ⟨rest, parts⟩)
      · exact absurd own same
      · have stripped : Text.stripPrefix id ancestor = some (String.ofList
            ((if ':' ∈ ancestor.toList then '.' else ':') :: rest)) := by
          rw [Text.stripPrefix_some, String.toList_ofList]
          exact parts
        rw [stripped]
        exact Text.startsWith_iff.mpr ⟨rest, String.toList_ofList⟩

theorem ofList_prefix (left right : List (List Char)) :
    left.map String.ofList <+: right.map String.ofList ↔ left <+: right := by
  rw [List.prefix_map_iff]
  constructor
  · intro ⟨pieces, begins, same⟩
    have injective : Function.Injective String.ofList := fun _ _ same => String.ofList_injective same
    rw [List.map_injective_iff.mpr injective same]
    exact begins
  · exact fun begins => ⟨left, begins, rfl⟩

/-- An id without an origin separator is an ancestor of the ids of its origin. -/
theorem lineage_plain {ancestor id : String} (plain : ':' ∉ ancestor.toList) :
    isAncestor ancestor id = true ↔ lineageOf ancestor <+: lineageOf id := by
  rw [isAncestor_iff, lineageOf_plain plain, if_neg plain]
  cases split : Text.splitOnce id ':' with
  | none =>
      have unsplit := Text.splitOnce_none.mp split
      rw [lineageOf_plain unsplit]
      constructor
      · rintro (rfl | ⟨rest, parts⟩)
        · exact List.prefix_rfl
        · rw [parts] at unsplit
          simp at unsplit
      · intro begins
        exact .inl (by simpa using begins)
  | some parts =>
      obtain ⟨origin, path⟩ := parts
      rw [lineageOf_path split]
      constructor
      · rintro (rfl | ⟨rest, continued⟩)
        · rw [Text.splitOnce_none.mpr plain] at split
          cases split
        · have again : Text.splitOnce id ':' = some (ancestor, String.ofList rest) := by
            rw [Text.splitOnce_some, String.toList_ofList]
            exact ⟨continued, plain⟩
          rw [split] at again
          cases again
          exact ⟨_, rfl⟩
      · intro ⟨rest, begins⟩
        obtain ⟨same, _⟩ := List.cons.inj begins
        obtain ⟨joined, _⟩ := Text.splitOnce_some.mp split
        exact .inr ⟨path.toList, by rw [joined, ← same]⟩

/-- An id with a path is an ancestor of the ids that continue its path. -/
theorem lineage_path {ancestor id origin path : String}
    (split : Text.splitOnce ancestor ':' = some (origin, path)) :
    isAncestor ancestor id = true ↔ lineageOf ancestor <+: lineageOf id := by
  obtain ⟨joined, apart⟩ := Text.splitOnce_some.mp split
  have pathed : ':' ∈ ancestor.toList := by
    rw [joined]
    simp
  rw [isAncestor_iff, lineageOf_path split, if_pos pathed]
  cases other : Text.splitOnce id ':' with
  | none =>
      have unsplit := Text.splitOnce_none.mp other
      rw [lineageOf_plain unsplit]
      constructor
      · rintro (rfl | ⟨rest, parts⟩)
        · exact absurd pathed unsplit
        · rw [parts] at unsplit
          exact absurd (List.mem_append_left _ pathed) unsplit
      · intro ⟨rest, begins⟩
        have empty := (List.cons.inj begins).2
        simp [List.splitOn_ne_nil] at empty
  | some parts =>
      obtain ⟨first, rest⟩ := parts
      obtain ⟨shape, plain⟩ := Text.splitOnce_some.mp other
      rw [lineageOf_path other, List.cons_prefix_cons, ofList_prefix, Text.splitOn_prefix]
      constructor
      · rintro (rfl | ⟨remainder, continued⟩)
        · rw [split] at other
          cases other
          exact ⟨rfl, .inl rfl⟩
        · have again : Text.splitOnce id ':' =
              some (origin, String.ofList (path.toList ++ '.' :: remainder)) := by
            rw [Text.splitOnce_some, String.toList_ofList, continued, joined]
            exact ⟨by simp, apart⟩
          rw [other] at again
          cases again
          exact ⟨rfl, .inr ⟨remainder, String.toList_ofList⟩⟩
      · rintro ⟨rfl, same | ⟨remainder, continued⟩⟩
        · left
          apply String.toList_injective
          rw [joined, shape, same]
        · right
          refine ⟨remainder, ?_⟩
          rw [shape, joined, continued]
          simp

theorem isAncestor_lineage (ancestor id : String) :
    isAncestor ancestor id = true ↔ lineageOf ancestor <+: lineageOf id := by
  cases split : Text.splitOnce ancestor ':' with
  | none => exact lineage_plain (Text.splitOnce_none.mp split)
  | some parts => exact lineage_path split

/-- An id is what its lineage was read from. -/
theorem lineageOf_injective : Function.Injective lineageOf := by
  intro first second same
  have left := (isAncestor_lineage first second).mpr (by rw [same])
  have right := (isAncestor_lineage second first).mpr (by rw [same])
  rcases (isAncestor_iff first second).mp left with own | ⟨rest, longer⟩
  · exact own
  · rcases (isAncestor_iff second first).mp right with own | ⟨others, shorter⟩
    · exact own.symm
    · have lengths := congrArg List.length (shorter.trans (congrArg (· ++ _) longer))
      simp at lengths

/-- An ancestor is of the origin of the id. -/
theorem originOf_ancestor {ancestor id : String} (holds : isAncestor ancestor id = true) :
    originOf ancestor = originOf id := by
  obtain ⟨rest, begins⟩ := (isAncestor_lineage ancestor id).mp holds
  have heads := congrArg List.head? begins
  rw [lineageOf_head, List.head?_append, lineageOf_head] at heads
  exact Option.some.inj heads

/-- The ancestor check is the prefix order on lineages: a partial order within one origin. -/
theorem ancestors_are_lineage_prefixes :
    (∀ ancestor id, isAncestor ancestor id = true ↔ lineageOf ancestor <+: lineageOf id) ∧
      IsPartialOrder String (fun ancestor id => isAncestor ancestor id = true) ∧
      ∀ ancestor id, isAncestor ancestor id = true → originOf ancestor = originOf id := by
  refine ⟨isAncestor_lineage, ?_, ?_⟩
  · refine @IsPartialOrder.mk _ _ (@IsPreorder.mk _ _ ⟨?_⟩ ⟨?_⟩) ⟨?_⟩
    · intro id
      rw [isAncestor_lineage]
    · intro first second third left right
      rw [isAncestor_lineage] at left right ⊢
      exact left.trans right
    · intro first second left right
      rw [isAncestor_lineage] at left right
      exact lineageOf_injective (left.eq_of_length_le right.length_le)
  · exact fun ancestor id holds => originOf_ancestor holds

example : lineageOf "root:1.2" = ["root", "1", "2"] ∧ lineageOf "a.b" = ["a.b"] ∧
    lineageOf ":" = ["", ""] := by decide

end Resonate
