/-
**Cutting a text at a mark.**

`cut mark text` is what a search for `mark` finds: the text before its first occurrence and the text
behind it. `quoted mark text` is the next text between two marks.

* `cut_eq_none_iff`, `cut_eq_some_iff` — what a search says of the text.
* `cut_append_of_notMem`, `cut_concat`, and the same of `quoted` — what stands in front of the first
  mark, and a last character that is no mark, do not disturb the search.
* `cutLast`, `cutLast_eq_some_iff` — the same for the last occurrence.
* `quoted_of_even` — **a search that takes the marks two by two** sees a text between two marks exactly
  where an even number of marks stands in front.
-/

import Mathlib.Algebra.Group.Nat.Even
import Mathlib.Data.List.Basic

namespace MarketDataFabric.Library.Scan

variable {α : Type} [DecidableEq α] {mark : α}

/-- The text before the first `mark`, and the text behind it. -/
def cut (mark : α) : List α → Option (List α × List α)
  | [] => none
  | ch :: rest =>
      if ch = mark then some ([], rest)
      else (cut mark rest).map fun found => (ch :: found.1, found.2)

@[simp] theorem cut_nil : cut mark [] = none := rfl

@[simp] theorem cut_mark (rest : List α) : cut mark (mark :: rest) = some ([], rest) := if_pos rfl

theorem cut_cons {ch : α} (other : ch ≠ mark) (rest : List α) :
    cut mark (ch :: rest) = (cut mark rest).map fun found => (ch :: found.1, found.2) :=
  if_neg other

theorem cut_append_of_notMem {front : List α} (clear : mark ∉ front) (text : List α) :
    cut mark (front ++ text) = (cut mark text).map fun found => (front ++ found.1, found.2) := by
  induction front with
  | nil => simp
  | cons ch front ih =>
      rw [List.mem_cons, not_or] at clear
      rw [List.cons_append, cut_cons (Ne.symm clear.1), ih clear.2, Option.map_map]
      rfl

theorem cut_eq_none_iff {text : List α} : cut mark text = none ↔ mark ∉ text := by
  induction text with
  | nil => simp
  | cons ch rest ih =>
      by_cases same : ch = mark
      · subst same
        simp
      · rw [cut_cons same, Option.map_eq_none_iff, ih, List.mem_cons, not_or]
        exact ⟨fun clear => ⟨Ne.symm same, clear⟩, And.right⟩

theorem cut_eq_some_iff {text before after : List α} :
    cut mark text = some (before, after) ↔ text = before ++ mark :: after ∧ mark ∉ before := by
  constructor
  · intro found
    induction text generalizing before with
    | nil => cases found
    | cons ch rest ih =>
        by_cases same : ch = mark
        · subst same
          rw [cut_mark] at found
          cases found
          exact ⟨rfl, List.not_mem_nil⟩
        · rw [cut_cons same] at found
          obtain ⟨⟨front, back⟩, later, pair⟩ := Option.map_eq_some_iff.mp found
          cases pair
          obtain ⟨rfl, clear⟩ := ih later
          refine ⟨rfl, fun member => ?_⟩
          rcases List.mem_cons.mp member with first | later
          · exact same first.symm
          · exact clear later
  · rintro ⟨rfl, clear⟩
    rw [cut_append_of_notMem clear, cut_mark]
    simp

/-- **A last character that is no mark** goes to the text behind. -/
theorem cut_concat {last : α} (other : last ≠ mark) (text : List α) :
    cut mark (text ++ [last]) = (cut mark text).map fun found => (found.1, found.2 ++ [last]) := by
  cases found : cut mark text with
  | none =>
      rw [cut_eq_none_iff] at found
      rw [Option.map_none, cut_eq_none_iff, List.mem_append, not_or]
      exact ⟨found, fun member => other (List.mem_singleton.mp member).symm⟩
  | some parts =>
      obtain ⟨before, after⟩ := parts
      obtain ⟨rfl, clear⟩ := cut_eq_some_iff.mp found
      rw [Option.map_some, cut_eq_some_iff]
      exact ⟨by rw [List.append_assoc, List.cons_append], clear⟩

/-! ### The last mark -/

/-- The text before the last `mark`, and the text behind it. -/
def cutLast (mark : α) (text : List α) : Option (List α × List α) :=
  (cut mark text.reverse).map fun found => (found.2.reverse, found.1.reverse)

theorem cutLast_eq_none_iff {text : List α} : cutLast mark text = none ↔ mark ∉ text := by
  rw [cutLast, Option.map_eq_none_iff, cut_eq_none_iff, List.mem_reverse]

theorem cutLast_eq_some_iff {text before after : List α} :
    cutLast mark text = some (before, after) ↔ text = before ++ mark :: after ∧ mark ∉ after := by
  have turned : text.reverse = after.reverse ++ mark :: before.reverse ↔
      text = before ++ mark :: after := by
    rw [List.reverse_eq_iff, List.reverse_append, List.reverse_cons, List.reverse_reverse,
      List.reverse_reverse, List.append_assoc, List.singleton_append]
  rw [cutLast, Option.map_eq_some_iff, ← turned, ← List.mem_reverse]
  constructor
  · rintro ⟨⟨behind, front⟩, found, pair⟩
    cases pair
    rw [List.reverse_reverse, List.reverse_reverse]
    exact cut_eq_some_iff.mp found
  · intro split
    refine ⟨(after.reverse, before.reverse), cut_eq_some_iff.mpr split, ?_⟩
    rw [List.reverse_reverse, List.reverse_reverse]

/-! ### Between two marks -/

/-- The next text between two marks, and the text behind the second. -/
def quoted (mark : α) (text : List α) : Option (List α × List α) :=
  (cut mark text).bind fun opened => cut mark opened.2

/-- A text between two marks is what was written there. -/
theorem quoted_append {front inner : List α} (clear : mark ∉ front) (plain : mark ∉ inner)
    (rest : List α) : quoted mark (front ++ mark :: (inner ++ mark :: rest)) = some (inner, rest) := by
  rw [quoted, cut_append_of_notMem clear, cut_mark]
  show cut mark (inner ++ mark :: rest) = _
  rw [cut_append_of_notMem plain, cut_mark]
  simp

theorem quoted_append_of_notMem {front : List α} (clear : mark ∉ front) (text : List α) :
    quoted mark (front ++ text) = quoted mark text := by
  rw [quoted, cut_append_of_notMem clear, quoted]
  cases cut mark text <;> rfl

theorem quoted_of_notMem {text : List α} (clear : mark ∉ text) : quoted mark text = none := by
  rw [quoted, cut_eq_none_iff.mpr clear]
  rfl

theorem quoted_concat {last : α} (other : last ≠ mark) (text : List α) :
    quoted mark (text ++ [last]) =
      (quoted mark text).map fun found => (found.1, found.2 ++ [last]) := by
  rw [quoted, quoted, cut_concat other]
  cases cut mark text with
  | none => rfl
  | some opened => exact cut_concat other opened.2

theorem quoted_eq_some_iff {text inner rest : List α} :
    quoted mark text = some (inner, rest) ↔
      ∃ front, mark ∉ front ∧ mark ∉ inner ∧ text = front ++ mark :: (inner ++ mark :: rest) := by
  constructor
  · intro found
    obtain ⟨⟨front, opened⟩, first, second⟩ := Option.bind_eq_some_iff.mp found
    obtain ⟨rfl, clear⟩ := cut_eq_some_iff.mp first
    obtain ⟨same, plain⟩ := cut_eq_some_iff.mp second
    exact ⟨front, clear, plain, congrArg (fun tail => front ++ mark :: tail) same⟩
  · rintro ⟨front, clear, plain, rfl⟩
    exact quoted_append clear plain rest

/-- The text behind is shorter. -/
theorem quoted_length {text inner rest : List α} (found : quoted mark text = some (inner, rest)) :
    rest.length < text.length := by
  obtain ⟨⟨before, opened⟩, first, second⟩ := Option.bind_eq_some_iff.mp found
  obtain ⟨rfl, -⟩ := cut_eq_some_iff.mp first
  obtain ⟨rfl, -⟩ := cut_eq_some_iff.mp second
  simp only [List.length_append, List.length_cons]
  omega

/-! ### Marks two by two -/

/-- A mark in a text is its first, somewhere. -/
theorem exists_first_mark {text : List α} (member : mark ∈ text) :
    ∃ front rest, text = front ++ mark :: rest ∧ mark ∉ front := by
  cases found : cut mark text with
  | none => exact absurd member (cut_eq_none_iff.mp found)
  | some parts => exact ⟨parts.1, parts.2, cut_eq_some_iff.mp found⟩

/-- The mark behind a clear text is the first of the whole. -/
theorem first_mark_unique {front other rest tail : List α} (clear : mark ∉ front)
    (plain : mark ∉ other) (same : front ++ mark :: rest = other ++ mark :: tail) :
    front = other ∧ rest = tail := by
  have found : cut mark (other ++ mark :: tail) = some (front, rest) :=
    cut_eq_some_iff.mpr ⟨same.symm, clear⟩
  rw [cut_eq_some_iff.mpr ⟨rfl, plain⟩] at found
  cases found
  exact ⟨rfl, rfl⟩

theorem count_mark {front : List α} (clear : mark ∉ front) (rest : List α) :
    (front ++ mark :: rest).count mark = rest.count mark + 1 := by
  rw [List.count_append, List.count_eq_zero_of_not_mem clear, Nat.zero_add, List.count_cons_self]

/-- **Taking the marks two by two.** A text between two marks with an even number of marks in front is
what the next search finds, or is that far behind what it finds. -/
theorem quoted_of_even {before inner : List α} (even : Even (before.count mark))
    (plain : mark ∉ inner) (after : List α) :
    (mark ∉ before ∧
        quoted mark (before ++ mark :: (inner ++ mark :: after)) = some (inner, after)) ∨
      ∃ front name later, mark ∉ front ∧ mark ∉ name ∧
        before = front ++ mark :: (name ++ mark :: later) ∧ Even (later.count mark) ∧
        quoted mark (before ++ mark :: (inner ++ mark :: after)) =
          some (name, later ++ mark :: (inner ++ mark :: after)) := by
  by_cases member : mark ∈ before
  · obtain ⟨front, tail, rfl, clear⟩ := exists_first_mark member
    rw [count_mark clear] at even
    have second : mark ∈ tail := by
      by_contra absent
      rw [List.count_eq_zero_of_not_mem absent] at even
      exact absurd even (by decide)
    obtain ⟨name, later, rfl, bare⟩ := exists_first_mark second
    rw [count_mark bare, Nat.add_assoc] at even
    refine Or.inr ⟨front, name, later, clear, bare, rfl, ?_, ?_⟩
    · exact (Nat.even_add.mp even).mpr (by decide)
    · rw [List.append_assoc, List.cons_append, List.append_assoc, List.cons_append]
      exact quoted_append clear bare _
  · exact Or.inl ⟨member, quoted_append member plain after⟩

/-! ### Parts -/

/-- No part of a text that is split at a mark has the mark. -/
theorem notMem_of_mem_splitOn {text part : List α} (member : part ∈ text.splitOn mark) :
    mark ∉ part := by
  induction text generalizing part with
  | nil =>
      obtain rfl := List.mem_singleton.mp member
      exact List.not_mem_nil
  | cons ch rest ih =>
      rw [List.splitOn_cons_eq_if_modifyHead] at member
      split_ifs at member with here
      · rcases List.mem_cons.mp member with rfl | later
        · exact List.not_mem_nil
        · exact ih later
      · obtain ⟨first, others, split⟩ := List.exists_cons_of_ne_nil (List.splitOn_ne_nil mark rest)
        rw [split] at member ih
        rcases List.mem_cons.mp member with rfl | later
        · have other : ch ≠ mark := by simpa using here
          rw [List.mem_cons, not_or]
          exact ⟨other.symm, ih List.mem_cons_self⟩
        · exact ih (List.mem_cons_of_mem _ later)

/-- **Joined parts are read back** exactly where none of them has the mark. -/
theorem splitOn_intercalate_iff {parts : List (List α)} (nonempty : parts ≠ []) :
    ([mark].intercalate parts).splitOn mark = parts ↔ ∀ part ∈ parts, mark ∉ part :=
  ⟨fun same _ member => notMem_of_mem_splitOn (same ▸ member),
    fun clear => List.splitOn_intercalate mark clear nonempty⟩

end MarketDataFabric.Library.Scan
