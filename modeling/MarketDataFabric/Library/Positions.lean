/-
**Texts read by position.**

`charAt` and `substr` are the accesses of a program that keeps positions in a text: outside the text
they are faults. `find` and `skipWhile` are its searches.

* `charAt_append`, `substr_append`, `find_append`, `skipWhile_append` — at the end of a front, each of
  them is what the rest of the text says, and **no access is outside**.
-/

import MarketDataFabric.Library.Scan

namespace MarketDataFabric.Library.Positions

variable {α : Type}

/-- An access outside the text. -/
inductive Fault where
  | read (position : ℕ)
  | substr (position : ℕ)
deriving Repr, DecidableEq

/-- The character at a position. -/
def charAt (text : List α) (position : ℕ) : Except Fault α :=
  match text[position]? with
  | some ch => .ok ch
  | none => .error (.read position)

/-- The character in front of a position; there is none in front of the first. -/
def charBefore (text : List α) : ℕ → Except Fault α
  | 0 => .error (.read 0)
  | position + 1 => charAt text position

/-- At most `count` characters from a position on, which may be the end of the text. -/
def substr (text : List α) (position count : ℕ) : Except Fault (List α) :=
  if position ≤ text.length then .ok ((text.drop position).take count)
  else .error (.substr position)

/-- The position of the first mark from a position on. -/
def find [DecidableEq α] (text : List α) (mark : α) (position : ℕ) : Option ℕ :=
  ((text.drop position).idxOf? mark).map (position + ·)

/-- The first position from here on where the characters stop to be of a kind, or the end. -/
def skipWhile (stands : α → Bool) (text : List α) (position : ℕ) : Except Fault ℕ :=
  if position < text.length then
    (charAt text position).bind fun ch =>
      if stands ch then skipWhile stands text (position + 1) else .ok position
  else .ok position
termination_by text.length - position

section Append

variable (front : List α)

theorem charAt_append (ch : α) (rest : List α) :
    charAt (front ++ ch :: rest) front.length = .ok ch := by
  rw [charAt, List.getElem?_append_right (Nat.le_refl _), Nat.sub_self]
  rfl

theorem charBefore_append (ch : α) (rest : List α) :
    charBefore (front ++ ch :: rest) (front.length + 1) = .ok ch :=
  charAt_append front ch rest

theorem substr_append (inner rest : List α) :
    substr (front ++ (inner ++ rest)) front.length inner.length = .ok inner := by
  have within : front.length ≤ (front ++ (inner ++ rest)).length := by
    rw [List.length_append]
    exact Nat.le_add_right _ _
  rw [substr, if_pos within, List.drop_left, List.take_left]

theorem find_append [DecidableEq α] (mark : α) (rest : List α) :
    find (front ++ rest) mark front.length =
      (Scan.cut mark rest).map fun found => front.length + found.1.length := by
  have first : rest.idxOf? mark = (Scan.cut mark rest).map fun found => found.1.length := by
    induction rest with
    | nil => rfl
    | cons ch rest ih =>
        rw [List.idxOf?_cons]
        by_cases same : ch = mark
        · subst same
          rw [Scan.cut_mark, if_pos (beq_self_eq_true ch)]
          rfl
        · rw [Scan.cut_cons same, if_neg (by rwa [beq_iff_eq]), ih, Option.map_map, Option.map_map]
          rfl
  rw [find, List.drop_left, first, Option.map_map]
  rfl

theorem skipWhile_append (stands : α → Bool) (rest : List α) :
    skipWhile stands (front ++ rest) front.length =
      .ok (front.length + (rest.takeWhile stands).length) := by
  induction rest generalizing front with
  | nil =>
      rw [skipWhile, if_neg (by rw [List.append_nil]; exact Nat.lt_irrefl _)]
      rfl
  | cons ch rest ih =>
      have within : front.length < (front ++ ch :: rest).length := by
        rw [List.length_append, List.length_cons]
        omega
      rw [skipWhile, if_pos within, charAt_append]
      show (if stands ch = true then _ else _) = _
      cases kind : stands ch with
      | false =>
          rw [List.takeWhile_cons_of_neg (Bool.eq_false_iff.mp kind)]
          rfl
      | true =>
          have later := ih (front ++ [ch])
          rw [List.append_assoc, List.length_append, List.length_singleton,
            List.singleton_append] at later
          rw [if_pos rfl, later, List.takeWhile_cons_of_pos kind, List.length_cons,
            Nat.add_assoc, Nat.add_comm 1]

end Append

end MarketDataFabric.Library.Positions
