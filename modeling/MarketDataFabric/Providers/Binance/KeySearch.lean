/-
**Where the value reader stops**, `providers/crypto/binance/detail/json_value_reader.hpp`.

The search for a key takes the quotes of a payload two by two, whatever stands in front of them.

* `findKeyFrom` — the loop up to the value; `findJsonValueFrom_eq_bind` — the reader is this search and
  a reading.
* `findKeyFrom_eq_some_iff` — **the search stops at the first text that looks like the name**: between
  two quotes, behind an even number of quotes, in front of a colon.
-/

import MarketDataFabric.Providers.Binance.JsonValueReader

namespace MarketDataFabric.Providers.Binance

open Library.Scan

/-! ### The search for a name -/

/-- The loop of `find_json_value` up to the value: the text behind the colon of the key. -/
def findKeyFrom (key : List Char) (text : List Char) : Option (List Char) :=
  match _found : quoted '"' text with
  | none => none
  | some (name, rest) =>
      match afterColon rest with
      | none => findKeyFrom key rest
      | some value => if name ≠ key then findKeyFrom key rest else some value
termination_by text.length
decreasing_by all_goals exact quoted_length _found

/-- One turn of the loop. -/
theorem findKeyFrom_eq (key text : List Char) :
    findKeyFrom key text = (quoted '"' text).bind fun found =>
      match afterColon found.2 with
      | none => findKeyFrom key found.2
      | some value => if found.1 ≠ key then findKeyFrom key found.2 else some value := by
  rw [findKeyFrom]
  split
  · rename_i none
    rw [none]
    rfl
  · rename_i name rest found
    rw [found]
    rfl

/-- What stands in front of the first quote is not looked at. -/
theorem findKeyFrom_of_clear {key front : List Char} (clear : '"' ∉ front) (text : List Char) :
    findKeyFrom key (front ++ text) = findKeyFrom key text := by
  rw [findKeyFrom_eq, quoted_append_of_notMem clear, ← findKeyFrom_eq]

theorem findKeyFrom_of_notMem {key text : List Char} (clear : '"' ∉ text) :
    findKeyFrom key text = none := by
  rw [findKeyFrom_eq, quoted_of_notMem clear]
  rfl

/-- A text in quotes that is no key, or another key, is passed over. -/
theorem findKeyFrom_of_pass {key text name rest : List Char}
    (found : quoted '"' text = some (name, rest)) (pass : name ≠ key ∨ afterColon rest = none) :
    findKeyFrom key text = findKeyFrom key rest := by
  rw [findKeyFrom_eq, found]
  show (match afterColon rest with
    | none => findKeyFrom key rest
    | some value => if name ≠ key then findKeyFrom key rest else some value) = _
  cases colon : afterColon rest with
  | none => rfl
  | some value =>
      rcases pass with other | none
      · exact if_pos other
      · rw [colon] at none
        cases none

theorem findKeyFrom_of_hit {key text rest value : List Char}
    (found : quoted '"' text = some (key, rest)) (colon : afterColon rest = some value) :
    findKeyFrom key text = some value := by
  rw [findKeyFrom_eq, found]
  show (match afterColon rest with
    | none => findKeyFrom key rest
    | some value => if key ≠ key then findKeyFrom key rest else some value) = _
  rw [colon]
  exact if_neg (not_not_intro rfl)

/-- The search and the reading are two steps. -/
theorem findJsonValueFrom_eq_bind (key text : List Char) :
    findJsonValueFrom key text = (findKeyFrom key text).bind readJsonValue := by
  induction text using findKeyFrom.induct key with
  | case1 text none =>
      rw [findJsonValueFrom_eq, findKeyFrom_eq, none]
      rfl
  | case2 text name rest found none ih =>
      rw [findJsonValueFrom_eq, findKeyFrom_of_pass found (Or.inr none), found, ← ih]
      simp only [Option.bind_some, none]
  | case3 text name rest found value colon different ih =>
      rw [findJsonValueFrom_eq, findKeyFrom_of_pass found (Or.inl different), found, ← ih]
      simp only [Option.bind_some, colon, if_pos different]
  | case4 text name rest found value colon same =>
      obtain rfl : name = key := not_not.mp same
      rw [findJsonValueFrom_eq, findKeyFrom_of_hit found colon, found]
      simp only [Option.bind_some, colon, ne_eq, not_true_eq_false, if_false]

/-- `key` looks like a name behind `before`, for what stands behind its colon. -/
structure LooksNamed (key text before value : List Char) : Prop where
  spelled : ∃ after, text = before ++ '"' :: (key ++ '"' :: after) ∧ afterColon after = some value
  even : Even (before.count '"')

/-- The first place where it does. -/
structure FirstNamed (key text before value : List Char) : Prop where
  named : LooksNamed key text before value
  first : ∀ earlier other, LooksNamed key text earlier other → before.length ≤ earlier.length

/-- What looks like a name is in the text, at its place. -/
theorem LooksNamed.at {key text before value : List Char} (looks : LooksNamed key text before value) :
    before.length < text.length ∧
      (text.drop before.length).take (key.length + 2) = '"' :: (key ++ ['"']) := by
  obtain ⟨after, rfl, -⟩ := looks.spelled
  refine ⟨?_, ?_⟩
  · rw [List.length_append, List.length_cons]
    omega
  · have whole : '"' :: (key ++ '"' :: after) = '"' :: (key ++ ['"']) ++ after := by simp
    rw [List.drop_left' rfl, whole]
    exact List.take_left' (by simp)

section Search

variable {key text name rest : List Char}

/-- A place in a text whose next pair of quotes is passed over lies behind it. -/
theorem looksNamed_of_pass (plain : '"' ∉ key) {front : List Char} (clear : '"' ∉ front)
    (bare : '"' ∉ name) (pass : name ≠ key ∨ afterColon rest = none) {before value : List Char} :
    LooksNamed key (front ++ '"' :: (name ++ '"' :: rest)) before value ↔
      ∃ later, before = front ++ '"' :: (name ++ '"' :: later) ∧ LooksNamed key rest later value := by
  constructor
  · rintro ⟨⟨after, spelled, colon⟩, even⟩
    have found := quoted_append clear bare rest
    rw [spelled] at found
    rcases quoted_of_even even plain after with
      ⟨-, next⟩ | ⟨head, inner, later, ahead, -, rfl, still, next⟩
    · rw [next] at found
      cases found
      rcases pass with other | none
      · exact absurd rfl other
      · rw [colon] at none
        cases none
    · rw [next] at found
      cases found
      refine ⟨later, ?_, ⟨after, rfl, colon⟩, still⟩
      rw [List.append_assoc, List.cons_append, List.append_assoc, List.cons_append] at spelled
      obtain ⟨rfl, -⟩ := first_mark_unique clear ahead spelled
      rfl
  · rintro ⟨later, rfl, ⟨after, rfl, colon⟩, even⟩
    refine ⟨⟨after, ?_, colon⟩, ?_⟩
    · rw [List.append_assoc, List.cons_append, List.append_assoc, List.cons_append]
    · rw [count_mark clear, count_mark bare, Nat.add_assoc]
      exact (Nat.even_add.mpr (by simp [even]))

/-- So does the first one. -/
theorem firstNamed_of_pass (plain : '"' ∉ key) {front : List Char} (clear : '"' ∉ front)
    (bare : '"' ∉ name) (pass : name ≠ key ∨ afterColon rest = none) {value : List Char} :
    (∃ before, FirstNamed key (front ++ '"' :: (name ++ '"' :: rest)) before value) ↔
      ∃ later, FirstNamed key rest later value := by
  have length (later : List Char) : (front ++ '"' :: (name ++ '"' :: later)).length =
      front.length + name.length + 2 + later.length := by
    simp only [List.length_append, List.length_cons]
    omega
  constructor
  · rintro ⟨before, named, first⟩
    obtain ⟨later, rfl, behind⟩ := (looksNamed_of_pass plain clear bare pass).mp named
    refine ⟨later, behind, fun earlier other looks => ?_⟩
    have shorter := first _ other
      ((looksNamed_of_pass plain clear bare pass).mpr ⟨earlier, rfl, looks⟩)
    rw [length, length] at shorter
    exact Nat.le_of_add_le_add_left shorter
  · rintro ⟨later, named, first⟩
    refine ⟨_, (looksNamed_of_pass plain clear bare pass).mpr ⟨later, rfl, named⟩,
      fun earlier other looks => ?_⟩
    obtain ⟨behind, rfl, there⟩ := (looksNamed_of_pass plain clear bare pass).mp looks
    rw [length, length]
    exact Nat.add_le_add_left (first behind other there) _

/-- The key between the next two quotes is the first place there can be. -/
theorem looksNamed_of_hit (plain : '"' ∉ key) {front : List Char} (clear : '"' ∉ front)
    {before value : List Char}
    (looks : LooksNamed key (front ++ '"' :: (key ++ '"' :: rest)) before value) :
    before = front ∧ afterColon rest = some value ∨ front.length < before.length := by
  obtain ⟨⟨after, spelled, colon⟩, even⟩ := looks
  rcases quoted_of_even even plain after with ⟨absent, -⟩ | ⟨head, inner, later, ahead, -, rfl, -⟩
  · obtain ⟨rfl, tail⟩ := first_mark_unique clear absent spelled
    have same : rest = after := by
      simpa using List.append_cancel_left tail
    exact Or.inl ⟨rfl, same ▸ colon⟩
  · rw [List.append_assoc, List.cons_append] at spelled
    obtain ⟨rfl, -⟩ := first_mark_unique clear ahead spelled
    refine Or.inr ?_
    rw [List.length_append, List.length_cons]
    omega

/-- **The search stops at the first place that looks like the name.** -/
theorem findKeyFrom_eq_some_iff (plain : '"' ∉ key) {value : List Char} :
    findKeyFrom key text = some value ↔ ∃ before, FirstNamed key text before value := by
  induction text using findKeyFrom.induct key with
  | case1 text none =>
      rw [findKeyFrom_eq, none]
      constructor
      · nofun
      · rintro ⟨before, ⟨⟨after, rfl, -⟩, even⟩, -⟩
        rcases quoted_of_even even plain after with ⟨-, next⟩ | ⟨_, _, _, -, -, -, -, next⟩
        · rw [next] at none
          cases none
        · rw [next] at none
          cases none
  | case2 text name rest found none ih =>
      obtain ⟨front, clear, bare, rfl⟩ := quoted_eq_some_iff.mp found
      rw [findKeyFrom_of_pass found (Or.inr none), ih,
        firstNamed_of_pass plain clear bare (Or.inr none)]
  | case3 text name rest found _ _ different ih =>
      obtain ⟨front, clear, bare, rfl⟩ := quoted_eq_some_iff.mp found
      rw [findKeyFrom_of_pass found (Or.inl different), ih,
        firstNamed_of_pass plain clear bare (Or.inl different)]
  | case4 text name rest found here colon same =>
      obtain rfl : name = key := not_not.mp same
      obtain ⟨front, clear, -, rfl⟩ := quoted_eq_some_iff.mp found
      have even : Even (front.count '"') := by
        rw [List.count_eq_zero_of_not_mem clear]
        exact Even.zero
      have named : LooksNamed name (front ++ '"' :: (name ++ '"' :: rest)) front here :=
        ⟨⟨rest, rfl, colon⟩, even⟩
      rw [findKeyFrom_of_hit found colon, Option.some.injEq]
      constructor
      · rintro rfl
        refine ⟨front, named, fun earlier other looks => ?_⟩
        rcases looksNamed_of_hit plain clear looks with ⟨rfl, -⟩ | longer
        · exact Nat.le_refl _
        · exact Nat.le_of_lt longer
      · rintro ⟨before, looks, first⟩
        rcases looksNamed_of_hit plain clear looks with ⟨-, same⟩ | longer
        · exact Option.some.inj (colon.symm.trans same)
        · exact absurd (first front here named) (Nat.not_le.mpr longer)

end Search

end MarketDataFabric.Providers.Binance
