/-
**Decimal texts and the machine words they are read into.**

* `digitsValue` — the value of a list of digits after a first number, and how it grows.
* `appendDigit` — one more digit in a 64-bit word, refused when it would pass a limit. A fold of it
  reads exactly the digits whose value is within the limit (`appendDigits_eq_some_iff`).
* `Unsigned`, `Denotes` — the decimal texts: an optional sign, digits with at most one point among
  them, and the one rational number they denote (`Denotes.unique`).
-/

import Mathlib.Algebra.Order.Field.Rat
import Mathlib.Algebra.GroupWithZero.Nat
import Mathlib.Tactic.Ring

namespace MarketDataFabric.Library.Decimal

/-! ### Digits -/

/-- The value of a digit. -/
def digitValue (ch : Char) : Nat := ch.toNat - '0'.toNat

theorem digitValue_le {ch : Char} (digit : ch.isDigit = true) : digitValue ch ≤ 9 := by
  have bounds := (Char.isDigit_iff_toNat.mp digit).2
  have nine : '9'.toNat = 57 := rfl
  have zero : '0'.toNat = 48 := rfl
  unfold digitValue
  omega

/-- The number that digits make after a first number. -/
def digitsValue (start : Nat) (digits : List Char) : Nat :=
  digits.foldl (fun value ch => value * 10 + digitValue ch) start

@[simp] theorem digitsValue_nil (start : Nat) : digitsValue start [] = start := rfl

@[simp] theorem digitsValue_cons (start : Nat) (ch : Char) (rest : List Char) :
    digitsValue start (ch :: rest) = digitsValue (start * 10 + digitValue ch) rest :=
  List.foldl_cons ..

/-- The first number is shifted by the digits that follow it. -/
theorem digitsValue_eq (start : Nat) (digits : List Char) :
    digitsValue start digits = start * 10 ^ digits.length + digitsValue 0 digits := by
  induction digits generalizing start with
  | nil => simp
  | cons ch rest ih =>
      rw [digitsValue_cons, digitsValue_cons, ih, ih (0 * 10 + digitValue ch), List.length_cons,
        pow_succ]
      ring

theorem digitsValue_lt {digits : List Char} (all : ∀ ch ∈ digits, ch.isDigit = true) :
    digitsValue 0 digits < 10 ^ digits.length := by
  induction digits with
  | nil => simp
  | cons ch rest ih =>
      have small := digitValue_le (all ch List.mem_cons_self)
      have tail := ih fun other member => all other (List.mem_cons_of_mem _ member)
      rw [digitsValue_cons, digitsValue_eq, List.length_cons, pow_succ]
      calc (0 * 10 + digitValue ch) * 10 ^ rest.length + digitsValue 0 rest
          < (0 * 10 + digitValue ch) * 10 ^ rest.length + 10 ^ rest.length :=
            Nat.add_lt_add_left tail _
        _ = (digitValue ch + 1) * 10 ^ rest.length := by ring
        _ ≤ 10 * 10 ^ rest.length := Nat.mul_le_mul_right _ (by omega)
        _ = 10 ^ rest.length * 10 := Nat.mul_comm _ _

theorem le_digitsValue (start : Nat) (digits : List Char) : start ≤ digitsValue start digits := by
  rw [digitsValue_eq]
  exact (Nat.le_mul_of_pos_right start (Nat.pow_pos (by decide))).trans (Nat.le_add_right _ _)

/-! ### Digits in a machine word -/

/-- One more digit, unless the number would pass `limit`. -/
def appendDigit (limit value digit : UInt64) : Option UInt64 :=
  if value > (limit - digit) / 10 then none else some (value * 10 + digit)

/-- The digit of a character as a word. -/
def digitWord (ch : Char) : UInt64 := UInt64.ofNat (digitValue ch)

theorem digitWord_toNat {ch : Char} (digit : ch.isDigit = true) :
    (digitWord ch).toNat = digitValue ch := by
  have small := digitValue_le digit
  exact UInt64.toNat_ofNat_of_lt' (by show digitValue ch < 2 ^ 64; omega)

/-- **The guard is exact**: nothing wraps, and nothing within the limit is refused. -/
theorem appendDigit_eq_some_iff {limit value next : UInt64} {ch : Char}
    (digit : ch.isDigit = true) (room : 9 ≤ limit.toNat) :
    appendDigit limit value (digitWord ch) = some next ↔
      next.toNat = value.toNat * 10 + digitValue ch ∧
        value.toNat * 10 + digitValue ch ≤ limit.toNat := by
  have small := digitValue_le digit
  have bound := limit.toNat_lt
  have word := digitWord_toNat digit
  have below : digitWord ch ≤ limit := by
    rw [UInt64.le_iff_toNat_le, word]
    omega
  have guard : value > (limit - digitWord ch) / 10 ↔
      limit.toNat < value.toNat * 10 + digitValue ch := by
    rw [gt_iff_lt, UInt64.lt_iff_toNat_lt, UInt64.toNat_div, UInt64.toNat_sub_of_le _ _ below, word]
    have ten : (10 : UInt64).toNat = 10 := rfl
    rw [ten]
    omega
  have exactly : value.toNat * 10 + digitValue ch ≤ limit.toNat →
      (value * 10 + digitWord ch).toNat = value.toNat * 10 + digitValue ch := by
    intro fits
    rw [UInt64.toNat_add, UInt64.toNat_mul, word]
    have ten : (10 : UInt64).toNat = 10 := rfl
    rw [ten]
    omega
  unfold appendDigit
  by_cases excess : value > (limit - digitWord ch) / 10
  · rw [if_pos excess]
    have beyond := guard.mp excess
    constructor
    · nofun
    · rintro ⟨-, fits⟩
      omega
  · rw [if_neg excess, Option.some.injEq]
    have fits : value.toNat * 10 + digitValue ch ≤ limit.toNat :=
      Nat.le_of_not_lt fun beyond => excess (guard.mpr beyond)
    rw [← UInt64.toNat_inj, exactly fits]
    exact ⟨fun same => ⟨same.symm, fits⟩, fun both => both.1.symm⟩

/-- A number within a word's value is a word. -/
theorem toNat_ofNat_of_le {number : Nat} {limit : UInt64} (fits : number ≤ limit.toNat) :
    (UInt64.ofNat number).toNat = number :=
  UInt64.toNat_ofNat_of_lt' (fits.trans_lt limit.toNat_lt)

/-- What follows a digit goes on with the number it makes. -/
theorem appendDigit_bind_eq_some_iff {Result : Type} {limit value : UInt64} {ch : Char}
    {next : UInt64 → Option Result} {result : Result} (digit : ch.isDigit = true)
    (room : 9 ≤ limit.toNat) :
    (appendDigit limit value (digitWord ch)).bind next = some result ↔
      value.toNat * 10 + digitValue ch ≤ limit.toNat ∧
        next (UInt64.ofNat (value.toNat * 10 + digitValue ch)) = some result := by
  rw [Option.bind_eq_some_iff]
  simp only [appendDigit_eq_some_iff digit room]
  constructor
  · rintro ⟨word, ⟨same, fits⟩, onward⟩
    rw [← same, UInt64.ofNat_toNat]
    exact ⟨same ▸ fits, onward⟩
  · rintro ⟨fits, onward⟩
    exact ⟨_, ⟨toNat_ofNat_of_le fits, fits⟩, onward⟩

/-- Reading a list of digits. -/
def appendDigits (limit : UInt64) : UInt64 → List Char → Option UInt64
  | value, [] => some value
  | value, ch :: rest =>
      if ch.isDigit then (appendDigit limit value (digitWord ch)).bind (appendDigits limit · rest)
      else none

/-- **Reading digits is exact** within the limit. -/
theorem appendDigits_eq_some_iff {limit value result : UInt64} {text : List Char}
    (room : 9 ≤ limit.toNat) (fits : value.toNat ≤ limit.toNat) :
    appendDigits limit value text = some result ↔
      (∀ ch ∈ text, ch.isDigit = true) ∧ result.toNat = digitsValue value.toNat text ∧
        digitsValue value.toNat text ≤ limit.toNat := by
  induction text generalizing value with
  | nil =>
      rw [appendDigits, Option.some.injEq, ← UInt64.toNat_inj]
      simp only [List.not_mem_nil, false_imp_iff, implies_true, true_and, digitsValue_nil]
      exact ⟨fun same => ⟨same.symm, fits⟩, fun both => both.1.symm⟩
  | cons ch rest ih =>
      rw [appendDigits]
      by_cases digit : ch.isDigit = true
      · rw [if_pos digit, appendDigit_bind_eq_some_iff digit room]
        simp only [digitsValue_cons, List.mem_cons, forall_eq_or_imp, digit, true_and]
        constructor
        · rintro ⟨within, later⟩
          rw [ih (by rw [toNat_ofNat_of_le within]; exact within), toNat_ofNat_of_le within] at later
          exact later
        · rintro ⟨all, same, below⟩
          have within := (le_digitsValue _ rest).trans below
          refine ⟨within, ?_⟩
          rw [ih (by rw [toNat_ofNat_of_le within]; exact within), toNat_ofNat_of_le within]
          exact ⟨all, same, below⟩
      · rw [if_neg digit]
        constructor
        · nofun
        · intro ⟨all, _⟩
          exact absurd (all ch List.mem_cons_self) digit

/-! ### Decimal texts -/

/-- A text is written as what stands before the point and what stands behind it, or has no point. -/
def Written (text whole fraction : List Char) : Prop :=
  text = whole ++ '.' :: fraction ∨ text = whole ∧ fraction = []

@[simp] theorem written_nil {whole fraction : List Char} :
    Written [] whole fraction ↔ whole = [] ∧ fraction = [] := by
  simp [Written, eq_comm]

/-- The first character is the first before the point, or the point itself. -/
theorem written_cons {ch : Char} {rest whole fraction : List Char} :
    Written (ch :: rest) whole fraction ↔
      (∃ tail, whole = ch :: tail ∧ Written rest tail fraction) ∨
        ch = '.' ∧ whole = [] ∧ fraction = rest := by
  cases whole with
  | nil => simp [Written, eq_comm]
  | cons first tail =>
      constructor
      · rintro (same | ⟨same, none⟩)
        · obtain ⟨rfl, rfl⟩ := List.cons.inj same
          exact Or.inl ⟨tail, rfl, Or.inl rfl⟩
        · obtain ⟨rfl, rfl⟩ := List.cons.inj same
          exact Or.inl ⟨rest, rfl, Or.inr ⟨rfl, none⟩⟩
      · rintro (⟨_, same, written⟩ | ⟨-, impossible, -⟩)
        · obtain ⟨rfl, rfl⟩ := List.cons.inj same
          rcases written with rfl | ⟨rfl, none⟩
          · exact Or.inl rfl
          · exact Or.inr ⟨rfl, none⟩
        · cases impossible

/-- Digits are split by the point in one way. -/
theorem Written.unique {text whole fraction front back : List Char}
    (first : Written text whole fraction) (second : Written text front back)
    (digits : ∀ ch ∈ whole, ch.isDigit = true) (others : ∀ ch ∈ front, ch.isDigit = true) :
    whole = front ∧ fraction = back := by
  have point : ('.' : Char).isDigit ≠ true := by decide
  induction text generalizing whole front with
  | nil =>
      obtain ⟨rfl, rfl⟩ := written_nil.mp first
      obtain ⟨rfl, rfl⟩ := written_nil.mp second
      exact ⟨rfl, rfl⟩
  | cons ch rest ih =>
      rcases written_cons.mp first with ⟨tail, rfl, written⟩ | ⟨rfl, rfl, rfl⟩
      · rcases written_cons.mp second with ⟨rear, rfl, ending⟩ | ⟨rfl, rfl, rfl⟩
        · obtain ⟨rfl, rfl⟩ := ih written ending
            (fun other member => digits other (List.mem_cons_of_mem _ member))
            (fun other member => others other (List.mem_cons_of_mem _ member))
          exact ⟨rfl, rfl⟩
        · exact absurd (digits '.' List.mem_cons_self) point
      · rcases written_cons.mp second with ⟨rear, rfl, -⟩ | ⟨-, rfl, rfl⟩
        · exact absurd (others '.' List.mem_cons_self) point
        · exact ⟨rfl, rfl⟩

/-- **An unsigned decimal text**: digits, at least one, with at most one point among them. -/
structure Unsigned (text whole fraction : List Char) : Prop where
  digits : ∀ ch ∈ whole ++ fraction, ch.isDigit = true
  nonempty : whole ++ fraction ≠ []
  written : Written text whole fraction

/-- The number an unsigned text denotes. -/
def unsignedValue (whole fraction : List Char) : ℚ :=
  digitsValue 0 (whole ++ fraction) / 10 ^ fraction.length

/-- **A decimal text denotes a rational number**: an unsigned text does, with or without a plus, and
its negative with a minus. -/
inductive Denotes : List Char → ℚ → Prop
  | unsigned {text whole fraction : List Char} : Unsigned text whole fraction →
      Denotes text (unsignedValue whole fraction)
  | plus {text whole fraction : List Char} : Unsigned text whole fraction →
      Denotes ('+' :: text) (unsignedValue whole fraction)
  | minus {text whole fraction : List Char} : Unsigned text whole fraction →
      Denotes ('-' :: text) (-unsignedValue whole fraction)

/-- An unsigned text begins with a digit or the point. -/
theorem Unsigned.head {ch : Char} {rest whole fraction : List Char}
    (unsigned : Unsigned (ch :: rest) whole fraction) : ch.isDigit = true ∨ ch = '.' := by
  rcases written_cons.mp unsigned.written with ⟨tail, rfl, -⟩ | ⟨point, -⟩
  · exact Or.inl (unsigned.digits ch List.mem_cons_self)
  · exact Or.inr point

theorem Unsigned.ne_nil {text whole fraction : List Char}
    (unsigned : Unsigned text whole fraction) : text ≠ [] := by
  rintro rfl
  obtain ⟨rfl, rfl⟩ := written_nil.mp unsigned.written
  exact unsigned.nonempty rfl

theorem unsignedValue_nonneg (whole fraction : List Char) : 0 ≤ unsignedValue whole fraction :=
  div_nonneg (Nat.cast_nonneg _) (pow_nonneg (by decide) _)

theorem denotes_plus {text : List Char} {value : ℚ} :
    Denotes ('+' :: text) value ↔
      ∃ whole fraction, Unsigned text whole fraction ∧ value = unsignedValue whole fraction := by
  constructor
  · intro denotes
    cases denotes with
    | unsigned unsigned => exact absurd unsigned.head (by decide)
    | plus unsigned => exact ⟨_, _, unsigned, rfl⟩
  · rintro ⟨whole, fraction, unsigned, rfl⟩
    exact Denotes.plus unsigned

theorem denotes_minus {text : List Char} {value : ℚ} :
    Denotes ('-' :: text) value ↔
      ∃ whole fraction, Unsigned text whole fraction ∧ value = -unsignedValue whole fraction := by
  constructor
  · intro denotes
    cases denotes with
    | unsigned unsigned => exact absurd unsigned.head (by decide)
    | minus unsigned => exact ⟨_, _, unsigned, rfl⟩
  · rintro ⟨whole, fraction, unsigned, rfl⟩
    exact Denotes.minus unsigned

theorem denotes_unsigned {ch : Char} {text : List Char} {value : ℚ} (plus : ch ≠ '+')
    (minus : ch ≠ '-') :
    Denotes (ch :: text) value ↔
      ∃ whole fraction, Unsigned (ch :: text) whole fraction ∧
        value = unsignedValue whole fraction := by
  constructor
  · intro denotes
    cases denotes with
    | unsigned unsigned => exact ⟨_, _, unsigned, rfl⟩
    | plus unsigned => exact absurd rfl plus
    | minus unsigned => exact absurd rfl minus
  · rintro ⟨whole, fraction, unsigned, rfl⟩
    exact Denotes.unsigned unsigned

/-- **A text denotes one number.** -/
theorem Denotes.unique {text : List Char} {first second : ℚ} (one : Denotes text first)
    (other : Denotes text second) : first = second := by
  have same {digits whole fraction front back : List Char}
      (left : Unsigned digits whole fraction) (right : Unsigned digits front back) :
      unsignedValue whole fraction = unsignedValue front back := by
    obtain ⟨rfl, rfl⟩ := left.written.unique right.written
      (fun ch member => left.digits ch (List.mem_append_left _ member))
      (fun ch member => right.digits ch (List.mem_append_left _ member))
    rfl
  cases one with
  | unsigned left =>
      cases other with
      | unsigned right => exact same left right
      | plus => exact absurd left.head (by decide)
      | minus => exact absurd left.head (by decide)
  | plus left =>
      obtain ⟨whole, fraction, right, rfl⟩ := denotes_plus.mp other
      exact same left right
  | minus left =>
      obtain ⟨whole, fraction, right, rfl⟩ := denotes_minus.mp other
      exact congrArg _ (same left right)

theorem Denotes.ne_nil {text : List Char} {value : ℚ} (denotes : Denotes text value) :
    text ≠ [] := by
  cases denotes with
  | unsigned unsigned => exact unsigned.ne_nil
  | plus unsigned => exact List.cons_ne_nil _ _
  | minus unsigned => exact List.cons_ne_nil _ _

end MarketDataFabric.Library.Decimal
