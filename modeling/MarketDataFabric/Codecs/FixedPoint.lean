/-
**Fixed-point decimals**, `codecs/fixed_point.hpp`.

`parseDecimalToFixed` reads a decimal text into a 64-bit integer at a scale. The source's cursor is
the text that is left.

* `complete_fraction`, `complete_whole` — what the scan of the digits yields behind the point and in
  front of it, by induction on the text.
* `parseDecimalToFixed_eq_some_iff` — **the parser is exact**: it succeeds on the decimals that have an
  integer of 64 bits at the scale, and yields that integer. `parse_exact` says it with the output
  parameter of the source.
-/

import MarketDataFabric.Library.Decimal

namespace MarketDataFabric.Codecs

open Library.Decimal

def kMaxFixedPointScale : Int := 18

/-- The local variables of the scan. -/
structure FixedPointScan where
  value : UInt64 := 0
  fractionalDigits : Int := 0
  seenDigit : Bool := false
  seenDecimalPoint : Bool := false
deriving Repr, DecidableEq

/-- The loop over the characters. -/
def scanDigits (scale : Int) (limit : UInt64) : FixedPointScan → List Char → Option FixedPointScan
  | scan, [] => some scan
  | scan, ch :: rest =>
      if ch.isDigit then
        let scan := { scan with seenDigit := true }
        let digit := digitWord ch
        if scan.seenDecimalPoint then
          if scan.fractionalDigits < scale then
            (appendDigit limit scan.value digit).bind fun value =>
              scanDigits scale limit
                { scan with value, fractionalDigits := scan.fractionalDigits + 1 } rest
          else if digit ≠ 0 then none
          else scanDigits scale limit scan rest
        else
          (appendDigit limit scan.value digit).bind fun value =>
            scanDigits scale limit { scan with value } rest
      else if ch = '.' ∧ scan.seenDecimalPoint = false then
        scanDigits scale limit { scan with seenDecimalPoint := true } rest
      else none

/-- `while (fractional_digits < scale)`, so many times. -/
def appendZeros (limit : UInt64) : Nat → UInt64 → Option UInt64
  | 0, value => some value
  | count + 1, value => (appendDigit limit value 0).bind (appendZeros limit count)

/-- The part after the scan, up to the sign. -/
def finishDigits (scale : Int) (limit : UInt64) (scan : FixedPointScan) : Option UInt64 :=
  if scan.seenDigit = false then none
  else appendZeros limit (scale - scan.fractionalDigits).toNat scan.value

/-- The largest magnitude of a sign. -/
def signLimit (negative : Bool) : UInt64 :=
  let maxI64 : UInt64 := 9223372036854775807
  if negative then maxI64 + 1 else maxI64

def withSign (negative : Bool) (value : UInt64) : Int64 :=
  if negative then if value = signLimit negative then Int64.minValue else -value.toInt64
  else value.toInt64

def parseDecimalToFixed (text : List Char) (scale : Int) : Option Int64 :=
  if text = [] ∨ scale < 0 ∨ scale > kMaxFixedPointScale then none
  else
    let (negative, digits) :=
      match text with
      | '-' :: rest => (true, rest)
      | '+' :: rest => (false, rest)
      | text => (false, text)
    -- only a sign can leave nothing to read
    if digits = [] then none
    else
      ((scanDigits scale (signLimit negative) {} digits).bind
        (finishDigits scale (signLimit negative))).map (withSign negative)

/-! ### The digits -/

section Digits

variable {limit : UInt64} (room : 9 ≤ limit.toNat)

include room

theorem appendZeros_eq_some_iff {count : Nat} {value result : UInt64}
    (fits : value.toNat ≤ limit.toNat) :
    appendZeros limit count value = some result ↔
      result.toNat = value.toNat * 10 ^ count ∧ result.toNat ≤ limit.toNat := by
  induction count generalizing value with
  | zero =>
      rw [appendZeros, Option.some.injEq, ← UInt64.toNat_inj, pow_zero, Nat.mul_one]
      exact ⟨fun same => ⟨same.symm, same ▸ fits⟩, fun both => both.1.symm⟩
  | succ count ih =>
      have zero : digitWord '0' = 0 := rfl
      have nothing : digitValue '0' = 0 := rfl
      rw [appendZeros, ← zero, appendDigit_bind_eq_some_iff rfl room, nothing, Nat.add_zero, pow_succ,
        Nat.mul_comm (10 ^ count), ← Nat.mul_assoc]
      constructor
      · rintro ⟨within, later⟩
        rw [ih (by rw [toNat_ofNat_of_le within]; exact within), toNat_ofNat_of_le within] at later
        exact later
      · rintro ⟨same, below⟩
        have grows : value.toNat * 10 ≤ value.toNat * 10 * 10 ^ count :=
          Nat.le_mul_of_pos_right _ (Nat.pow_pos (by decide))
        have within := grows.trans (same ▸ below)
        refine ⟨within, ?_⟩
        rw [ih (by rw [toNat_ofNat_of_le within]; exact within), toNat_ofNat_of_le within]
        exact ⟨same, below⟩

end Digits

/-- The scan and what follows it. -/
def complete (scale : Int) (limit : UInt64) (scan : FixedPointScan) (text : List Char) :
    Option UInt64 :=
  (scanDigits scale limit scan text).bind (finishDigits scale limit)

section Steps

variable {scale : Int} {limit value : UInt64} {count : Int} {seen point : Bool} {ch : Char}
  {rest : List Char}

theorem complete_nil :
    complete scale limit ⟨value, count, seen, point⟩ [] =
      if seen = false then none else appendZeros limit (scale - count).toNat value := rfl

/-- A digit that counts, in front of the point. -/
theorem complete_whole_digit (digit : ch.isDigit = true) :
    complete scale limit ⟨value, count, seen, false⟩ (ch :: rest) =
      (appendDigit limit value (digitWord ch)).bind fun value =>
        complete scale limit ⟨value, count, true, false⟩ rest := by
  simp [complete, scanDigits, digit, Option.bind_assoc]

/-- A digit that counts, behind the point. -/
theorem complete_fraction_digit (digit : ch.isDigit = true) (room : count < scale) :
    complete scale limit ⟨value, count, seen, true⟩ (ch :: rest) =
      (appendDigit limit value (digitWord ch)).bind fun value =>
        complete scale limit ⟨value, count + 1, true, true⟩ rest := by
  simp [complete, scanDigits, digit, room, Option.bind_assoc]

/-- A digit beyond the scale. -/
theorem complete_excess_digit (digit : ch.isDigit = true) (full : ¬count < scale) :
    complete scale limit ⟨value, count, seen, true⟩ (ch :: rest) =
      if digitWord ch ≠ 0 then none
      else complete scale limit ⟨value, count, true, true⟩ rest := by
  by_cases zero : digitWord ch = 0 <;> simp [complete, scanDigits, digit, full, zero]

theorem complete_point :
    complete scale limit ⟨value, count, seen, false⟩ ('.' :: rest) =
      complete scale limit ⟨value, count, seen, true⟩ rest := by
  simp [complete, scanDigits]

theorem complete_other (other : ch.isDigit = false) (mark : ch = '.' → point = true) :
    complete scale limit ⟨value, count, seen, point⟩ (ch :: rest) = none := by
  have refused : ¬(ch = '.' ∧ point = false) := fun both => by
    rw [mark both.1] at both
    cases both.2
  simp [complete, scanDigits, other, refused]

/-- Behind the point, a character that is no digit ends the scan. -/
theorem complete_other_iff {others : Prop} (other : ¬ ch.isDigit = true) {result : UInt64} :
    complete scale limit ⟨value, count, seen, true⟩ (ch :: rest) = some result ↔
      (∀ each ∈ ch :: rest, each.isDigit = true) ∧ others := by
  rw [complete_other (Bool.eq_false_iff.mpr other) fun _ => rfl]
  exact iff_of_false nofun fun stands => other (stands.1 ch List.mem_cons_self)

end Steps

/-! ### What the scan yields -/

/-- Digits that add nothing at their places are zeros. -/
theorem digitsValue_excess {value result : Nat} {digits : List Char}
    (all : ∀ ch ∈ digits, ch.isDigit = true) :
    result * 10 ^ digits.length = digitsValue value digits ↔
      result = value ∧ digitsValue 0 digits = 0 := by
  have small := digitsValue_lt all
  have positive : 0 < 10 ^ digits.length := Nat.pow_pos (by decide)
  rw [digitsValue_eq]
  constructor
  · intro same
    have quotient : result = value := by
      have divided := congrArg (· / 10 ^ digits.length) same
      simp only [Nat.mul_div_cancel _ positive] at divided
      rw [divided, Nat.add_comm, Nat.add_mul_div_right _ _ positive, Nat.div_eq_of_lt small,
        Nat.zero_add]
    rw [quotient] at same
    exact ⟨quotient, by omega⟩
  · rintro ⟨rfl, zero⟩
    rw [zero, Nat.add_zero]

/-- What is read first is no more than the number at the end. -/
theorem le_of_scaled {number result count places : Nat} {digits : List Char}
    (same : result * 10 ^ count = digitsValue number digits * 10 ^ places)
    (enough : count ≤ digits.length) : number ≤ result := by
  have grows : number * 10 ^ count ≤ result * 10 ^ count :=
    calc number * 10 ^ count
        ≤ number * 10 ^ digits.length :=
          Nat.mul_le_mul_left _ (Nat.pow_le_pow_right (by decide) enough)
      _ ≤ digitsValue number digits := by
          rw [digitsValue_eq]
          exact Nat.le_add_right _ _
      _ ≤ digitsValue number digits * 10 ^ places :=
          Nat.le_mul_of_pos_right _ (Nat.pow_pos (by decide))
      _ = result * 10 ^ count := same.symm
  exact Nat.le_of_mul_le_mul_right grows (Nat.pow_pos (by decide))

section Scan

variable {limit : UInt64} (room : 9 ≤ limit.toNat) {places : Nat}

include room

/-- Once the places are full, only zeros may follow. -/
theorem complete_excess {value result : UInt64} {seen : Bool} {text : List Char}
    (fits : value.toNat ≤ limit.toNat) :
    complete places limit ⟨value, places, seen, true⟩ text = some result ↔
      (∀ ch ∈ text, ch.isDigit = true) ∧ (seen = true ∨ text ≠ []) ∧
        result = value ∧ digitsValue 0 text = 0 := by
  induction text generalizing seen with
  | nil =>
      rw [complete_nil]
      cases seen with
      | false => simp
      | true =>
          rw [if_neg (by decide), appendZeros_eq_some_iff room fits, ← UInt64.toNat_inj]
          simp only [sub_self, Int.toNat_zero, pow_zero, Nat.mul_one, List.not_mem_nil,
            false_imp_iff, implies_true, true_or, true_and, digitsValue_nil, and_true]
          exact ⟨And.left, fun same => ⟨same, same ▸ fits⟩⟩
  | cons ch rest ih =>
      by_cases digit : ch.isDigit = true
      · rw [complete_excess_digit digit (lt_irrefl _)]
        have word := digitWord_toNat digit
        by_cases zero : digitWord ch = 0
        · have none : digitValue ch = 0 := by rw [← word, zero]; rfl
          rw [if_neg (not_not_intro zero), ih]
          simp [digit, none]
        · rw [if_pos zero]
          constructor
          · nofun
          · rintro ⟨all, -, -, sum⟩
            have first := le_digitsValue (0 * 10 + digitValue ch) rest
            rw [← digitsValue_cons, sum] at first
            refine absurd ?_ zero
            rw [← UInt64.toNat_inj, word]
            show digitValue ch = 0
            omega
      · exact complete_other_iff digit

/-- **Behind the point**: the digits are read at the places that are left, and must vanish beyond. -/
theorem complete_fraction {count : Nat} {value result : UInt64} {seen : Bool} {text : List Char}
    (within : count ≤ places) (fits : value.toNat ≤ limit.toNat) :
    complete places limit ⟨value, count, seen, true⟩ text = some result ↔
      (∀ ch ∈ text, ch.isDigit = true) ∧ (seen = true ∨ text ≠ []) ∧
        result.toNat * 10 ^ text.length =
          digitsValue value.toNat text * 10 ^ (places - count) ∧
        result.toNat ≤ limit.toNat := by
  induction text generalizing count value seen with
  | nil =>
      rw [complete_nil]
      cases seen with
      | false => simp
      | true =>
          have left : ((places : Int) - count).toNat = places - count := by omega
          rw [if_neg (by decide), appendZeros_eq_some_iff room fits, left]
          simp
  | cons ch rest ih =>
      rcases Nat.lt_or_eq_of_le within with more | full
      · by_cases digit : ch.isDigit = true
        · rw [complete_fraction_digit digit (by exact_mod_cast more),
            appendDigit_bind_eq_some_iff digit room]
          have split : 10 ^ (places - count) = 10 * 10 ^ (places - (count + 1)) := by
            rw [← pow_succ']
            congr 1
            omega
          have cancel : ∀ total : Nat,
              result.toNat * 10 ^ (rest.length + 1) = total * 10 ^ (places - count) ↔
                result.toNat * 10 ^ rest.length = total * 10 ^ (places - (count + 1)) := by
            intro total
            rw [split, pow_succ, ← Nat.mul_assoc, Nat.mul_left_comm total, Nat.mul_comm _ 10]
            exact Nat.mul_right_inj (by decide)
          simp only [digitsValue_cons, List.length_cons, cancel, List.mem_cons, forall_eq_or_imp,
            digit, true_and, ne_eq, reduceCtorEq, not_false_eq_true, or_true]
          constructor
          · rintro ⟨bound, later⟩
            have onward : complete places limit
                ⟨UInt64.ofNat (value.toNat * 10 + digitValue ch), (count + 1 : Nat), true, true⟩
                rest = some result := by exact_mod_cast later
            rw [ih more (by rw [toNat_ofNat_of_le bound]; exact bound),
              toNat_ofNat_of_le bound] at onward
            exact ⟨onward.1, onward.2.2⟩
          · rintro ⟨all, same, below⟩
            have bound := (le_of_scaled same le_rfl).trans below
            have onward : complete places limit
                ⟨UInt64.ofNat (value.toNat * 10 + digitValue ch), (count + 1 : Nat), true, true⟩
                rest = some result := by
              rw [ih more (by rw [toNat_ofNat_of_le bound]; exact bound), toNat_ofNat_of_le bound]
              exact ⟨all, Or.inl rfl, same, below⟩
            exact ⟨bound, by exact_mod_cast onward⟩
        · exact complete_other_iff digit
      · subst full
        rw [complete_excess room fits, Nat.sub_self, pow_zero, Nat.mul_one]
        constructor
        · rintro ⟨all, some, rfl, zero⟩
          exact ⟨all, some, (digitsValue_excess all).mpr ⟨rfl, zero⟩, fits⟩
        · rintro ⟨all, some, same, -⟩
          obtain ⟨equal, zero⟩ := (digitsValue_excess all).mp same
          exact ⟨all, some, UInt64.toNat_inj.mp equal, zero⟩

/-- **In front of the point**: the digits on both sides are read as one number, at the scale. -/
theorem complete_whole {value result : UInt64} {seen : Bool} {text : List Char}
    (fits : value.toNat ≤ limit.toNat) :
    complete places limit ⟨value, 0, seen, false⟩ text = some result ↔
      ∃ whole fraction, Written text whole fraction ∧
        (∀ ch ∈ whole ++ fraction, ch.isDigit = true) ∧ (seen = true ∨ whole ++ fraction ≠ []) ∧
        result.toNat * 10 ^ fraction.length =
          digitsValue value.toNat (whole ++ fraction) * 10 ^ places ∧
        result.toNat ≤ limit.toNat := by
  induction text generalizing value seen with
  | nil =>
      rw [complete_nil]
      cases seen with
      | false => simp
      | true =>
          rw [if_neg (by decide), appendZeros_eq_some_iff room fits]
          simp
  | cons ch rest ih =>
      simp only [written_cons]
      by_cases digit : ch.isDigit = true
      · have point : ch ≠ '.' := by
          rintro rfl
          exact absurd digit (by decide)
        rw [complete_whole_digit digit, appendDigit_bind_eq_some_iff digit room]
        constructor
        · rintro ⟨bound, later⟩
          rw [ih (by rw [toNat_ofNat_of_le bound]; exact bound), toNat_ofNat_of_le bound] at later
          obtain ⟨whole, fraction, written, all, -, same, below⟩ := later
          refine ⟨ch :: whole, fraction, Or.inl ⟨whole, rfl, written⟩, ?_, Or.inr (by simp), ?_,
            below⟩
          · rw [List.cons_append, List.forall_mem_cons]
            exact ⟨digit, all⟩
          · rw [List.cons_append, digitsValue_cons]
            exact same
        · rintro ⟨whole, fraction, ⟨tail, rfl, written⟩ | ⟨dot, -⟩, all, -, same, below⟩
          · rw [List.cons_append, List.forall_mem_cons] at all
            rw [List.cons_append, digitsValue_cons] at same
            have enough : fraction.length ≤ (tail ++ fraction).length := by
              rw [List.length_append]
              exact Nat.le_add_left _ _
            have bound := (le_of_scaled same enough).trans below
            refine ⟨bound, ?_⟩
            rw [ih (by rw [toNat_ofNat_of_le bound]; exact bound), toNat_ofNat_of_le bound]
            exact ⟨tail, fraction, written, all.2, Or.inl rfl, same, below⟩
          · exact absurd dot point
      · by_cases point : ch = '.'
        · subst point
          rw [complete_point, ← Nat.cast_zero, complete_fraction room (Nat.zero_le _) fits]
          constructor
          · rintro ⟨all, some, same, below⟩
            exact ⟨[], rest, Or.inr ⟨rfl, rfl, rfl⟩, all, some, same, below⟩
          · rintro ⟨whole, fraction, ⟨tail, rfl, -⟩ | ⟨-, rfl, rfl⟩, all, some, same, below⟩
            · exact absurd (all '.' List.mem_cons_self) digit
            · exact ⟨all, some, same, below⟩
        · rw [complete_other (Bool.eq_false_iff.mpr digit) (absurd · point)]
          constructor
          · nofun
          · rintro ⟨whole, fraction, ⟨tail, rfl, -⟩ | ⟨dot, -⟩, all, -⟩
            · exact absurd (all ch List.mem_cons_self) digit
            · exact absurd dot point

/-- The digits of a text and their magnitude at the scale. -/
theorem complete_text {result : UInt64} {text : List Char} :
    complete places limit {} text = some result ↔
      ∃ whole fraction, Unsigned text whole fraction ∧
        (result.toNat : ℚ) = unsignedValue whole fraction * 10 ^ places ∧
        result.toNat ≤ limit.toNat := by
  rw [show complete places limit {} text = complete places limit ⟨0, 0, false, false⟩ text from rfl,
    complete_whole room (Nat.zero_le _)]
  have value : ∀ whole fraction : List Char,
      (result.toNat : ℚ) = unsignedValue whole fraction * 10 ^ places ↔
        result.toNat * 10 ^ fraction.length =
          digitsValue (0 : UInt64).toNat (whole ++ fraction) * 10 ^ places := by
    intro whole fraction
    have positive : (10 ^ fraction.length : ℚ) ≠ 0 := pow_ne_zero _ (by decide)
    rw [unsignedValue, div_mul_eq_mul_div, eq_div_iff positive]
    exact_mod_cast Iff.rfl
  constructor
  · rintro ⟨whole, fraction, written, all, some, same, below⟩
    rcases some with impossible | some
    · cases impossible
    · exact ⟨whole, fraction, ⟨all, some, written⟩, (value _ _).mpr same, below⟩
  · rintro ⟨whole, fraction, unsigned, same, below⟩
    exact ⟨whole, fraction, unsigned.written, unsigned.digits, Or.inr unsigned.nonempty,
      (value _ _).mp same, below⟩

end Scan

/-! ### The sign -/

theorem toInt64_eq_ofNat (value : UInt64) : value.toInt64 = Int64.ofNat value.toNat := by
  apply Int64.toBitVec_inj.mp
  rw [UInt64.toBitVec_toInt64, Int64.toBitVec_ofNat', ← UInt64.toNat_toBitVec,
    BitVec.ofNat_toNat, BitVec.setWidth_eq]

/-- A number under its sign. -/
def signed {Number : Type} [Neg Number] (negative : Bool) (number : Number) : Number :=
  if negative then -number else number

/-- **No magnitude within the limit of its sign is lost**, the least number included. -/
theorem withSign_toInt {negative : Bool} {value : UInt64}
    (fits : value.toNat ≤ (signLimit negative).toNat) :
    (withSign negative value).toInt = signed negative (value.toNat : Int) := by
  cases negative with
  | false =>
      show value.toInt64.toInt = _
      rw [toInt64_eq_ofNat]
      exact Int64.toInt_ofNat_of_lt (Nat.lt_succ_of_le fits)
  | true =>
      show (if value = signLimit true then Int64.minValue else -value.toInt64).toInt = _
      by_cases least : value = signLimit true
      · rw [if_pos least, least]
        rfl
      · rw [if_neg least, toInt64_eq_ofNat]
        exact Int64.toInt_neg_ofNat_of_le fits

/-- Every 64-bit integer is a magnitude under a sign. -/
theorem exists_withSign_iff {negative : Bool} {out : Int64} {number : ℚ} (nonneg : 0 ≤ number) :
    (∃ value : UInt64, ((value.toNat : ℚ) = number ∧ value.toNat ≤ (signLimit negative).toNat) ∧
      withSign negative value = out) ↔ (out.toInt : ℚ) = signed negative number := by
  constructor
  · rintro ⟨value, ⟨rfl, fits⟩, rfl⟩
    rw [withSign_toInt fits]
    cases negative <;> simp [signed]
  · intro same
    have lower := out.le_toInt
    have upper := out.toInt_lt
    have magnitude : signed negative (out.toInt.natAbs : Int) = out.toInt ∧
        out.toInt.natAbs ≤ (signLimit negative).toNat := by
      cases negative with
      | false =>
          have sign : 0 ≤ out.toInt := by
            have cast : (0 : ℚ) ≤ out.toInt := same ▸ nonneg
            exact_mod_cast cast
          have limit : (signLimit false).toNat = 2 ^ 63 - 1 := rfl
          rw [limit, signed, if_neg Bool.false_ne_true]
          omega
      | true =>
          have sign : out.toInt ≤ 0 := by
            have cast : (out.toInt : ℚ) ≤ 0 := by
              rw [same]
              exact neg_nonpos.mpr nonneg
            exact_mod_cast cast
          have limit : (signLimit true).toNat = 2 ^ 63 := rfl
          rw [limit, signed, if_pos rfl]
          omega
    have word := toNat_ofNat_of_le magnitude.2
    refine ⟨UInt64.ofNat out.toInt.natAbs, ⟨?_, by rw [word]; exact magnitude.2⟩, ?_⟩
    · rw [word]
      have both := congrArg (Int.cast : Int → ℚ) magnitude.1
      rw [same] at both
      cases negative <;> simpa [signed] using both
    · apply Int64.toInt_inj.mp
      rw [withSign_toInt (by rw [word]; exact magnitude.2), word]
      exact magnitude.1

/-- The part behind the sign, with the sign put back. The source's test for nothing behind the sign is
one that the scan makes too. -/
theorem complete_signed {places : Nat} {negative : Bool} {digits : List Char} {out : Int64} :
    (if digits = [] then none
      else (complete places (signLimit negative) {} digits).map (withSign negative)) = some out ↔
      ∃ value : ℚ, (∃ whole fraction, Unsigned digits whole fraction ∧
        value = signed negative (unsignedValue whole fraction)) ∧
          (out.toInt : ℚ) = value * 10 ^ places := by
  have room : 9 ≤ (signLimit negative).toNat := by cases negative <;> decide
  have shift : ∀ number : ℚ,
      signed negative (number * 10 ^ places) = signed negative number * 10 ^ places := by
    intro number
    cases negative with
    | false => rfl
    | true => exact (neg_mul _ _).symm
  have nonneg : ∀ whole fraction, 0 ≤ unsignedValue whole fraction * 10 ^ places := fun _ _ =>
    mul_nonneg (unsignedValue_nonneg _ _) (pow_nonneg (by decide) _)
  have untested : (if digits = [] then none
      else (complete places (signLimit negative) {} digits).map (withSign negative)) =
      (complete places (signLimit negative) {} digits).map (withSign negative) := by
    by_cases none : digits = []
    · rw [if_pos none, none]
      rfl
    · rw [if_neg none]
  rw [untested, Option.map_eq_some_iff]
  simp only [complete_text room]
  constructor
  · rintro ⟨value, ⟨whole, fraction, unsigned, fits⟩, same⟩
    refine ⟨_, ⟨whole, fraction, unsigned, rfl⟩, ?_⟩
    rw [← shift]
    exact (exists_withSign_iff (nonneg whole fraction)).mp ⟨value, fits, same⟩
  · rintro ⟨_, ⟨whole, fraction, unsigned, rfl⟩, same⟩
    rw [← shift] at same
    obtain ⟨value, fits, same⟩ := (exists_withSign_iff (nonneg whole fraction)).mpr same
    exact ⟨value, ⟨whole, fraction, unsigned, fits⟩, same⟩

/-- **The parser is exact**: it reads the decimals whose value at the scale is a 64-bit integer, and
yields that integer. -/
theorem parseDecimalToFixed_eq_some_iff {text : List Char} {scale : Int} {out : Int64} :
    parseDecimalToFixed text scale = some out ↔
      0 ≤ scale ∧ scale ≤ kMaxFixedPointScale ∧
        ∃ value : ℚ, Denotes text value ∧ (out.toInt : ℚ) = value * 10 ^ scale.toNat := by
  unfold parseDecimalToFixed
  by_cases refused : text = [] ∨ scale < 0 ∨ scale > kMaxFixedPointScale
  · rw [if_pos refused]
    constructor
    · nofun
    · rintro ⟨lower, upper, value, denotes, -⟩
      rcases refused with none | below | beyond
      · exact absurd none denotes.ne_nil
      · exact absurd lower (not_le.mpr below)
      · exact absurd upper (not_le.mpr beyond)
  · rw [if_neg refused]
    simp only [not_or, not_lt, gt_iff_lt] at refused
    obtain ⟨some, lower, upper⟩ := refused
    obtain ⟨places, rfl⟩ := Int.eq_ofNat_of_zero_le lower
    simp only [lower, upper, true_and, Int.toNat_natCast]
    obtain ⟨ch, rest, rfl⟩ := List.exists_cons_of_ne_nil some
    by_cases minus : ch = '-'
    · subst minus
      simp only [denotes_minus]
      exact complete_signed
    · by_cases plus : ch = '+'
      · subst plus
        simp only [denotes_plus]
        exact complete_signed
      · simp only [denotes_unsigned plus minus]
        split
        · rename_i same
          exact absurd (List.cons.inj same).1 minus
        · rename_i same
          exact absurd (List.cons.inj same).1 plus
        · exact complete_signed

example : parseDecimalToFixed "-25.3519000000".toList 8 = some (-2535190000) := by decide

/-! ### The output parameter -/

/-- The parser as the source has it: `out` is assigned only in front of `return true`. -/
def parseDecimalToFixedInto (text : List Char) (scale : Int) (out : Int64) : Bool × Int64 :=
  match parseDecimalToFixed text scale with
  | some value => (true, value)
  | none => (false, out)

theorem parseDecimalToFixedInto_eq_true_iff {text : List Char} {scale : Int} {out : Int64} :
    (parseDecimalToFixedInto text scale out).1 = true ↔
      ∃ value, parseDecimalToFixed text scale = some value := by
  unfold parseDecimalToFixedInto
  cases parseDecimalToFixed text scale with
  | some value => exact ⟨fun _ => ⟨value, rfl⟩, fun _ => rfl⟩
  | none => exact ⟨nofun, fun found => by obtain ⟨_, found⟩ := found; cases found⟩

/-- A number is a 64-bit integer. -/
theorem exists_toInt_eq_iff {number : ℚ} :
    (∃ out : Int64, (out.toInt : ℚ) = number) ↔
      ∃ whole : ℤ, -2 ^ 63 ≤ whole ∧ whole ≤ 2 ^ 63 - 1 ∧ (whole : ℚ) = number := by
  constructor
  · rintro ⟨out, same⟩
    exact ⟨out.toInt, out.le_toInt, Int.le_sub_one_of_lt out.toInt_lt, same⟩
  · rintro ⟨whole, lower, upper, same⟩
    refine ⟨Int64.ofInt whole, ?_⟩
    rw [Int64.toInt_ofInt_of_le lower (Int.lt_of_le_sub_one upper)]
    exact same

/-- **`parse_decimal_to_fixed` is exact.** It returns true exactly for the scales from 0 to 18 and the
decimal texts whose value at the scale is an integer of 64 bits; `out` is then that integer, and
otherwise what it was. On the way every digit that fits under the limit of the sign is appended as it
is over the natural numbers, every other one is refused, and the sign is put before every magnitude
within its limit without overflow. -/
theorem parse_exact (text : List Char) (scale : Int) (out : Int64) :
    let answer := parseDecimalToFixedInto text scale out
    (answer.1 = true ↔
        0 ≤ scale ∧ scale ≤ 18 ∧ ∃ value : ℚ, Denotes text value ∧
          ∃ whole : ℤ, -2 ^ 63 ≤ whole ∧ whole ≤ 2 ^ 63 - 1 ∧
            (whole : ℚ) = value * 10 ^ scale.toNat) ∧
      (answer.1 = true → ∀ value : ℚ, Denotes text value →
        (answer.2.toInt : ℚ) = value * 10 ^ scale.toNat) ∧
      (answer.1 = false → answer.2 = out) ∧
      (∀ (negative : Bool) (value next : UInt64) (ch : Char), ch.isDigit = true →
        (appendDigit (signLimit negative) value (digitWord ch) = some next ↔
          next.toNat = value.toNat * 10 + digitValue ch ∧
            value.toNat * 10 + digitValue ch ≤ (signLimit negative).toNat)) ∧
      (∀ (negative : Bool) (value : UInt64), value.toNat ≤ (signLimit negative).toNat →
        (withSign negative value).toInt = signed negative (value.toNat : Int)) := by
  intro answer
  refine ⟨?_, fun found value denotes => ?_, fun missed => ?_, fun negative value next ch digit => ?_,
    fun negative value fits => withSign_toInt fits⟩
  · rw [parseDecimalToFixedInto_eq_true_iff]
    simp only [parseDecimalToFixed_eq_some_iff, kMaxFixedPointScale, ← exists_toInt_eq_iff]
    constructor
    · rintro ⟨result, lower, upper, value, denotes, same⟩
      exact ⟨lower, upper, value, denotes, result, same⟩
    · rintro ⟨lower, upper, value, denotes, result, same⟩
      exact ⟨result, lower, upper, value, denotes, same⟩
  · obtain ⟨result, parsed⟩ := parseDecimalToFixedInto_eq_true_iff.mp found
    have stored : answer.2 = result := by
      show (parseDecimalToFixedInto text scale out).2 = _
      rw [parseDecimalToFixedInto, parsed]
    obtain ⟨-, -, other, denoted, same⟩ := parseDecimalToFixed_eq_some_iff.mp parsed
    rw [stored, denotes.unique denoted]
    exact same
  · have none : parseDecimalToFixed text scale = none := by
      cases parsed : parseDecimalToFixed text scale with
      | none => rfl
      | some value =>
          have found : answer.1 = true := parseDecimalToFixedInto_eq_true_iff.mpr ⟨value, parsed⟩
          rw [missed] at found
          cases found
    show (parseDecimalToFixedInto text scale out).2 = _
    rw [parseDecimalToFixedInto, none]
  · have room : 9 ≤ (signLimit negative).toNat := by cases negative <;> decide
    exact appendDigit_eq_some_iff digit room

example : parseDecimalToFixedInto "-9223372036854775808.000".toList 0 5 = (true, Int64.minValue) := by
  decide

end MarketDataFabric.Codecs
