/-
**The JSON value reader**, `providers/crypto/binance/detail/json_value_reader.hpp`.

A payload is its characters, and the source's cursor is the text that is left; a byte is the character
of its code. What the source writes to an output before it fails is lost at every caller, so a failing
function is `none`.

* `findJsonValueFrom_of_clear`, `findJsonValueFrom_concat_brace` — what stands in front of the first
  quote, and a closing brace at the end, change nothing that is found.
* `findJsonValue_combined` — **the reader looks through a combined stream's wrapper**, whatever the
  text inside, for every key that is not one of the wrapper's own.
-/

import MarketDataFabric.Library.Decimal
import MarketDataFabric.Library.Scan

namespace MarketDataFabric.Providers.Binance

open Library.Decimal Library.Scan

/-- A letter brought to lower case. -/
def asciiLower (ch : Char) : Char :=
  if 'A' ≤ ch ∧ ch ≤ 'Z' then Char.ofNat (ch.toNat - 'A'.toNat + 'a'.toNat) else ch

def asciiEqualIgnoreCase (lhs rhs : List Char) : Bool :=
  if lhs.length ≠ rhs.length then false
  else (lhs.zip rhs).all fun pair => asciiLower pair.1 = asciiLower pair.2

def isJsonWs (ch : Char) : Bool :=
  ch = ' ' || ch = '\n' || ch = '\r' || ch = '\t'

/-- The text behind a key, its white space and the colon. -/
def afterColon (rest : List Char) : Option (List Char) :=
  match rest.dropWhile isJsonWs with
  | ':' :: value => some value
  | _ => none

/-- The text of a string from behind its opening quote: up to a quote that no backslash precedes.
`previous` is the character in front, if the string has begun. -/
def quotedText (previous : Option Char) : List Char → Option (List Char)
  | [] => none
  | ch :: rest =>
      if ch = '"' ∧ previous ≠ some '\\' then some []
      else (quotedText (some ch) rest).map (ch :: ·)

/-- The characters of a value without quotes. -/
def isBare (ch : Char) : Bool := ch ≠ ',' && ch ≠ '}' && !isJsonWs ch

/-- The value behind a key and its colon, and whether it was quoted. -/
def readJsonValue (text : List Char) : Option (List Char × Bool) :=
  match text.dropWhile isJsonWs with
  | [] => none
  | ch :: rest =>
      if ch = '"' then (quotedText none rest).map (·, true)
      else
        let value := (ch :: rest).takeWhile isBare
        if value = [] then none else some (value, false)

/-- The loop of `find_json_value` from a position on. -/
def findJsonValueFrom (key : List Char) (text : List Char) : Option (List Char × Bool) :=
  match _found : quoted '"' text with
  | none => none
  | some (name, rest) =>
      match afterColon rest with
      | none => findJsonValueFrom key rest
      | some value => if name ≠ key then findJsonValueFrom key rest else readJsonValue value
termination_by text.length
decreasing_by all_goals exact quoted_length _found

def findJsonValue (payload key : List Char) : Option (List Char × Bool) :=
  if key = [] then none else findJsonValueFrom key payload

def readJsonString (payload key : List Char) : Option (List Char) :=
  (findJsonValue payload key).bind fun found => if found.2 then some found.1 else none

def readJsonBool (payload key : List Char) : Option Bool :=
  (findJsonValue payload key).bind fun found =>
    if found.2 then none
    else if found.1 = "true".toList then some true
    else if found.1 = "false".toList then some false
    else none

def readJsonU64 (payload key : List Char) : Option UInt64 :=
  (findJsonValue payload key).bind fun found =>
    if found.1 = [] then none else appendDigits 18446744073709551615 0 found.1

/-! ### Texts up to case -/

theorem asciiLower_eq_toLower (ch : Char) : asciiLower ch = ch.toLower := by
  unfold asciiLower Char.toLower
  by_cases capital : 'A' ≤ ch ∧ ch ≤ 'Z'
  · have bounds : ch.val ≥ 'A'.val ∧ ch.val ≤ 'Z'.val := capital
    rw [if_pos capital, dif_pos bounds]
    have lower : 'A'.toNat ≤ ch.toNat := UInt32.le_iff_toNat_le.mp bounds.1
    have upper : ch.toNat ≤ 'Z'.toNat := UInt32.le_iff_toNat_le.mp bounds.2
    have first : 'A'.toNat = 65 := rfl
    have last : 'Z'.toNat = 90 := rfl
    have small : 'a'.toNat = 97 := rfl
    have valid : (ch.toNat - 'A'.toNat + 'a'.toNat).isValidChar := Or.inl (by omega)
    apply Char.toNat_inj.mp
    rw [Char.ofNat, dif_pos valid]
    show ch.toNat - 'A'.toNat + 'a'.toNat = (ch.val + ('a'.val - 'A'.val)).toNat
    rw [UInt32.toNat_add]
    have shift : ('a'.val - 'A'.val).toNat = 32 := rfl
    rw [shift]
    show _ = (ch.toNat + 32) % 2 ^ 32
    omega
  · have bounds : ¬(ch.val ≥ 'A'.val ∧ ch.val ≤ 'Z'.val) := capital
    rw [if_neg capital, dif_neg bounds]

/-- The symbols are compared up to the case of their letters. -/
theorem asciiEqualIgnoreCase_iff {lhs rhs : List Char} :
    asciiEqualIgnoreCase lhs rhs = true ↔ lhs.map Char.toLower = rhs.map Char.toLower := by
  induction lhs generalizing rhs with
  | nil => cases rhs <;> simp [asciiEqualIgnoreCase]
  | cons left lhs ih =>
      cases rhs with
      | nil => simp [asciiEqualIgnoreCase]
      | cons right rhs =>
          rw [List.map_cons, List.map_cons, List.cons.injEq, ← ih]
          unfold asciiEqualIgnoreCase
          by_cases length : lhs.length = rhs.length
          · simp [length, asciiLower_eq_toLower]
          · simp [length]

/-! ### Steps of the search -/

section Search

variable {key : List Char}

/-- One turn of the loop. -/
theorem findJsonValueFrom_eq (text : List Char) :
    findJsonValueFrom key text = (quoted '"' text).bind fun found =>
      match afterColon found.2 with
      | none => findJsonValueFrom key found.2
      | some value => if found.1 ≠ key then findJsonValueFrom key found.2 else readJsonValue value := by
  rw [findJsonValueFrom]
  split
  · rename_i none
    rw [none]
    rfl
  · rename_i name rest found
    rw [found]
    rfl

/-- What stands in front of the first quote is not looked at. -/
theorem findJsonValueFrom_of_clear {front : List Char} (clear : '"' ∉ front) (text : List Char) :
    findJsonValueFrom key (front ++ text) = findJsonValueFrom key text := by
  rw [findJsonValueFrom_eq, quoted_append_of_notMem clear, ← findJsonValueFrom_eq]

/-- A text in quotes that is no key, or another key, is passed over. -/
theorem findJsonValueFrom_skip {front name rest : List Char} (clear : '"' ∉ front)
    (plain : '"' ∉ name) (skip : name ≠ key ∨ afterColon rest = none) :
    findJsonValueFrom key (front ++ '"' :: (name ++ '"' :: rest)) = findJsonValueFrom key rest := by
  rw [findJsonValueFrom_eq, quoted_append clear plain]
  show (match afterColon rest with
    | none => findJsonValueFrom key rest
    | some value => if name ≠ key then findJsonValueFrom key rest else readJsonValue value) = _
  cases colon : afterColon rest with
  | none => rfl
  | some value =>
      rcases skip with other | none
      · exact if_pos other
      · rw [colon] at none
        cases none

end Search

/-! ### A closing brace at the end -/

theorem dropWhile_concat_brace (text : List Char) :
    (text ++ ['}']).dropWhile isJsonWs = text.dropWhile isJsonWs ++ ['}'] := by
  rw [List.dropWhile_append]
  cases text.dropWhile isJsonWs <;> rfl

theorem afterColon_concat_brace (rest : List Char) :
    afterColon (rest ++ ['}']) = (afterColon rest).map (· ++ ['}']) := by
  unfold afterColon
  rw [dropWhile_concat_brace]
  cases rest.dropWhile isJsonWs with
  | nil => rfl
  | cons ch tail =>
      rw [List.cons_append]
      by_cases colon : ch = ':'
      · subst colon
        rfl
      · simp [colon]

theorem quotedText_concat_brace (previous : Option Char) (text : List Char) :
    quotedText previous (text ++ ['}']) = quotedText previous text := by
  induction text generalizing previous with
  | nil => rfl
  | cons ch rest ih => rw [List.cons_append, quotedText, quotedText, ih]

theorem takeWhile_concat_brace (text : List Char) :
    (text ++ ['}']).takeWhile isBare = text.takeWhile isBare := by
  induction text with
  | nil => rfl
  | cons ch rest ih => rw [List.cons_append, List.takeWhile_cons, List.takeWhile_cons, ih]

/-- A value that the end of the text cuts off is cut off at the same place by a brace, and a missing
value stays missing. -/
theorem readJsonValue_concat_brace (text : List Char) :
    readJsonValue (text ++ ['}']) = readJsonValue text := by
  unfold readJsonValue
  rw [dropWhile_concat_brace]
  cases text.dropWhile isJsonWs with
  | nil => rfl
  | cons ch rest =>
      rw [List.cons_append]
      simp only [quotedText_concat_brace, ← List.cons_append, takeWhile_concat_brace]

/-- **A closing brace at the end changes nothing that is found.** -/
theorem findJsonValueFrom_concat_brace (key text : List Char) :
    findJsonValueFrom key (text ++ ['}']) = findJsonValueFrom key text := by
  have other : '}' ≠ '"' := by decide
  induction text using findJsonValueFrom.induct key with
  | case1 text none =>
      rw [findJsonValueFrom_eq, findJsonValueFrom_eq text, quoted_concat other, none]
      rfl
  | case2 text name rest found none ih =>
      rw [findJsonValueFrom_eq, findJsonValueFrom_eq text, quoted_concat other, found]
      simp only [Option.map_some, Option.bind_some, afterColon_concat_brace, none, Option.map_none,
        ih]
  | case3 text name rest found value colon different ih =>
      rw [findJsonValueFrom_eq, findJsonValueFrom_eq text, quoted_concat other, found]
      simp only [Option.map_some, Option.bind_some, afterColon_concat_brace, colon,
        if_pos different, ih]
  | case4 text name rest found value colon same =>
      rw [findJsonValueFrom_eq, findJsonValueFrom_eq text, quoted_concat other, found]
      simp only [Option.map_some, Option.bind_some, afterColon_concat_brace, colon,
        if_neg same, readJsonValue_concat_brace]

/-! ### Combined streams -/

/-- A message of a combined stream. -/
def combinedStream (name data : List Char) : List Char :=
  "\x7b\"stream\":\"".toList ++ name ++ "\",\"data\":".toList ++ data ++ "\x7d".toList

theorem combinedStream_eq (name data : List Char) : combinedStream name data =
    ['{'] ++ '"' :: ("stream".toList ++ '"' :: ([':'] ++ '"' :: (name ++ '"' ::
      ([','] ++ '"' :: ("data".toList ++ '"' :: ([':'] ++ (data ++ ['}']))))))) := by
  have opening : "\x7b\"stream\":\"".toList =
      ['{'] ++ '"' :: ("stream".toList ++ '"' :: ([':'] ++ ['"'])) := by decide
  have middle : "\",\"data\":".toList =
      '"' :: ([','] ++ '"' :: ("data".toList ++ '"' :: [':'])) := by decide
  have closing : "\x7d".toList = ['}'] := by decide
  unfold combinedStream
  rw [opening, middle, closing]
  simp only [List.append_assoc, List.cons_append, List.nil_append]

/-- **The reader looks through the wrapper** of a combined stream: its two keys and the stream's name
are passed over, and then the search goes on as in the message itself. -/
theorem findJsonValue_combined {name key : List Char} (plain : '"' ∉ name)
    (stream : key ≠ "stream".toList) (data : key ≠ "data".toList) (payload : List Char) :
    findJsonValue (combinedStream name payload) key = findJsonValue payload key := by
  have comma : ∀ rest, afterColon ([','] ++ rest) = none := fun _ => rfl
  unfold findJsonValue
  by_cases empty : key = []
  · rw [if_pos empty, if_pos empty]
  · rw [if_neg empty, if_neg empty, combinedStream_eq,
      findJsonValueFrom_skip (by decide) (by decide) (Or.inl stream.symm),
      findJsonValueFrom_skip (by decide) plain (Or.inr (comma _)),
      findJsonValueFrom_skip (by decide) (by decide) (Or.inl data.symm),
      findJsonValueFrom_of_clear (by decide), findJsonValueFrom_concat_brace]

/-- A key of one letter is none of the wrapper's. -/
theorem findJsonValue_letter {name : List Char} (plain : '"' ∉ name) (payload : List Char)
    (letter : Char) :
    findJsonValue (combinedStream name payload) [letter] = findJsonValue payload [letter] :=
  findJsonValue_combined plain (by simp) (by simp) payload

end MarketDataFabric.Providers.Binance
