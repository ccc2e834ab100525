/-
**The JSON scanner by position**, `find_json_value` in
`providers/crypto/binance/detail/json_value_reader.hpp`: its four nested loops as they run over the
positions of a payload, where an access outside the payload is a fault.

* `closingQuote_eq`, `readValue_append` — the inner loops stay inside the payload and find what
  the reader of the text finds.
* `findJsonValueTurn_of_quoted`, `findJsonValueLoop_append` — so does the outer loop, every turn of
  which goes on behind the quotes it has read.
* `scanner_safe_and_sound` — hence the scanner ends without a fault, and what it finds stands behind
  its key.
-/

import MarketDataFabric.Library.Positions
import MarketDataFabric.Providers.Binance.EscapedObject

namespace MarketDataFabric.Providers.Binance

open Library.Positions Library.Scan

/-! ### The loops -/

/-- The loop over a quoted value, which looks for its closing quote. -/
def closingQuote (payload : List Char) (valueStart valueEnd : ℕ) : Except Fault (Option ℕ) :=
  if valueEnd < payload.length then
    (charAt payload valueEnd).bind fun ch =>
      if ch = '"' then
        if valueEnd = valueStart then .ok (some valueEnd)
        else
          (charBefore payload valueEnd).bind fun previous =>
            if previous ≠ '\\' then .ok (some valueEnd)
            else closingQuote payload valueStart (valueEnd + 1)
      else closingQuote payload valueStart (valueEnd + 1)
  else .ok none
termination_by payload.length - valueEnd

/-- The end of the scan, behind the colon of the key. -/
def readValue (payload : List Char) (position : ℕ) : Except Fault (Option (List Char × Bool)) :=
  (skipWhile isJsonWs payload position).bind fun valueStart =>
    if valueStart ≥ payload.length then .ok none
    else
      (charAt payload valueStart).bind fun ch =>
        if ch = '"' then
          (closingQuote payload (valueStart + 1) (valueStart + 1)).bind fun closed =>
            match closed with
            | none => .ok none
            | some valueEnd =>
                (substr payload (valueStart + 1) (valueEnd - (valueStart + 1))).map fun value =>
                  some (value, true)
        else
          (skipWhile isBare payload valueStart).bind fun valueEnd =>
            (substr payload valueStart (valueEnd - valueStart)).map fun value =>
              if value = [] then none else some (value, false)

/-- How a turn of the outer loop ends: with another turn from a position on, or with an answer. -/
inductive Turn where
  | again (pos : ℕ)
  | answer (found : Option (List Char × Bool))
deriving Repr, DecidableEq

/-- One turn of the outer loop. -/
def findJsonValueTurn (payload key : List Char) (pos : ℕ) : Except Fault Turn :=
  match find payload '"' pos with
  | none => .ok (.answer none)
  | some quote =>
      if quote + 1 ≥ payload.length then .ok (.answer none)
      else
        match find payload '"' (quote + 1) with
        | none => .ok (.answer none)
        | some keyEnd =>
            (skipWhile isJsonWs payload (keyEnd + 1)).bind fun afterKey =>
              if afterKey ≥ payload.length then .ok (.again (keyEnd + 1))
              else
                (charAt payload afterKey).bind fun ch =>
                  if ch ≠ ':' then .ok (.again (keyEnd + 1))
                  else
                    (substr payload (quote + 1) (keyEnd - (quote + 1))).bind fun name =>
                      if name ≠ key then .ok (.again (keyEnd + 1))
                      else (readValue payload (afterKey + 1)).map .answer

/-- The outer loop, for at most so many turns; it may not come to an end in them. -/
def findJsonValueLoop (payload key : List Char) :
    ℕ → ℕ → Except Fault (Option (Option (List Char × Bool)))
  | 0, _ => .ok none
  | turns + 1, pos =>
      if pos < payload.length then
        (findJsonValueTurn payload key pos).bind fun turn =>
          match turn with
          | .again next => findJsonValueLoop payload key turns next
          | .answer found => .ok (some found)
      else .ok (some none)

/-- `find_json_value`, for at most so many turns of its outer loop. -/
def scanJsonValue (turns : ℕ) (payload key : List Char) :
    Except Fault (Option (Option (List Char × Bool))) :=
  if key = [] then .ok (some none) else findJsonValueLoop payload key turns 0

/-! ### Inside the payload -/

/-- A character of the payload is read at its position. -/
theorem charAt_of_split {payload front rest : List Char} {ch : Char} {position : ℕ}
    (split : payload = front ++ ch :: rest) (place : position = front.length) :
    position < payload.length ∧ charAt payload position = .ok ch := by
  subst split place
  refine ⟨?_, charAt_append front ch rest⟩
  rw [List.length_append, List.length_cons]
  omega

/-- A cut between two positions. -/
theorem substr_of_split {payload front inner rest : List Char} {position : ℕ}
    (split : payload = front ++ (inner ++ rest)) (place : position = front.length) :
    substr payload position (position + inner.length - position) = .ok inner := by
  subst split place
  rw [Nat.add_sub_cancel_left]
  exact substr_append front inner rest

/-- **The closing quote** is found where the text of the value ends. `read` is what the loop has
passed. -/
theorem closingQuote_eq {payload front : List Char} (read text : List Char)
    (split : payload = front ++ read ++ text) :
    closingQuote payload front.length (front.length + read.length) =
      .ok ((quotedText read.getLast? text).map fun inner =>
        front.length + read.length + inner.length) := by
  induction text generalizing read with
  | nil =>
      have done : ¬ front.length + read.length < payload.length := by
        rw [split, List.append_nil, List.length_append]
        exact Nat.lt_irrefl _
      rw [closingQuote, if_neg done]
      rfl
  | cons ch rest ih =>
      obtain ⟨within, here⟩ := charAt_of_split split (List.length_append ..).symm
      -- where the quote does not close, the loop goes on with one more character passed
      have onward : closingQuote payload front.length (front.length + read.length + 1) =
          .ok (((quotedText (some ch) rest).map (ch :: ·)).map fun inner =>
            front.length + read.length + inner.length) := by
        have later := ih (read ++ [ch]) (by simp [split])
        rw [List.getLast?_concat, List.length_append, List.length_singleton,
          ← Nat.add_assoc] at later
        rw [later, Option.map_map]
        congr 2
        funext inner
        rw [Function.comp_apply, List.length_cons]
        omega
      rw [closingQuote, if_pos within, here, quotedText]
      show (if ch = '"' then _ else _) = _
      by_cases mark : ch = '"'
      · rw [if_pos mark]
        rcases List.eq_nil_or_concat' read with rfl | ⟨passed, previous, rfl⟩
        · have first : front.length + ([] : List Char).length = front.length := rfl
          have unescaped : ([] : List Char).getLast? ≠ some '\\' := fun same => by cases same
          rw [if_pos first, if_pos ⟨mark, unescaped⟩]
          rfl
        · have ahead : ¬ front.length + (passed ++ [previous]).length = front.length := by simp
          have before : charBefore payload (front.length + (passed ++ [previous]).length) =
              .ok previous := by
            have spelled : payload = front ++ passed ++ previous :: ch :: rest := by simp [split]
            rw [spelled, List.length_append, ← Nat.add_assoc, ← List.length_append]
            exact charBefore_append _ _ _
          rw [if_neg ahead, before, List.getLast?_concat]
          show (if previous ≠ '\\' then _ else _) = _
          by_cases escaped : previous = '\\'
          · rw [if_neg (not_not.mpr escaped), if_neg fun both => both.2 (congrArg some escaped)]
            exact onward
          · rw [if_pos escaped, if_pos ⟨mark, fun same => escaped (Option.some.inj same)⟩]
            rfl
      · rw [if_neg mark, if_neg fun both => mark both.1]
        exact onward

/-- **Behind the colon** the scanner finds what the reader of the text finds. -/
theorem readValue_append (front text : List Char) :
    readValue (front ++ text) front.length = .ok (readJsonValue text) := by
  obtain ⟨space, rest, rfl, skipped, left⟩ : ∃ space rest, text = space ++ rest ∧
      text.takeWhile isJsonWs = space ∧ text.dropWhile isJsonWs = rest :=
    ⟨_, _, List.takeWhile_append_dropWhile.symm, rfl, rfl⟩
  rw [readValue, skipWhile_append, skipped, readJsonValue, left, ← List.length_append,
    ← List.append_assoc]
  generalize front ++ space = ahead
  show (if ahead.length ≥ (ahead ++ rest).length then _ else _) = _
  cases rest with
  | nil =>
      have done : ahead.length ≥ (ahead ++ []).length := by rw [List.append_nil]
      exact if_pos done
  | cons ch rest =>
      obtain ⟨within, here⟩ :=
        charAt_of_split (rfl : ahead ++ ch :: rest = ahead ++ ch :: rest) rfl
      rw [if_neg (Nat.not_le.mpr within), here]
      show (if ch = '"' then _ else _) = _
      by_cases mark : ch = '"'
      · have opened : (ahead ++ [ch]).length = ahead.length + 1 := List.length_append ..
        have spelled : ahead ++ ch :: rest = ahead ++ [ch] ++ [] ++ rest := by simp
        have closed := closingQuote_eq [] rest spelled
        rw [opened, List.length_nil, Nat.add_zero, List.getLast?_nil] at closed
        rw [if_pos mark, closed]
        simp only [if_pos mark]
        rw [List.append_nil] at spelled
        cases value : quotedText none rest with
        | none => rfl
        | some inner =>
            obtain ⟨tail, rfl, -⟩ := quotedText_spec value
            have inside : substr (ahead ++ ch :: (inner ++ '"' :: tail)) (ahead.length + 1)
                (ahead.length + 1 + inner.length - (ahead.length + 1)) = .ok inner :=
              substr_of_split spelled opened.symm
            show (substr _ _ _).map _ = _
            rw [inside]
            rfl
      · have bare := skipWhile_append ahead isBare (ch :: rest)
        have inside : substr (ahead ++ ch :: rest) ahead.length
            (ahead.length + ((ch :: rest).takeWhile isBare).length - ahead.length) =
              .ok ((ch :: rest).takeWhile isBare) :=
          substr_of_split (by rw [List.takeWhile_append_dropWhile]) rfl
        rw [if_neg mark, bare]
        simp only [if_neg mark]
        show (substr _ _ _).map _ = _
        rw [inside]
        rfl

/-- The search for a quote from a place in the payload. -/
theorem find_of_split {payload front rest : List Char} {position : ℕ}
    (split : payload = front ++ rest) (place : position = front.length) :
    find payload '"' position = (cut '"' rest).map fun found => front.length + found.1.length := by
  subst split place
  exact find_append front '"' rest

/-- **A turn without two quotes before it** is the last one. -/
theorem findJsonValueTurn_of_none {text : List Char} (front key : List Char)
    (missing : quoted '"' text = none) :
    findJsonValueTurn (front ++ text) key front.length = .ok (.answer none) := by
  rw [findJsonValueTurn, find_append]
  cases first : cut '"' text with
  | none => rfl
  | some parts =>
      obtain ⟨before, opened⟩ := parts
      obtain ⟨rfl, -⟩ := cut_eq_some_iff.mp first
      have second : cut '"' opened = none := by
        rw [quoted, first] at missing
        exact missing
      have spelled : front ++ (before ++ '"' :: opened) = front ++ before ++ ['"'] ++ opened := by
        simp
      show (if front.length + before.length + 1 ≥ _ then _ else _) = _
      split_ifs with last
      · rfl
      · rw [find_of_split spelled (by simp; omega), second]
        rfl

/-- **A turn with two quotes before it**: it goes on behind them, or it reads the value. -/
theorem findJsonValueTurn_of_quoted {before name passed : List Char} (front key rest : List Char)
    (clear : '"' ∉ before) (plain : '"' ∉ name)
    (behind : passed = front ++ before ++ '"' :: (name ++ ['"'])) :
    findJsonValueTurn (passed ++ rest) key front.length =
      .ok (match afterColon rest with
        | none => .again passed.length
        | some value =>
            if name ≠ key then .again passed.length else .answer (readJsonValue value)) := by
  have opening : find (passed ++ rest) '"' front.length = some (front.length + before.length) := by
    rw [find_of_split (by rw [behind, List.append_assoc, List.append_assoc]) rfl,
      List.cons_append, cut_append_of_notMem clear, cut_mark]
    simp
  have spelled : passed ++ rest = front ++ before ++ ['"'] ++ (name ++ '"' :: rest) := by
    simp [behind]
  have named : front.length + before.length + 1 = (front ++ before ++ ['"']).length := by
    rw [List.length_append, List.length_append, List.length_singleton]
  have closing : find (passed ++ rest) '"' (front.length + before.length + 1) =
      some (front.length + before.length + 1 + name.length) := by
    rw [find_of_split spelled named, cut_append_of_notMem plain, cut_mark, named]
    simp
  have behindQuote : front.length + before.length + 1 + name.length + 1 = passed.length := by
    simp [behind]
    omega
  have within : ¬ front.length + before.length + 1 ≥ (passed ++ rest).length := by
    rw [List.length_append]
    omega
  have between : substr (passed ++ rest) (front.length + before.length + 1)
      (front.length + before.length + 1 + name.length - (front.length + before.length + 1)) =
        .ok name := substr_of_split spelled named
  rw [findJsonValueTurn, opening]
  show (if _ then _ else _) = _
  rw [if_neg within, closing]
  show (skipWhile isJsonWs _ _).bind _ = _
  rw [behindQuote, skipWhile_append]
  obtain ⟨space, left, rfl, skipped, unspaced⟩ : ∃ space left, rest = space ++ left ∧
      rest.takeWhile isJsonWs = space ∧ rest.dropWhile isJsonWs = left :=
    ⟨_, _, List.takeWhile_append_dropWhile.symm, rfl, rfl⟩
  rw [afterColon, unspaced, skipped, ← List.length_append]
  show (if (passed ++ space).length ≥ _ then _ else _) = _
  cases left with
  | nil =>
      rw [List.append_nil]
      exact if_pos (Nat.le_refl _)
  | cons ch value =>
      obtain ⟨inside, here⟩ := charAt_of_split (List.append_assoc passed space _).symm rfl
      rw [if_neg (Nat.not_le.mpr inside), here]
      show (if ch ≠ ':' then _ else _) = _
      by_cases colon : ch = ':'
      · subst colon
        have spelled : passed ++ (space ++ ':' :: value) = passed ++ space ++ [':'] ++ value := by
          simp
        have after : (passed ++ space).length + 1 = (passed ++ space ++ [':']).length := by
          simp only [List.length_append, List.length_singleton]
        rw [if_neg (not_not.mpr rfl), between]
        show (if name ≠ key then _ else _) = _
        by_cases different : name ≠ key
        · rw [if_pos different]
          exact congrArg Except.ok (if_pos different).symm
        · rw [if_neg different, spelled, after, readValue_append]
          exact congrArg Except.ok (if_neg different).symm
      · rw [if_pos colon]
        simp [colon]

/-! ### The outer loop -/

/-- **The loop** finds what the reader of the text finds, in at most as many turns as there are
characters, and one to see the end. -/
theorem findJsonValueLoop_append (key : List Char) (turns : ℕ) :
    ∀ front text : List Char, text.length < turns →
      findJsonValueLoop (front ++ text) key turns front.length =
        .ok (some (findJsonValueFrom key text)) := by
  induction turns with
  | zero => exact fun _ _ few => absurd few (Nat.not_lt_zero _)
  | succ turns ih =>
      intro front text few
      rw [findJsonValueLoop]
      split_ifs with within
      · cases found : quoted '"' text with
        | none =>
            rw [findJsonValueTurn_of_none front key found, findJsonValueFrom_eq, found]
            rfl
        | some parts =>
            obtain ⟨name, rest⟩ := parts
            obtain ⟨before, clear, plain, rfl⟩ := quoted_eq_some_iff.mp found
            have spelled : front ++ (before ++ '"' :: (name ++ '"' :: rest)) =
                front ++ before ++ '"' :: (name ++ ['"']) ++ rest := by simp
            have fewer : rest.length < turns := by
              have shorter := quoted_length found
              omega
            rw [spelled, findJsonValueTurn_of_quoted front key rest clear plain rfl,
              findJsonValueFrom_eq, found]
            show (match (match afterColon rest with
              | none => Turn.again _
              | some value => if name ≠ key then .again _ else .answer (readJsonValue value)) with
              | .again next => findJsonValueLoop _ key turns next
              | .answer found => .ok (some found)) = _
            simp only [Option.bind_some]
            cases afterColon rest with
            | none => exact ih _ rest fewer
            | some value =>
                by_cases different : name ≠ key
                · simp only [if_pos different]
                  exact ih _ rest fewer
                · simp only [if_neg different]
      · have done : text = [] := by
          rw [List.length_append] at within
          exact List.length_eq_zero_iff.mp (by omega)
        rw [done, findJsonValueFrom_eq]
        rfl

/-! ### What is found -/

/-- **A value as it stands in a payload**: with quotes around it; or without, not empty, and up to a
comma, a brace, white space or the end. -/
inductive ValueText (value : List Char) : Bool → List Char → Prop
  | quoted (rest : List Char) : ValueText value true ('"' :: (value ++ '"' :: rest))
  | bare (rest : List Char) : value ≠ [] →
      (∀ ch ∈ value, ch ≠ ',' ∧ ch ≠ '}' ∧ isJsonWs ch = false) →
      (∀ ch tail, rest = ch :: tail → ch = ',' ∨ ch = '}' ∨ isJsonWs ch = true) →
      ValueText value false (value ++ rest)

/-- **A value behind its key.** -/
def StandsBehind (payload key value : List Char) (isQuoted : Bool) : Prop :=
  ∃ before space gap text, payload = before ++ '"' :: (key ++ '"' :: (space ++ ':' :: (gap ++ text))) ∧
    (∀ ch ∈ space, isJsonWs ch = true) ∧ (∀ ch ∈ gap, isJsonWs ch = true) ∧
    ValueText value isQuoted text

/-- White space in front of a text. -/
theorem exists_space (text : List Char) :
    ∃ space, text = space ++ text.dropWhile isJsonWs ∧ ∀ ch ∈ space, isJsonWs ch = true :=
  ⟨text.takeWhile isJsonWs, List.takeWhile_append_dropWhile.symm,
    fun _ member => List.mem_takeWhile_imp member⟩

theorem isBare_iff (ch : Char) :
    isBare ch = true ↔ ch ≠ ',' ∧ ch ≠ '}' ∧ isJsonWs ch = false := by
  simp [isBare, and_assoc]

theorem valueText_of_read {text value : List Char} {isQuoted : Bool}
    (read : readJsonValue text = some (value, isQuoted)) :
    ∃ gap rest, text = gap ++ rest ∧ (∀ ch ∈ gap, isJsonWs ch = true) ∧
      ValueText value isQuoted rest := by
  obtain ⟨gap, split, spaces⟩ := exists_space text
  refine ⟨gap, _, split, spaces, ?_⟩
  unfold readJsonValue at read
  cases left : text.dropWhile isJsonWs with
  | nil =>
      rw [left] at read
      cases read
  | cons ch rest =>
      simp only [left] at read
      by_cases mark : ch = '"'
      · rw [if_pos mark] at read
        obtain ⟨inner, closed, same⟩ := Option.map_eq_some_iff.mp read
        obtain ⟨tail, rfl, -⟩ := quotedText_spec closed
        cases same
        rw [mark]
        exact .quoted tail
      · rw [if_neg mark] at read
        split_ifs at read with nothing
        cases read
        have bare : ValueText ((ch :: rest).takeWhile isBare) false
            ((ch :: rest).takeWhile isBare ++ (ch :: rest).dropWhile isBare) := by
          refine .bare _ nothing (fun other member =>
            (isBare_iff other).mp (List.mem_takeWhile_imp member)) fun other tail ends => ?_
          have stops := List.head?_dropWhile_not isBare (ch :: rest)
          rw [ends, List.head?_cons] at stops
          have foreign : ¬ (other ≠ ',' ∧ other ≠ '}' ∧ isJsonWs other = false) :=
            mt (isBare_iff other).mpr (Bool.eq_false_iff.mp stops)
          by_cases comma : other = ','
          · exact Or.inl comma
          by_cases brace : other = '}'
          · exact Or.inr (Or.inl brace)
          · exact Or.inr (Or.inr (eq_true_of_ne_false fun plain => foreign ⟨comma, brace, plain⟩))
        rwa [List.takeWhile_append_dropWhile] at bare

/-- The colon of a key stands behind white space. -/
theorem exists_space_of_colon {rest value : List Char} (colon : afterColon rest = some value) :
    ∃ space, rest = space ++ ':' :: value ∧ ∀ ch ∈ space, isJsonWs ch = true := by
  obtain ⟨space, split, spaces⟩ := exists_space rest
  refine ⟨space, ?_, spaces⟩
  unfold afterColon at colon
  split at colon
  · rename_i found
    cases colon
    rw [split, found]
  · cases colon

/-- What stands behind a pair of quotes stands in the whole text. -/
theorem standsBehind_of_rest {text name rest key value : List Char} {isQuoted : Bool}
    (pair : quoted '"' text = some (name, rest)) (behind : StandsBehind rest key value isQuoted) :
    StandsBehind text key value isQuoted := by
  obtain ⟨front, -, -, rfl⟩ := quoted_eq_some_iff.mp pair
  obtain ⟨before, space, gap, tail, rfl, others⟩ := behind
  exact ⟨front ++ '"' :: (name ++ '"' :: before), space, gap, tail, by simp, others⟩

/-- **What is found stands behind the key.** -/
theorem standsBehind_of_found {key text value : List Char} {isQuoted : Bool}
    (found : findJsonValueFrom key text = some (value, isQuoted)) :
    StandsBehind text key value isQuoted := by
  induction text using findJsonValueFrom.induct key with
  | case1 text none =>
      rw [findJsonValueFrom_eq, none] at found
      cases found
  | case2 text name rest pair none ih =>
      rw [findJsonValueFrom_eq, pair] at found
      simp only [Option.bind_some, none] at found
      exact standsBehind_of_rest pair (ih found)
  | case3 text name rest pair after colon different ih =>
      rw [findJsonValueFrom_eq, pair] at found
      simp only [Option.bind_some, colon, if_pos different] at found
      exact standsBehind_of_rest pair (ih found)
  | case4 text name rest pair after colon same =>
      rw [findJsonValueFrom_eq, pair] at found
      simp only [Option.bind_some, colon, if_neg same] at found
      obtain rfl : name = key := not_not.mp same
      obtain ⟨before, -, -, rfl⟩ := quoted_eq_some_iff.mp pair
      obtain ⟨space, rfl, spaces⟩ := exists_space_of_colon colon
      obtain ⟨gap, tail, rfl, gaps, spelled⟩ := valueText_of_read found
      exact ⟨before, space, gap, tail, rfl, spaces, gaps, spelled⟩

/-- **The scanner is safe and sound on every text.** For every payload and key it ends, within one
turn more than the payload has characters and without any access outside the payload, with what the
reader of the text finds; and a value it finds stands behind the key. -/
theorem scanner_safe_and_sound (payload key : List Char) :
    (∀ turns, payload.length < turns →
      scanJsonValue turns payload key = .ok (some (findJsonValue payload key))) ∧
    ∀ value isQuoted, findJsonValue payload key = some (value, isQuoted) →
      StandsBehind payload key value isQuoted := by
  refine ⟨fun turns few => ?_, fun value isQuoted found => ?_⟩
  · unfold scanJsonValue findJsonValue
    split_ifs
    · rfl
    · exact findJsonValueLoop_append key turns [] payload few
  · unfold findJsonValue at found
    split_ifs at found
    exact standsBehind_of_found found

end MarketDataFabric.Providers.Binance
