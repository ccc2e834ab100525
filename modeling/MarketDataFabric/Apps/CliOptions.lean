/-
**The command line of the live node**, `apps/gateway/src/cli_options.hpp` and
`binance_live_options.cpp`.

* `parseU64_eq` — digits are accumulated in a 64-bit word **without a guard**: what is stored is the
  number modulo `2 ^ 64`.
* `readArgument_name`, `field_apply` — an option with a text is recognised as such, and changes its
  own field only, which keeps the low bits of the number.
* `numeric_options_exact` — hence an option stores the number it was given exactly when the number
  fits its field, and on every command line of such options each field has the number of the last
  argument that sets it.
-/

import MarketDataFabric.Feed.Connection
import MarketDataFabric.Library.Decimal

namespace MarketDataFabric.Apps

open Feed Library.Decimal

/-! ### Values of options -/

/-- The text behind the name of an option; empty also where the argument is another one. -/
def optionValue (arg name : List Char) : List Char :=
  if name.isPrefixOf arg then arg.drop name.length else []

/-- The loop of `parse_u64` over the characters. -/
def parseDigits (parsed : UInt64) : List Char → Option UInt64
  | [] => some parsed
  | ch :: rest =>
      if ch < '0' ∨ ch > '9' then none else parseDigits (parsed * 10 + digitWord ch) rest

def parseU64 (text : List Char) : Option UInt64 :=
  if text = [] then none else parseDigits 0 text

def kFeedKindCliEntries : List (List Char × FeedKind) :=
  [("trade".toList, .trade), ("aggTrade".toList, .aggregateTrade),
    ("bookTicker".toList, .topOfBook), ("depth".toList, .bookUpdate),
    ("depth20".toList, .bookSnapshot)]

def parseFeedKind (text : List Char) : Option FeedKind :=
  (kFeedKindCliEntries.find? fun entry => text = entry.1).map Prod.snd

def parseSymbolList (text : List Char) : List (List Char) :=
  (text.splitOn ',').filter fun symbol => symbol ≠ []

/-! ### The arguments -/

structure BinanceLiveArgs where
  symbols : List (List Char) := ["BTCUSDT".toList]
  feedKind : FeedKind := .topOfBook
  maxMessages : UInt64 := 250
  logPayloads : UInt64 := 0
  logNormalizedEvents : UInt64 := 0
  payloadPreviewBytes : UInt64 := 512
  maxAttempts : UInt32 := 1
  backoffMs : UInt64 := 250
  maxBackoffMs : UInt64 := 30000
  idleTimeoutMs : UInt64 := 30000
  normalize : Bool := false
  logPayload : Bool := false
  logNormalized : Bool := false
  reconnectOnCompleted : Bool := false
deriving Repr, DecidableEq

/-- The options with a number. -/
inductive NumericOption where
  | messages
  | logPayload
  | logNormalized
  | payloadBytes
  | maxAttempts
  | backoffMs
  | maxBackoffMs
  | idleTimeoutMs
deriving Repr, DecidableEq

namespace NumericOption

def name : NumericOption → List Char
  | messages => "--messages=".toList
  | logPayload => "--log-payload=".toList
  | logNormalized => "--log-normalized=".toList
  | payloadBytes => "--payload-bytes=".toList
  | maxAttempts => "--max-attempts=".toList
  | backoffMs => "--backoff-ms=".toList
  | maxBackoffMs => "--max-backoff-ms=".toList
  | idleTimeoutMs => "--idle-timeout-ms=".toList

/-- What the branch of an option does with its number. -/
def store (args : BinanceLiveArgs) (number : UInt64) : NumericOption → BinanceLiveArgs
  | messages => { args with maxMessages := number }
  | logPayload => { args with logPayload := true, logPayloads := number }
  | logNormalized =>
      { args with normalize := true, logNormalized := true, logNormalizedEvents := number }
  | payloadBytes => { args with payloadPreviewBytes := number }
  | maxAttempts => { args with maxAttempts := number.toUInt32 }
  | backoffMs => { args with backoffMs := number }
  | maxBackoffMs => { args with maxBackoffMs := number }
  | idleTimeoutMs => { args with idleTimeoutMs := number }

/-- The field of an option, as a number. -/
def field (args : BinanceLiveArgs) : NumericOption → ℕ
  | messages => args.maxMessages.toNat
  | logPayload => args.logPayloads.toNat
  | logNormalized => args.logNormalizedEvents.toNat
  | payloadBytes => args.payloadPreviewBytes.toNat
  | maxAttempts => args.maxAttempts.toNat
  | backoffMs => args.backoffMs.toNat
  | maxBackoffMs => args.maxBackoffMs.toNat
  | idleTimeoutMs => args.idleTimeoutMs.toNat

/-- The width of that field. -/
def bits : NumericOption → ℕ
  | maxAttempts => 32
  | messages | logPayload | logNormalized | payloadBytes | backoffMs | maxBackoffMs
  | idleTimeoutMs => 64

end NumericOption

/-- What an argument says. -/
inductive Argument where
  | symbol (value : List Char)
  | symbols (value : List Char)
  | feed (value : List Char)
  | number (option : NumericOption) (value : List Char)
  | normalize
  | logPayload
  | logNormalized
  | reconnect
  | reconnectCompleted
  | unknown
deriving Repr, DecidableEq

/-- The conditions in the body of the loop, in their order. -/
def readArgument (arg : List Char) : Argument :=
  if optionValue arg "--symbol=".toList ≠ [] then .symbol (optionValue arg "--symbol=".toList)
  else if optionValue arg "--symbols=".toList ≠ [] then
    .symbols (optionValue arg "--symbols=".toList)
  else if optionValue arg "--feed=".toList ≠ [] then .feed (optionValue arg "--feed=".toList)
  else if optionValue arg "--messages=".toList ≠ [] then
    .number .messages (optionValue arg "--messages=".toList)
  else if arg = "--normalize".toList then .normalize
  else if arg = "--log-payload".toList then .logPayload
  else if optionValue arg "--log-payload=".toList ≠ [] then
    .number .logPayload (optionValue arg "--log-payload=".toList)
  else if arg = "--log-normalized".toList then .logNormalized
  else if optionValue arg "--log-normalized=".toList ≠ [] then
    .number .logNormalized (optionValue arg "--log-normalized=".toList)
  else if optionValue arg "--payload-bytes=".toList ≠ [] then
    .number .payloadBytes (optionValue arg "--payload-bytes=".toList)
  else if arg = "--reconnect".toList then .reconnect
  else if arg = "--reconnect-completed".toList then .reconnectCompleted
  else if optionValue arg "--max-attempts=".toList ≠ [] then
    .number .maxAttempts (optionValue arg "--max-attempts=".toList)
  else if optionValue arg "--backoff-ms=".toList ≠ [] then
    .number .backoffMs (optionValue arg "--backoff-ms=".toList)
  else if optionValue arg "--max-backoff-ms=".toList ≠ [] then
    .number .maxBackoffMs (optionValue arg "--max-backoff-ms=".toList)
  else if optionValue arg "--idle-timeout-ms=".toList ≠ [] then
    .number .idleTimeoutMs (optionValue arg "--idle-timeout-ms=".toList)
  else .unknown

/-- What the body of the loop does under each condition. -/
def applyArgument (args : BinanceLiveArgs) : Argument → BinanceLiveArgs
  | .symbol value => { args with symbols := [value] }
  | .symbols value =>
      if parseSymbolList value ≠ [] then { args with symbols := parseSymbolList value } else args
  | .feed value =>
      match parseFeedKind value with
      | some feedKind => { args with feedKind }
      | none => args
  | .number option value =>
      match parseU64 value with
      | some number => option.store args number
      | none => args
  | .normalize => { args with normalize := true }
  | .logPayload => { args with logPayload := true, logPayloads := 5 }
  | .logNormalized =>
      { args with normalize := true, logNormalized := true, logNormalizedEvents := 5 }
  | .reconnect => { args with maxAttempts := 0 }
  | .reconnectCompleted => { args with reconnectOnCompleted := true }
  | .unknown => args

/-- The loop over the arguments behind the name of the program. -/
def parseBinanceLiveArgs (argv : List (List Char)) : BinanceLiveArgs :=
  (argv.drop 1).foldl (fun args arg => applyArgument args (readArgument arg)) {}

/-! ### Numbers -/

theorem isDigit_iff (ch : Char) : ch.isDigit = true ↔ ¬ (ch < '0' ∨ ch > '9') := by
  rw [not_or, Char.not_lt, gt_iff_lt, Char.not_lt, Char.isDigit, Bool.and_eq_true,
    decide_eq_true_eq, decide_eq_true_eq]
  rfl

/-- **The digits are accumulated modulo `2 ^ 64`.** -/
theorem parseDigits_eq (start : ℕ) (text : List Char) :
    parseDigits (UInt64.ofNat start) text =
      if text.all Char.isDigit then some (UInt64.ofNat (digitsValue start text)) else none := by
  induction text generalizing start with
  | nil => rfl
  | cons ch rest ih =>
      rw [parseDigits, List.all_cons]
      by_cases digit : ch.isDigit = true
      · have next : UInt64.ofNat start * 10 + digitWord ch =
            UInt64.ofNat (start * 10 + digitValue ch) := by
          rw [UInt64.ofNat_add, UInt64.ofNat_mul]
          rfl
        rw [if_neg ((isDigit_iff ch).mp digit), next, ih, digit, Bool.true_and, digitsValue_cons]
      · rw [if_pos (not_not.mp (mt (isDigit_iff ch).mpr digit)), Bool.eq_false_iff.mpr digit,
          Bool.false_and]
        rfl

/-- The number a text denotes, if it is a nonempty text of digits. -/
def numberOf (text : List Char) : Option ℕ :=
  if text ≠ [] ∧ text.all Char.isDigit then some (digitsValue 0 text) else none

theorem parseU64_eq (text : List Char) : parseU64 text = (numberOf text).map UInt64.ofNat := by
  unfold parseU64 numberOf
  by_cases nothing : text = []
  · rw [if_pos nothing, if_neg fun written => written.1 nothing]
    rfl
  · rw [if_neg nothing]
    refine (parseDigits_eq 0 text).trans ?_
    by_cases digits : text.all Char.isDigit = true
    · rw [if_pos digits, if_pos ⟨nothing, digits⟩]
      rfl
    · rw [if_neg digits, if_neg fun written => digits written.2]
      rfl

/-! ### One argument -/

/-- An option with a text is recognised as such. -/
theorem readArgument_name (option : NumericOption) {text : List Char} (written : text ≠ []) :
    readArgument (option.name ++ text) = .number option text := by
  obtain ⟨ch, rest, rfl⟩ := List.exists_cons_of_ne_nil written
  cases option <;> rfl

/-- Without a text it is not recognised at all. -/
theorem readArgument_bare (option : NumericOption) : readArgument (option.name ++ []) = .unknown := by
  cases option <;> rfl

theorem eq_of_optionValue {arg name : List Char} (found : optionValue arg name ≠ []) :
    arg = name ++ optionValue arg name := by
  unfold optionValue at found ⊢
  split_ifs at found ⊢ with named
  · obtain ⟨text, rfl⟩ := List.isPrefixOf_iff_prefix.mp named
    rw [List.drop_left]
  · exact absurd rfl found

/-- What an argument is recognised as, its text says. -/
def Says (arg : List Char) (argument : Argument) : Prop :=
  ∀ option text, argument = .number option text → arg = option.name ++ text

theorem says_ite {arg : List Char} {condition : Prop} [Decidable condition]
    {one other : Argument} (here : condition → Says arg one) (there : Says arg other) :
    Says arg (if condition then one else other) := by
  split_ifs with holds
  · exact here holds
  · exact there

theorem says_number {arg : List Char} (option : NumericOption)
    (found : optionValue arg option.name ≠ []) :
    Says arg (.number option (optionValue arg option.name)) := by
  rintro other text same
  obtain ⟨rfl, rfl⟩ := Argument.number.inj same
  exact eq_of_optionValue found

/-- Nothing else is recognised as a numeric option. -/
theorem readArgument_text (arg : List Char) : Says arg (readArgument arg) := by
  unfold readArgument
  refine says_ite (fun _ => nofun) (says_ite (fun _ => nofun) (says_ite (fun _ => nofun)
    (says_ite (says_number .messages) (says_ite (fun _ => nofun) (says_ite (fun _ => nofun)
      (says_ite (says_number .logPayload) (says_ite (fun _ => nofun)
        (says_ite (says_number .logNormalized) (says_ite (says_number .payloadBytes) ?_)))))))))
  exact says_ite (fun _ => nofun) (says_ite (fun _ => nofun) (says_ite (says_number .maxAttempts)
    (says_ite (says_number .backoffMs) (says_ite (says_number .maxBackoffMs)
      (says_ite (says_number .idleTimeoutMs) nofun)))))

namespace NumericOption

/-- The low bits of a number are the field. -/
theorem field_store (option : NumericOption) (args : BinanceLiveArgs) (number : ℕ) :
    option.field (option.store args (UInt64.ofNat number)) = number % 2 ^ option.bits := by
  cases option with
  | maxAttempts =>
      show (UInt64.ofNat number).toUInt32.toNat = number % 2 ^ 32
      rw [UInt64.toNat_toUInt32, UInt64.toNat_ofNat']
      exact Nat.mod_mod_of_dvd number (by decide)
  | messages | logPayload | logNormalized | payloadBytes | backoffMs | maxBackoffMs
  | idleTimeoutMs => exact UInt64.toNat_ofNat'

/-- An option leaves the fields of the others. -/
theorem field_store_other {option other : NumericOption} (different : other ≠ option)
    (args : BinanceLiveArgs) (number : UInt64) :
    option.field (other.store args number) = option.field args := by
  cases option <;> cases other <;> first | rfl | exact absurd rfl different

/-- The number of a text that fits the field. -/
def exact (option : NumericOption) (text : List Char) : Option ℕ :=
  (numberOf text).filter fun number => number < 2 ^ option.bits

/-- A text without a number that is too large for the field. -/
def Fits (option : NumericOption) (text : List Char) : Prop :=
  ∀ number, numberOf text = some number → number < 2 ^ option.bits

/-- A number that fits is its own low bits. -/
theorem exact_of_fits {option : NumericOption} {text : List Char} (fits : option.Fits text) :
    option.exact text = (numberOf text).map fun number => number % 2 ^ option.bits := by
  unfold exact
  cases said : numberOf text with
  | none => rfl
  | some number =>
      have small := fits number said
      rw [Option.filter_some, if_pos (decide_eq_true small), Option.map_some,
        Nat.mod_eq_of_lt small]

/-- What an argument should set the field of an option to. -/
def effect (option : NumericOption) : Argument → Option ℕ
  | .number other text => if other = option then option.exact text else none
  | .logPayload => if option = .logPayload then some 5 else none
  | .logNormalized => if option = .logNormalized then some 5 else none
  | .reconnect => if option = .maxAttempts then some 0 else none
  | .symbol _ | .symbols _ | .feed _ | .normalize | .reconnectCompleted | .unknown => none

/-- **The option itself** keeps the low bits of its number. -/
theorem field_apply_number (option : NumericOption) (args : BinanceLiveArgs) (text : List Char) :
    option.field (applyArgument args (.number option text)) =
      ((numberOf text).map fun number => number % 2 ^ option.bits).getD (option.field args) := by
  rw [applyArgument, parseU64_eq]
  cases numberOf text with
  | none => rfl
  | some number => exact option.field_store args number

/-- **Any argument** has its effect, if its number fits. -/
theorem field_apply (option : NumericOption) (args : BinanceLiveArgs) (argument : Argument)
    (fits : ∀ text, argument = .number option text → option.Fits text) :
    option.field (applyArgument args argument) =
      (option.effect argument).getD (option.field args) := by
  cases argument with
  | number other text =>
      by_cases same : other = option
      · subst same
        rw [field_apply_number, effect, if_pos rfl, exact_of_fits (fits text rfl)]
      · rw [effect, if_neg same, applyArgument]
        cases parseU64 text with
        | none => rfl
        | some number => exact field_store_other same args number
  | symbol | normalize | reconnectCompleted | unknown => cases option <;> rfl
  | symbols value =>
      rw [applyArgument]
      split_ifs <;> cases option <;> rfl
  | feed value =>
      rw [applyArgument]
      cases parseFeedKind value <;> cases option <;> rfl
  | logPayload | logNormalized | reconnect => cases option <;> rfl

end NumericOption

/-! ### Command lines -/

theorem parseBinanceLiveArgs_append (program : List Char) (before : List (List Char))
    (arg : List Char) :
    parseBinanceLiveArgs (program :: (before ++ [arg])) =
      applyArgument (parseBinanceLiveArgs (program :: before)) (readArgument arg) := by
  unfold parseBinanceLiveArgs
  rw [List.drop_succ_cons, List.drop_succ_cons, List.drop_zero, List.drop_zero, List.foldl_append]
  rfl

namespace NumericOption

/-- An option and its text, behind any other arguments. -/
theorem field_parse_append (option : NumericOption) (program : List Char)
    (before : List (List Char)) (text : List Char) :
    option.field (parseBinanceLiveArgs (program :: (before ++ [option.name ++ text]))) =
      ((numberOf text).map fun number => number % 2 ^ option.bits).getD
        (option.field (parseBinanceLiveArgs (program :: before))) := by
  rw [parseBinanceLiveArgs_append]
  by_cases written : text = []
  · subst written
    rw [readArgument_bare]
    rfl
  · rw [readArgument_name option written, field_apply_number]

/-- **A number is stored exactly where it fits.** Where it does not, the field is changed, unless it
held the low bits of the number before. -/
theorem stored_exactly_iff (option : NumericOption) (text : List Char) :
    (∀ program before,
        option.field (parseBinanceLiveArgs (program :: (before ++ [option.name ++ text]))) =
          (option.exact text).getD (option.field (parseBinanceLiveArgs (program :: before)))) ↔
      option.Fits text := by
  constructor
  · intro stored number said
    by_contra excess
    have refused : option.exact text = none := by
      rw [exact, said, Option.filter_some, if_neg (by rwa [decide_eq_true_eq])]
    -- the field would hold the low bits both behind a `0` and behind a `1`
    have held : ∀ digit ∈ [0, 1], number % 2 ^ option.bits = digit % 2 ^ option.bits := by
      intro digit member
      have denoted : numberOf (Nat.toDigits 10 digit) = some digit := by
        rcases List.mem_pair.mp member with rfl | rfl <;> rfl
      have before := field_parse_append option [] [] (Nat.toDigits 10 digit)
      have after := stored [] [option.name ++ Nat.toDigits 10 digit]
      rw [denoted, Option.map_some, Option.getD_some] at before
      rw [field_parse_append, said, refused, Option.map_some, Option.getD_some,
        Option.getD_none] at after
      exact after.trans before
    have both := (held 0 (by decide)).symm.trans (held 1 (by decide))
    cases option <;> exact absurd both (by decide)
  · intro fits program before
    rw [field_parse_append, exact_of_fits fits]

/-- **On a whole command line** the last argument that sets a field decides it. -/
theorem field_parse (option : NumericOption) (argv : List (List Char))
    (fits : ∀ text, option.name ++ text ∈ argv.drop 1 → option.Fits text) :
    option.field (parseBinanceLiveArgs argv) =
      (argv.drop 1).foldl (fun number arg => (option.effect (readArgument arg)).getD number)
        (option.field {}) := by
  unfold parseBinanceLiveArgs
  generalize ({} : BinanceLiveArgs) = args
  generalize argv.drop 1 = rest at fits ⊢
  induction rest generalizing args with
  | nil => rfl
  | cons arg rest ih =>
      rw [List.foldl_cons, List.foldl_cons, ih _ fun text member =>
        fits text (List.mem_cons_of_mem _ member), field_apply]
      intro text read
      exact fits text (readArgument_text arg option text read ▸ List.mem_cons_self)

end NumericOption

/-- **Numeric options are stored exactly or ignored, where they fit.** For every option and text, an
argument with that text behind any others sets the field of the option to the number of the text,
and leaves it where the text is none, exactly if the number fits the field. On a command line with
such texts only, the last argument that sets a field decides it. -/
theorem numeric_options_exact (option : NumericOption) :
    (∀ text : List Char,
      (∀ program before,
          option.field (parseBinanceLiveArgs (program :: (before ++ [option.name ++ text]))) =
            (option.exact text).getD (option.field (parseBinanceLiveArgs (program :: before)))) ↔
        option.Fits text) ∧
    ∀ argv : List (List Char),
      (∀ text, option.name ++ text ∈ argv.drop 1 → option.Fits text) →
        option.field (parseBinanceLiveArgs argv) =
          (argv.drop 1).foldl (fun number arg => (option.effect (readArgument arg)).getD number)
            (option.field {}) :=
  ⟨option.stored_exactly_iff, option.field_parse⟩

/-- Two bounds, the second of which counts. -/
theorem numeric_options_last :
    NumericOption.messages.field (parseBinanceLiveArgs
      ["node".toList, "--messages=7".toList, "--messages=12".toList]) = 12 := by
  have fits : NumericOption.messages.Fits "12".toList := by
    intro number said
    obtain rfl : 12 = number := Option.some.inj said
    decide
  exact ((numeric_options_exact .messages).1 "12".toList).mpr fits "node".toList
    ["--messages=7".toList]

/-- Numbers too large for their fields: a bound of `2 ^ 64` messages, or of `2 ^ 32` attempts, becomes
`0`, which is no bound at all. -/
theorem numeric_options_wrap :
    NumericOption.messages.field (parseBinanceLiveArgs
        ["node".toList, "--messages=18446744073709551616".toList]) = 0 ∧
      (NumericOption.messages.exact "18446744073709551616".toList).getD
        (NumericOption.messages.field (parseBinanceLiveArgs ["node".toList])) = 250 ∧
      NumericOption.maxAttempts.field (parseBinanceLiveArgs
        ["node".toList, "--max-attempts=4294967296".toList]) = 0 ∧
      (NumericOption.maxAttempts.exact "4294967296".toList).getD
        (NumericOption.maxAttempts.field (parseBinanceLiveArgs ["node".toList])) = 1 := by
  decide

end MarketDataFabric.Apps
