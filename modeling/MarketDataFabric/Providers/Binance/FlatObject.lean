/-
**Flat JSON objects**, the format of the Binance messages: members in any order with distinct names,
whose values are scalars, any white space between the tokens, and strings without quotes and
backslashes.

* `FlatObject` — such an object; the conditions on its texts and names are fields.
* `text_eq_escaped` — it is an object with escapes that has none.
* `findJsonValue_text` — **the reader finds the members, and nothing else.**
* `readJsonString_text`, `readJsonU64_text`, `readJsonBool_text` — what the typed readers accept.
-/

import MarketDataFabric.Providers.Binance.EscapedObject

namespace MarketDataFabric.Providers.Binance

open Library.Decimal Library.Scan

/-- The inside of a string. -/
structure PlainText where
  text : List Char
  plain : ∀ ch ∈ text, ch ≠ '"' ∧ ch ≠ '\\'

inductive Scalar
  | string (content : PlainText)
  | bare (content : BareText)

/-- A scalar in front of `rest`. -/
def Scalar.written (rest : List Char) : Scalar → List Char
  | .string content => '"' :: (content.text ++ '"' :: rest)
  | .bare content => content.text ++ rest

/-- The text of a scalar, and whether it is a string. -/
def Scalar.read : Scalar → List Char × Bool
  | .string content => (content.text, true)
  | .bare content => (content.text, false)

structure Member where
  name : PlainText
  value : Scalar
  beforeName : Blank
  afterName : Blank
  beforeValue : Blank
  afterValue : Blank

/-- What stands behind a member's name. -/
def Member.writtenValue (rest : List Char) (member : Member) : List Char :=
  member.afterName.text ++ ':' :: (member.beforeValue.text ++
    member.value.written (member.afterValue.text ++ rest))

/-- A member in front of `rest`. -/
def Member.written (rest : List Char) (member : Member) : List Char :=
  member.beforeName.text ++ '"' :: (member.name.text ++ '"' :: member.writtenValue rest)

/-- **A flat object.** `inner` is the white space of an object without members. -/
structure FlatObject where
  leading : Blank
  inner : Blank
  trailing : Blank
  members : List Member
  distinct : (members.map fun member => member.name.text).Nodup

/-- What stands behind a member: the members that follow it, and the closing brace. -/
def followed (trailing : Blank) : List Member → List Char
  | [] => '}' :: trailing.text
  | member :: rest => ',' :: member.written (followed trailing rest)

namespace FlatObject

/-- The text between the opening brace and the end. -/
def body (object : FlatObject) : List Char :=
  match object.members with
  | [] => object.inner.text ++ '}' :: object.trailing.text
  | member :: rest => member.written (followed object.trailing rest)

def text (object : FlatObject) : List Char := object.leading.text ++ '{' :: object.body

/-- The object has a member of this name with this value. -/
def Has (object : FlatObject) (name : List Char) (value : Scalar) : Prop :=
  ∃ member ∈ object.members, member.name.text = name ∧ member.value = value

/-- A member is this string. -/
def HasString (object : FlatObject) (name text : List Char) : Prop :=
  ∃ content : PlainText, object.Has name (.string content) ∧ content.text = text

/-- A member is this number, in plain decimal digits, bare or quoted. -/
def HasNumber (object : FlatObject) (name : List Char) (number : Nat) : Prop :=
  ∃ value, object.Has name value ∧ value.read.1 ≠ [] ∧
    (∀ ch ∈ value.read.1, ch.isDigit = true) ∧ digitsValue 0 value.read.1 = number

/-- A member is a bare `true` or `false`. -/
def HasFlag (object : FlatObject) (name : List Char) (flag : Bool) : Prop :=
  ∃ content : BareText, object.Has name (.bare content) ∧
    content.text = if flag then "true".toList else "false".toList

end FlatObject

/-! ### Flat objects as objects with escapes -/

/-- A text without quotes and backslashes, as a string without escapes. -/
def PlainText.units (content : PlainText) : List StringUnit :=
  content.text.pmap StringUnit.plain content.plain

theorem PlainText.unitsText_units (content : PlainText) : unitsText content.units = content.text := by
  obtain ⟨text, plain⟩ := content
  unfold units
  induction text with
  | nil => rfl
  | cons ch rest ih =>
      rw [List.forall_mem_cons] at plain
      rw [List.pmap, unitsText_cons, ih plain.2]
      rfl

theorem PlainText.clear (content : PlainText) : '"' ∉ content.text := fun member =>
  (content.plain '"' member).1 rfl

theorem PlainText.not_endsEscaped (content : PlainText) : ¬ EndsEscaped content.units := by
  rintro ⟨front, ends⟩
  have last : StringUnit.escape '\\' ∈ content.units := by
    rw [ends]
    exact List.mem_append_right _ List.mem_cons_self
  obtain ⟨ch, _, same⟩ := List.mem_pmap.mp last
  cases same

def Scalar.escaped : Scalar → EscapedScalar
  | .string content => .string content.units
  | .bare content => .bare content

theorem Scalar.escaped_read (value : Scalar) : value.escaped.read = value.read := by
  cases value with
  | string content => exact congrArg (·, true) content.unitsText_units
  | bare content => rfl

theorem Scalar.written_eq (rest : List Char) (value : Scalar) :
    value.written rest = value.escaped.text ++ rest := by
  cases value with
  | string content => simp [written, escaped, EscapedScalar.text, content.unitsText_units]
  | bare content => rfl

/-- A value of a flat object is read whole. -/
theorem Scalar.not_endsEscaped (value : Scalar) (content : List StringUnit)
    (same : value.escaped = .string content) : ¬ EndsEscaped content := by
  cases value with
  | string plain =>
      cases same
      exact plain.not_endsEscaped
  | bare content => cases same

def Member.escaped (member : Member) : EscapedMember where
  name := member.name.units
  value := member.value.escaped
  beforeName := member.beforeName
  afterName := member.afterName
  beforeValue := member.beforeValue
  afterValue := member.afterValue

theorem Member.written_eq (rest : List Char) (member : Member) :
    member.written rest = member.escaped.text ++ rest := by
  simp [written, writtenValue, Scalar.written_eq, EscapedMember.text, EscapedMember.valueText, escaped,
    PlainText.unitsText_units]

theorem Member.innerQuotes_escaped (member : Member) : member.escaped.innerQuotes = 0 := by
  have name : (unitsText member.name.units).count '"' = 0 := by
    rw [PlainText.unitsText_units]
    exact List.count_eq_zero.mpr member.name.clear
  unfold EscapedMember.innerQuotes escaped
  rw [name]
  cases member.value with
  | string content =>
      show 0 + (unitsText content.units).count '"' = 0
      rw [PlainText.unitsText_units, List.count_eq_zero.mpr content.clear]
  | bare content => rfl

namespace FlatObject

def escaped (object : FlatObject) : EscapedObject where
  leading := object.leading
  inner := object.inner
  trailing := object.trailing
  members := object.members.map Member.escaped
  distinct := by
    rw [List.map_map]
    have names : (fun member => unitsText member.name) ∘ Member.escaped =
        fun member : Member => member.name.text := funext fun member =>
      member.name.unitsText_units
    rw [names]
    exact object.distinct

theorem followed_eq (object : FlatObject) (members : List Member) :
    followed object.trailing members = object.escaped.behind (members.map Member.escaped) := by
  induction members with
  | nil => rfl
  | cons member rest ih =>
      rw [followed, ih, Member.written_eq]
      simp [EscapedObject.behind]

/-- **The text of a flat object** is that of an object whose strings have no escapes. -/
theorem text_eq_escaped (object : FlatObject) : object.text = object.escaped.text := by
  unfold text body EscapedObject.text
  cases members : object.members with
  | nil =>
      have none : object.escaped.members = [] := by
        show object.members.map _ = []
        rw [members]
        rfl
      rw [none]
      simp [EscapedObject.inFront, EscapedObject.behind, escaped]
  | cons member rest =>
      have some : object.escaped.members = member.escaped :: rest.map Member.escaped := by
        show object.members.map _ = _
        rw [members]
        rfl
      rw [some]
      show _ ++ '{' :: member.written (followed object.trailing rest) = _
      rw [Member.written_eq, followed_eq]
      simp [EscapedObject.inFront, escaped]

theorem unquoted (object : FlatObject) :
    ∀ member ∈ object.escaped.members, member.innerQuotes = 0 := by
  intro member among
  obtain ⟨flat, -, rfl⟩ := List.mem_map.mp among
  exact flat.innerQuotes_escaped

/-! ### The members of an object -/

section Members

variable {key : List Char}

/-- **The reader finds the members of an object, and nothing else.** -/
theorem findJsonValue_text (object : FlatObject) (nonempty : key ≠ []) {found : List Char × Bool} :
    findJsonValue object.text key = some found ↔
      ∃ value, object.Has key value ∧ value.read = found := by
  rw [findJsonValue, if_neg nonempty, findJsonValueFrom_eq_bind, text_eq_escaped,
    object.escaped.findKeyFrom_text object.unquoted, Option.bind_eq_some_iff]
  have reads (flat : Member) (back : List EscapedMember) :
      readJsonValue (object.escaped.afterColonOf flat.escaped back) = some flat.value.read := by
    rw [← flat.value.escaped_read]
    exact readJsonValue_eq_some_iff.mpr
      ((object.escaped.spelled_own_iff flat.escaped back).mpr flat.value.not_endsEscaped)
  constructor
  · rintro ⟨text, stops, read⟩
    obtain ⟨front, member, back, split, named, rfl⟩ := EscapedObject.valueBehind_eq_some stops
    obtain ⟨flat, among, rfl⟩ : ∃ flat ∈ object.members, Member.escaped flat = member := by
      refine List.mem_map.mp ?_
      show member ∈ object.escaped.members
      rw [split]
      exact List.mem_append_right _ List.mem_cons_self
    rw [reads] at read
    exact ⟨flat.value, ⟨flat, among, flat.name.unitsText_units.symm.trans named, rfl⟩,
      Option.some.inj read⟩
  · rintro ⟨_, ⟨flat, among, rfl, rfl⟩, rfl⟩
    obtain ⟨front, back, split⟩ := List.append_of_mem (List.mem_map_of_mem (f := Member.escaped) among)
    have stops := object.escaped.valueBehind_of_member object.escaped.distinct split
    rw [show unitsText flat.escaped.name = flat.name.text from flat.name.unitsText_units] at stops
    exact ⟨_, stops, reads flat back⟩

/-! ### The typed readers -/

theorem readJsonString_text (object : FlatObject) (nonempty : key ≠ []) {found : List Char} :
    readJsonString object.text key = some found ↔ object.HasString key found := by
  rw [readJsonString, Option.bind_eq_some_iff]
  constructor
  · rintro ⟨_, search, string⟩
    obtain ⟨value, has, rfl⟩ := (object.findJsonValue_text nonempty).mp search
    cases value with
    | string content => exact ⟨content, has, Option.some.inj string⟩
    | bare content => cases string
  · rintro ⟨content, has, rfl⟩
    exact ⟨_, (object.findJsonValue_text nonempty).mpr ⟨_, has, rfl⟩, rfl⟩

theorem readJsonU64_text (object : FlatObject) (nonempty : key ≠ []) {found : UInt64} :
    readJsonU64 object.text key = some found ↔ object.HasNumber key found.toNat := by
  have room : 9 ≤ (18446744073709551615 : UInt64).toNat := by decide
  have most : found.toNat ≤ (18446744073709551615 : UInt64).toNat :=
    Nat.le_of_lt_succ found.toNat_lt
  rw [readJsonU64, Option.bind_eq_some_iff]
  constructor
  · rintro ⟨_, search, digits⟩
    obtain ⟨value, has, rfl⟩ := (object.findJsonValue_text nonempty).mp search
    by_cases empty : value.read.1 = []
    · rw [if_pos empty] at digits
      cases digits
    · rw [if_neg empty, appendDigits_eq_some_iff room (Nat.zero_le _)] at digits
      exact ⟨value, has, empty, digits.1, digits.2.1.symm⟩
  · rintro ⟨value, has, filled, all, number⟩
    refine ⟨_, (object.findJsonValue_text nonempty).mpr ⟨_, has, rfl⟩, ?_⟩
    rw [if_neg filled, appendDigits_eq_some_iff room (Nat.zero_le _)]
    exact ⟨all, number.symm, number.trans_le most⟩

theorem readJsonBool_text (object : FlatObject) (nonempty : key ≠ []) {found : Bool} :
    readJsonBool object.text key = some found ↔ object.HasFlag key found := by
  rw [readJsonBool, Option.bind_eq_some_iff]
  constructor
  · rintro ⟨_, search, flag⟩
    obtain ⟨value, has, rfl⟩ := (object.findJsonValue_text nonempty).mp search
    cases value with
    | string content => cases flag
    | bare content =>
        rw [if_neg (show ¬(Scalar.bare content).read.2 = true from Bool.false_ne_true)] at flag
        by_cases yes : content.text = "true".toList
        · rw [if_pos (show (Scalar.bare content).read.1 = _ from yes)] at flag
          cases flag
          exact ⟨content, has, yes⟩
        · rw [if_neg (show ¬(Scalar.bare content).read.1 = _ from yes)] at flag
          by_cases no : content.text = "false".toList
          · rw [if_pos (show (Scalar.bare content).read.1 = _ from no)] at flag
            cases flag
            exact ⟨content, has, no⟩
          · rw [if_neg (show ¬(Scalar.bare content).read.1 = _ from no)] at flag
            cases flag
  · rintro ⟨content, has, text⟩
    refine ⟨_, (object.findJsonValue_text nonempty).mpr ⟨_, has, rfl⟩, ?_⟩
    show (if content.text = "true".toList then some true
      else if content.text = "false".toList then some false else none) = _
    rw [text]
    cases found <;> rfl

end Members

end FlatObject

end MarketDataFabric.Providers.Binance
