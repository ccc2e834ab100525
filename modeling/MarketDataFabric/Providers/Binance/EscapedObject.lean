/-
**Flat JSON objects with escapes**, and what the value reader sees of them.

The reader takes the quotes of a payload two by two and ends a string at the first quote that no
backslash precedes. JSON lets a quote stand inside a string, behind a backslash, and a backslash too.

* `quotedText_units` — no quote inside a string ends it; `lastOf_eq_backslash_iff` — what does not end
  at its own is a string that ends in an escaped backslash.
* `readJsonValue_eq_some_iff`, `readJsonValue_eq_none_iff` — the reader reads what is spelled.
* `EscapedObject` — members in any order with distinct names, whose values are scalars, any white space
  between the tokens, and strings with escapes.
* `even_beforeName` — the quotes in front of a member come in pairs up to the escaped ones.
* `findKeyFrom_text` — **without escaped quotes the search stops at the member of the name**, by
  induction on the members: a string that looks like a name has no colon behind it.
-/

import MarketDataFabric.Providers.Binance.KeySearch
import Mathlib.Data.List.Nodup
import Mathlib.Data.List.TakeWhile

namespace MarketDataFabric.Providers.Binance

open Library.Scan

/-! ### White space and bare values -/

/-- White space. -/
structure Blank where
  text : List Char
  blank : ∀ ch ∈ text, isJsonWs ch = true

/-- A number or a literal: a text that nothing in an object ends early. -/
structure BareText where
  text : List Char
  nonempty : text ≠ []
  bare : ∀ ch ∈ text, ch ≠ '"' ∧ isBare ch = true

/-- Nothing between two tokens. -/
def Blank.none : Blank := ⟨[], nofun⟩

theorem Blank.clear (blank : Blank) : '"' ∉ blank.text := fun member =>
  absurd (blank.blank '"' member) (by decide)

theorem BareText.clear (content : BareText) : '"' ∉ content.text := fun member =>
  (content.bare '"' member).1 rfl

/-- White space ends at the first character that is none. -/
theorem Blank.dropWhile (blank : Blank) {ch : Char} (black : isJsonWs ch = false)
    (rest : List Char) : (blank.text ++ ch :: rest).dropWhile isJsonWs = ch :: rest := by
  rw [List.dropWhile_append_of_pos blank.blank,
    List.dropWhile_cons_of_neg (by rw [black]; decide)]

theorem isJsonWs_of_isBare {ch : Char} (bare : isBare ch = true) : isJsonWs ch = false := by
  simp only [isBare, Bool.and_eq_true, Bool.not_eq_true'] at bare
  exact bare.2

theorem afterColon_blank (blank : Blank) (rest : List Char) :
    afterColon (blank.text ++ rest) = afterColon rest := by
  rw [afterColon, List.dropWhile_append_of_pos blank.blank, ← afterColon]

/-- A value in quotes. -/
theorem readJsonValue_string {text rest : List Char} (first : text.dropWhile isJsonWs = '"' :: rest) :
    readJsonValue text = (quotedText none rest).map (·, true) := by
  rw [readJsonValue, first]
  exact if_pos rfl

/-- A value without quotes. -/
theorem readJsonValue_bare {text rest content : List Char} {ch : Char}
    (first : text.dropWhile isJsonWs = ch :: rest) (plain : ch ≠ '"')
    (whole : (ch :: rest).takeWhile isBare = content) (nonempty : content ≠ []) :
    readJsonValue text = some (content, false) := by
  rw [readJsonValue, first]
  simp only [if_neg plain, whole, if_neg nonempty]

/-! ### Strings with escapes -/

/-- A piece of a string: a character, or one behind a backslash. (JSON allows nine of them there; the
four digits of a code are characters of their own.) -/
inductive StringUnit
  | plain (ch : Char) (clear : ch ≠ '"' ∧ ch ≠ '\\')
  | escape (ch : Char)

def StringUnit.text : StringUnit → List Char
  | .plain ch _ => [ch]
  | .escape ch => ['\\', ch]

def StringUnit.last : StringUnit → Char
  | .plain ch _ => ch
  | .escape ch => ch

/-- The text of a string, between its quotes. -/
def unitsText (units : List StringUnit) : List Char := units.flatMap StringUnit.text

theorem unitsText_cons (unit : StringUnit) (rest : List StringUnit) :
    unitsText (unit :: rest) = unit.text ++ unitsText rest := List.flatMap_cons ..

/-- The last character of a string that began behind `previous`. -/
def lastOf (previous : Option Char) : List StringUnit → Option Char
  | [] => previous
  | unit :: rest => lastOf (some unit.last) rest

/-- The string ends in an escaped backslash. -/
def EndsEscaped (units : List StringUnit) : Prop := ∃ front, units = front ++ [.escape '\\']

theorem lastOf_concat (previous : Option Char) (front : List StringUnit) (unit : StringUnit) :
    lastOf previous (front ++ [unit]) = some unit.last := by
  induction front generalizing previous with
  | nil => rfl
  | cons first rest ih => exact ih _

/-- A string ends in a backslash only if it is an escaped one. -/
theorem lastOf_eq_backslash_iff (units : List StringUnit) :
    lastOf none units = some '\\' ↔ EndsEscaped units := by
  constructor
  · intro ends
    rcases List.eq_nil_or_concat units with rfl | ⟨front, unit, rfl⟩
    · cases ends
    · rw [List.concat_eq_append, lastOf_concat] at ends
      rw [List.concat_eq_append]
      cases unit with
      | plain ch clear => exact absurd (Option.some.inj ends) clear.2
      | escape ch => exact ⟨front, by rw [← Option.some.inj ends]; rfl⟩
  · rintro ⟨front, rfl⟩
    exact lastOf_concat none front _

/-- **No quote inside a string ends it**: an escaped one has its backslash in front. -/
theorem quotedText_units (units : List StringUnit) (previous : Option Char) (tail : List Char) :
    quotedText previous (unitsText units ++ tail) =
      (quotedText (lastOf previous units) tail).map (unitsText units ++ ·) := by
  induction units generalizing previous with
  | nil => exact Option.map_id'.symm
  | cons unit rest ih =>
      rw [unitsText_cons, List.append_assoc]
      cases unit with
      | plain ch clear =>
          show quotedText previous (ch :: (unitsText rest ++ tail)) = _
          rw [quotedText, if_neg fun both => clear.1 both.1, ih, Option.map_map]
          rfl
      | escape ch =>
          show quotedText previous ('\\' :: ch :: (unitsText rest ++ tail)) = _
          rw [quotedText, if_neg fun both => absurd both.1 (by decide), quotedText,
            if_neg fun both => both.2 rfl, ih, Option.map_map, Option.map_map]
          rfl

/-- The last character of a text behind `previous`, one character later. -/
theorem getLast?_cons_or (ch : Char) (rest : List Char) (previous : Option Char) :
    (ch :: rest).getLast?.or previous = rest.getLast?.or (some ch) := by
  rw [List.getLast?_cons, Option.some_or, Option.or_some]

/-- What is read ends in front of a quote, and not in a backslash. -/
theorem quotedText_spec {previous : Option Char} {text inner : List Char}
    (read : quotedText previous text = some inner) :
    ∃ tail, text = inner ++ '"' :: tail ∧ inner.getLast?.or previous ≠ some '\\' := by
  induction text generalizing previous inner with
  | nil => cases read
  | cons ch rest ih =>
      rw [quotedText] at read
      split_ifs at read with ends
      · cases read
        exact ⟨rest, by rw [ends.1]; rfl, ends.2⟩
      · obtain ⟨later, found, rfl⟩ := Option.map_eq_some_iff.mp read
        obtain ⟨tail, rfl, last⟩ := ih found
        rw [← getLast?_cons_or ch later previous] at last
        exact ⟨tail, rfl, last⟩

/-- An end that the reader takes is there. -/
theorem quotedText_isSome {previous : Option Char} {inner : List Char} (tail : List Char)
    (last : inner.getLast?.or previous ≠ some '\\') :
    (quotedText previous (inner ++ '"' :: tail)).isSome = true := by
  induction inner generalizing previous with
  | nil =>
      have closes : quotedText previous ('"' :: tail) = some [] := if_pos ⟨rfl, last⟩
      rw [List.nil_append, closes]
      rfl
  | cons ch rest ih =>
      rw [getLast?_cons_or] at last
      rw [List.cons_append, quotedText]
      split_ifs
      · rfl
      · rw [Option.isSome_map]
        exact ih last

/-! ### Values -/

inductive EscapedScalar
  | string (content : List StringUnit)
  | bare (content : BareText)

def EscapedScalar.text : EscapedScalar → List Char
  | .string content => '"' :: (unitsText content ++ ['"'])
  | .bare content => content.text

/-- The source text of a value, without its quotes, and whether it is a string. -/
def EscapedScalar.read : EscapedScalar → List Char × Bool
  | .string content => (unitsText content, true)
  | .bare content => (content.text, false)

/-- The value is spelled in front of a text, behind white space, and nothing behind it belongs to it. A
string that ends in an escaped backslash is not, to the reader. -/
inductive Spelled : EscapedScalar → List Char → Prop
  | string {content : List StringUnit} (blank : Blank) (tail : List Char) : ¬ EndsEscaped content →
      Spelled (.string content) (blank.text ++ '"' :: (unitsText content ++ '"' :: tail))
  | bare {content : BareText} (blank : Blank) (tail : List Char) : tail.takeWhile isBare = [] →
      Spelled (.bare content) (blank.text ++ (content.text ++ tail))

/-- Something can be read: a text with a quote behind it, in front of which no backslash stands, or a
first character of a value without quotes. -/
inductive Readable : List Char → Prop
  | string (blank : Blank) (inner tail : List Char) : inner.getLast? ≠ some '\\' →
      Readable (blank.text ++ '"' :: (inner ++ '"' :: tail))
  | bare (blank : Blank) (ch : Char) (tail : List Char) : ch ≠ '"' → isBare ch = true →
      Readable (blank.text ++ ch :: tail)

/-- The white space in front of a text. -/
def blankOf (text : List Char) : Blank := ⟨text.takeWhile isJsonWs, fun _ => List.mem_takeWhile_imp⟩

theorem blankOf_append {text rest : List Char} (first : text.dropWhile isJsonWs = rest) :
    text = (blankOf text).text ++ rest := by
  rw [← first]
  exact List.takeWhile_append_dropWhile.symm

/-- Where a value without quotes ends, none begins. -/
theorem takeWhile_dropWhile_bare (text : List Char) :
    (text.dropWhile isBare).takeWhile isBare = [] := by
  have head := List.head?_dropWhile_not isBare text
  cases left : text.dropWhile isBare with
  | nil => rfl
  | cons ch rest =>
      rw [left] at head
      exact List.takeWhile_cons_of_neg (by rw [show isBare ch = false from head]; decide)

theorem BareText.head (content : BareText) :
    ∃ ch rest, content.text = ch :: rest ∧ ch ≠ '"' ∧ isJsonWs ch = false := by
  obtain ⟨ch, rest, same⟩ := List.exists_cons_of_ne_nil content.nonempty
  obtain ⟨plain, inside⟩ := content.bare ch (same ▸ List.mem_cons_self)
  exact ⟨ch, rest, same, plain, isJsonWs_of_isBare inside⟩

/-- **The reader reads what is spelled**, and nothing else. -/
theorem readJsonValue_eq_some_iff {scalar : EscapedScalar} {text : List Char} :
    readJsonValue text = some scalar.read ↔ Spelled scalar text := by
  constructor
  · intro read
    cases first : text.dropWhile isJsonWs with
    | nil =>
        rw [readJsonValue, first] at read
        cases read
    | cons ch rest =>
        rw [blankOf_append first]
        by_cases mark : ch = '"'
        · subst mark
          rw [readJsonValue_string first] at read
          obtain ⟨inner, quote, same⟩ := Option.map_eq_some_iff.mp read
          cases scalar with
          | bare content => cases same
          | string content =>
              obtain rfl : inner = unitsText content := congrArg Prod.fst same
              obtain ⟨tail, rfl, last⟩ := quotedText_spec quote
              refine .string _ tail ?_
              rintro ⟨front, rfl⟩
              rw [unitsText, List.flatMap_append] at last
              exact last (by simp [StringUnit.text])
        · rw [readJsonValue, first] at read
          simp only [if_neg mark] at read
          split_ifs at read with empty
          have same := Option.some.inj read
          cases scalar with
          | string content =>
              have flags : false = true := congrArg Prod.snd same
              cases flags
          | bare content =>
              have whole : (ch :: rest).takeWhile isBare = content.text := congrArg Prod.fst same
              have parts : content.text ++ (ch :: rest).dropWhile isBare = ch :: rest := by
                rw [← whole]
                exact List.takeWhile_append_dropWhile
              rw [← parts]
              exact .bare _ _ (takeWhile_dropWhile_bare _)
  · intro spelled
    cases spelled with
    | @string content blank tail ends =>
        have closes : quotedText (lastOf none content) ('"' :: tail) = some [] :=
          if_pos ⟨rfl, fun last => ends ((lastOf_eq_backslash_iff content).mp last)⟩
        rw [readJsonValue_string (blank.dropWhile rfl _), quotedText_units, closes]
        simp [EscapedScalar.read]
    | @bare content blank tail ends =>
        obtain ⟨ch, rest, same, plain, black⟩ := content.head
        have first : (blank.text ++ (content.text ++ tail)).dropWhile isJsonWs =
            ch :: (rest ++ tail) := by
          rw [same]
          exact blank.dropWhile black _
        have whole : (ch :: (rest ++ tail)).takeWhile isBare = content.text := by
          rw [← List.cons_append, ← same,
            List.takeWhile_append_of_pos fun ch member => (content.bare ch member).2, ends,
            List.append_nil]
        exact readJsonValue_bare first plain whole content.nonempty

/-- Exactly what is readable is read. -/
theorem readJsonValue_eq_none_iff {text : List Char} :
    readJsonValue text = none ↔ ¬ Readable text := by
  rw [← not_iff_not, not_not, ← ne_eq, Option.ne_none_iff_isSome]
  constructor
  · intro some
    cases first : text.dropWhile isJsonWs with
    | nil =>
        rw [readJsonValue, first] at some
        cases some
    | cons ch rest =>
        rw [blankOf_append first]
        by_cases mark : ch = '"'
        · subst mark
          rw [readJsonValue_string first, Option.isSome_map] at some
          obtain ⟨inner, quote⟩ := Option.isSome_iff_exists.mp some
          obtain ⟨tail, rfl, last⟩ := quotedText_spec quote
          rw [Option.or_none] at last
          exact .string _ inner tail last
        · rw [readJsonValue, first] at some
          simp only [if_neg mark] at some
          split_ifs at some with empty
          · cases some
          · refine .bare _ ch rest mark ?_
            by_contra ends
            exact empty (List.takeWhile_cons_of_neg ends)
  · intro readable
    cases readable with
    | string blank inner tail last =>
        rw [readJsonValue_string (blank.dropWhile rfl _), Option.isSome_map]
        exact quotedText_isSome tail (by rwa [Option.or_none])
    | bare blank ch tail plain inside =>
        have some : (ch :: tail).takeWhile isBare ≠ [] := by
          rw [List.takeWhile_cons_of_pos inside]
          exact List.cons_ne_nil _ _
        rw [readJsonValue_bare (blank.dropWhile (isJsonWs_of_isBare inside) _) plain rfl some]
        rfl

/-! ### Objects -/

structure EscapedMember where
  name : List StringUnit
  value : EscapedScalar
  beforeName : Blank
  afterName : Blank
  beforeValue : Blank
  afterValue : Blank

/-- What stands behind a member's name. -/
def EscapedMember.valueText (member : EscapedMember) : List Char :=
  member.afterName.text ++ ':' :: (member.beforeValue.text ++
    (member.value.text ++ member.afterValue.text))

def EscapedMember.text (member : EscapedMember) : List Char :=
  member.beforeName.text ++ '"' :: (unitsText member.name ++ '"' :: member.valueText)

/-- The escaped quotes in the strings of a member. -/
def EscapedMember.innerQuotes (member : EscapedMember) : Nat :=
  (unitsText member.name).count '"' +
    match member.value with
    | .string content => (unitsText content).count '"'
    | .bare _ => 0

/-- **A flat object whose strings have escapes.** The names are compared as they are spelled. -/
structure EscapedObject where
  leading : Blank
  inner : Blank
  trailing : Blank
  members : List EscapedMember
  distinct : (members.map fun member => unitsText member.name).Nodup

namespace EscapedObject

/-- The text in front of a member that follows `front`. -/
def inFront (object : EscapedObject) (front : List EscapedMember) : List Char :=
  object.leading.text ++ '{' :: front.flatMap fun member => member.text ++ [',']

/-- The text behind a member that `back` follows. -/
def behind (object : EscapedObject) (back : List EscapedMember) : List Char :=
  back.flatMap (fun member => ',' :: member.text) ++ '}' :: object.trailing.text

def text (object : EscapedObject) : List Char :=
  match object.members with
  | [] => object.inFront [] ++ (object.inner.text ++ object.behind [])
  | first :: rest => object.inFront [] ++ (first.text ++ object.behind rest)

/-- The commas may be counted to the members in front, or to those behind. -/
theorem flatMap_commas (front : List EscapedMember) (member : EscapedMember)
    (back : List EscapedMember) (first : EscapedMember) :
    first.text ++ (front ++ member :: back).flatMap (fun member => ',' :: member.text) =
      (first :: front).flatMap (fun member => member.text ++ [',']) ++
        (member.text ++ back.flatMap fun member => ',' :: member.text) := by
  induction front generalizing first with
  | nil => simp
  | cons next rest ih =>
      rw [List.cons_append, List.flatMap_cons, List.flatMap_cons, List.append_assoc _ _ (_ ++ _),
        ← ih next]
      simp

/-- **A member in its object.** -/
theorem text_eq {object : EscapedObject} {front back : List EscapedMember} {member : EscapedMember}
    (split : object.members = front ++ member :: back) :
    object.text = object.inFront front ++ (member.text ++ object.behind back) := by
  unfold text
  rw [split]
  cases front with
  | nil => rfl
  | cons first rest =>
      show object.inFront [] ++ (first.text ++ object.behind (rest ++ member :: back)) = _
      unfold inFront behind
      rw [← List.append_assoc first.text, flatMap_commas]
      simp

/-- The text in front of a member's name. -/
def beforeName (object : EscapedObject) (front : List EscapedMember) (member : EscapedMember) :
    List Char :=
  object.inFront front ++ member.beforeName.text

/-- The text behind the colon of a member. -/
def afterColonOf (object : EscapedObject) (member : EscapedMember) (back : List EscapedMember) :
    List Char :=
  member.beforeValue.text ++ (member.value.text ++ (member.afterValue.text ++ object.behind back))

/-- The name of a member, between its quotes, and what stands around it. -/
theorem text_named {object : EscapedObject} {front back : List EscapedMember}
    {member : EscapedMember} (split : object.members = front ++ member :: back) :
    object.text = object.beforeName front member ++ '"' :: (unitsText member.name ++
      '"' :: (member.afterName.text ++ ':' :: object.afterColonOf member back)) := by
  rw [text_eq split]
  simp [beforeName, afterColonOf, EscapedMember.text, EscapedMember.valueText]

theorem count_blank (blank : Blank) : blank.text.count '"' = 0 :=
  List.count_eq_zero_of_not_mem blank.clear

/-- The quotes of a member are two for each of its strings, and those inside. -/
theorem count_member (member : EscapedMember) :
    ∃ strings, member.text.count '"' = 2 * strings + member.innerQuotes := by
  unfold EscapedMember.text EscapedMember.valueText EscapedMember.innerQuotes
  cases member.value with
  | string content =>
      refine ⟨2, ?_⟩
      simp [EscapedScalar.text, count_blank]
      omega
  | bare content =>
      refine ⟨1, ?_⟩
      have none : content.text.count '"' = 0 := List.count_eq_zero_of_not_mem content.clear
      simp [EscapedScalar.text, count_blank, none]
      omega

/-- **Whether the number of quotes in front of a member is even** depends on the escaped ones. -/
theorem even_beforeName (object : EscapedObject) (front : List EscapedMember)
    (member : EscapedMember) :
    Even ((object.beforeName front member).count '"') ↔
      Even (front.map EscapedMember.innerQuotes).sum := by
  have counted : ∃ strings, (front.flatMap fun member => member.text ++ [',']).count '"' =
      2 * strings + (front.map EscapedMember.innerQuotes).sum := by
    induction front with
    | nil => exact ⟨0, rfl⟩
    | cons first rest ih =>
        obtain ⟨before, here⟩ := count_member first
        obtain ⟨strings, later⟩ := ih
        refine ⟨before + strings, ?_⟩
        rw [List.flatMap_cons, List.count_append, List.count_append, here, later, List.map_cons,
          List.sum_cons]
        simp
        omega
  obtain ⟨strings, counted⟩ := counted
  have whole : (object.beforeName front member).count '"' =
      2 * strings + (front.map EscapedMember.innerQuotes).sum := by
    rw [← counted]
    simp [beforeName, inFront, count_blank]
  rw [whole, Nat.even_add]
  simp

/-- A member's own value is spelled behind its colon, unless it ends in an escaped backslash. -/
theorem spelled_own_iff (object : EscapedObject) (member : EscapedMember)
    (back : List EscapedMember) :
    Spelled member.value (object.afterColonOf member back) ↔
      ∀ content, member.value = .string content → ¬ EndsEscaped content := by
  unfold afterColonOf
  cases member.value with
  | string content =>
      constructor
      · intro spelled other same
        obtain rfl := EscapedScalar.string.inj same
        generalize member.beforeValue.text ++ _ = text at spelled
        cases spelled with
        | string _ _ ends => exact ends
      · intro ends
        have own := Spelled.string member.beforeValue
          (member.afterValue.text ++ object.behind back) (ends content rfl)
        simpa [EscapedScalar.text] using own
  | bare content =>
      have stops : (member.afterValue.text ++ object.behind back).takeWhile isBare = [] := by
        cases written : member.afterValue.text with
        | nil => cases back <;> rfl
        | cons ch rest =>
            have white := member.afterValue.blank ch (written ▸ List.mem_cons_self)
            have ends : ¬ isBare ch = true := by simp [isBare, white]
            rw [List.cons_append, List.takeWhile_cons_of_neg ends]
      exact ⟨fun _ => nofun, fun _ => Spelled.bare member.beforeValue _ stops⟩

theorem afterColon_own (object : EscapedObject) (member : EscapedMember)
    (back : List EscapedMember) :
    afterColon (member.afterName.text ++ ':' :: object.afterColonOf member back) =
      some (object.afterColonOf member back) :=
  afterColon_blank _ _

/-! ### Objects without escaped quotes -/

section Unquoted

variable {key : List Char}

/-- What stands behind the colon of the first member of that name. -/
def valueBehind (object : EscapedObject) (key : List Char) : List EscapedMember → Option (List Char)
  | [] => none
  | member :: rest =>
      if unitsText member.name = key then some (object.afterColonOf member rest)
      else valueBehind object key rest

theorem valueBehind_eq_none_iff (object : EscapedObject) (members : List EscapedMember) :
    object.valueBehind key members = none ↔ ∀ member ∈ members, unitsText member.name ≠ key := by
  induction members with
  | nil => exact ⟨fun _ _ absent => absurd absent List.not_mem_nil, fun _ => rfl⟩
  | cons member rest ih =>
      rw [valueBehind, List.forall_mem_cons]
      by_cases same : unitsText member.name = key
      · rw [if_pos same]
        exact ⟨nofun, fun both => absurd same both.1⟩
      · rw [if_neg same, ih]
        exact ⟨fun others => ⟨same, others⟩, And.right⟩

theorem valueBehind_eq_some {object : EscapedObject} {members : List EscapedMember}
    {text : List Char} (found : object.valueBehind key members = some text) :
    ∃ front member back, members = front ++ member :: back ∧ unitsText member.name = key ∧
      text = object.afterColonOf member back := by
  induction members with
  | nil => cases found
  | cons member rest ih =>
      rw [valueBehind] at found
      split_ifs at found with same
      · cases found
        exact ⟨[], member, rest, rfl, same, rfl⟩
      · obtain ⟨front, other, back, rfl, named, there⟩ := ih found
        exact ⟨member :: front, other, back, rfl, named, there⟩

/-- As the names are distinct, a member of that name is the first. -/
theorem valueBehind_of_member (object : EscapedObject) {members front back : List EscapedMember}
    {member : EscapedMember} (distinct : (members.map fun member => unitsText member.name).Nodup)
    (split : members = front ++ member :: back) :
    object.valueBehind (unitsText member.name) members = some (object.afterColonOf member back) := by
  subst split
  induction front with
  | nil => exact if_pos rfl
  | cons first rest ih =>
      obtain ⟨apart, distinct⟩ := List.nodup_cons.mp distinct
      have other : unitsText first.name ≠ unitsText member.name := fun same =>
        apart (List.mem_map.mpr ⟨member, List.mem_append_right _ List.mem_cons_self, same.symm⟩)
      rw [List.cons_append, valueBehind, if_neg other]
      exact ih distinct

theorem clear_of_innerQuotes {member : EscapedMember} (unquoted : member.innerQuotes = 0) :
    '"' ∉ unitsText member.name ∧
      ∀ content, member.value = .string content → '"' ∉ unitsText content := by
  obtain ⟨name, value⟩ := Nat.add_eq_zero_iff.mp unquoted
  refine ⟨List.count_eq_zero.mp name, fun content same => ?_⟩
  rw [same] at value
  exact List.count_eq_zero.mp value

/-- A value is passed over: what follows a string is no colon. -/
theorem findKeyFrom_valueText (object : EscapedObject) {member : EscapedMember}
    (unquoted : member.innerQuotes = 0) (back : List EscapedMember) :
    findKeyFrom key (member.valueText ++ object.behind back) =
      findKeyFrom key (object.behind back) := by
  have colon : '"' ∉ member.afterName.text ++ ':' :: member.beforeValue.text := by
    rw [List.mem_append, List.mem_cons, not_or, not_or]
    exact ⟨member.afterName.clear, by decide, member.beforeValue.clear⟩
  have shape : member.valueText ++ object.behind back =
      (member.afterName.text ++ ':' :: member.beforeValue.text) ++
        (member.value.text ++ (member.afterValue.text ++ object.behind back)) := by
    simp [EscapedMember.valueText]
  rw [shape]
  cases scalar : member.value with
  | string content =>
      have plain := (clear_of_innerQuotes unquoted).2 content scalar
      have none : afterColon (member.afterValue.text ++ object.behind back) = none := by
        rw [afterColon_blank]
        cases back <;> rfl
      have quotes : (EscapedScalar.string content).text ++
          (member.afterValue.text ++ object.behind back) = '"' :: (unitsText content ++
            '"' :: (member.afterValue.text ++ object.behind back)) := by
        simp [EscapedScalar.text]
      rw [quotes, findKeyFrom_of_pass (quoted_append colon plain _) (Or.inr none),
        findKeyFrom_of_clear member.afterValue.clear]
  | bare content =>
      show findKeyFrom key (_ ++ (content.text ++ _)) = _
      rw [findKeyFrom_of_clear colon, findKeyFrom_of_clear content.clear,
        findKeyFrom_of_clear member.afterValue.clear]

theorem findKeyFrom_member (object : EscapedObject) {front : List Char} (clear : '"' ∉ front)
    {member : EscapedMember} (unquoted : member.innerQuotes = 0) (back : List EscapedMember) :
    findKeyFrom key (front ++ (member.text ++ object.behind back)) =
      if unitsText member.name = key then some (object.afterColonOf member back)
      else findKeyFrom key (object.behind back) := by
  have before : '"' ∉ front ++ member.beforeName.text := by
    rw [List.mem_append, not_or]
    exact ⟨clear, member.beforeName.clear⟩
  have shape : front ++ (member.text ++ object.behind back) =
      (front ++ member.beforeName.text) ++ '"' :: (unitsText member.name ++
        '"' :: (member.valueText ++ object.behind back)) := by
    simp [EscapedMember.text]
  have found := quoted_append before (clear_of_innerQuotes unquoted).1
    (member.valueText ++ object.behind back)
  rw [shape]
  by_cases same : unitsText member.name = key
  · have colon : afterColon (member.valueText ++ object.behind back) =
        some (object.afterColonOf member back) := by
      rw [← object.afterColon_own member back]
      simp [EscapedMember.valueText, afterColonOf]
    rw [if_pos same]
    exact findKeyFrom_of_hit (same ▸ found) colon
  · rw [if_neg same, findKeyFrom_of_pass found (Or.inl same), findKeyFrom_valueText object unquoted]

theorem findKeyFrom_behind (object : EscapedObject) {members : List EscapedMember}
    (unquoted : ∀ member ∈ members, member.innerQuotes = 0) :
    findKeyFrom key (object.behind members) = object.valueBehind key members := by
  induction members with
  | nil =>
      have clear : '"' ∉ '}' :: object.trailing.text := by
        rw [List.mem_cons, not_or]
        exact ⟨by decide, object.trailing.clear⟩
      exact findKeyFrom_of_notMem clear
  | cons member rest ih =>
      rw [List.forall_mem_cons] at unquoted
      have comma : '"' ∉ [','] := by decide
      have shape : object.behind (member :: rest) =
          [','] ++ (member.text ++ object.behind rest) := by
        simp [behind]
      rw [shape, object.findKeyFrom_member comma unquoted.1, ih unquoted.2, valueBehind]

/-- **The search stops at the member of the name**, in an object without escaped quotes. -/
theorem findKeyFrom_text (object : EscapedObject)
    (unquoted : ∀ member ∈ object.members, member.innerQuotes = 0) :
    findKeyFrom key object.text = object.valueBehind key object.members := by
  have front : '"' ∉ object.inFront [] := by
    rw [inFront, List.flatMap_nil, List.mem_append, not_or]
    exact ⟨object.leading.clear, by decide⟩
  unfold text
  cases written : object.members with
  | nil =>
      rw [findKeyFrom_of_clear front, findKeyFrom_of_clear object.inner.clear,
        object.findKeyFrom_behind fun _ absent => absurd absent List.not_mem_nil]
  | cons member rest =>
      rw [written, List.forall_mem_cons] at unquoted
      rw [object.findKeyFrom_member front unquoted.1, object.findKeyFrom_behind unquoted.2,
        valueBehind]

end Unquoted

end EscapedObject

end MarketDataFabric.Providers.Binance
