/-
**When the value reader respects escapes.**

* `Finds` — what a caller of `find_json_value` may expect of an object and a name.
* `InPlace`, `Mistaken`, `Legible` — **what the reader needs for it**; `legible_of_unquoted` — objects
  without escaped quotes have it.
* `finds_iff_legible` — the reader finds the members of an object, and nothing else, exactly then.
-/

import MarketDataFabric.Providers.Binance.EscapedObject

namespace MarketDataFabric.Providers.Binance

open Library.Scan

namespace EscapedObject

/-- **What the reader promises**: under this name it finds the member's value, with its source text, and
nothing where there is no such member. -/
structure Finds (object : EscapedObject) (key : List Char) : Prop where
  found : ∀ member ∈ object.members, unitsText member.name = key →
    findJsonValue object.text key = some member.value.read
  missed : (∀ member ∈ object.members, unitsText member.name ≠ key) →
    findJsonValue object.text key = none

/-- A member in its right place: the strings in front hold an even number of escaped quotes, nothing in
front looks like its name, and it does not end in an escaped backslash. -/
structure InPlace (object : EscapedObject) (front : List EscapedMember) (member : EscapedMember) :
    Prop where
  even : Even (front.map EscapedMember.innerQuotes).sum
  first : ∀ earlier value, LooksNamed (unitsText member.name) object.text earlier value →
    (object.beforeName front member).length ≤ earlier.length
  ends : ∀ content, member.value = .string content → ¬ EndsEscaped content

/-- Another place is the first that looks like the name, and happens to have the same value. -/
def Mistaken (object : EscapedObject) (front : List EscapedMember) (member : EscapedMember) : Prop :=
  ∃ before value, FirstNamed (unitsText member.name) object.text before value ∧
    before ≠ object.beforeName front member ∧ Spelled member.value value

/-- **When the reader can find a member**, or see that there is none. -/
structure Legible (object : EscapedObject) (key : List Char) : Prop where
  found : ∀ front member back, object.members = front ++ member :: back →
    unitsText member.name = key → key ≠ [] ∧ (object.InPlace front member ∨
      object.Mistaken front member)
  missed : (∀ member ∈ object.members, unitsText member.name ≠ key) → key = [] ∨
    ∀ before value, FirstNamed key object.text before value → ¬ Readable value

theorem found_iff {object : EscapedObject} {front back : List EscapedMember}
    {member : EscapedMember} (split : object.members = front ++ member :: back)
    (plain : '"' ∉ unitsText member.name) :
    findJsonValue object.text (unitsText member.name) = some member.value.read ↔
      unitsText member.name ≠ [] ∧ (object.InPlace front member ∨ object.Mistaken front member) := by
  unfold findJsonValue
  by_cases empty : unitsText member.name = []
  · rw [if_pos empty]
    exact ⟨nofun, fun both => absurd empty both.1⟩
  rw [if_neg empty, findJsonValueFrom_eq_bind, Option.bind_eq_some_iff]
  simp only [findKeyFrom_eq_some_iff plain, readJsonValue_eq_some_iff]
  have here := text_named split
  have colon := object.afterColon_own member back
  constructor
  · rintro ⟨value, ⟨before, stops⟩, spelled⟩
    refine ⟨empty, ?_⟩
    by_cases own : before = object.beforeName front member
    · obtain ⟨⟨after, there, behind⟩, even⟩ := stops.named
      rw [here, own] at there
      have tail := List.append_cancel_left there
      have rest : member.afterName.text ++ ':' :: object.afterColonOf member back = after := by
        simpa using tail
      rw [← rest, colon] at behind
      cases behind
      refine Or.inl ⟨(even_beforeName object front member).mp (own ▸ even), ?_,
        (spelled_own_iff object member back).mp spelled⟩
      intro earlier value looks
      rw [← own]
      exact stops.first earlier value looks
    · exact Or.inr ⟨before, value, stops, own, spelled⟩
  · rintro ⟨-, place | ⟨before, value, stops, -, spelled⟩⟩
    · exact ⟨_, ⟨_, ⟨⟨_, here, colon⟩, (even_beforeName object front member).mpr place.even⟩,
        place.first⟩, (spelled_own_iff object member back).mpr place.ends⟩
    · exact ⟨value, ⟨before, stops⟩, spelled⟩

theorem missed_iff (object : EscapedObject) {key : List Char} (plain : '"' ∉ key) :
    findJsonValue object.text key = none ↔
      key = [] ∨ ∀ before value, FirstNamed key object.text before value → ¬ Readable value := by
  unfold findJsonValue
  by_cases empty : key = []
  · rw [if_pos empty]
    exact ⟨fun _ => Or.inl empty, fun _ => rfl⟩
  rw [if_neg empty, findJsonValueFrom_eq_bind, Option.bind_eq_none_iff]
  simp only [findKeyFrom_eq_some_iff plain, readJsonValue_eq_none_iff]
  constructor
  · exact fun unread => Or.inr fun before value stops => unread value ⟨before, stops⟩
  · rintro (none | unread)
    · exact absurd none empty
    · rintro value ⟨before, stops⟩
      exact unread before value stops

/-- **Objects without escaped quotes are legible**, for every name whose value does not end in an
escaped backslash. The other escapes do no harm. -/
theorem legible_of_unquoted (object : EscapedObject)
    (unquoted : ∀ member ∈ object.members, member.innerQuotes = 0) {key : List Char}
    (plain : '"' ∉ key) (nonempty : key ≠ [])
    (ends : ∀ member ∈ object.members, unitsText member.name = key →
      ∀ content, member.value = .string content → ¬ EndsEscaped content) :
    object.Legible key := by
  refine ⟨fun front member back split named => ?_, fun absent => ?_⟩
  · subst named
    refine (found_iff split plain).mp ?_
    have among : member ∈ object.members := by
      rw [split]
      exact List.mem_append_right _ List.mem_cons_self
    rw [findJsonValue, if_neg nonempty, findJsonValueFrom_eq_bind, object.findKeyFrom_text unquoted,
      object.valueBehind_of_member object.distinct split]
    exact readJsonValue_eq_some_iff.mpr
      ((object.spelled_own_iff member back).mpr (ends member among rfl))
  · refine (object.missed_iff plain).mp ?_
    rw [findJsonValue, if_neg nonempty, findJsonValueFrom_eq_bind, object.findKeyFrom_text unquoted,
      (object.valueBehind_eq_none_iff object.members).mpr absent]
    rfl

end EscapedObject

/-- **When the reader respects escapes.** Under a name without quotes it finds exactly the member and
its source text, or that there is none, exactly when the object is legible for the name: no quote
inside a string in front has shifted the pairs in which the reader takes the quotes, and the string it
reads does not end in an escaped backslash. -/
theorem finds_iff_legible (object : EscapedObject) {key : List Char} (plain : '"' ∉ key) :
    object.Finds key ↔ object.Legible key := by
  constructor
  · rintro ⟨found, missed⟩
    refine ⟨fun front member back split named => ?_, fun absent => ?_⟩
    · subst named
      have among : member ∈ object.members := by
        rw [split]
        exact List.mem_append_right _ List.mem_cons_self
      exact (EscapedObject.found_iff split plain).mp (found member among rfl)
    · exact (object.missed_iff plain).mp (missed absent)
  · rintro ⟨found, missed⟩
    refine ⟨fun member among named => ?_, fun absent => ?_⟩
    · subst named
      obtain ⟨front, back, split⟩ := List.append_of_mem among
      exact (EscapedObject.found_iff split plain).mpr (found front member back split rfl)
    · exact (object.missed_iff plain).mpr (missed absent)

/-- A member without white space. -/
def compactMember (name : List StringUnit) (value : EscapedScalar) : EscapedMember :=
  ⟨name, value, .none, .none, .none, .none⟩

/-- In `{"a":"\"\\\"","k":"y\""}` two escaped quotes stand in front of the name `k`. -/
theorem finds_iff_legible_even :
    let object : EscapedObject :=
      { leading := .none, inner := .none, trailing := .none
        members :=
          [compactMember [.plain 'a' (by decide)]
            (.string [.escape '"', .escape '\\', .escape '"']),
          compactMember [.plain 'k' (by decide)] (.string [.plain 'y' (by decide), .escape '"'])]
        distinct := by decide }
    object.text = "\x7b\"a\":\"\\\"\\\\\\\"\",\"k\":\"y\\\"\"\x7d".toList ∧ object.Finds ['k'] := by
  intro object
  refine ⟨by decide, (finds_iff_legible object (by decide)).mpr ⟨?_, ?_⟩⟩
  · intro front member back split named
    cases front with
    | nil =>
        obtain ⟨rfl, -⟩ := List.cons.inj split
        exact absurd named (by decide)
    | cons first rest =>
        obtain ⟨rfl, tail⟩ := List.cons.inj split
        cases rest with
        | cons second rear => exact absurd (List.cons.inj tail).2 (by simp)
        | nil =>
            obtain ⟨rfl, -⟩ := List.cons.inj tail
            refine ⟨nofun, Or.inl ⟨by decide, fun earlier value looks => ?_, fun content same => ?_⟩⟩
            · obtain ⟨inside, here⟩ := looks.at
              have only : ∀ place < object.text.length,
                  (object.text.drop place).take 3 = ['"', 'k', '"'] → 14 ≤ place := by decide
              exact Nat.le_trans (Nat.le_of_eq rfl) (only _ inside here)
            · cases same
              rintro ⟨front, ends⟩
              have last := congrArg List.getLast? ends
              simp at last
  · intro absent
    exact absurd rfl (absent _ (List.mem_cons_of_mem _ List.mem_cons_self))

/-- **Two ways to lose a member.** In `{"a":"\"","k":2}` the escaped quote shifts the pairs, and `k` is
not found. In `{"k":"\\","b":"c"}` the backslash in front of the closing quote is itself escaped, and
the reader goes on to the next quote that has none. -/
theorem escapes_misread :
    let hidden : EscapedObject :=
      { leading := .none, inner := .none, trailing := .none
        members :=
          [compactMember [.plain 'a' (by decide)] (.string [.escape '"']),
          compactMember [.plain 'k' (by decide)]
            (.bare ⟨['2'], by decide, List.forall_mem_singleton.mpr (by decide)⟩)]
        distinct := by decide }
    let endless : EscapedObject :=
      { leading := .none, inner := .none, trailing := .none
        members :=
          [compactMember [.plain 'k' (by decide)] (.string [.escape '\\']),
          compactMember [.plain 'b' (by decide)] (.string [.plain 'c' (by decide)])]
        distinct := by decide }
    hidden.text = "\x7b\"a\":\"\\\"\",\"k\":2\x7d".toList ∧
      findJsonValue hidden.text ['k'] = none ∧ ¬ hidden.Finds ['k'] ∧
      endless.text = "\x7b\"k\":\"\\\\\",\"b\":\"c\"\x7d".toList ∧
      findJsonValue endless.text ['k'] = some ("\\\\\",".toList, true) ∧ ¬ endless.Finds ['k'] := by
  intro hidden endless
  have lost : findJsonValue hidden.text ['k'] = none := by
    have first : quoted '"' hidden.text = some (['a'], ":\"\\\"\",\"k\":2\x7d".toList) := by decide
    have second : quoted '"' ":\"\\\"\",\"k\":2\x7d".toList =
        some (['\\'], "\",\"k\":2\x7d".toList) := by decide
    have third : quoted '"' "\",\"k\":2\x7d".toList = some ([','], "k\":2\x7d".toList) := by decide
    have fourth : quoted '"' "k\":2\x7d".toList = none := by decide
    rw [findJsonValue, if_neg (by decide), findJsonValueFrom_eq_bind,
      findKeyFrom_of_pass first (Or.inl (by decide)), findKeyFrom_of_pass second (Or.inl (by decide)),
      findKeyFrom_of_pass third (Or.inl (by decide)), findKeyFrom_eq, fourth]
    rfl
  have longer : findJsonValue endless.text ['k'] = some ("\\\\\",".toList, true) := by
    have first : quoted '"' endless.text =
        some (['k'], ":\"\\\\\",\"b\":\"c\"\x7d".toList) := by decide
    have colon : afterColon ":\"\\\\\",\"b\":\"c\"\x7d".toList =
        some "\"\\\\\",\"b\":\"c\"\x7d".toList := by decide
    rw [findJsonValue, if_neg (by decide), findJsonValueFrom_eq_bind, findKeyFrom_of_hit first colon]
    decide
  refine ⟨by decide, lost, fun finds => ?_, by decide, longer, fun finds => ?_⟩
  · have found := finds.found _ (List.mem_cons_of_mem _ List.mem_cons_self) rfl
    rw [lost] at found
    cases found
  · have found := finds.found _ List.mem_cons_self rfl
    rw [longer] at found
    cases found

end MarketDataFabric.Providers.Binance
