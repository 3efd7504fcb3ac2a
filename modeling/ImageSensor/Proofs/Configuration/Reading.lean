import Mathlib.Tactic.MkIffOfInductiveProp
import ImageSensor.Configuration.Json
import ImageSensor.Proofs.Json.Accepting

/-!
# Reading Configurations

A configuration is read from an object whatever the order of its members, the blanks between them
and the members with other names in it. Each field is found by its name: a field that is left out
has its default, and a field that occurs twice makes the whole text unreadable. The compact text
of a configuration is such a text.

## Main statements

- `ConfigurationFields.addAll?_eq_some_iff`: what is found in the members of an object, field by
  field and independent of the order.
- `Configuration.text_read`: texts that describe a configuration, the compact text among them, are
  read as that configuration; texts with a field twice are refused.
-/

namespace ImageSensor

open Json (TextUnit Stands Spells)

/-! ## §1 Members with a name -/

/-- The values of the members with a given name, in their order. -/
def Json.valuesOf (name : String) (members : List (List TextUnit × Json)) : List Json :=
  (members.filter fun m => Stands m.1 name.toList).map Prod.snd

theorem Json.valuesOf_cons (name : String) (m : List TextUnit × Json)
    (members : List (List TextUnit × Json)) :
    valuesOf name (m :: members) = valuesOf name [m] ++ valuesOf name members := by
  rw [valuesOf, valuesOf, valuesOf, ← List.map_append, ← List.filter_append,
    List.singleton_append]

theorem Json.valuesOf_singleton {key : List TextUnit} {text : List Char} (h : Stands key text)
    (name : String) (v : Json) :
    valuesOf name [(key, v)] = if text = name.toList then [v] else [] := by
  have named : Stands key name.toList ↔ text = name.toList :=
    ⟨h.unique, fun same => same ▸ h⟩
  simp only [valuesOf, List.filter_cons, List.filter_nil, decide_eq_true_eq, named]
  split <;> rfl

/-! ## §2 Finding a field -/

namespace ConfigurationFields

variable {α : Type} {read : Json → Option α} {known found : Option α}

/-- What is known of a field once the values with its name have been taken in: nothing new without
a value, and the reading of the value if it is the first. -/
def Found (read : Json → Option α) (known : Option α) (values : List Json) (found : Option α) :
    Prop :=
  values = [] ∧ found = known ∨
    ∃ v a, values = [v] ∧ known = none ∧ read v = some a ∧ found = some a

theorem found_nil : Found read known [] found ↔ found = known := by
  simp [Found]

theorem found_singleton {v : Json} :
    Found read known [v] found ↔ ∃ a, fresh? known (read v) = some a ∧ found = some a := by
  cases known <;> simp [Found, fresh?]

/-- Values are taken in one after the other. -/
theorem found_append {first second : List Json} :
    Found read known (first ++ second) found ↔
      ∃ between, Found read known first between ∧ Found read between second found := by
  constructor
  · rintro (⟨none, rfl⟩ | ⟨v, a, one, rfl, hread, rfl⟩)
    · obtain ⟨rfl, rfl⟩ := List.append_eq_nil_iff.1 none
      exact ⟨found, .inl ⟨rfl, rfl⟩, .inl ⟨rfl, rfl⟩⟩
    · -- a single value stands in one of the two parts, and the other part has none
      rcases List.append_eq_singleton_iff.1 one with ⟨rfl, rfl⟩ | ⟨rfl, rfl⟩
      · exact ⟨none, .inl ⟨rfl, rfl⟩, .inr ⟨v, a, rfl, rfl, hread, rfl⟩⟩
      · exact ⟨some a, .inr ⟨v, a, rfl, rfl, hread, rfl⟩, .inl ⟨rfl, rfl⟩⟩
  · rintro ⟨between, ⟨rfl, rfl⟩ | ⟨v, a, rfl, rfl, hread, rfl⟩, rest⟩
    · exact rest
    · rcases rest with ⟨rfl, rfl⟩ | ⟨w, b, -, known, -⟩
      · exact .inr ⟨v, a, rfl, rfl, hread, rfl⟩
      · cases known

/-- No field is found twice. -/
theorem Found.length_le_one {values : List Json} (h : Found read known values found) :
    values.length ≤ 1 := by
  rcases h with ⟨rfl, -⟩ | ⟨v, a, rfl, -⟩
  · exact Nat.zero_le 1
  · exact Nat.le_refl 1

/-- All three fields are found in the members of an object. -/
@[mk_iff]
structure FoundAll (fields : ConfigurationFields) (members : List (List TextUnit × Json))
    (found : ConfigurationFields) : Prop where
  address : Found addressOfJson? fields.address (Json.valuesOf "address" members) found.address
  orientation : Found orientationOfJson? fields.orientation (Json.valuesOf "orientation" members)
    found.orientation
  digitalGain : Found flagOfJson? fields.digitalGain (Json.valuesOf "digital_gain" members)
    found.digitalGain

/-- What is found in some members is found one member after the other. -/
theorem foundAll_cons {fields found : ConfigurationFields} {m : List TextUnit × Json}
    {members : List (List TextUnit × Json)} :
    FoundAll fields (m :: members) found ↔
      ∃ between, FoundAll fields [m] between ∧ FoundAll between members found := by
  constructor
  · rintro ⟨h₁, h₂, h₃⟩
    rw [Json.valuesOf_cons, found_append] at h₁ h₂ h₃
    obtain ⟨address, h₁, h₁'⟩ := h₁
    obtain ⟨orientation, h₂, h₂'⟩ := h₂
    obtain ⟨digitalGain, h₃, h₃'⟩ := h₃
    exact ⟨⟨address, orientation, digitalGain⟩, ⟨h₁, h₂, h₃⟩, h₁', h₂', h₃'⟩
  · rintro ⟨between, ⟨h₁, h₂, h₃⟩, h₁', h₂', h₃'⟩
    refine ⟨?_, ?_, ?_⟩ <;> rw [Json.valuesOf_cons, found_append]
    · exact ⟨between.address, h₁, h₁'⟩
    · exact ⟨between.orientation, h₂, h₂'⟩
    · exact ⟨between.digitalGain, h₃, h₃'⟩

/-- A member is taken in by the field of its name, if its key is text. -/
theorem add?_eq_some_iff (fields : ConfigurationFields) (key : List TextUnit) (v : Json)
    (found : ConfigurationFields) :
    fields.add? key v = some found ↔
      (∃ text, Stands key text) ∧ FoundAll fields [(key, v)] found := by
  obtain ⟨address, orientation, digitalGain⟩ := found
  cases hkey : Json.decode? key with
  | none =>
    rw [add?, hkey]
    refine iff_of_false (fun h => nomatch h) fun ⟨⟨text, h⟩, _⟩ => ?_
    rw [(Json.decode?_eq_some_iff key text).2 h] at hkey
    cases hkey
  | some text =>
    have h : Stands key text := (Json.decode?_eq_some_iff key text).1 hkey
    have readable : ∃ text, Stands key text := ⟨text, h⟩
    rw [add?, hkey, foundAll_iff, Json.valuesOf_singleton h, Json.valuesOf_singleton h,
      Json.valuesOf_singleton h]
    -- That the three names differ is all that counts of them.
    have distinct : "address".toList ≠ "orientation".toList ∧
        "address".toList ≠ "digital_gain".toList ∧
        "orientation".toList ≠ "digital_gain".toList := by decide
    generalize "address".toList = first at distinct ⊢
    generalize "orientation".toList = second at distinct ⊢
    generalize "digital_gain".toList = third at distinct ⊢
    obtain ⟨h₁₂, h₁₃, h₂₃⟩ := distinct
    simp only [readable, true_and, Option.bind_eq_bind, Option.bind_some]
    by_cases h₁ : text = first
    · simp only [h₁, h₁₂, h₁₃, ↓reduceIte, found_singleton, found_nil, Option.bind_eq_some_iff]
      grind
    by_cases h₂ : text = second
    · simp only [h₂, h₁₂.symm, h₂₃, ↓reduceIte, found_singleton, found_nil,
        Option.bind_eq_some_iff]
      grind
    by_cases h₃ : text = third
    · simp only [h₃, h₁₃.symm, h₂₃.symm, ↓reduceIte, found_singleton, found_nil,
        Option.bind_eq_some_iff]
      grind
    · obtain ⟨address', orientation', digitalGain'⟩ := fields
      simp [h₁, h₂, h₃, found_nil, eq_comm]

/-- Members are taken in field by field, whatever their order. -/
theorem addAll?_eq_some_iff (fields : ConfigurationFields)
    (members : List (List TextUnit × Json)) (found : ConfigurationFields) :
    fields.addAll? members = some found ↔
      (∀ m ∈ members, ∃ text, Stands m.1 text) ∧ FoundAll fields members found := by
  induction members generalizing fields with
  | nil =>
    obtain ⟨address, orientation, digitalGain⟩ := fields
    obtain ⟨address', orientation', digitalGain'⟩ := found
    simp [addAll?, foundAll_iff, Json.valuesOf, found_nil, eq_comm]
  | cons m rest ih =>
    obtain ⟨key, v⟩ := m
    simp only [addAll?, Option.bind_eq_bind, Option.bind_eq_some_iff, add?_eq_some_iff, ih,
      List.forall_mem_cons]
    constructor
    · rintro ⟨between, ⟨readable, h₁⟩, others, h₂⟩
      exact ⟨⟨readable, others⟩, foundAll_cons.2 ⟨between, h₁, h₂⟩⟩
    · rintro ⟨⟨readable, others⟩, h⟩
      obtain ⟨between, h₁, h₂⟩ := foundAll_cons.1 h
      exact ⟨between, ⟨readable, h₁⟩, others, h₂⟩

end ConfigurationFields

/-! ## §3 Describing a configuration -/

/-- A number spells an address by decimal digits alone. -/
def WritesAddress (address : UInt8) (v : Json) : Prop :=
  ∃ literal, (∀ c ∈ literal, c.isDigit = true) ∧
    Nat.ofDigitChars 10 literal 0 = address.toNat ∧ v = .number literal

/-- A string spells an orientation by its name. -/
def WritesOrientation (orientation : Orientation) (v : Json) : Prop :=
  ∃ units, Stands units orientation.name.toList ∧ v = .string units

/-- A truth value spells a flag. -/
def WritesFlag (flag : Bool) (v : Json) : Prop :=
  v = .bool flag

theorem addressOfJson?_of_writes (address : UInt8) (v : Json) (h : WritesAddress address v) :
    addressOfJson? v = some address := by
  obtain ⟨literal, digits, number, rfl⟩ := h
  have small : address.toNat ≤ 255 := Nat.le_of_lt_succ address.toNat_lt
  have natural : Json.natural? literal = some address.toNat :=
    Json.natural?_eq_some_iff.2 ⟨digits, number⟩
  simp [addressOfJson?, natural, small]

theorem orientationOfJson?_of_writes (orientation : Orientation) (v : Json)
    (h : WritesOrientation orientation v) : orientationOfJson? v = some orientation := by
  obtain ⟨units, hunits, rfl⟩ := h
  rw [orientationOfJson?, orientationOfUnits?, (Json.decode?_eq_some_iff _ _).2 hunits]
  simp [Orientation.ofName?_name]

theorem flagOfJson?_of_writes (flag : Bool) (v : Json) (h : WritesFlag flag v) :
    flagOfJson? v = some flag := by
  rw [h, flagOfJson?]

namespace Configuration

variable {α : Type}

/-- A field is given by the values of its members: by none if it has its default, or by one that
spells it. -/
def Given (writes : α → Json → Prop) (byDefault value : α) (values : List Json) : Prop :=
  values = [] ∧ value = byDefault ∨ ∃ v, values = [v] ∧ writes value v

/-- The members of an object describe the configuration. All keys are text, and what other names
stand for is left open. -/
structure Describes (members : List (List TextUnit × Json)) (c : Configuration) : Prop where
  keys : ∀ m ∈ members, ∃ text, Stands m.1 text
  address : Given WritesAddress 0x2D c.address (Json.valuesOf "address" members)
  orientation : Given WritesOrientation .normal c.orientation
    (Json.valuesOf "orientation" members)
  digitalGain : Given WritesFlag false c.digitalGain (Json.valuesOf "digital_gain" members)

/-- A given field is found, unless it is left to its default. -/
theorem Given.exists_found {writes : α → Json → Prop} {read : Json → Option α}
    (reads : ∀ a v, writes a v → read v = some a) {byDefault value : α} {values : List Json}
    (h : Given writes byDefault value values) :
    ∃ found, ConfigurationFields.Found read none values found ∧
      found.getD byDefault = value := by
  rcases h with ⟨rfl, rfl⟩ | ⟨v, rfl, hv⟩
  · exact ⟨none, .inl ⟨rfl, rfl⟩, rfl⟩
  · exact ⟨some value, .inr ⟨v, value, rfl, rfl, reads value v hv, rfl⟩, rfl⟩

/-- Members that describe a configuration are read as it. -/
theorem ofJson?_describes {members : List (List TextUnit × Json)} {c : Configuration}
    (h : Describes members c) : ofJson? (.object members) = some c := by
  obtain ⟨address, foundAddress, haddress⟩ := h.address.exists_found addressOfJson?_of_writes
  obtain ⟨orientation, foundOrientation, horientation⟩ :=
    h.orientation.exists_found orientationOfJson?_of_writes
  obtain ⟨digitalGain, foundGain, hgain⟩ := h.digitalGain.exists_found flagOfJson?_of_writes
  have found : ConfigurationFields.addAll? {} members = some ⟨address, orientation, digitalGain⟩ :=
    (ConfigurationFields.addAll?_eq_some_iff _ _ _).2
      ⟨h.keys, foundAddress, foundOrientation, foundGain⟩
  have complete : ConfigurationFields.complete ⟨address, orientation, digitalGain⟩ = c := by
    rw [ConfigurationFields.complete]
    cases c
    congr
  simp [ofJson?, found, complete]

/-- Members with a field twice are not read. -/
theorem ofJson?_twice {members : List (List TextUnit × Json)} {name : String}
    (hname : name ∈ ["address", "orientation", "digital_gain"])
    (twice : 2 ≤ (Json.valuesOf name members).length) : ofJson? (.object members) = none := by
  have refused : ConfigurationFields.addAll? {} members = none := by
    refine Option.eq_none_iff_forall_ne_some.2 fun found h => ?_
    obtain ⟨-, once⟩ := (ConfigurationFields.addAll?_eq_some_iff _ _ _).1 h
    simp only [List.mem_cons, List.not_mem_nil, or_false] at hname
    rcases hname with rfl | rfl | rfl
    · exact absurd once.address.length_le_one (by omega)
    · exact absurd once.orientation.length_le_one (by omega)
    · exact absurd once.digitalGain.length_le_one (by omega)
  rw [ofJson?, refused]
  rfl

/-! ## §4 The compact text -/

/-- The members of the compact text, in the order of the fields. -/
def members (c : Configuration) : List (List TextUnit × Json) :=
  [("address".toList.map .plain, .number (Nat.toDigits 10 c.address.toNat)),
    ("orientation".toList.map .plain, .string (c.orientation.name.toList.map .plain)),
    ("digital_gain".toList.map .plain, .bool c.digitalGain)]

theorem members_describes (c : Configuration) : Describes c.members c := by
  have address := Json.stands_plain "address".toList
  have orientation := Json.stands_plain "orientation".toList
  have digitalGain := Json.stands_plain "digital_gain".toList
  obtain ⟨digits, number⟩ := Json.natural?_eq_some_iff.1 (Json.natural?_toDigits c.address.toNat)
  have written : WritesAddress c.address (.number (Nat.toDigits 10 c.address.toNat)) :=
    ⟨_, digits, number, rfl⟩
  refine ⟨?_, .inr ⟨_, ?_, written⟩, .inr ⟨_, ?_, _, Json.stands_plain _, rfl⟩,
    .inr ⟨_, ?_, rfl⟩⟩
  · simp only [members, List.forall_mem_cons, List.not_mem_nil, false_implies, implies_true,
      and_true]
    exact ⟨⟨_, address⟩, ⟨_, orientation⟩, ⟨_, digitalGain⟩⟩
  all_goals
    rw [members, Json.valuesOf_cons, Json.valuesOf_cons _ (_, Json.string _),
      Json.valuesOf_singleton address, Json.valuesOf_singleton orientation,
      Json.valuesOf_singleton digitalGain]
    rfl

/-- The members of the compact text as they are written, without blanks. -/
def writtenMembers (c : Configuration) : List Json.Member :=
  [⟨[], "\"address\"".toList, "address".toList.map .plain, [],
      Nat.toDigits 10 c.address.toNat, .number (Nat.toDigits 10 c.address.toNat)⟩,
    ⟨[], "\"orientation\"".toList, "orientation".toList.map .plain, [],
      '"' :: (c.orientation.name.toList ++ ['"']),
      .string (c.orientation.name.toList.map .plain)⟩,
    ⟨[], "\"digital_gain\"".toList, "digital_gain".toList.map .plain, [],
      (if c.digitalGain then "true" else "false").toList, .bool c.digitalGain⟩]

/-- The characters of the compact text. -/
theorem toList_toText (c : Configuration) :
    c.toText.toList = "\x7b\"address\":".toList ++ Nat.toDigits 10 c.address.toNat ++
      ",\"orientation\":\"".toList ++ c.orientation.name.toList ++
      "\",\"digital_gain\":".toList ++ (if c.digitalGain then "true" else "false").toList ++
      "\x7d".toList := by
  -- unfolding by equation would evaluate the literals
  delta toText
  simp only [String.toList_append, Nat.toList_repr]

theorem toText_spells (c : Configuration) : Spells c.toText.toList (.object c.members) := by
  have text : c.toText.toList =
      '\x7b' :: ([','].intercalate (c.writtenMembers.map Json.Member.spelling) ++ ['\x7d']) := by
    simp only [toList_toText, writtenMembers, Json.Member.spelling, List.map_cons, List.map_nil,
      List.intercalate_cons_cons, List.intercalate_singleton, List.append_assoc,
      List.cons_append, List.nil_append]
    rfl
  have members : c.members = c.writtenMembers.map Json.Member.entry := rfl
  rw [text, members]
  refine .object (List.cons_ne_nil _ _) ?_ ?_
  · simp only [writtenMembers, List.forall_mem_cons, List.not_mem_nil, false_implies,
      implies_true, and_true]
    refine ⟨⟨Json.blanks_nil, ?_, Json.blanks_nil⟩, ⟨Json.blanks_nil, ?_, Json.blanks_nil⟩,
      ⟨Json.blanks_nil, ?_, Json.blanks_nil⟩⟩
    · exact (Json.characters_plain "address".toList (by decide)).quoted
    · exact (Json.characters_plain "orientation".toList (by decide)).quoted
    · exact (Json.characters_plain "digital_gain".toList (by decide)).quoted
  · simp only [writtenMembers, List.forall_mem_cons, List.not_mem_nil, false_implies,
      implies_true, and_true]
    refine ⟨.number (Json.numeral_toDigits _), .string (Json.characters_plain _ ?_).quoted, ?_⟩
    · cases c.orientation <;> decide
    · cases c.digitalGain <;> exact .word (by simp [Json.words])

/-- No blanks stand in the compact text. -/
theorem toText_compact (c : Configuration) : ∀ char ∈ c.toText.toList, ¬Json.Blanks [char] := by
  have digits : (Nat.toDigits 10 c.address.toNat).all (!Json.isBlank ·) = true := by
    refine List.all_eq_true.2 fun char hchar => ?_
    have digit := Nat.isDigit_of_mem_toDigits (by omega) (by omega) hchar
    rw [Bool.not_eq_true', Bool.eq_false_iff, ne_eq, Json.isBlank_iff]
    rintro (rfl | rfl | rfl | rfl) <;> exact absurd digit (by decide)
  have name : c.orientation.name.toList.all (!Json.isBlank ·) = true := by
    cases c.orientation <;> decide
  have flag : (if c.digitalGain then "true" else "false").toList.all (!Json.isBlank ·) = true := by
    cases c.digitalGain <;> decide
  have text : c.toText.toList.all (!Json.isBlank ·) = true := by
    simp only [toList_toText, List.all_append, digits, name, flag]
    decide
  intro char hchar blank
  have free := List.all_eq_true.1 text char hchar
  simp [Json.blanks_iff.1 blank char (by simp)] at free

/-! ## §5 Reading texts -/

/-- Texts that describe a configuration are read as it, whatever the order of the members, the
blanks between tokens and the members of other names in them. The compact text is such a text, so
reading undoes writing. A text with a field twice is refused, and so is a text that spells no
value. -/
theorem text_read :
    (∀ (c : Configuration) (text : String) (members : List (List TextUnit × Json)),
      Spells text.toList (.object members) → Describes members c → ofText? text = some c) ∧
    (∀ c : Configuration,
      Spells c.toText.toList (.object c.members) ∧ Describes c.members c ∧
        (∀ char ∈ c.toText.toList, ¬Json.Blanks [char]) ∧ ofText? c.toText = some c) ∧
    (∀ (text : String) (members : List (List TextUnit × Json)) (name : String),
      Spells text.toList (.object members) →
      name ∈ ["address", "orientation", "digital_gain"] →
      2 ≤ (Json.valuesOf name members).length → ofText? text = none) ∧
    ∀ text : String, (∀ v, ¬Spells text.toList v) → ofText? text = none := by
  have reading : ∀ (text : String) (members : List (List TextUnit × Json)),
      Spells text.toList (.object members) → ofText? text = ofJson? (.object members) := by
    intro text members spelled
    rw [ofText?, (Json.ofText?_eq_some_iff _ _).2 spelled]
    rfl
  refine ⟨fun c text members spelled described => ?_, fun c => ?_,
    fun text members name spelled hname twice => ?_, fun text unspelled => ?_⟩
  · rw [reading text members spelled, ofJson?_describes described]
  · refine ⟨c.toText_spells, c.members_describes, c.toText_compact, ?_⟩
    rw [reading _ _ c.toText_spells, ofJson?_describes c.members_describes]
  · rw [reading text members spelled, ofJson?_twice hname twice]
  · have unread : Json.ofText? text.toList = none :=
      Option.eq_none_iff_forall_ne_some.2 fun v read =>
        unspelled v ((Json.ofText?_eq_some_iff _ _).1 read)
    rw [ofText?, unread]
    rfl

/-- The fields out of order, one of them left out, one with an escape in its name, and in front of
them a member of another name with a nested value. -/
def nestedText : String :=
  " \x7b\"note\" : [1.5e-3, \x7b\"x\\n\":null\x7d,\"\\ud800\"] ,\n\"digital_gain\": true," ++
    "\"\\u0061ddress\":17 \x7d"

/-- The member of the object in the nested text. -/
def innerMember : Json.Member :=
  ⟨[], "\"x\\n\"".toList, "x\n".toList.map .plain, [], "null".toList, .null⟩

/-- The items of the array in the nested text. -/
def nestedItems : List (List Char × Json) :=
  [("1.5e-3".toList, .number "1.5e-3".toList),
    (" \x7b\"x\\n\":null\x7d".toList, .object [innerMember.entry]),
    ("\"\\ud800\"".toList, .string [.escaped 0xD800])]

/-- The members of the nested text. -/
def nestedMembers : List Json.Member :=
  [⟨[], "\"note\"".toList, "note".toList.map .plain, [' '],
      " [1.5e-3, \x7b\"x\\n\":null\x7d,\"\\ud800\"] ".toList, .array (nestedItems.map Prod.snd)⟩,
    ⟨['\n'], "\"digital_gain\"".toList, "digital_gain".toList.map .plain, [], " true".toList,
      .bool true⟩,
    ⟨[], "\"\\u0061ddress\"".toList, .escaped 0x61 :: "ddress".toList.map .plain, [],
      "17 ".toList, .number "17".toList⟩]

theorem innerMember_spells :
    Spells "\x7b\"x\\n\":null\x7d".toList (.object [innerMember.entry]) := by
  have key : Json.Characters "x\\n".toList innerMember.key :=
    .plain (by decide) (by decide) (by decide) (.letter (by decide) .nil)
  have named : innerMember.Named := ⟨Json.blanks_nil, key.quoted, Json.blanks_nil⟩
  exact .object (List.cons_ne_nil innerMember []) (List.forall_mem_singleton.2 named)
    (List.forall_mem_singleton.2 (.word List.mem_cons_self))

theorem nestedItems_spell : ∀ item ∈ nestedItems, Spells item.1 item.2 := by
  simp only [nestedItems, List.forall_mem_cons, List.not_mem_nil, false_implies, implies_true,
    and_true]
  refine ⟨.number ?_, .spaced Json.blanks_space Json.blanks_nil innerMember_spells, .string ?_⟩
  · have digit : ∀ d : Char, d.isDigit = true → Json.Digits [d] :=
      fun d h => ⟨List.cons_ne_nil _ _, by simpa using h⟩
    show Json.Numeral ([] ++ ['1'] ++ ['.', '5'] ++ 'e' :: (['-'] ++ ['3']))
    exact .intro (.inl rfl) (digit '1' rfl) (by decide) (.point (digit '5' rfl))
      (.mark (.inl rfl) (.inr (.inr rfl)) (digit '3' rfl))
  · have half : Json.Characters "\\ud800".toList [.escaped 0xD800] :=
      .numeric (Json.hexDigit_digitChar (n := 13) (by decide))
        (Json.hexDigit_digitChar (n := 8) (by decide))
        (Json.hexDigit_digitChar (n := 0) (by decide))
        (Json.hexDigit_digitChar (n := 0) (by decide)) .nil
    exact half.quoted

theorem nestedText_spells :
    Spells nestedText.toList (.object (nestedMembers.map Json.Member.entry)) := by
  have feed : Json.Blanks ['\n'] := by simp [Json.Blanks]
  have escapedKey : Json.Characters "\\u0061ddress".toList
      (.escaped 0x61 :: "ddress".toList.map .plain) :=
    .numeric (Json.hexDigit_digitChar (n := 0) (by decide))
      (Json.hexDigit_digitChar (n := 0) (by decide))
      (Json.hexDigit_digitChar (n := 6) (by decide))
      (Json.hexDigit_digitChar (n := 1) (by decide))
      (Json.characters_plain "ddress".toList (by decide))
  have object : Spells
      ('\x7b' :: ([','].intercalate (nestedMembers.map Json.Member.spelling) ++ ['\x7d']))
      (.object (nestedMembers.map Json.Member.entry)) := by
    refine .object (List.cons_ne_nil _ _) ?_ ?_
    · simp only [nestedMembers, List.forall_mem_cons, List.not_mem_nil, false_implies,
        implies_true, and_true]
      refine ⟨⟨Json.blanks_nil, ?_, Json.blanks_space⟩, ⟨feed, ?_, Json.blanks_nil⟩,
        ⟨Json.blanks_nil, escapedKey.quoted, Json.blanks_nil⟩⟩
      · exact (Json.characters_plain "note".toList (by decide)).quoted
      · exact (Json.characters_plain "digital_gain".toList (by decide)).quoted
    · simp only [nestedMembers, List.forall_mem_cons, List.not_mem_nil, false_implies,
        implies_true, and_true]
      have array := Spells.array (List.cons_ne_nil _ _) nestedItems_spell
      have number : Spells "17".toList (.number "17".toList) := .number (Json.numeral_toDigits 17)
      have flag : Spells "true".toList (.bool true) := .word (by simp [Json.words])
      exact ⟨array.spaced Json.blanks_space Json.blanks_space,
        flag.spaced Json.blanks_space Json.blanks_nil,
        number.spaced Json.blanks_nil Json.blanks_space⟩
  have text : nestedText.toList = [' '] ++ '\x7b' ::
      ([','].intercalate (nestedMembers.map Json.Member.spelling) ++ ['\x7d']) ++ [] := by
    decide +kernel
  exact text ▸ object.spaced Json.blanks_space Json.blanks_nil

theorem nestedMembers_describe :
    Describes (nestedMembers.map Json.Member.entry) ⟨17, .normal, true⟩ := by
  have digits : WritesAddress 17 (.number "17".toList) :=
    ⟨_, List.all_eq_true.1 (by decide), by decide, rfl⟩
  refine ⟨?_, .inr ⟨_, rfl, digits⟩, .inl ⟨rfl, rfl⟩, .inr ⟨_, rfl, rfl⟩⟩
  simp only [nestedMembers, List.map_cons, List.map_nil, List.forall_mem_cons,
    List.not_mem_nil, false_implies, implies_true, and_true]
  exact ⟨⟨"note".toList, by decide⟩, ⟨"digital_gain".toList, by decide⟩,
    ⟨"address".toList, by decide⟩⟩

/-- A text with the same field twice. -/
def doubledText : String :=
  "\x7b\"address\":1,\"address\":1\x7d"

/-- The members of the doubled text. -/
def doubledMembers : List Json.Member :=
  List.replicate 2 ⟨[], "\"address\"".toList, "address".toList.map .plain, [], "1".toList,
    .number "1".toList⟩

theorem doubledText_spells :
    Spells doubledText.toList (.object (doubledMembers.map Json.Member.entry)) := by
  have key : Json.Quoted "\"address\"".toList ("address".toList.map .plain) :=
    (Json.characters_plain "address".toList (by decide)).quoted
  have object : Spells
      ('\x7b' :: ([','].intercalate (doubledMembers.map Json.Member.spelling) ++ ['\x7d']))
      (.object (doubledMembers.map Json.Member.entry)) := by
    refine .object (List.cons_ne_nil _ _) ?_ ?_
    · intro m hm
      cases List.eq_of_mem_replicate hm
      exact ⟨Json.blanks_nil, key, Json.blanks_nil⟩
    · intro m hm
      cases List.eq_of_mem_replicate hm
      exact .number (Json.numeral_toDigits 1)
  have text : doubledText.toList =
      '\x7b' :: ([','].intercalate (doubledMembers.map Json.Member.spelling) ++ ['\x7d']) := by
    decide +kernel
  exact text ▸ object

/-- A text with a comma in front of the closing brace. -/
def trailingText : String :=
  "\x7b\"address\":1,\x7d"

theorem not_spells_trailingText : ∀ v, ¬Spells trailingText.toList v := by
  have unread : (Json.ofText? trailingText.toList).isNone = true := by decide +kernel
  intro v spelled
  rw [(Json.ofText?_eq_some_iff _ _).2 spelled] at unread
  cases unread

theorem text_read_nested :
    (∃ members, Spells nestedText.toList (.object members) ∧
      Describes members ⟨17, .normal, true⟩ ∧
      ofText? nestedText = some ⟨17, .normal, true⟩) ∧
    (∃ members, Spells doubledText.toList (.object members) ∧
      2 ≤ (Json.valuesOf "address" members).length ∧ ofText? doubledText = none) ∧
    (∀ v, ¬Spells trailingText.toList v) ∧ ofText? trailingText = none := by
  have twice : 2 ≤ (Json.valuesOf "address" (doubledMembers.map Json.Member.entry)).length := by
    decide
  obtain ⟨describing, -, doubling, strict⟩ := text_read
  exact ⟨⟨_, nestedText_spells, nestedMembers_describe,
      describing _ _ _ nestedText_spells nestedMembers_describe⟩,
    ⟨_, doubledText_spells, twice, doubling _ _ "address" doubledText_spells (by decide) twice⟩,
    not_spells_trailingText, strict _ not_spells_trailingText⟩

end Configuration

end ImageSensor
