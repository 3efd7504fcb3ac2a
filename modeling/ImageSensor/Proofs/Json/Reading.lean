import ImageSensor.Proofs.Json.Grammar

/-!
# Reading what a Text Spells

The reader gives back the value that a text spells, at any nesting and whatever stands around the
tokens. What a reader has to leave behind a value are the blanks behind it and whatever follows
them.

## Main statements

- `ofText?_spells`: a text that spells a value is read as that value.
-/

namespace ImageSensor.Json

/-! ## §1 Texts that are read -/

/-- What may follow a value. -/
def Follows (rest : List Char) : Prop :=
  ∀ c ∈ rest.head?, isBlank c = true ∨ c = ',' ∨ c = ']' ∨ c = '\x7d'

/-- The text is read as the value, up to blanks at its end. -/
def ReadAs (text : List Char) (v : Json) : Prop :=
  ∃ after, Blanks after ∧ ∀ fuel rest, 2 * text.length < fuel → Follows rest →
    value? fuel (text ++ rest) = some (v, after ++ rest)

theorem Follows.endsNumber {rest : List Char} (h : Follows rest) : EndsNumber rest := by
  intro c hc
  rcases h c hc with hblank | rfl | rfl | rfl
  · rcases isBlank_iff.1 hblank with rfl | rfl | rfl | rfl <;> decide
  all_goals decide

theorem Follows.blanks_append {blanks rest : List Char} (hblanks : Blanks blanks)
    (h : Follows rest) : Follows (blanks ++ rest) := by
  cases blanks with
  | nil => exact h
  | cons b blanks =>
    intro c hc
    cases Option.some.inj hc
    exact .inl (blanks_iff.1 hblanks b (by simp))

/-! ## §2 Blanks in front -/

theorem value?_skipBlanks (fuel : Nat) (text : List Char) :
    value? fuel (skipBlanks text) = value? fuel text := by
  cases fuel with
  | zero => rfl
  | succ fuel => rw [value?.eq_2, value?.eq_2, skipBlanks_skipBlanks]

theorem items?_skipBlanks (fuel : Nat) (text : List Char) :
    items? fuel (skipBlanks text) = items? fuel text := by
  cases fuel with
  | zero => rfl
  | succ fuel => rw [items?.eq_2, items?.eq_2, value?_skipBlanks]

theorem members?_skipBlanks (fuel : Nat) (text : List Char) :
    members? fuel (skipBlanks text) = members? fuel text := by
  cases fuel with
  | zero => rfl
  | succ fuel => rw [members?.eq_2, members?.eq_2, skipBlanks_skipBlanks]

theorem ReadAs.spaced {before text after : List Char} {v : Json} (hbefore : Blanks before)
    (hafter : Blanks after) (h : ReadAs text v) : ReadAs (before ++ text ++ after) v := by
  obtain ⟨left, hleft, read⟩ := h
  refine ⟨left ++ after, hleft.append hafter, fun fuel rest hfuel hrest => ?_⟩
  simp only [List.length_append] at hfuel
  rw [List.append_assoc, List.append_assoc, ← value?_skipBlanks, skipBlanks_append hbefore,
    value?_skipBlanks, read fuel _ (by omega) (hrest.blanks_append hafter), List.append_assoc]

/-! ## §3 Words, numbers and strings -/

/-- A text without blanks at its end is read to its end. -/
theorem readAs_of_step {text : List Char} {v : Json}
    (h : ∀ fuel rest, 2 * text.length ≤ fuel → Follows rest →
      value? (fuel + 1) (text ++ rest) = some (v, rest)) : ReadAs text v := by
  refine ⟨[], blanks_nil, fun fuel rest hfuel hrest => ?_⟩
  obtain ⟨fuel, rfl⟩ : ∃ n, fuel = n + 1 := Nat.exists_eq_succ_of_ne_zero (by omega)
  exact h fuel rest (by omega) hrest

theorem readAs_word {word : String} {v : Json} (h : (word, v) ∈ words) :
    ReadAs word.toList v := by
  refine readAs_of_step fun _ _ _ _ => ?_
  simp only [words, List.mem_cons, Prod.mk.injEq, List.not_mem_nil, or_false] at h
  rcases h with ⟨rfl, rfl⟩ | ⟨rfl, rfl⟩ | ⟨rfl, rfl⟩ <;>
    simp [value?.eq_2, skipBlanks_cons, isBlank, expect?]

theorem readAs_string {text : List Char} {units : List TextUnit} (h : Quoted text units) :
    ReadAs text (.string units) := by
  obtain ⟨body, hbody, rfl⟩ := h
  refine readAs_of_step fun fuel rest _ _ => ?_
  simp [value?.eq_2, skipBlanks_cons, isBlank, scanText?_characters hbody]

/-- The first character of a numeral. -/
theorem Numeral.exists_head {literal : List Char} (h : Numeral literal) :
    ∃ c rest, literal = c :: rest ∧ (c.isDigit = true ∨ c = '-') := by
  obtain ⟨rfl | rfl, hinteger, -, -, -⟩ := h
  · obtain ⟨d, digits, rfl⟩ := List.exists_cons_of_ne_nil hinteger.1
    exact ⟨d, _, rfl, .inl (hinteger.2 d (by simp))⟩
  · exact ⟨'-', _, rfl, .inr rfl⟩

/-- No other value begins like a number. -/
theorem value?_number {c : Char} (hc : c.isDigit = true ∨ c = '-') (fuel : Nat)
    (rest : List Char) :
    value? (fuel + 1) (c :: rest) =
      (scanNumber? (c :: rest)).map fun read => (.number read.1, read.2) := by
  have notBlank : isBlank c = false := by
    rw [Bool.eq_false_iff, ne_eq, isBlank_iff]
    rintro (rfl | rfl | rfl | rfl) <;> revert hc <;> decide
  rw [value?.eq_2, skipBlanks_cons notBlank]
  split
  case h_7 => rfl
  -- The other values begin with a letter, a quote or a bracket.
  all_goals
    next start =>
      cases start
      exact absurd hc (by decide)

theorem readAs_number {literal : List Char} (h : Numeral literal) :
    ReadAs literal (.number literal) := by
  refine readAs_of_step fun fuel rest _ hrest => ?_
  have read := scanNumber?_numeral h hrest.endsNumber
  obtain ⟨c, digits, rfl, hc⟩ := h.exists_head
  rw [List.cons_append] at read ⊢
  rw [value?_number hc, read, Option.map_some]

/-! ## §4 Arrays -/

/-- No value begins with a closing bracket. -/
theorem value?_bracket {text rest : List Char} (h : skipBlanks text = ']' :: rest) (fuel : Nat) :
    value? fuel text = none := by
  cases fuel with
  | zero => rfl
  | succ fuel =>
    rw [value?.eq_2, h]
    simp [scanNumber?, scanMinus, scanInteger?, scanDigits?]

/-- An array that is not closed at once has items. -/
theorem value?_items {rest : List Char} (h : ∀ tail, skipBlanks rest ≠ ']' :: tail) (fuel : Nat) :
    value? (fuel + 1) ('[' :: rest) =
      (items? fuel rest).map fun read => (.array read.1, read.2) := by
  rw [value?.eq_2, skipBlanks_cons rfl]
  -- By `h` the match takes its second alternative.
  simp only [items?_skipBlanks]

/-- Items with commas between them are read up to and including the closing bracket. -/
theorem items?_intercalate {items : List (List Char × Json)} (hne : items ≠ [])
    (h : ∀ item ∈ items, ReadAs item.1 item.2) (fuel : Nat) (rest : List Char)
    (hfuel : 2 * ([','].intercalate (items.map Prod.fst)).length + 1 < fuel) :
    items? fuel ([','].intercalate (items.map Prod.fst) ++ ']' :: rest) =
      some (items.map Prod.snd, rest) := by
  -- one step of fuel for each item, and twice its text for what is inside it
  induction items generalizing fuel with
  | nil => exact absurd rfl hne
  | cons item items ih =>
    obtain ⟨after, hafter, read⟩ := h item (by simp)
    obtain ⟨fuel, rfl⟩ : ∃ n, fuel = n + 1 := Nat.exists_eq_succ_of_ne_zero (by omega)
    cases items with
    | nil =>
      simp only [List.map_cons, List.map_nil, List.intercalate_singleton] at hfuel ⊢
      have first := read fuel (']' :: rest) (by omega) (by simp [Follows])
      simp [items?.eq_2, first, skipBlanks_token hafter (c := ']') rfl]
    | cons next items =>
      simp only [List.map_cons, List.intercalate_cons_cons, List.length_append,
        List.length_singleton] at hfuel
      have more := ih (by simp) (fun i hi => h i (by simp [hi])) fuel
        (by simp only [List.map_cons]; omega)
      have first := read fuel (',' :: ([','].intercalate ((next :: items).map Prod.fst) ++
        ']' :: rest)) (by omega) (by simp [Follows])
      simp only [List.map_cons, List.intercalate_cons_cons, List.append_assoc,
        List.singleton_append] at first more ⊢
      simp [items?.eq_2, first, skipBlanks_token hafter (c := ',') rfl, more]

theorem readAs_emptyArray {blanks : List Char} (h : Blanks blanks) :
    ReadAs ('[' :: (blanks ++ [']'])) (.array []) :=
  readAs_of_step fun fuel rest _ _ => by
    simp [value?.eq_2, skipBlanks_cons, isBlank, skipBlanks_token h (c := ']')]

theorem readAs_array {items : List (List Char × Json)} (hne : items ≠ [])
    (h : ∀ item ∈ items, ReadAs item.1 item.2) :
    ReadAs ('[' :: ([','].intercalate (items.map Prod.fst) ++ [']']))
      (.array (items.map Prod.snd)) := by
  refine readAs_of_step fun fuel rest hfuel _ => ?_
  simp only [List.length_cons, List.length_append, List.length_nil] at hfuel
  have read := items?_intercalate hne h fuel rest (by omega)
  -- The items are read, so no bracket closes the array at once.
  have opens : ∀ tail, skipBlanks ([','].intercalate (items.map Prod.fst) ++ ']' :: rest) ≠
      ']' :: tail := by
    intro tail closed
    cases fuel with
    | zero => omega
    | succ fuel => simp [items?.eq_2, value?_bracket closed] at read
  rw [List.cons_append, List.append_assoc, List.singleton_append, value?_items opens, read,
    Option.map_some]

/-! ## §5 Objects -/

/-- An object that is not closed at once has members. -/
theorem value?_members {rest : List Char} (h : ∀ tail, skipBlanks rest ≠ '\x7d' :: tail)
    (fuel : Nat) :
    value? (fuel + 1) ('\x7b' :: rest) =
      (members? fuel rest).map fun read => (.object read.1, read.2) := by
  rw [value?.eq_2, skipBlanks_cons rfl]
  simp only [members?_skipBlanks]

/-- After a member, the comma or the brace behind it decides how to go on. -/
theorem members?_spelling {m : Member} (hnamed : m.Named) (h : ReadAs m.text m.value)
    (fuel : Nat) (rest : List Char) (hfuel : 2 * m.text.length < fuel) (hrest : Follows rest) :
    ∃ after, Blanks after ∧ members? (fuel + 1) (m.spelling ++ rest) =
      match skipBlanks (after ++ rest) with
      | '\x7d' :: rest => some ([m.entry], rest)
      | ',' :: rest => do
        let (members, rest) ← members? fuel rest
        return (m.entry :: members, rest)
      | _ => none := by
  obtain ⟨after, hafter, read⟩ := h
  obtain ⟨body, hbody, hquoted⟩ := hnamed.quoted
  have key := scanText?_characters hbody (m.after ++ ':' :: (m.text ++ rest))
  have value := read fuel rest hfuel hrest
  refine ⟨after, hafter, ?_⟩
  simp only [Member.spelling, hquoted, List.append_assoc, List.cons_append, List.nil_append]
  rw [members?.eq_2, skipBlanks_token hnamed.before rfl]
  simp only [expect?, ↓reduceIte, Option.bind_eq_bind, Option.bind_some, key,
    skipBlanks_token hnamed.after (c := ':') rfl, value]
  rfl

/-- Members with commas between them are read up to and including the closing brace. -/
theorem members?_intercalate {members : List Member} (hne : members ≠ [])
    (hnamed : ∀ m ∈ members, m.Named) (h : ∀ m ∈ members, ReadAs m.text m.value) (fuel : Nat)
    (rest : List Char)
    (hfuel : 2 * ([','].intercalate (members.map Member.spelling)).length + 1 < fuel) :
    members? fuel ([','].intercalate (members.map Member.spelling) ++ '\x7d' :: rest) =
      some (members.map Member.entry, rest) := by
  induction members generalizing fuel with
  | nil => exact absurd rfl hne
  | cons m members ih =>
    have named := hnamed m (by simp)
    have read := h m (by simp)
    obtain ⟨fuel, rfl⟩ : ∃ n, fuel = n + 1 := Nat.exists_eq_succ_of_ne_zero (by omega)
    have long : m.text.length ≤ m.spelling.length := by
      simp only [Member.spelling, List.length_append, List.length_cons]
      omega
    cases members with
    | nil =>
      simp only [List.map_cons, List.map_nil, List.intercalate_singleton] at hfuel ⊢
      obtain ⟨after, hafter, step⟩ := members?_spelling named read fuel ('\x7d' :: rest) (by omega)
        (by simp [Follows])
      rw [step, skipBlanks_token hafter rfl]
      rfl
    | cons next members =>
      simp only [List.map_cons, List.intercalate_cons_cons, List.length_append,
        List.length_singleton] at hfuel
      have more := ih (by simp) (fun m hm => hnamed m (by simp [hm]))
        (fun m hm => h m (by simp [hm])) fuel (by simp only [List.map_cons]; omega)
      obtain ⟨after, hafter, step⟩ := members?_spelling named read fuel
        (',' :: ([','].intercalate ((next :: members).map Member.spelling) ++ '\x7d' :: rest))
        (by omega) (by simp [Follows])
      simp only [List.map_cons, List.intercalate_cons_cons, List.append_assoc,
        List.cons_append, List.nil_append] at step more ⊢
      rw [step, skipBlanks_token hafter rfl]
      simp [more]

theorem readAs_emptyObject {blanks : List Char} (h : Blanks blanks) :
    ReadAs ('\x7b' :: (blanks ++ ['\x7d'])) (.object []) :=
  readAs_of_step fun fuel rest _ _ => by
    simp [value?.eq_2, skipBlanks_cons, isBlank, skipBlanks_token h (c := '\x7d')]

theorem readAs_object {members : List Member} (hne : members ≠ [])
    (hnamed : ∀ m ∈ members, m.Named) (h : ∀ m ∈ members, ReadAs m.text m.value) :
    ReadAs ('\x7b' :: ([','].intercalate (members.map Member.spelling) ++ ['\x7d']))
      (.object (members.map Member.entry)) := by
  refine readAs_of_step fun fuel rest hfuel _ => ?_
  simp only [List.length_cons, List.length_append, List.length_nil] at hfuel
  have read := members?_intercalate hne hnamed h fuel rest (by omega)
  -- The members are read, so no brace closes the object at once.
  have opens : ∀ tail,
      skipBlanks ([','].intercalate (members.map Member.spelling) ++ '\x7d' :: rest) ≠
        '\x7d' :: tail := by
    intro tail closed
    cases fuel with
    | zero => omega
    | succ fuel => simp [members?.eq_2, closed, expect?] at read
  rw [List.cons_append, List.append_assoc, List.singleton_append, value?_members opens, read,
    Option.map_some]

/-! ## §6 Whole texts -/

/-- A text that spells a value is read as that value, whatever follows it. -/
theorem Spells.readAs {text : List Char} {v : Json} (h : Spells text v) : ReadAs text v := by
  induction h with
  | word h => exact readAs_word h
  | number h => exact readAs_number h
  | string h => exact readAs_string h
  | emptyArray h => exact readAs_emptyArray h
  | array hne _ ih => exact readAs_array hne ih
  | emptyObject h => exact readAs_emptyObject h
  | object hne hnamed _ ih => exact readAs_object hne hnamed ih
  | spaced hbefore hafter _ ih => exact ih.spaced hbefore hafter

/-- A text that spells a value is read as that value. -/
theorem ofText?_spells {text : List Char} {v : Json} (h : Spells text v) :
    ofText? text = some v := by
  obtain ⟨after, hafter, read⟩ := h.readAs
  have whole := read (2 * text.length + 1) [] (by omega) (by simp [Follows])
  rw [List.append_nil, List.append_nil] at whole
  simp [ofText?, whole, skipBlanks_eq_nil hafter]

end ImageSensor.Json
