import ImageSensor.Json.Reader

/-!
# Grammar of JSON Texts

What it is for a text to spell a value, stated by the shape of the text alone: which characters
are blanks, digits and escapes, and how values are put together with commas, colons and brackets.
A text may spell its value with blanks on both sides, so blanks are allowed around every token.

## Main statements

- `decode?_eq_some_iff`: a string is decoded to the text its units stand for, and a string whose
  units stand for no text is not decoded.
- `scanText?_characters`: behind its opening quote, a string is read to its closing quote.
- `scanNumber?_numeral`: a numeral is read to its end, if what follows cannot go on with it.
- `Spells`: the grammar of values.
-/

namespace ImageSensor.Json

/-! ## §1 Blanks -/

/-- A text that may stand between tokens. -/
def Blanks (text : List Char) : Prop :=
  ∀ c ∈ text, c = ' ' ∨ c = '\t' ∨ c = '\n' ∨ c = '\r'

theorem blanks_nil : Blanks [] := by
  simp [Blanks]

theorem blanks_space : Blanks [' '] := by
  simp [Blanks]

theorem Blanks.append {a b : List Char} (ha : Blanks a) (hb : Blanks b) : Blanks (a ++ b) :=
  fun c hc => (List.mem_append.1 hc).elim (ha c) (hb c)

theorem isBlank_iff {c : Char} :
    isBlank c = true ↔ c = ' ' ∨ c = '\t' ∨ c = '\n' ∨ c = '\r' := by
  simp only [isBlank, Bool.or_eq_true, beq_iff_eq]
  grind

theorem blanks_iff {text : List Char} : Blanks text ↔ ∀ c ∈ text, isBlank c = true :=
  forall₂_congr fun _ _ => isBlank_iff.symm

theorem skipBlanks_append {blanks : List Char} (h : Blanks blanks) (rest : List Char) :
    skipBlanks (blanks ++ rest) = skipBlanks rest :=
  List.dropWhile_append_of_pos (blanks_iff.1 h)

theorem skipBlanks_cons {c : Char} (h : isBlank c = false) (rest : List Char) :
    skipBlanks (c :: rest) = c :: rest := by
  simp [skipBlanks, h]

/-- Blanks in front of a token are skipped. -/
theorem skipBlanks_token {blanks : List Char} (h : Blanks blanks) {c : Char}
    (hc : isBlank c = false) (rest : List Char) :
    skipBlanks (blanks ++ c :: rest) = c :: rest := by
  rw [skipBlanks_append h, skipBlanks_cons hc]

theorem skipBlanks_eq_nil {blanks : List Char} (h : Blanks blanks) : skipBlanks blanks = [] := by
  simpa [skipBlanks] using skipBlanks_append h []

theorem skipBlanks_skipBlanks (text : List Char) :
    skipBlanks (skipBlanks text) = skipBlanks text := by
  induction text with
  | nil => rfl
  | cons c rest ih =>
    cases hc : isBlank c with
    | true => rwa [show skipBlanks (c :: rest) = skipBlanks rest by simp [skipBlanks, hc]]
    | false => rw [skipBlanks_cons hc, skipBlanks_cons hc]

/-! ## §2 Numerals -/

/-- A run of decimal digits that is not empty. -/
def Digits (text : List Char) : Prop :=
  text ≠ [] ∧ ∀ c ∈ text, c.isDigit = true

/-- A fraction, or nothing. -/
inductive Fraction : List Char → Prop
  | absent : Fraction []
  | point {digits : List Char} (h : Digits digits) : Fraction ('.' :: digits)

/-- An exponent, or nothing. -/
inductive Exponent : List Char → Prop
  | absent : Exponent []
  | mark {mark : Char} {sign digits : List Char} (hmark : mark = 'e' ∨ mark = 'E')
      (hsign : sign = [] ∨ sign = ['+'] ∨ sign = ['-']) (h : Digits digits) :
      Exponent (mark :: (sign ++ digits))

/-- An optional minus sign, an integer that starts with a zero only if it is a single one, a
fraction and an exponent. -/
inductive Numeral : List Char → Prop
  | intro {minus integer fraction exponent : List Char} (hminus : minus = [] ∨ minus = ['-'])
      (hinteger : Digits integer) (hzero : integer.head? = some '0' → integer = ['0'])
      (hfraction : Fraction fraction) (hexponent : Exponent exponent) :
      Numeral (minus ++ integer ++ fraction ++ exponent)

/-- Positive numbers are written without a leading zero. -/
theorem head?_toDigits_ne (n : Nat) (hn : 0 < n) : (Nat.toDigits 10 n).head? ≠ some '0' := by
  induction n using Nat.strongRecOn with
  | ind n ih =>
    rw [Nat.toDigits_eq_if (by omega)]
    split
    · simp only [List.head?_cons, ne_eq, Option.some.injEq, Nat.digitChar_eq_zero]
      omega
    · -- The first digit is that of the quotient, which is not zero.
      have shorter := ih (n / 10) (by omega) (by omega)
      obtain ⟨d, digits, hd⟩ := List.exists_cons_of_ne_nil (@Nat.toDigits_ne_nil (n / 10) 10)
      simpa [hd] using shorter

/-- The decimal digits of a natural number are a numeral. -/
theorem numeral_toDigits (n : Nat) : Numeral (Nat.toDigits 10 n) := by
  have digits : Digits (Nat.toDigits 10 n) :=
    ⟨Nat.toDigits_ne_nil, fun _ h => Nat.isDigit_of_mem_toDigits (by omega) (by omega) h⟩
  have zero : (Nat.toDigits 10 n).head? = some '0' → Nat.toDigits 10 n = ['0'] := by
    rcases n.eq_zero_or_pos with rfl | hn
    · exact fun _ => Nat.toDigits_zero 10
    · exact fun h => absurd h (head?_toDigits_ne n hn)
  simpa using Numeral.intro (.inl rfl) digits zero .absent .absent

/-- What cannot go on with a number. -/
def EndsNumber (rest : List Char) : Prop :=
  ∀ c ∈ rest.head?, c.isDigit = false ∧ c ≠ '.' ∧ c ≠ 'e' ∧ c ≠ 'E'

theorem scanDigits?_append {digits rest : List Char} (h : Digits digits)
    (hrest : ∀ c ∈ rest.head?, c.isDigit = false) :
    scanDigits? (digits ++ rest) = some (digits, rest) := by
  have stop : rest.takeWhile Char.isDigit = [] ∧ rest.dropWhile Char.isDigit = rest := by
    cases rest with
    | nil => exact ⟨rfl, rfl⟩
    | cons c rest => simp [hrest c rfl]
  obtain ⟨d, digits, rfl⟩ := List.exists_cons_of_ne_nil h.1
  rw [scanDigits?, List.takeWhile_append_of_pos h.2, List.dropWhile_append_of_pos h.2, stop.1,
    stop.2, List.append_nil]

theorem scanInteger?_append {integer rest : List Char} (h : Digits integer)
    (hzero : integer.head? = some '0' → integer = ['0'])
    (hrest : ∀ c ∈ rest.head?, c.isDigit = false) :
    scanInteger? (integer ++ rest) = some (integer, rest) := by
  have leading : ¬(integer.head? = some '0' ∧ integer ≠ ['0']) := fun h => h.2 (hzero h.1)
  simp [scanInteger?, scanDigits?_append h hrest, leading]

theorem scanFraction?_append {fraction rest : List Char} (h : Fraction fraction)
    (hrest : ∀ c ∈ rest.head?, c.isDigit = false ∧ c ≠ '.') :
    scanFraction? (fraction ++ rest) = some (fraction, rest) := by
  cases h with
  | absent =>
    rw [List.nil_append, scanFraction?.eq_def]
    split
    · exact absurd rfl (hrest '.' rfl).2
    · rfl
  | point h => simp [scanFraction?, scanDigits?_append h fun c hc => (hrest c hc).1]

theorem scanSign_append {sign digits : List Char} (h : Digits digits)
    (hsign : sign = [] ∨ sign = ['+'] ∨ sign = ['-']) (rest : List Char) :
    scanSign (sign ++ (digits ++ rest)) = (sign, digits ++ rest) := by
  obtain ⟨d, digits, rfl⟩ := List.exists_cons_of_ne_nil h.1
  have hd : d.isDigit = true := h.2 d (by simp)
  rcases hsign with rfl | rfl | rfl
  · rw [List.nil_append, List.cons_append, scanSign.eq_def]
    split <;> simp_all
  · rfl
  · rfl

theorem scanExponent?_append {exponent rest : List Char} (h : Exponent exponent)
    (hrest : ∀ c ∈ rest.head?, c.isDigit = false ∧ c ≠ 'e' ∧ c ≠ 'E') :
    scanExponent? (exponent ++ rest) = some (exponent, rest) := by
  cases h with
  | absent =>
    cases rest with
    | nil => rfl
    | cons c rest => simp [scanExponent?, hrest c rfl]
  | mark hmark hsign h =>
    simp [scanExponent?, hmark, scanSign_append h hsign,
      scanDigits?_append h fun c hc => (hrest c hc).1]

theorem scanMinus_append {minus integer : List Char} (h : Digits integer)
    (hminus : minus = [] ∨ minus = ['-']) (rest : List Char) :
    scanMinus (minus ++ (integer ++ rest)) = (minus, integer ++ rest) := by
  obtain ⟨d, integer, rfl⟩ := List.exists_cons_of_ne_nil h.1
  have hd : d.isDigit = true := h.2 d (by simp)
  rcases hminus with rfl | rfl
  · rw [List.nil_append, List.cons_append, scanMinus.eq_def]
    split <;> simp_all
  · rfl

/-- What may follow the integer of a numeral is no digit. -/
theorem Exponent.head?_append {exponent rest : List Char} (h : Exponent exponent)
    (hrest : EndsNumber rest) :
    ∀ c ∈ (exponent ++ rest).head?, c.isDigit = false ∧ c ≠ '.' := by
  intro c hc
  cases h with
  | absent => exact ⟨(hrest c hc).1, (hrest c hc).2.1⟩
  | mark hmark =>
    cases Option.some.inj hc
    rcases hmark with rfl | rfl <;> decide

theorem Fraction.head?_append {fraction rest : List Char} (h : Fraction fraction)
    (hrest : ∀ c ∈ rest.head?, c.isDigit = false) :
    ∀ c ∈ (fraction ++ rest).head?, c.isDigit = false := by
  intro c hc
  cases h with
  | absent => exact hrest c hc
  | point => cases Option.some.inj hc; decide

/-- A numeral is read to its end, if what follows cannot go on with it. -/
theorem scanNumber?_numeral {literal rest : List Char} (h : Numeral literal)
    (hrest : EndsNumber rest) : scanNumber? (literal ++ rest) = some (literal, rest) := by
  obtain ⟨hminus, hinteger, hzero, hfraction, hexponent⟩ := h
  rename_i minus integer fraction exponent
  have behindFraction := hexponent.head?_append hrest
  have behindInteger := hfraction.head?_append fun c hc => (behindFraction c hc).1
  have exponentRead := scanExponent?_append hexponent fun c hc =>
    ⟨(hrest c hc).1, (hrest c hc).2.2⟩
  simp [scanNumber?, scanMinus_append hinteger hminus,
    scanInteger?_append hinteger hzero behindInteger,
    scanFraction?_append hfraction behindFraction, exponentRead]

/-! ## §3 Strings -/

/-- A hexadecimal digit, in upper or lower case, and its value. -/
def HexDigit (c : Char) (n : Nat) : Prop :=
  n < 16 ∧ (c = n.digitChar ∨ c = n.digitChar.toUpper)

theorem hexDigit_digitChar {n : Nat} (h : n < 16) : HexDigit n.digitChar n :=
  ⟨h, .inl rfl⟩

/-- The letters of the short escapes, each with the character it stands for. -/
def escapes : List (Char × Char) :=
  [('"', '"'), ('\\', '\\'), ('/', '/'), ('b', '\x08'), ('f', '\x0c'), ('n', '\n'), ('r', '\r'),
    ('t', '\t')]

/-- What may stand between quotes, with the units it gives. -/
inductive Characters : List Char → List TextUnit → Prop
  | nil : Characters [] []
  /-- A character that needs no escape. -/
  | plain {c : Char} {text : List Char} {units : List TextUnit} (hcontrol : 0x20 ≤ c.toNat)
      (hquote : c ≠ '"') (hbackslash : c ≠ '\\') (h : Characters text units) :
      Characters (c :: text) (.plain c :: units)
  /-- A short escape, a backslash and a letter. -/
  | letter {l c : Char} {text : List Char} {units : List TextUnit} (hl : (l, c) ∈ escapes)
      (h : Characters text units) : Characters ('\\' :: l :: text) (.plain c :: units)
  /-- A UTF-16 unit in four hexadecimal digits. -/
  | numeric {a b c d : Char} {x y z w : Nat} {text : List Char} {units : List TextUnit}
      (ha : HexDigit a x) (hb : HexDigit b y) (hc : HexDigit c z) (hd : HexDigit d w)
      (h : Characters text units) :
      Characters ('\\' :: 'u' :: a :: b :: c :: d :: text)
        (.escaped (UInt16.ofNat (((x * 16 + y) * 16 + z) * 16 + w)) :: units)

/-- A string with its quotes. -/
def Quoted (text : List Char) (units : List TextUnit) : Prop :=
  ∃ body, Characters body units ∧ text = '"' :: (body ++ ['"'])

/-- Text without quotes, backslashes and control characters stands between quotes as it is. -/
theorem characters_plain (text : List Char)
    (h : (text.all fun c => 0x20 ≤ c.toNat && c != '"' && c != '\\') = true) :
    Characters text (text.map .plain) := by
  induction text with
  | nil => exact .nil
  | cons c text ih =>
    simp only [List.all_cons, Bool.and_eq_true, decide_eq_true_eq, bne_iff_ne] at h
    obtain ⟨⟨⟨control, quote⟩, backslash⟩, rest⟩ := h
    exact .plain control quote backslash (ih rest)

theorem Characters.quoted {text : List Char} {units : List TextUnit}
    (h : Characters text units) : Quoted ('"' :: (text ++ ['"'])) units :=
  ⟨text, h, rfl⟩

theorem hexValue?_digit {c : Char} {n : Nat} (h : HexDigit c n) : hexValue? c = some n := by
  have values : ∀ n < 16,
      hexValue? n.digitChar = some n ∧ hexValue? n.digitChar.toUpper = some n := by decide
  obtain ⟨hn, rfl | rfl⟩ := h
  · exact (values n hn).1
  · exact (values n hn).2

theorem escapedChar?_letter {l c : Char} (h : (l, c) ∈ escapes) :
    escapedChar? l = some c ∧ l ≠ 'u' := by
  have table : ∀ entry ∈ escapes, escapedChar? entry.1 = some entry.2 ∧ entry.1 ≠ 'u' := by decide
  exact table (l, c) h

/-- Characters between quotes are read up to and including the closing quote. -/
theorem scanText?_characters {text : List Char} {units : List TextUnit}
    (h : Characters text units) (rest : List Char) :
    scanText? (text ++ '"' :: rest) = some (units, rest) := by
  induction h with
  | nil => rfl
  | plain hcontrol hquote hbackslash _ ih =>
    rename_i c text units _
    have allowed : isControl c = false := by simpa [isControl] using hcontrol
    rw [List.cons_append, scanText?.eq_5 _ _ (by simpa using hquote) (by simp [hbackslash])
      (by simp [hbackslash])]
    simp [allowed, hbackslash, ih]
  | letter hl _ ih =>
    obtain ⟨read, notHex⟩ := escapedChar?_letter hl
    simp [scanText?, read, ih, notHex]
  | numeric ha hb hc hd _ ih =>
    simp [scanText?, unitOfHex?, hexValue?_digit ha, hexValue?_digit hb, hexValue?_digit hc,
      hexValue?_digit hd, ih]

/-- The units of a string stand for a text: a numeric escape for its own character, and a
surrogate pair of them for one character. -/
inductive Stands : List TextUnit → List Char → Prop
  | nil : Stands [] []
  | plain {c : Char} {units : List TextUnit} {text : List Char} (h : Stands units text) :
      Stands (.plain c :: units) (c :: text)
  | escaped {unit : UInt16} {units : List TextUnit} {text : List Char}
      (hunit : unit.toNat < 0xD800 ∨ 0xE000 ≤ unit.toNat) (h : Stands units text) :
      Stands (.escaped unit :: units) (Char.ofNat unit.toNat :: text)
  | pair {high low : UInt16} {units : List TextUnit} {text : List Char}
      (hhigh : 0xD800 ≤ high.toNat ∧ high.toNat < 0xDC00)
      (hlow : 0xDC00 ≤ low.toNat ∧ low.toNat < 0xE000) (h : Stands units text) :
      Stands (.escaped high :: .escaped low :: units)
        (Char.ofNat (0x10000 + (high.toNat - 0xD800) * 0x400 + (low.toNat - 0xDC00)) :: text)

theorem isHigh_iff (unit : UInt16) :
    TextUnit.isHigh unit = true ↔ 0xD800 ≤ unit.toNat ∧ unit.toNat < 0xDC00 := by
  simp [TextUnit.isHigh, UInt16.le_iff_toNat_le, UInt16.lt_iff_toNat_lt]

theorem isLow_iff (unit : UInt16) :
    TextUnit.isLow unit = true ↔ 0xDC00 ≤ unit.toNat ∧ unit.toNat < 0xE000 := by
  simp [TextUnit.isLow, UInt16.le_iff_toNat_le, UInt16.lt_iff_toNat_lt]

/-- A unit that is no half of a pair stands on its own. -/
theorem single_iff (unit : UInt16) :
    (¬TextUnit.isHigh unit = true ∧ ¬TextUnit.isLow unit = true) ↔
      unit.toNat < 0xD800 ∨ 0xE000 ≤ unit.toNat := by
  rw [isHigh_iff, isLow_iff]
  omega

/-- A single unit is decoded to its character. -/
theorem decode?_escaped {unit : UInt16} (hunit : unit.toNat < 0xD800 ∨ 0xE000 ≤ unit.toNat)
    (units : List TextUnit) :
    decode? (.escaped unit :: units) = (decode? units).map (Char.ofNat unit.toNat :: ·) := by
  obtain ⟨high, low⟩ := (single_iff unit).2 hunit
  match units with
  | [] => simp [decode?, high, low]
  | .plain c :: rest => simp [decode?, high, low, Function.comp_def]
  | .escaped next :: rest => simp [decode?, high, low]

/-- A half of a pair is decoded together with its other half only. -/
theorem stands_of_decode?_half {unit : UInt16} {units : List TextUnit} {text : List Char}
    (hunit : ¬(unit.toNat < 0xD800 ∨ 0xE000 ≤ unit.toNat))
    (h : decode? (.escaped unit :: units) = some text) :
    ∃ low rest tail, units = .escaped low :: rest ∧ decode? rest = some tail ∧
      (0xD800 ≤ unit.toNat ∧ unit.toNat < 0xDC00) ∧ (0xDC00 ≤ low.toNat ∧ low.toNat < 0xE000) ∧
      text = TextUnit.pair unit low :: tail := by
  have half : TextUnit.isHigh unit = true ∨ TextUnit.isLow unit = true := by
    rw [isHigh_iff, isLow_iff]
    omega
  match units with
  | [] => simp [decode?, half] at h
  | .plain c :: rest => simp [decode?, half] at h
  | .escaped low :: rest =>
    rw [decode?.eq_5] at h
    split at h
    · next high =>
      split at h
      · next low' =>
        obtain ⟨tail, htail, rfl⟩ := Option.map_eq_some_iff.1 h
        exact ⟨low, rest, tail, rfl, htail, (isHigh_iff unit).1 high, (isLow_iff low).1 low', rfl⟩
      · cases h
    · next notHigh => simp [half.resolve_left notHigh] at h

/-- A string is decoded to the text its units stand for, if they stand for one. -/
theorem decode?_eq_some_iff (units : List TextUnit) (text : List Char) :
    decode? units = some text ↔ Stands units text := by
  constructor
  · -- A pair is two units at once, so the induction is on their number.
    intro h
    induction hn : units.length using Nat.strongRecOn generalizing units text with
    | ind n ih =>
      subst hn
      match units with
      | [] =>
        cases h
        exact .nil
      | .plain c :: rest =>
        obtain ⟨tail, htail, rfl⟩ := Option.map_eq_some_iff.1 h
        exact .plain (ih _ (by simp) rest tail htail rfl)
      | .escaped unit :: rest =>
        by_cases hunit : unit.toNat < 0xD800 ∨ 0xE000 ≤ unit.toNat
        · rw [decode?_escaped hunit] at h
          obtain ⟨tail, htail, rfl⟩ := Option.map_eq_some_iff.1 h
          exact .escaped hunit (ih _ (by simp) rest tail htail rfl)
        · obtain ⟨low, rest, tail, rfl, htail, hhigh, hlow, rfl⟩ := stands_of_decode?_half hunit h
          exact .pair hhigh hlow (ih _ (by simp only [List.length_cons]; omega) rest tail htail rfl)
  · intro h
    induction h with
    | nil => rfl
    | plain _ ih => simp [decode?, ih]
    | escaped hunit _ ih => simp [decode?_escaped hunit, ih]
    | pair hhigh hlow _ ih =>
      simp [decode?, (isHigh_iff _).2 hhigh, (isLow_iff _).2 hlow, ih, TextUnit.pair]

instance (units : List TextUnit) (text : List Char) : Decidable (Stands units text) :=
  decidable_of_iff _ (decode?_eq_some_iff units text)

/-- A string without numeric escapes stands for its characters. -/
theorem stands_plain (text : List Char) : Stands (text.map .plain) text :=
  (decode?_eq_some_iff _ _).1 (decode?_plain text)

/-- Units stand for one text at most. -/
theorem Stands.unique {units : List TextUnit} {a b : List Char} (ha : Stands units a)
    (hb : Stands units b) : a = b :=
  Option.some.inj
    (((decode?_eq_some_iff units a).2 ha).symm.trans ((decode?_eq_some_iff units b).2 hb))

/-! ## §4 Values -/

/-- A member of an object as it stands in a text: a quoted key between blanks, and the text of the
value with the blanks around it. -/
structure Member where
  before : List Char
  quoted : List Char
  key : List TextUnit
  after : List Char
  text : List Char
  value : Json

namespace Member

/-- The text of a member. -/
def spelling (m : Member) : List Char :=
  m.before ++ m.quoted ++ m.after ++ ':' :: m.text

/-- The member without its text. -/
def entry (m : Member) : List TextUnit × Json :=
  (m.key, m.value)

/-- The key is spelled by what stands in front of the colon. -/
structure Named (m : Member) : Prop where
  before : Blanks m.before
  quoted : Quoted m.quoted m.key
  after : Blanks m.after

end Member

/-- The values that are written as words. -/
def words : List (String × Json) :=
  [("null", .null), ("true", .bool true), ("false", .bool false)]

/-- The text spells the value, with blanks around every token. -/
inductive Spells : List Char → Json → Prop
  | word {word : String} {v : Json} (h : (word, v) ∈ words) : Spells word.toList v
  | number {literal : List Char} (h : Numeral literal) : Spells literal (.number literal)
  | string {text : List Char} {units : List TextUnit} (h : Quoted text units) :
      Spells text (.string units)
  /-- Between the brackets of an array without items there may be blanks. -/
  | emptyArray {blanks : List Char} (h : Blanks blanks) :
      Spells ('[' :: (blanks ++ [']'])) (.array [])
  /-- The items of an array have commas between them, and none behind the last. -/
  | array {items : List (List Char × Json)} (hne : items ≠ [])
      (h : ∀ item ∈ items, Spells item.1 item.2) :
      Spells ('[' :: ([','].intercalate (items.map Prod.fst) ++ [']']))
        (.array (items.map Prod.snd))
  | emptyObject {blanks : List Char} (h : Blanks blanks) :
      Spells ('\x7b' :: (blanks ++ ['\x7d'])) (.object [])
  /-- Keys may repeat, and any value may follow any key. -/
  | object {members : List Member} (hne : members ≠ []) (hnamed : ∀ m ∈ members, m.Named)
      (h : ∀ m ∈ members, Spells m.text m.value) :
      Spells ('\x7b' :: ([','].intercalate (members.map Member.spelling) ++ ['\x7d']))
        (.object (members.map Member.entry))
  /-- Blanks on both sides of a value make no difference. -/
  | spaced {before text after : List Char} {v : Json} (hbefore : Blanks before)
      (hafter : Blanks after) (h : Spells text v) : Spells (before ++ text ++ after) v

end ImageSensor.Json
