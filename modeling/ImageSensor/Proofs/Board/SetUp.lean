import ImageSensor.Board

/-!
# Setting Up the Board

Setting up the pins of the sensor and setting up the button are sequences of constants written to
fields of registers. What such a sequence leaves in a bit is the last constant written there, and a
bit that no field covers is left alone. So doing it again changes nothing, and two sequences without
a common bit can be done in either order.

## Main statements

- `Image.bit_assignAll`: what a sequence of writes leaves in a bit.
- `Image.assignAll_again`, `Image.assignAll_comm`: a sequence done twice, and two sequences.
- `configurePins_eq`, `configureButton_eq`: the two set-ups as such sequences.
- `setUp_contained`: what both of them change, and what they leave behind.
-/

namespace ImageSensor.Board

/-! ## §1 Bits of a word -/

/-- The mask of a field has the bits of the field. -/
theorem getLsbD_fieldMask (offset width : Nat) (bit : Fin 32) :
    (fieldMask offset width).getLsbD bit = decide (offset ≤ bit ∧ bit < offset + width) := by
  have small := bit.isLt
  rw [Bool.eq_iff_iff]
  simp only [fieldMask, BitVec.getLsbD_shiftLeft, BitVec.getLsbD_ushiftRight,
    BitVec.getLsbD_allOnes, Bool.and_eq_true, Bool.not_eq_true', decide_eq_true_eq,
    decide_eq_false_iff_not]
  omega

/-- A bit of a word with a field that has been set. -/
theorem getLsbD_setField (offset width value : Nat) (word : Word) (bit : Fin 32) :
    (setField offset width value word).getLsbD bit =
      if offset ≤ bit ∧ bit < offset + width then value.testBit (bit - offset)
      else word.getLsbD bit := by
  have mask := getLsbD_fieldMask offset width bit
  split
  case isTrue inside =>
    rw [decide_eq_true inside] at mask
    have small : bit - offset < 32 := by omega
    simp only [setField, BitVec.getLsbD_or, BitVec.getLsbD_and, BitVec.getLsbD_not, mask,
      BitVec.getLsbD_shiftLeft, BitVec.getLsbD_ofNat]
    simp [small, Nat.not_lt.2 inside.1]
  case isFalse outside =>
    rw [decide_eq_false outside] at mask
    exact setField_outside mask

/-- A field of all bits is the whole word. -/
theorem setField_all (value word : Word) : setField 0 32 value.toNat word = value := by
  refine BitVec.eq_of_getLsbD_eq fun bit small => ?_
  rw [getLsbD_setField 0 32 value.toNat word ⟨bit, small⟩, if_pos ⟨Nat.zero_le _, by simpa⟩]
  rfl

namespace Image

/-- A bit of a register. -/
def readBit (image : Image) (register : PeripheralRegister) (bit : Fin 32) : Bool :=
  (image.read register).getLsbD bit

/-- Images with the same bits are the same. -/
theorem ext_bit {image other : Image}
    (same : ∀ register bit, image.readBit register bit = other.readBit register bit) :
    image = other := by
  refine Image.ext (funext fun register => ?_)
  exact BitVec.eq_of_getLsbD_eq fun bit small => same register ⟨bit, small⟩

end Image

/-! ## §2 Fields -/

/-- Some bits of a register, `width` of them from `offset` on. -/
structure BitField where
  register : PeripheralRegister
  offset : Nat
  width : Nat
  deriving DecidableEq, Repr

namespace BitField

/-- The field has the bit. -/
def Covers (field : BitField) (register : PeripheralRegister) (bit : Fin 32) : Prop :=
  register = field.register ∧ field.offset ≤ bit ∧ bit < field.offset + field.width

instance (field : BitField) (register : PeripheralRegister) (bit : Fin 32) :
    Decidable (field.Covers register bit) :=
  inferInstanceAs (Decidable (_ ∧ _ ∧ _))

/-- The field is part of another. -/
def Within (field other : BitField) : Prop :=
  field.register = other.register ∧ other.offset ≤ field.offset ∧
    field.offset + field.width ≤ other.offset + other.width

instance (field other : BitField) : Decidable (field.Within other) :=
  inferInstanceAs (Decidable (_ ∧ _ ∧ _))

/-- The fields have no bit in common. -/
def Apart (field other : BitField) : Prop :=
  field.register = other.register →
    field.offset + field.width ≤ other.offset ∨ other.offset + other.width ≤ field.offset

instance (field other : BitField) : Decidable (field.Apart other) :=
  inferInstanceAs (Decidable (_ → _))

variable {field other : BitField} {register : PeripheralRegister} {bit : Fin 32}

theorem Covers.mono (covers : field.Covers register bit) (within : field.Within other) :
    other.Covers register bit := by
  obtain ⟨rfl, low, high⟩ := covers
  obtain ⟨same, start, stop⟩ := within
  exact ⟨same, by omega, by omega⟩

theorem Apart.not_covers (apart : field.Apart other) (covers : field.Covers register bit) :
    ¬ other.Covers register bit := by
  obtain ⟨rfl, low, high⟩ := covers
  rintro ⟨same, low', high'⟩
  have gap := apart same
  omega

end BitField

/-- A constant that is written to a field. -/
structure FieldWrite extends BitField where
  value : Nat
  deriving DecidableEq, Repr

namespace FieldWrite

/-- The bit of the constant that goes to the given place, if the field covers it. -/
def bit? (write : FieldWrite) (register : PeripheralRegister) (bit : Fin 32) : Option Bool :=
  if write.Covers register bit then some (write.value.testBit (bit - write.offset)) else none

end FieldWrite

/-! ## §3 Sequences of constants -/

/-- The last constant that a sequence of writes puts into a bit. -/
def lastBit? : List FieldWrite → PeripheralRegister → Fin 32 → Option Bool
  | [], _, _ => none
  | write :: rest, register, bit => (lastBit? rest register bit).or (write.bit? register bit)

/-- A bit that receives a constant is covered by one of the fields. -/
theorem exists_covers_of_lastBit? {writes : List FieldWrite} {register : PeripheralRegister}
    {bit : Fin 32} {b : Bool} (last : lastBit? writes register bit = some b) :
    ∃ write ∈ writes, write.Covers register bit := by
  induction writes with
  | nil => cases last
  | cons write rest ih =>
    rcases Option.or_eq_some_iff.1 last with later | ⟨-, here⟩
    · obtain ⟨write', member, covers⟩ := ih later
      exact ⟨write', .tail _ member, covers⟩
    · exact ⟨write, .head _, (Option.ite_none_right_eq_some.1 here).1⟩

namespace Image

/-- Writes a constant to a field. -/
def assign (image : Image) (write : FieldWrite) : Image :=
  image.modify write.register (setField write.offset write.width write.value)

/-- Writes constants to fields, one after the other. -/
def assignAll (image : Image) (writes : List FieldWrite) : Image :=
  writes.foldl assign image

theorem bit_assign (image : Image) (write : FieldWrite) (register : PeripheralRegister)
    (bit : Fin 32) :
    (image.assign write).readBit register bit =
      (write.bit? register bit).getD (image.readBit register bit) := by
  by_cases same : register = write.register
  · subst same
    rw [readBit, assign, modify, read_set_same, getLsbD_setField, FieldWrite.bit?]
    -- the register is the right one, so only the place in the word decides
    by_cases inside : write.offset ≤ bit ∧ bit < write.offset + write.width
    · rw [if_pos inside, if_pos ⟨rfl, inside⟩]
      rfl
    · rw [if_neg inside, if_neg fun covers => inside covers.2]
      rfl
  · rw [readBit, assign, modify, read_set_other same, FieldWrite.bit?,
      if_neg fun covers => same covers.1]
    rfl

/-- A bit holds the last constant written there, or what it has held all along. -/
theorem bit_assignAll (image : Image) (writes : List FieldWrite)
    (register : PeripheralRegister) (bit : Fin 32) :
    (image.assignAll writes).readBit register bit =
      (lastBit? writes register bit).getD (image.readBit register bit) := by
  induction writes generalizing image with
  | nil => rfl
  | cons write rest ih =>
    rw [assignAll, List.foldl_cons, ← assignAll, ih, bit_assign, lastBit?, Option.getD_or]

/-- Writing the same constants again changes nothing. -/
theorem assignAll_again (image : Image) (writes : List FieldWrite) :
    (image.assignAll writes).assignAll writes = image.assignAll writes := by
  refine ext_bit fun register bit => ?_
  rw [bit_assignAll, bit_assignAll]
  cases lastBit? writes register bit <;> rfl

/-- Constants for fields without a common bit can be written in either order. -/
theorem assignAll_comm (image : Image) {first second : List FieldWrite}
    (apart : ∀ one ∈ first, ∀ two ∈ second, one.Apart two.toBitField) :
    (image.assignAll first).assignAll second = (image.assignAll second).assignAll first := by
  refine ext_bit fun register bit => ?_
  simp only [bit_assignAll]
  cases here : lastBit? first register bit with
  | none => rfl
  | some b =>
    cases there : lastBit? second register bit with
    | none => rfl
    | some c =>
      obtain ⟨one, member₁, covers₁⟩ := exists_covers_of_lastBit? here
      obtain ⟨two, member₂, covers₂⟩ := exists_covers_of_lastBit? there
      exact absurd covers₂ ((apart one member₁ two member₂).not_covers covers₁)

/-- A bit outside of some fields is left alone by all writes within them. -/
theorem bit_assignAll_or_covers (image : Image) {writes : List FieldWrite}
    {fields : List BitField}
    (within : ∀ write ∈ writes, ∃ field ∈ fields, write.Within field)
    (register : PeripheralRegister) (bit : Fin 32) :
    (image.assignAll writes).readBit register bit = image.readBit register bit ∨
      ∃ field ∈ fields, field.Covers register bit := by
  rw [bit_assignAll]
  cases last : lastBit? writes register bit with
  | none => exact .inl rfl
  | some b =>
    obtain ⟨write, member, covers⟩ := exists_covers_of_lastBit? last
    obtain ⟨field, listed, part⟩ := within write member
    exact .inr ⟨field, listed, covers.mono part⟩

/-- A field holds a constant. -/
def Holds (image : Image) (write : FieldWrite) : Prop :=
  ∀ bit, write.Covers write.register bit →
    image.readBit write.register bit = write.value.testBit (bit - write.offset)

end Image

/-- No bit that a write puts into its field is overwritten later in the sequence. -/
def Lasts (writes : List FieldWrite) (write : FieldWrite) : Prop :=
  ∀ bit, write.Covers write.register bit →
    lastBit? writes write.register bit = write.bit? write.register bit

instance (writes : List FieldWrite) (write : FieldWrite) : Decidable (Lasts writes write) :=
  inferInstanceAs (Decidable (∀ _bit : Fin 32, _ → _))

theorem Lasts.holds {writes : List FieldWrite} {write : FieldWrite} (lasts : Lasts writes write)
    (image : Image) : (image.assignAll writes).Holds write := by
  intro bit covers
  rw [Image.bit_assignAll, lasts bit covers, FieldWrite.bit?, if_pos covers]
  rfl

/-! ## §4 The fields of pins and groups -/

namespace PinGroup

/-- Enables the clock of the group. -/
def clock (group : PinGroup) : BitField :=
  ⟨.groupClocks, group.number, 1⟩

/-- Sets and resets outputs of the group. -/
def output (group : PinGroup) : BitField :=
  ⟨.group group .bsrr, 0, 32⟩

end PinGroup

namespace BoardPin

/-- The two bits of a pin in a register of its group. -/
def pair (pin : BoardPin) (register : GroupRegister) : BitField :=
  ⟨.group pin.group register, 2 * pin.index, 2⟩

/-- The output type of a pin. -/
def outputType (pin : BoardPin) : BitField :=
  ⟨.group pin.group .otyper, pin.index, 1⟩

/-- The alternate function of a pin. -/
def alternate (pin : BoardPin) : BitField :=
  ⟨.group pin.group (if pin.index.val < 8 then .afrl else .afrh), 4 * (pin.index % 8), 4⟩

/-- Mode, output type, speed and pull of a pin. -/
def configuration (pin : BoardPin) : List BitField :=
  [pin.pair .moder, pin.outputType, pin.pair .ospeedr, pin.pair .pupdr]

theorem block_lt (pin : BoardPin) : pin.index.val / 4 < 4 := by
  omega

/-- The source of the interrupt line of a pin. -/
def source (pin : BoardPin) : BitField :=
  ⟨.interruptSource ⟨pin.index.val / 4, pin.block_lt⟩, 4 * (pin.index % 4), 4⟩

/-- The interrupt line of a pin in a register that has a bit for each. -/
def line (pin : BoardPin) (register : PeripheralRegister) : BitField :=
  ⟨register, pin.index, 1⟩

/-- The word that resets the output of a pin. -/
def lowering (pin : BoardPin) : FieldWrite :=
  ⟨pin.group.output, (BitVec.twoPow 32 (pin.index + 16)).toNat⟩

end BoardPin

/-! ## §5 The two set-ups -/

/-- Constants that make a pin a line of the register bus. -/
def busPinWrites (pin : BoardPin) : List FieldWrite :=
  [⟨pin.alternate, 4⟩, ⟨pin.pair .moder, 2⟩, ⟨pin.pair .pupdr, 1⟩, ⟨pin.outputType, 1⟩]

/-- Constants that make a pin a push-pull output. -/
def outputPinWrites (pin : BoardPin) : List FieldWrite :=
  [⟨pin.pair .pupdr, 0⟩, ⟨pin.outputType, 0⟩, ⟨pin.pair .moder, 1⟩]

/-- The pins that are lines of the register bus, PB8 and PB9. -/
def busPins : List BoardPin :=
  [busClock, busData]

/-- The pins that are set up as outputs, in order: PH13, PG6, PG7 and PB4. -/
def outputPins : List BoardPin :=
  [controlPin .powerEnable, controlPin .reset, controlPin .powerDown, regulator]

/-- Constants that set up the pins of the sensor. -/
def pinWrites : List FieldWrite :=
  [PinGroup.b, .g, .h].map (fun group => ⟨group.clock, 1⟩) ++
    busPins.flatMap busPinWrites ++ outputPins.flatMap outputPinWrites ++
    outputPins.map BoardPin.lowering

/-- Constants that set up the button. -/
def buttonWrites : List FieldWrite :=
  [⟨button.group.clock, 1⟩, ⟨button.pair .pupdr, 0⟩, ⟨button.pair .moder, 0⟩,
    ⟨⟨.systemClocks, 14, 1⟩, 1⟩, ⟨button.source, button.group.number⟩,
    ⟨button.line .risingTrigger, 1⟩, ⟨button.line .fallingTrigger, 0⟩,
    ⟨button.line .interruptMask, 1⟩]

theorem drive_false (image : Image) (pin : BoardPin) :
    image.drive pin false = image.assign pin.lowering := by
  rw [Image.assign, BoardPin.lowering, PinGroup.output, Image.modify, setField_all]
  rfl

theorem configurePins_eq (image : Image) : configurePins image = image.assignAll pinWrites := by
  simp only [configurePins, drive_false]
  rfl

theorem configureButton_eq (image : Image) :
    configureButton image = image.assignAll buttonWrites := rfl

/-- The fields that setting up the pins may change. -/
def pinFields : List BitField :=
  [PinGroup.b, .g, .h].map PinGroup.clock ++
    (busPins ++ outputPins).flatMap BoardPin.configuration ++
    busPins.map BoardPin.alternate ++ [PinGroup.b, .g, .h].map PinGroup.output

/-- The fields that setting up the button, PI11, may change. -/
def buttonFields : List BitField :=
  button.group.clock :: button.configuration ++
    [⟨.systemClocks, 14, 1⟩, button.source, button.line .interruptMask,
      button.line .risingTrigger, button.line .fallingTrigger]

theorem pinWrites_within : ∀ write ∈ pinWrites, ∃ field ∈ pinFields, write.Within field := by
  decide

theorem buttonWrites_within :
    ∀ write ∈ buttonWrites, ∃ field ∈ buttonFields, write.Within field := by
  decide

theorem pinWrites_apart_buttonWrites :
    ∀ one ∈ pinWrites, ∀ two ∈ buttonWrites, one.Apart two.toBitField := by
  decide

/-- All constants last, except that the reset and the power down pin share the word that lowers
them. -/
theorem lasts_pinWrites :
    ∀ write ∈ pinWrites.erase (controlPin .reset).lowering, Lasts pinWrites write := by
  decide +kernel

theorem lasts_buttonWrites : ∀ write ∈ buttonWrites, Lasts buttonWrites write := by
  decide +kernel

/-- Whatever the registers hold, setting up the pins of the sensor and setting up the button change
nothing but fields of their own, and leave their constants there. Doing one of them again changes
nothing, and it does not matter which of them comes first. -/
theorem setUp_contained (image : Image) :
    (∀ register bit,
      (configurePins image).readBit register bit = image.readBit register bit ∨
        ∃ field ∈ pinFields, field.Covers register bit) ∧
    (∀ register bit,
      (configureButton image).readBit register bit = image.readBit register bit ∨
        ∃ field ∈ buttonFields, field.Covers register bit) ∧
    (∀ write ∈ pinWrites.erase (controlPin .reset).lowering,
      (configurePins image).Holds write) ∧
    (∀ write ∈ buttonWrites, (configureButton image).Holds write) ∧
    configurePins (configurePins image) = configurePins image ∧
    configureButton (configureButton image) = configureButton image ∧
    configurePins (configureButton image) = configureButton (configurePins image) := by
  simp only [configurePins_eq, configureButton_eq]
  refine ⟨image.bit_assignAll_or_covers pinWrites_within,
    image.bit_assignAll_or_covers buttonWrites_within, ?_, ?_, image.assignAll_again _,
    image.assignAll_again _, ?_⟩
  · intro write member
    exact (lasts_pinWrites write member).holds image
  · intro write member
    exact (lasts_buttonWrites write member).holds image
  · exact (image.assignAll_comm pinWrites_apart_buttonWrites).symm

/-- On registers that are full of ones, the supplies become an output next to a pin that stays as it
was. -/
theorem setUp_contained_ones :
    (configurePins (.filled (BitVec.allOnes 32))).readBit (.group .b .moder) 10 = true ∧
      (configurePins (.filled (BitVec.allOnes 32))).Holds ⟨regulator.pair .moder, 1⟩ ∧
      configurePins (configureButton (.filled (BitVec.allOnes 32))) =
        configureButton (configurePins (.filled (BitVec.allOnes 32))) := by
  obtain ⟨kept, -, holds, -, -, -, swapped⟩ := setUp_contained (.filled (BitVec.allOnes 32))
  have beside := (kept (.group .b .moder) 10).resolve_right (by decide)
  exact ⟨beside, holds _ (by decide), swapped⟩

end ImageSensor.Board
