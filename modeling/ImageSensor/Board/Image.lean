/-!
# Peripheral Registers of the Board

The memory image of the peripherals: the clock enables, the groups of pins, the routing of
external interrupts and the interrupt lines. A write stores the word and has no other effect.

## Main statements

- `read_set_same`, `read_set_other`: a write changes the register written and no other.
- `setField_outside`: setting a field keeps every bit outside the field.
-/

namespace ImageSensor.Board

/-! ## §1 Registers -/

/-- A group of sixteen pins. -/
inductive PinGroup where
  | a | b | c | d | e | f | g | h | i | j | k
  deriving DecidableEq, Repr

namespace PinGroup

/-- All groups. -/
def all : List PinGroup := [a, b, c, d, e, f, g, h, i, j, k]

/-- Number of a group: its bit in the clock enables and its code as an interrupt source. -/
def number : PinGroup → Nat
  | a => 0
  | b => 1
  | c => 2
  | d => 3
  | e => 4
  | f => 5
  | g => 6
  | h => 7
  | i => 8
  | j => 9
  | k => 10

/-- Letter of a group. -/
def letter : PinGroup → String
  | a => "A"
  | b => "B"
  | c => "C"
  | d => "D"
  | e => "E"
  | f => "F"
  | g => "G"
  | h => "H"
  | i => "I"
  | j => "J"
  | k => "K"

end PinGroup

/-- What a register of a group is for. -/
inductive GroupRegister where
  /-- Mode, two bits per pin. -/
  | moder
  /-- Output type, one bit per pin. -/
  | otyper
  /-- Output speed, two bits per pin. -/
  | ospeedr
  /-- Pull-up and pull-down, two bits per pin. -/
  | pupdr
  /-- Output data. -/
  | odr
  /-- Set and reset of single outputs. -/
  | bsrr
  /-- Alternate functions of pins 0 to 7, four bits per pin. -/
  | afrl
  /-- Alternate functions of pins 8 to 15, four bits per pin. -/
  | afrh
  deriving DecidableEq, Repr

namespace GroupRegister

/-- All registers of a group. -/
def all : List GroupRegister := [moder, otyper, ospeedr, pupdr, odr, bsrr, afrl, afrh]

/-- Name of a register of a group. -/
def name : GroupRegister → String
  | moder => "MODER"
  | otyper => "OTYPER"
  | ospeedr => "OSPEEDR"
  | pupdr => "PUPDR"
  | odr => "ODR"
  | bsrr => "BSRR"
  | afrl => "AFRL"
  | afrh => "AFRH"

end GroupRegister

/-- A register of the peripherals. -/
inductive PeripheralRegister where
  /-- Clock enables of the groups. -/
  | groupClocks
  /-- Clock enables of the system configuration and others. -/
  | systemClocks
  | group (group : PinGroup) (register : GroupRegister)
  /-- Sources of four interrupt lines. -/
  | interruptSource (block : Fin 4)
  /-- Interrupt mask. -/
  | interruptMask
  /-- Event mask. -/
  | eventMask
  /-- Lines that trigger on a rising edge. -/
  | risingTrigger
  /-- Lines that trigger on a falling edge. -/
  | fallingTrigger
  /-- Pending interrupts. -/
  | pending
  deriving DecidableEq, Repr

namespace PeripheralRegister

/-- All registers. -/
def all : List PeripheralRegister :=
  [groupClocks, systemClocks] ++
    PinGroup.all.flatMap (fun p => GroupRegister.all.map (group p)) ++
    [interruptSource 0, interruptSource 1, interruptSource 2, interruptSource 3,
      interruptMask, eventMask, risingTrigger, fallingTrigger, pending]

/-- Name of a register in the manual of the chip. -/
def name : PeripheralRegister → String
  | groupClocks => "RCC.AHB1ENR"
  | systemClocks => "RCC.APB2ENR"
  | group p register => "GPIO" ++ p.letter ++ "." ++ register.name
  | interruptSource block => "SYSCFG.EXTICR" ++ (block.val + 1).repr
  | interruptMask => "EXTI.IMR"
  | eventMask => "EXTI.EMR"
  | risingTrigger => "EXTI.RTSR"
  | fallingTrigger => "EXTI.FTSR"
  | pending => "EXTI.PR"

end PeripheralRegister

/-! ## §2 Words -/

/-- Contents of a register. -/
abbrev Word := BitVec 32

/-- The bits of a field of `width` bits whose lowest bit is `offset`. -/
def fieldMask (offset width : Nat) : Word :=
  (BitVec.allOnes 32 >>> (32 - width)) <<< offset

/-- Sets a field and keeps the bits outside of it. -/
def setField (offset width value : Nat) (word : Word) : Word :=
  (word &&& ~~~fieldMask offset width) |||
    (BitVec.ofNat 32 value <<< offset &&& fieldMask offset width)

/-- Setting a field keeps every bit outside the field. -/
theorem setField_outside {offset width value : Nat} {word : Word} {bit : Nat}
    (h : (fieldMask offset width).getLsbD bit = false) :
    (setField offset width value word).getLsbD bit = word.getLsbD bit := by
  by_cases inside : bit < 32
  · simp only [setField, BitVec.getLsbD_or, BitVec.getLsbD_and, BitVec.getLsbD_not, h]
    simp [inside]
  · rw [BitVec.getLsbD_of_ge _ _ (by omega), BitVec.getLsbD_of_ge _ _ (by omega)]

/-! ## §3 Images -/

/-- Contents of all registers. -/
@[ext] structure Image where
  /-- Contents of a register. -/
  read : PeripheralRegister → Word

namespace Image

/-- The same word in every register. -/
def filled (word : Word) : Image :=
  ⟨fun _ => word⟩

/-- Writes a register. -/
def set (image : Image) (register : PeripheralRegister) (word : Word) : Image :=
  ⟨fun other => if other = register then word else image.read other⟩

/-- Changes a register. -/
def modify (image : Image) (register : PeripheralRegister) (change : Word → Word) : Image :=
  image.set register (change (image.read register))

@[simp] theorem read_set_same (image : Image) (register : PeripheralRegister) (word : Word) :
    (image.set register word).read register = word :=
  if_pos rfl

theorem read_set_other {image : Image} {register other : PeripheralRegister}
    (h : other ≠ register) (word : Word) :
    (image.set register word).read other = image.read other :=
  if_neg h

/-- The registers in which an image differs from another, with their words. -/
def changes (image before : Image) : List (PeripheralRegister × Word) :=
  (PeripheralRegister.all.filter fun register => image.read register != before.read register).map
    fun register => (register, image.read register)

end Image

end ImageSensor.Board
