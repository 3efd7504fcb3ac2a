import ImageSensor.Board.Image

/-!
# Pins of the Board

How a pin is configured and driven through the registers of its group, and how it raises an
interrupt. Every change keeps the bits of other pins; only the set-and-reset word and the word of
pending interrupts are written whole.
-/

namespace ImageSensor.Board

/-- A pin of a group. -/
structure BoardPin where
  group : PinGroup
  index : Fin 16
  deriving DecidableEq, Repr

namespace Image

/-! ## §1 Configuration -/

/-- Enables the clock of a group. -/
def enableGroup (image : Image) (group : PinGroup) : Image :=
  image.modify .groupClocks (setField group.number 1 1)

/-- Sets the two bit field of a pin. -/
def setPinField (image : Image) (register : GroupRegister) (pin : BoardPin) (value : Nat) : Image :=
  image.modify (.group pin.group register) (setField (2 * pin.index.val) 2 value)

/-- Sets the output type of a pin, open drain or push-pull. -/
def setOpenDrain (image : Image) (pin : BoardPin) (openDrain : Bool) : Image :=
  image.modify (.group pin.group .otyper) (setField pin.index.val 1 openDrain.toNat)

/-- Hands a pin to an alternate function. -/
def useAlternate (image : Image) (pin : BoardPin) (function : Nat) : Image :=
  let register := if pin.index.val < 8 then GroupRegister.afrl else .afrh
  let image := image.modify (.group pin.group register)
    (setField (4 * (pin.index.val % 8)) 4 function)
  image.setPinField .moder pin 2

/-- Pulls a pin up. -/
def pullUp (image : Image) (pin : BoardPin) : Image :=
  image.setPinField .pupdr pin 1

/-- Lets a pin float. -/
def floating (image : Image) (pin : BoardPin) : Image :=
  image.setPinField .pupdr pin 0

/-- Makes a pin a push-pull output. -/
def useOutput (image : Image) (pin : BoardPin) : Image :=
  ((image.floating pin).setOpenDrain pin false).setPinField .moder pin 1

/-- Makes a pin a floating input. -/
def useInput (image : Image) (pin : BoardPin) : Image :=
  (image.floating pin).setPinField .moder pin 0

/-! ## §2 Output -/

/-- Drives a pin: its set bit is in the low half of the word, its reset bit in the high half. -/
def drive (image : Image) (pin : BoardPin) (high : Bool) : Image :=
  image.set (.group pin.group .bsrr)
    (BitVec.twoPow 32 (if high then pin.index.val else pin.index.val + 16))

/-! ## §3 Interrupts -/

/-- Makes a pin the source of its interrupt line, with the system configuration enabled. -/
def useInterrupt (image : Image) (pin : BoardPin) : Image :=
  let image := image.modify .systemClocks (setField 14 1 1)
  image.modify (.interruptSource ⟨pin.index.val / 4, by omega⟩)
    (setField (4 * (pin.index.val % 4)) 4 pin.group.number)

/-- Triggers the line of a pin on the rising edge only. -/
def triggerRising (image : Image) (pin : BoardPin) : Image :=
  (image.modify .risingTrigger (setField pin.index.val 1 1)).modify .fallingTrigger
    (setField pin.index.val 1 0)

/-- Lets the line of a pin interrupt. -/
def unmask (image : Image) (pin : BoardPin) : Image :=
  image.modify .interruptMask (setField pin.index.val 1 1)

/-- Clears a pending interrupt of a pin. -/
def clearPending (image : Image) (pin : BoardPin) : Image :=
  image.set .pending (BitVec.twoPow 32 pin.index.val)

end Image

end ImageSensor.Board
