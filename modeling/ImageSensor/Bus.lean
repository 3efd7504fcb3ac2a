import ImageSensor.Orientation
import ImageSensor.Platform.Action
import ImageSensor.Register.Bytes
import ImageSensor.Register.Table

/-!
# Register Bus

Registers are written and read in single bus transactions: two address bytes, then one to four
value bytes, most significant byte first. Widths outside of one to four bytes are refused before
anything is sent.

## Main statements

- `length_frame`, `ofBigEndian_take_frame`, `ofBigEndian_drop_frame`: the frame of a write holds
  its register address and the low bytes of its value.
-/

namespace ImageSensor

/-! ## §1 Frames -/

/-- The bytes sent for a register address. -/
def addressBytes (address : RegisterAddress) : List UInt8 :=
  bigEndian 2 address.toNat

/-- The bytes sent for a register write. -/
def RegisterWrite.frame (write : RegisterWrite) : List UInt8 :=
  addressBytes write.address ++ bigEndian write.width.toNat write.value.toNat

namespace RegisterWrite

@[simp] theorem length_frame (write : RegisterWrite) :
    write.frame.length = 2 + write.width.toNat := by
  simp [frame, addressBytes]

/-- A frame starts with the register address. -/
theorem ofBigEndian_take_frame (write : RegisterWrite) :
    ofBigEndian (write.frame.take 2) = write.address.toNat := by
  have start : write.frame.take 2 = addressBytes write.address :=
    List.take_left' (by simp [addressBytes])
  rw [start, addressBytes, ofBigEndian_bigEndian_of_lt]
  exact write.address.toNat_lt

/-- A frame ends with the low bytes of the value. -/
theorem ofBigEndian_drop_frame (write : RegisterWrite) :
    ofBigEndian (write.frame.drop 2) = write.value.toNat % byteRange write.width.toNat := by
  have rest : write.frame.drop 2 = bigEndian write.width.toNat write.value.toNat :=
    List.drop_left' (by simp [addressBytes])
  rw [rest, ofBigEndian_bigEndian]

end RegisterWrite

/-! ## §2 Transactions -/

/-- The bus as seen by a sensor at an address. -/
structure Bus where
  address : UInt8
  deriving DecidableEq, Repr

namespace Bus

open ImageSensor.Action

/-- Writes a register. -/
def write (bus : Bus) (write : RegisterWrite) : Action (Except BusError Unit) :=
  if validWidth write.width then do
    notify (.writing write)
    let answer : Except Cause Unit ← ask (.busWrite bus.address write.frame)
    return answer.mapError .transport
  else
    return .error (.invalidWidth write.width)

/-- Reads a register of `width` bytes. -/
def read (bus : Bus) (address : RegisterAddress) (width : UInt8) :
    Action (Except BusError UInt32) :=
  if validWidth width then do
    let answer : Except Cause (Vector UInt8 width.toNat) ←
      ask (.busRead bus.address (addressBytes address) width.toNat)
    return (answer.mapError .transport).map fun bytes => UInt32.ofNat (ofBigEndian bytes.toList)
  else
    return .error (.invalidWidth width)

/-- Writes registers in order and stops at the first failure. -/
def writeAll (bus : Bus) : List RegisterWrite → Action (Except BusError Unit)
  | [] => return .ok ()
  | write :: rest => do
    match ← bus.write write with
    | .error e => return .error e
    | .ok () => bus.writeAll rest

/-- The orientation word rides in the low byte of a two byte write to mode select. -/
def orientationWrite (orientation : Orientation) : RegisterWrite :=
  ⟨Register.modeSelect, 2, orientation.registerValue⟩

/-- The writes that apply a table: the orientation word, then every entry. -/
def tableWrites (table : RegisterTable) (orientation : Orientation) : List RegisterWrite :=
  orientationWrite orientation :: table.entries.map TableEntry.write

/-- Applies a register table. Stops at the first failed write. -/
def applyTable (bus : Bus) (table : RegisterTable) (orientation : Orientation) :
    Action (Except BusError Unit) := do
  match ← bus.writeAll (tableWrites table orientation) with
  | .error e => return .error e
  | .ok () =>
    notify (.tableApplied table.size)
    return .ok ()

end Bus

end ImageSensor
