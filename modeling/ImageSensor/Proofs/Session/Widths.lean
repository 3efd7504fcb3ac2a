import ImageSensor.Proofs.Session.Completion

/-!
# Every Computation Has a Result

The driver computes with words of 32 and 64 bits, looks into tables, and cuts slices out of buffers
of fixed size. A sum that does not fit, a difference below zero, a division by zero, a position out
of range or an empty range would stop it. In a session none of them occurs.

Most definitions carry these checks themselves. Some compute with unbounded numbers, with words that
would wrap or with lists as long as need be; each of them has a counterpart here that takes the
steps one by one, on words and buffers, and never differs from it.

## Main statements

- `Catalog.checkedBestFit_eq_ok`, `Mode.checkedPixelRate_eq`, `Device.checkedReleasePower_eq`,
  `Bus.checkedWrite_eq`, `Bus.checkedRead_eq`: the counterparts agree.
- `Session.never_traps`: creating a device, any operations and taking it apart never trap.
-/

namespace ImageSensor

open ImageSensor.Action ImageSensor.Device

/-! ## §1 Words of 64 bits and slices -/

namespace Checked

/-- The unsigned 64-bit word with value `n`. -/
def long (n : Nat) : Checked Nat :=
  if n < 0x10000000000000000 then .ok n else .error .overflow

theorem long_eq_ok {n : Nat} (fits : n < 0x10000000000000000) : long n = .ok n :=
  if_pos fits

theorem sub_one_eq_ok {n : UInt32} (positive : n ≠ 0) : sub n 1 = .ok (n - 1) :=
  sub_eq_ok_iff.2 (Device.toNat_pred positive).symm

/-- The bytes of a buffer from one position to another. -/
def slice (buffer : List UInt8) (start stop : Nat) : Checked (List UInt8) :=
  if start ≤ stop ∧ stop ≤ buffer.length then
    .ok ((buffer.take stop).drop start)
  else
    .error .indexOutOfRange

/-- A buffer with the bytes from one position to another replaced. There have to be as many new
bytes as old ones. -/
def overwrite (buffer : List UInt8) (start stop : Nat) (bytes : List UInt8) :
    Checked (List UInt8) :=
  if start ≤ stop ∧ stop ≤ buffer.length ∧ start + bytes.length = stop then
    .ok (buffer.take start ++ bytes ++ buffer.drop stop)
  else
    .error .indexOutOfRange

end Checked

/-! ## §2 Negotiation and rates -/

namespace Catalog

/-- Distance of a mode from a requested size, as a 64-bit sum of two 32-bit gaps. -/
def checkedDistance (width height : UInt32) (mode : Mode) : Checked Nat :=
  Checked.long (gap mode.width width + gap mode.height height)

/-- The closest of several modes, by distances of 64 bits. -/
def checkedClosest (width height : UInt32) : Mode → List Mode → Checked Mode
  | best, [] => .ok best
  | best, mode :: rest => do
    let next ← checkedDistance width height mode
    let least ← checkedDistance width height best
    if next < least then
      checkedClosest width height mode rest
    else
      checkedClosest width height best rest

/-- The supported mode closest to a requested size, by distances of 64 bits. -/
def checkedBestFit (width height : UInt32) : Checked Mode :=
  checkedClosest width height fullFrame [binned]

/-- The gap between two words is a word. -/
theorem gap_lt (a b : UInt32) : gap a b < 0x100000000 := by
  have low := a.toNat_lt
  have high := b.toNat_lt
  unfold gap
  omega

theorem checkedDistance_eq_ok (width height : UInt32) (mode : Mode) :
    checkedDistance width height mode = .ok (distance width height mode) := by
  have across := gap_lt mode.width width
  have down := gap_lt mode.height height
  exact Checked.long_eq_ok (by omega)

theorem checkedClosest_eq_ok (width height : UInt32) (best : Mode) (rest : List Mode) :
    checkedClosest width height best rest = .ok (closest width height best rest) := by
  induction rest generalizing best with
  | nil => rfl
  | cons mode rest ih =>
    simp only [checkedClosest, closest, checkedDistance_eq_ok, bind, Except.bind]
    -- the same test on the same distances, so both go on with the same mode
    split
    · exact ih mode
    · exact ih best

theorem checkedBestFit_eq_ok (width height : UInt32) :
    checkedBestFit width height = .ok (bestFit width height) :=
  checkedClosest_eq_ok width height fullFrame [binned]

end Catalog

namespace Mode

/-- Pixels per second on the link, one product of 64 bits after the other. -/
def checkedPixelRate (mode : Mode) : Checked Nat := do
  let hz ← mode.linkFrequency
  if mode.bitsPerPixel = 0 then
    throw .divisionByZero
  let bothEdges ← Checked.long (hz / mode.bitsPerPixel.toNat * 2)
  Checked.long (bothEdges * lanes)

theorem linkFrequency_le {mode : Mode} {hz : Nat} (found : mode.linkFrequency = .ok hz) :
    hz ≤ 600000000 := by
  unfold linkFrequency at found
  split at found
  case h_1 listed =>
    cases found
    have member := List.mem_of_getElem? listed
    simp only [linkFrequencies, List.mem_cons, List.not_mem_nil, or_false] at member
    omega
  case h_2 => cases found

theorem checkedPixelRate_eq (mode : Mode) : mode.checkedPixelRate = mode.pixelRate := by
  cases found : mode.linkFrequency with
  | error reason => simp only [checkedPixelRate, pixelRate, found, bind, Except.bind]
  | ok hz =>
    -- every frequency of the table is small enough for all lanes and both edges
    have bound := Nat.div_le_self hz mode.bitsPerPixel.toNat
    have listed := linkFrequency_le found
    have edges : Checked.long (hz / mode.bitsPerPixel.toNat * 2) =
        .ok (hz / mode.bitsPerPixel.toNat * 2) := Checked.long_eq_ok (by omega)
    have total : Checked.long (hz / mode.bitsPerPixel.toNat * 2 * lanes) =
        .ok (hz / mode.bitsPerPixel.toNat * 2 * lanes) :=
      Checked.long_eq_ok (by unfold lanes; omega)
    simp only [checkedPixelRate, pixelRate, found, edges, total, bind, Except.bind]
    rfl

end Mode

/-! ## §3 Controls and registers -/

/-- The legal value nearest to `v`, with the whole steps above the minimum checked as well. -/
def Setting.checkedNearest (setting : Setting) (v : Int) : Checked Int := do
  let inside ← Checked.clamp setting.minimum setting.maximum v
  let above ← Checked.signed (inside - setting.minimum)
  let halfway ← Checked.signed (above + controlStep / 2)
  let whole ← Checked.signed (halfway / controlStep * controlStep)
  let legal ← Checked.signed (setting.minimum + whole)
  return min legal setting.maximum

/-- With a step of one, whole steps are as far as halfway, which has been checked. -/
theorem Setting.checkedNearest_eq (setting : Setting) (v : Int) :
    setting.checkedNearest v = setting.nearest v := by
  unfold checkedNearest nearest
  refine congrArg _ (funext fun inside => congrArg _ (funext fun above => ?_))
  cases halfway : Checked.signed (above + controlStep / 2) with
  | error reason => rfl
  | ok far =>
    have steps : far / controlStep * controlStep = far := by
      rw [controlStep, Int.ediv_one, Int.mul_one]
    obtain ⟨same, fits⟩ := Checked.signed_eq_ok_iff.1 halfway
    have whole : Checked.signed far = .ok far := Checked.signed_eq_ok_iff.2 ⟨rfl, same ▸ fits⟩
    simp only [steps, whole, bind, Except.bind]

/-- Register value of a test pattern, with a difference that stays above zero. -/
def checkedTestPatternRegister (index : UInt32) : Checked UInt32 :=
  if index > 0 then do
    let below ← Checked.sub index 1
    return below ||| 0x80
  else
    return 0x00

theorem checkedTestPatternRegister_eq_ok (index : UInt32) :
    checkedTestPatternRegister index = .ok (testPatternRegister index) := by
  unfold checkedTestPatternRegister testPatternRegister
  split
  case isTrue positive =>
    rw [Checked.sub_one_eq_ok (by grind)]
    rfl
  case isFalse => rfl

theorem width_cases {width : UInt8} (valid : validWidth width = true) :
    width = 1 ∨ width = 2 ∨ width = 3 ∨ width = 4 := by
  have bounds := validWidth_iff.1 valid
  simp only [← UInt8.toNat_inj, UInt8.reduceToNat]
  omega

/-- The frame of a register write, put together in a buffer of six bytes. -/
def RegisterWrite.checkedFrame (write : RegisterWrite) : Checked (List UInt8) := do
  let buffer ← Checked.overwrite (List.replicate 6 0) 0 2 (addressBytes write.address)
  let unused ← Checked.sub 4 write.width.toUInt32
  let low ← Checked.slice (bigEndian 4 write.value.toNat) unused.toNat 4
  let buffer ← Checked.overwrite buffer 2 (2 + write.width.toNat) low
  Checked.slice buffer 0 (2 + write.width.toNat)

theorem RegisterWrite.checkedFrame_eq_ok {write : RegisterWrite}
    (valid : validWidth write.width = true) : write.checkedFrame = .ok write.frame := by
  obtain ⟨address, width, value⟩ := write
  -- for each width the positions are numbers, whatever address and value
  rcases width_cases valid with rfl | rfl | rfl | rfl <;> rfl

/-- Bytes behind zeros make up the same number. -/
theorem ofBigEndian_zeros_append (zeros : Nat) (bytes : List UInt8) :
    ofBigEndian (List.replicate zeros 0 ++ bytes) = ofBigEndian bytes := by
  induction zeros with
  | zero => rfl
  | succ zeros ih => exact ih

/-- The number in a cleared buffer of four bytes whose end is overwritten. -/
def checkedValue (unused : Nat) (bytes : List UInt8) : Checked UInt32 := do
  let buffer ← Checked.overwrite (List.replicate 4 0) unused 4 bytes
  return UInt32.ofNat (ofBigEndian buffer)

theorem checkedValue_eq_ok {unused : Nat} {bytes : List UInt8} (full : unused + bytes.length = 4) :
    checkedValue unused bytes = .ok (UInt32.ofNat (ofBigEndian bytes)) := by
  have front : (List.replicate 4 (0 : UInt8)).take unused = List.replicate unused 0 := by
    rw [List.take_replicate, Nat.min_eq_left (by omega)]
  have written : Checked.overwrite (List.replicate 4 0) unused 4 bytes =
      .ok (List.replicate unused 0 ++ bytes) := by
    rw [Checked.overwrite, if_pos ⟨by omega, by simp, full⟩, front]
    exact congrArg Except.ok (List.append_nil _)
  simp only [checkedValue, written, bind, Except.bind, ofBigEndian_zeros_append]
  rfl

namespace Bus

/-- Writes a register, with a frame put together in a buffer. -/
def checkedWrite (bus : Bus) (write : RegisterWrite) : Action (Except BusError Unit) :=
  if validWidth write.width then do
    notify (.writing write)
    let frame ← ofChecked write.checkedFrame
    let answer : Except Cause Unit ← ask (.busWrite bus.address frame)
    return answer.mapError .transport
  else
    return .error (.invalidWidth write.width)

/-- Reads a register of `width` bytes into the end of a buffer of four. -/
def checkedRead (bus : Bus) (address : RegisterAddress) (width : UInt8) :
    Action (Except BusError UInt32) :=
  if validWidth width then do
    let unused ← ofChecked (Checked.sub 4 width.toUInt32)
    let answer : Except Cause (Vector UInt8 width.toNat) ←
      ask (.busRead bus.address (addressBytes address) width.toNat)
    match answer with
    | .error cause => return .error (.transport cause)
    | .ok bytes =>
      let value ← ofChecked (checkedValue unused.toNat bytes.toList)
      return .ok value
  else
    return .error (.invalidWidth width)

theorem checkedWrite_eq (bus : Bus) (write : RegisterWrite) :
    bus.checkedWrite write = bus.write write := by
  unfold checkedWrite Bus.write
  split
  case isTrue valid => rw [RegisterWrite.checkedFrame_eq_ok valid]; rfl
  case isFalse => rfl

theorem checkedRead_eq (bus : Bus) (address : RegisterAddress) (width : UInt8) :
    bus.checkedRead address width = bus.read address width := by
  unfold checkedRead Bus.read
  split
  case isTrue valid =>
    obtain ⟨unused, left, full⟩ : ∃ unused, Checked.sub 4 width.toUInt32 = .ok unused ∧
        unused.toNat + width.toNat = 4 := by
      rcases width_cases valid with rfl | rfl | rfl | rfl <;> exact ⟨_, rfl, rfl⟩
    rw [left]
    refine congrArg (Action.call _) (funext fun answer => ?_)
    cases answer with
    | error cause => rfl
    | ok bytes =>
      have size : unused.toNat + bytes.toList.length = 4 := by rwa [Vector.length_toList]
      show (ofChecked (checkedValue unused.toNat bytes.toList) >>= _) = _
      rw [checkedValue_eq_ok size]
      rfl
  case isFalse => rfl

end Bus

/-! ## §4 The device -/

namespace Device

/-- Drops a power reference, with a count that stays above zero. -/
def checkedReleasePower (device : Device) : Action Device :=
  if device.users = 0 then
    return device
  else do
    let users ← ofChecked (Checked.sub device.users 1)
    let device ← { device with users }.powerDownUnused
    returnReference
    return device

theorem checkedReleasePower_eq (device : Device) :
    device.checkedReleasePower = device.releasePower := by
  unfold checkedReleasePower releasePower
  split
  case isTrue => rfl
  case isFalse used =>
    rw [Checked.sub_one_eq_ok used]
    rfl

/-- The active area of a supported mode exists. -/
theorem cropBounds_ok {device : Device} (regular : device.Regular) :
    ∃ area, device.cropBounds = .ok area := by
  unfold cropBounds
  rcases List.mem_cons.1 regular.mode with mode | mode
  · rw [mode]
    exact ⟨_, rfl⟩
  · rw [List.mem_singleton.1 mode]
    exact ⟨_, rfl⟩

/-- There is something at the positions of a list and nowhere else. -/
theorem isSome_position {α : Type} (list : List α) (index : Nat) :
    list[index]?.isSome = decide (index < list.length) := by
  rw [Bool.eq_iff_iff, Option.isSome_iff_ne_none, ne_eq, List.getElem?_eq_none_iff, Nat.not_le,
    decide_eq_true_iff]

theorem isSome_modeAt? (device : Device) (index : Nat) (code : BusCode) :
    (device.modeAt? index code).isSome =
      (decide (code = device.busCode) && decide (index < Catalog.modes.length)) := by
  unfold modeAt?
  split
  case isTrue offered => rw [decide_eq_true offered, Bool.true_and, isSome_position]
  case isFalse other => rw [decide_eq_false other]; rfl

theorem isSome_busCodeAt? (device : Device) (index : Nat) :
    (device.busCodeAt? index).isSome = decide (index < 1) :=
  isSome_position [device.busCode] index

end Device

/-! ## §5 Sessions -/

namespace Session

/-- Whatever the configuration, the wired pins, the operations with their arguments and the answers
of the platform, nothing traps from the creation of a device to the end of taking it apart, with a
look at the active area in between. The counterparts on words and buffers agree with what is
computed, and positions beyond the catalog have no answer. -/
theorem never_traps (configuration : Configuration) (wiring : Wiring)
    (operations : List Operation) :
    (create configuration wiring >>= fun fresh => fresh.performAll operations >>= fun ended =>
        ofChecked ended.2.cropBounds >>= fun _ => ended.2.detach).Total ∧
      (∀ device : Device, device.checkedReleasePower = device.releasePower) ∧
      (∀ width height, Catalog.checkedBestFit width height = .ok (Catalog.bestFit width height)) ∧
      (∀ mode : Mode, mode.checkedPixelRate = mode.pixelRate) ∧
      (∀ (setting : Setting) v, setting.checkedNearest v = setting.nearest v) ∧
      (∀ index, checkedTestPatternRegister index = .ok (testPatternRegister index)) ∧
      (∀ (bus : Bus) write, bus.checkedWrite write = bus.write write) ∧
      (∀ (bus : Bus) address width, bus.checkedRead address width = bus.read address width) ∧
      (∀ (device : Device) index code, (device.modeAt? index code).isSome =
        (decide (code = device.busCode) && decide (index < Catalog.modes.length))) ∧
      (∀ (device : Device) index, (device.busCodeAt? index).isSome = decide (index < 1)) := by
  refine ⟨?_, Device.checkedReleasePower_eq, Catalog.checkedBestFit_eq_ok, Mode.checkedPixelRate_eq,
    Setting.checkedNearest_eq, checkedTestPatternRegister_eq_ok, Bus.checkedWrite_eq,
    Bus.checkedRead_eq, Device.isSome_modeAt?, Device.isSome_busCodeAt?⟩
  -- whatever was performed, the device is that of a session, and so regular to the end
  refine (create_total configuration wiring).bind fun trace fresh created => ?_
  refine ((Session.created created).performAll_total operations).bind fun events ended run => ?_
  obtain ⟨steps, session, -⟩ := (Session.created created).performAll run
  obtain ⟨area, shown⟩ := Device.cropBounds_ok session.regular
  exact Total.ofChecked_bind shown (Device.detach_total _)

end Session

end ImageSensor
