import Mathlib.Algebra.Group.Nat.Defs
import Mathlib.Data.List.Induction
import ImageSensor.Proofs.Bus.Transfer
import ImageSensor.Proofs.Session.Widths

/-!
# Frames on the Bus

A register access is one transaction. What is sent tells the register, the width and the low bytes
of the value apart from all others, and what is read is the number that the bytes make up. Both are
said here in terms of the bytes alone, as whoever is at the other end of the bus has to read them.

## Main statements

- `bigEndian_ofBigEndian`: bytes are determined by their number.
- `RegisterWrite.EncodedBy`: a frame that stands for a write, by its two ends.
- `Bus.runs_write_iff`, `Bus.runs_read_iff`: all runs of an access to a register.
- `Bus.frame_codec`: the codec as a whole.
-/

namespace ImageSensor

open ImageSensor.Action

/-! ## §1 Bytes and numbers -/

theorem byteRange_eq_pow (count : Nat) : byteRange count = 256 ^ count := by
  induction count with
  | zero => rfl
  | succ count ih => rw [byteRange, ih, Nat.pow_succ, Nat.mul_comm]

/-- Bytes are determined by their number. -/
theorem bigEndian_ofBigEndian (bytes : List UInt8) :
    bigEndian bytes.length (ofBigEndian bytes) = bytes := by
  induction bytes using List.reverseRecOn with
  | nil => rfl
  | append_singleton bytes byte ih =>
    -- the last byte is the remainder by 256, and those in front of it are the quotient
    have small := byte.toNat_lt
    have quotient : (ofBigEndian bytes * 256 + byte.toNat) / 256 = ofBigEndian bytes := by omega
    have remainder : (ofBigEndian bytes * 256 + byte.toNat) % 256 = byte.toNat := by omega
    rw [ofBigEndian_append, List.length_append, List.length_singleton, bigEndian, quotient,
      remainder, ih, UInt8.ofNat_toNat]

theorem ofBigEndian_inj {one two : List UInt8} (length : one.length = two.length) :
    ofBigEndian one = ofBigEndian two ↔ one = two := by
  constructor
  · intro same
    rw [← bigEndian_ofBigEndian one, ← bigEndian_ofBigEndian two, length, same]
  · exact congrArg ofBigEndian

/-! ## §2 Frames -/

/-- A frame stands for a write if its first two bytes are the register and the others, as many as
the register is wide, are the value as far as it fits. -/
structure RegisterWrite.EncodedBy (write : RegisterWrite) (frame : List UInt8) : Prop where
  length : frame.length = 2 + write.width.toNat
  register : ofBigEndian (frame.take 2) = write.address.toNat
  value : ofBigEndian (frame.drop 2) = write.value.toNat % 256 ^ write.width.toNat

namespace RegisterWrite

variable {write one two : RegisterWrite} {frame : List UInt8}

theorem encodedBy_frame (write : RegisterWrite) : write.EncodedBy write.frame := by
  refine ⟨write.length_frame, write.ofBigEndian_take_frame, ?_⟩
  rw [write.ofBigEndian_drop_frame, byteRange_eq_pow]

/-- Only one frame stands for a write. -/
theorem EncodedBy.eq_frame (encoded : write.EncodedBy frame) : frame = write.frame := by
  have own := write.encodedBy_frame
  have front : frame.take 2 = write.frame.take 2 := by
    rw [← ofBigEndian_inj (by rw [List.length_take, List.length_take, encoded.length, own.length]),
      encoded.register, own.register]
  have back : frame.drop 2 = write.frame.drop 2 := by
    rw [← ofBigEndian_inj (by rw [List.length_drop, List.length_drop, encoded.length, own.length]),
      encoded.value, own.value]
  rw [← List.take_append_drop 2 frame, front, back, List.take_append_drop]

/-- What a frame stands for, up to the part of the value that does not fit. -/
theorem EncodedBy.same_iff (encoded : one.EncodedBy frame) :
    two.EncodedBy frame ↔ two.address = one.address ∧ two.width = one.width ∧
      two.value.toNat % 256 ^ one.width.toNat = one.value.toNat % 256 ^ one.width.toNat := by
  constructor
  · intro also
    have width : two.width = one.width := by
      rw [← UInt8.toNat_inj, ← Nat.add_left_cancel_iff, ← also.length, encoded.length]
    refine ⟨?_, width, ?_⟩
    · rw [← UInt16.toNat_inj, ← also.register, encoded.register]
    · rw [← encoded.value, also.value, width]
  · rintro ⟨address, width, value⟩
    constructor
    · rw [encoded.length, width]
    · rw [encoded.register, address]
    · rw [encoded.value, width, value]

end RegisterWrite

/-! ## §3 Single accesses -/

namespace Bus

variable {bus : Bus} {write : RegisterWrite} {address : RegisterAddress} {width : UInt8}
  {events : List Event}

/-- How writing a register goes. A width that no register has is refused before anything is called.
Otherwise one frame is sent, and its fate is the outcome. -/
inductive Writes (bus : Bus) (write : RegisterWrite) :
    List Event → Except BusError Unit → Prop where
  | refused (invalid : ¬(1 ≤ write.width.toNat ∧ write.width.toNat ≤ 4)) :
      Writes bus write [] (.error (.invalidWidth write.width))
  | sent {frame : List UInt8} (valid : 1 ≤ write.width.toNat ∧ write.width.toNat ≤ 4)
      (encoded : write.EncodedBy frame) :
      Writes bus write
        [⟨.notify (.writing write), ()⟩, ⟨.busWrite bus.address frame, Except.ok ()⟩] (.ok ())
  | failed {frame : List UInt8} {cause : Cause}
      (valid : 1 ≤ write.width.toNat ∧ write.width.toNat ≤ 4) (encoded : write.EncodedBy frame) :
      Writes bus write
        [⟨.notify (.writing write), ()⟩, ⟨.busWrite bus.address frame, Except.error cause⟩]
        (.error (.transport cause))

/-- How reading a register goes. A width that no register has is refused before anything is called.
Otherwise the two bytes of the register are sent and as many as it is wide are read, in a single
transaction. -/
inductive Reads (bus : Bus) (address : RegisterAddress) (width : UInt8) :
    List Event → Except BusError UInt32 → Prop where
  | refused (invalid : ¬(1 ≤ width.toNat ∧ width.toNat ≤ 4)) :
      Reads bus address width [] (.error (.invalidWidth width))
  | answered {asked : List UInt8} {bytes : Vector UInt8 width.toNat} {value : UInt32}
      (valid : 1 ≤ width.toNat ∧ width.toNat ≤ 4) (two : asked.length = 2)
      (register : ofBigEndian asked = address.toNat)
      (read : value.toNat = ofBigEndian bytes.toList) (fits : value.toNat < 256 ^ width.toNat) :
      Reads bus address width [⟨.busRead bus.address asked width.toNat, Except.ok bytes⟩]
        (.ok value)
  | failed {asked : List UInt8} {cause : Cause}
      (valid : 1 ≤ width.toNat ∧ width.toNat ≤ 4) (two : asked.length = 2)
      (register : ofBigEndian asked = address.toNat) :
      Reads bus address width [⟨.busRead bus.address asked width.toNat, Except.error cause⟩]
        (.error (.transport cause))

theorem runs_write_iff {ended : Except Trap (Except BusError Unit)} :
    Runs (bus.write write) events ended ↔
      ∃ outcome, ended = .ok outcome ∧ bus.Writes write events outcome := by
  constructor
  · intro run
    obtain ⟨outcome, rfl⟩ := (bus.write_total write).exists_ok run
    refine ⟨outcome, rfl, ?_⟩
    cases valid : validWidth write.width with
    | false =>
      rw [Bus.write, valid] at run
      obtain ⟨rfl, result⟩ := runs_done.1 run
      cases result
      exact .refused fun inside =>
        Bool.false_ne_true (valid.symm.trans (validWidth_iff.2 inside))
    | true =>
      obtain ⟨answer, rfl, rfl⟩ := runs_write_ok valid run
      cases answer with
      | error cause => exact .failed (validWidth_iff.1 valid) write.encodedBy_frame
      | ok _ => exact .sent (validWidth_iff.1 valid) write.encodedBy_frame
  · rintro ⟨outcome, rfl, writes⟩
    cases writes with
    | refused invalid =>
      rw [Bus.write, if_neg fun valid => invalid (validWidth_iff.1 valid)]
      exact .done _
    | sent valid encoded =>
      rw [Bus.write, if_pos (validWidth_iff.2 valid), encoded.eq_frame]
      exact .call (.call (.done _))
    | failed valid encoded =>
      rw [Bus.write, if_pos (validWidth_iff.2 valid), encoded.eq_frame]
      exact .call (.call (.done _))

/-- The two bytes sent for a register, and no others, make up its address. -/
theorem eq_addressBytes_iff {asked : List UInt8} :
    asked = addressBytes address ↔ asked.length = 2 ∧ ofBigEndian asked = address.toNat := by
  have own : ofBigEndian (addressBytes address) = address.toNat :=
    ofBigEndian_bigEndian_of_lt address.toNat_lt
  have two : (addressBytes address).length = 2 := length_bigEndian 2 _
  constructor
  · rintro rfl
    exact ⟨two, own⟩
  · rintro ⟨length, register⟩
    rw [← ofBigEndian_inj (length.trans two.symm), register, own]

/-- The number of at most four bytes is a word. -/
theorem toNat_ofBigEndian (valid : 1 ≤ width.toNat ∧ width.toNat ≤ 4)
    (bytes : Vector UInt8 width.toNat) :
    (UInt32.ofNat (ofBigEndian bytes.toList)).toNat = ofBigEndian bytes.toList := by
  have fits := ofBigEndian_vector_lt bytes
  have widest : 256 ^ width.toNat ≤ 256 ^ 4 := Nat.pow_le_pow_right (by decide) valid.2
  rw [byteRange_eq_pow] at fits
  exact UInt32.toNat_ofNat_of_lt' (Nat.lt_of_lt_of_le fits widest)

theorem runs_read_iff {ended : Except Trap (Except BusError UInt32)} :
    Runs (bus.read address width) events ended ↔
      ∃ outcome, ended = .ok outcome ∧ bus.Reads address width events outcome := by
  obtain ⟨two, register⟩ := (@eq_addressBytes_iff address _).1 rfl
  constructor
  · intro run
    obtain ⟨outcome, rfl⟩ := (bus.read_total address width).exists_ok run
    refine ⟨outcome, rfl, ?_⟩
    cases valid : validWidth width with
    | false =>
      rw [Bus.read, valid] at run
      obtain ⟨rfl, result⟩ := runs_done.1 run
      cases result
      exact .refused fun inside =>
        Bool.false_ne_true (valid.symm.trans (validWidth_iff.2 inside))
    | true =>
      have inside := validWidth_iff.1 valid
      obtain ⟨answer, rfl, rfl⟩ := runs_read_ok valid run
      cases answer with
      | error cause => exact .failed inside two register
      | ok bytes =>
        have same := toNat_ofBigEndian inside bytes
        refine .answered inside two register same ?_
        rw [same, ← byteRange_eq_pow]
        exact ofBigEndian_vector_lt bytes
  · rintro ⟨outcome, rfl, reads⟩
    cases reads with
    | refused invalid =>
      rw [Bus.read, if_neg fun valid => invalid (validWidth_iff.1 valid)]
      exact .done _
    | answered valid two register read fits =>
      rw [Bus.read, if_pos (validWidth_iff.2 valid), eq_addressBytes_iff.2 ⟨two, register⟩,
        ← UInt32.toNat_inj.1 ((toNat_ofBigEndian valid _).trans read.symm)]
      exact .call (.done _)
    | failed valid two register =>
      rw [Bus.read, if_pos (validWidth_iff.2 valid), eq_addressBytes_iff.2 ⟨two, register⟩]
      exact .call (.done _)

/-! ## §4 The codec -/

/-- On every bus, an access to a register of one to four bytes is one transaction, and any other
width is refused without one. The frame of a write determines the register, the width and the value
as far as it fits, and they determine the frame. Whoever answers a read with the value bytes of a
frame gives that part of the value back. All of this is what comes out of putting frames together
and taking them apart in buffers of a fixed size. -/
theorem frame_codec (bus : Bus) :
    (∀ write events ended, Runs (bus.write write) events ended ↔
      ∃ outcome, ended = .ok outcome ∧ bus.Writes write events outcome) ∧
    (∀ address width events ended, Runs (bus.read address width) events ended ↔
      ∃ outcome, ended = .ok outcome ∧ bus.Reads address width events outcome) ∧
    (∀ (one two : RegisterWrite) frame, one.EncodedBy frame → (two.EncodedBy frame ↔
      two.address = one.address ∧ two.width = one.width ∧
        two.value.toNat % 256 ^ one.width.toNat = one.value.toNat % 256 ^ one.width.toNat)) ∧
    (∀ (write : RegisterWrite) frame,
      1 ≤ write.width.toNat ∧ write.width.toNat ≤ 4 → write.EncodedBy frame →
      ∀ (address : RegisterAddress) (bytes : Vector UInt8 write.width.toNat),
        bytes.toList = frame.drop 2 →
        ∃ value, value.toNat = write.value.toNat % 256 ^ write.width.toNat ∧
          Runs (bus.read address write.width)
            [⟨.busRead bus.address (addressBytes address) write.width.toNat, Except.ok bytes⟩]
            (.ok (.ok value))) ∧
    (∀ write, bus.checkedWrite write = bus.write write) ∧
    ∀ address width, bus.checkedRead address width = bus.read address width := by
  refine ⟨fun _ _ _ => runs_write_iff, fun _ _ _ _ => runs_read_iff,
    fun _ _ _ encoded => encoded.same_iff, ?_, bus.checkedWrite_eq, bus.checkedRead_eq⟩
  intro write frame valid encoded address bytes cut
  have same := toNat_ofBigEndian valid bytes
  obtain ⟨two, register⟩ := (@eq_addressBytes_iff address _).1 rfl
  refine ⟨_, by rw [same, cut, encoded.value], runs_read_iff.2 ⟨_, rfl, ?_⟩⟩
  refine .answered valid two register same ?_
  rw [same, ← byteRange_eq_pow]
  exact ofBigEndian_vector_lt bytes

/-- A value of four bytes for a register of three: the highest byte is lost, and the others come
back. -/
theorem frame_codec_wide_value :
    RegisterWrite.EncodedBy ⟨0x1234, 3, 0x89ABCDEF⟩ [0x12, 0x34, 0xAB, 0xCD, 0xEF] ∧
      Runs (Bus.read ⟨0x2D⟩ 0x1234 3)
        [⟨.busRead 0x2D [0x12, 0x34] 3,
          (Except.ok #v[0xAB, 0xCD, 0xEF] : Except Cause (Vector UInt8 3))⟩]
        (.ok (.ok 0xABCDEF)) := by
  have encoded : RegisterWrite.EncodedBy ⟨0x1234, 3, 0x89ABCDEF⟩ [0x12, 0x34, 0xAB, 0xCD, 0xEF] :=
    ⟨by decide, by decide, by decide⟩
  obtain ⟨-, -, -, returned, -⟩ := frame_codec ⟨0x2D⟩
  obtain ⟨value, same, run⟩ :=
    returned _ _ (by decide) encoded 0x1234 #v[0xAB, 0xCD, 0xEF] (by decide)
  obtain rfl : value = 0xABCDEF := UInt32.toNat_inj.1 (same.trans (by decide))
  exact ⟨encoded, run⟩

end Bus

end ImageSensor
