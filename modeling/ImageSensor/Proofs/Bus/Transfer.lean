import ImageSensor.Bus.Identity
import ImageSensor.Proofs.Platform.Trace

/-!
# What Register Transfers Do

The completed runs of writing registers in order, and what of them reaches the sensor: all frames
if every write succeeds, otherwise the frames in front of the first failure.

## Main statements

- `wrote_of_runs`: a completed run of writes goes as `Wrote` says.
- `Wrote.delivered_eq`, `Wrote.delivered_prefix`: the frames that reach the sensor.
- `identify_within`: identifying the chip only reads.
- `identified_of_runs`: what it reads, and what it makes of the answers.
-/

namespace ImageSensor.Bus

open ImageSensor.Action

variable {bus : Bus} {events : List Event} {outcome : Except BusError Unit}

/-! ## §1 Writing registers -/

/-- How writing registers in order can go. -/
inductive Wrote (bus : Bus) : List RegisterWrite → List Event → Except BusError Unit → Prop where
  | done : Wrote bus [] [] (.ok ())
  | refused {write : RegisterWrite} {rest : List RegisterWrite}
      (invalid : validWidth write.width = false) :
      Wrote bus (write :: rest) [] (.error (.invalidWidth write.width))
  | failed {write : RegisterWrite} {rest : List RegisterWrite} {cause : Cause}
      (valid : validWidth write.width = true) :
      Wrote bus (write :: rest)
        [⟨.notify (.writing write), ()⟩,
          ⟨.busWrite bus.address write.frame, Except.error cause⟩]
        (.error (.transport cause))
  | sent {write : RegisterWrite} {rest : List RegisterWrite} {events : List Event}
      {outcome : Except BusError Unit} (valid : validWidth write.width = true)
      (later : Wrote bus rest events outcome) :
      Wrote bus (write :: rest)
        (⟨.notify (.writing write), ()⟩ ::
          ⟨.busWrite bus.address write.frame, Except.ok ()⟩ :: events)
        outcome

/-- A write of a valid width is one transaction, and its answer is the outcome. -/
theorem runs_write_ok {write : RegisterWrite} (valid : validWidth write.width = true)
    (run : Runs (bus.write write) events (.ok outcome)) :
    ∃ answer : Except Cause Unit,
      events = [⟨.notify (.writing write), ()⟩, ⟨.busWrite bus.address write.frame, answer⟩] ∧
        outcome = answer.mapError .transport := by
  rw [Bus.write, if_pos valid] at run
  obtain ⟨_, split₁, run⟩ := runs_notify_bind.1 run
  obtain ⟨answer, _, split₂, run⟩ := runs_ask_bind.1 run
  obtain ⟨split₃, result⟩ := runs_done.1 run
  cases result
  subst split₃ split₂ split₁
  exact ⟨answer, rfl, rfl⟩

theorem wrote_of_runs {writes : List RegisterWrite}
    (run : Runs (bus.writeAll writes) events (.ok outcome)) : bus.Wrote writes events outcome := by
  induction writes generalizing events with
  | nil =>
    obtain ⟨rfl, result⟩ := runs_done.1 run
    cases result
    exact .done
  | cons write rest ih =>
    obtain ⟨first, _, _, split₁, one, run⟩ := runs_bind_ok.1 run
    -- an invalid width is refused in front of the bus, with no event at all
    cases valid : validWidth write.width with
    | false =>
      rw [Bus.write, valid] at one
      obtain ⟨split₂, result⟩ := runs_done.1 one
      cases result
      obtain ⟨split₃, result⟩ := runs_done.1 run
      cases result
      subst split₃ split₂ split₁
      exact .refused valid
    | true =>
      obtain ⟨answer, split₂, rfl⟩ := runs_write_ok valid one
      rcases answer with cause | _
      · obtain ⟨split₃, result⟩ := runs_done.1 run
        cases result
        subst split₃ split₂ split₁
        exact .failed valid
      · have later := ih run
        subst split₂ split₁
        exact .sent valid later

theorem Wrote.exchange {writes : List RegisterWrite} (wrote : bus.Wrote writes events outcome) :
    ∀ event ∈ events, event.call.Exchange := by
  induction wrote with
  | done | refused => simp
  | failed => simp [Call.Exchange]
  | sent _ _ ih => simpa [Call.Exchange] using ih

/-- If every write succeeds, the sensor receives every frame. -/
theorem Wrote.delivered_eq {writes : List RegisterWrite}
    (wrote : bus.Wrote writes events (.ok ())) :
    delivered events = writes.map RegisterWrite.frame := by
  -- induction on the writes, not on how they went: the outcome is fixed here
  induction writes generalizing events with
  | nil =>
    cases wrote
    rfl
  | cons write rest ih =>
    cases wrote with
    | sent valid later => exact congrArg (write.frame :: ·) (ih later)

/-- In any case the sensor receives the first frames, up to a failure. -/
theorem Wrote.delivered_prefix {writes : List RegisterWrite}
    (wrote : bus.Wrote writes events outcome) :
    delivered events <+: writes.map RegisterWrite.frame := by
  induction wrote with
  | done | refused | failed => exact List.nil_prefix
  | sent _ _ ih => exact List.cons_prefix_cons.2 ⟨rfl, ih⟩

/-! ## §2 Identifying the chip -/

/-- Identifying the chip only reads. -/
theorem identify_within (bus : Bus) :
    bus.identify.Within fun call => call.Exchange ∧ call.Silent := by
  have read : ∀ address width, (bus.read address width).Within
      fun call => call.Exchange ∧ call.Silent := by
    intro address width
    unfold Bus.read
    split
    · exact Within.bind (within_ask.2 ⟨trivial, nofun⟩) fun _ => trivial
    · trivial
  apply Within.bind (read _ _)
  rintro (e | word)
  · trivial
  dsimp only
  split
  · apply Within.bind (read _ _)
    rintro (e | revision) <;> trivial
  · exact Within.bind (within_notify.2 ⟨trivial, nofun⟩) fun _ => trivial

/-- Reading the identity of the chip: two bytes. -/
def idRead (bus : Bus) (answer : Except Cause (Vector UInt8 2)) : Event :=
  ⟨.busRead bus.address (addressBytes Register.chipId) 2, answer⟩

/-- Reading the revision of the chip: one byte. -/
def revisionRead (bus : Bus) (answer : Except Cause (Vector UInt8 1)) : Event :=
  ⟨.busRead bus.address (addressBytes Register.chipRevision) 1, answer⟩

/-- How identifying the chip can go. -/
inductive Identified (bus : Bus) :
    List Event → Except IdentityError ChipIdentity → Prop where
  | unread {cause : Cause} :
      Identified bus [bus.idRead (.error cause)] (.error (.bus (.transport cause)))
  | mismatch {bytes : Vector UInt8 2} {id : UInt16}
      (value : ofBigEndian bytes.toList = id.toNat) (other : id ≠ expectedChipId) :
      Identified bus
        [bus.idRead (.ok bytes), ⟨.notify (.unexpectedChip id expectedChipId), ()⟩]
        (.error (.mismatch id))
  | unrevised {bytes : Vector UInt8 2} {cause : Cause}
      (value : ofBigEndian bytes.toList = expectedChipId.toNat) :
      Identified bus [bus.idRead (.ok bytes), bus.revisionRead (.error cause)]
        (.error (.bus (.transport cause)))
  | identified {bytes : Vector UInt8 2} {byte : Vector UInt8 1} {revision : UInt8}
      (value : ofBigEndian bytes.toList = expectedChipId.toNat)
      (revised : ofBigEndian byte.toList = revision.toNat) :
      Identified bus [bus.idRead (.ok bytes), bus.revisionRead (.ok byte)]
        (.ok ⟨expectedChipId, revision⟩)

/-- Reading a register is one transaction, and the outcome is the number that was answered. -/
theorem runs_read_ok {address : RegisterAddress} {width : UInt8}
    (valid : validWidth width = true) {outcome : Except BusError UInt32}
    (run : Runs (bus.read address width) events (.ok outcome)) :
    ∃ answer : Except Cause (Vector UInt8 width.toNat),
      events = [⟨.busRead bus.address (addressBytes address) width.toNat, answer⟩] ∧
        outcome = (answer.mapError .transport).map fun bytes =>
          UInt32.ofNat (ofBigEndian bytes.toList) := by
  rw [Bus.read, if_pos valid] at run
  obtain ⟨answer, _, split₁, run⟩ := runs_ask_bind.1 run
  obtain ⟨split₂, result⟩ := runs_done.1 run
  cases result
  subst split₂ split₁
  exact ⟨answer, rfl, rfl⟩

theorem ofBigEndian_vector_lt {count : Nat} (bytes : Vector UInt8 count) :
    ofBigEndian bytes.toList < byteRange count := by
  simpa using ofBigEndian_lt bytes.toList

theorem identified_of_runs {outcome : Except IdentityError ChipIdentity}
    (run : Runs bus.identify events (.ok outcome)) : bus.Identified events outcome := by
  obtain ⟨read, _, _, split₁, here, run⟩ := runs_bind_ok.1 run
  obtain ⟨answer, split₂, rfl⟩ := runs_read_ok (by decide) here
  rcases answer with cause | bytes
  · obtain ⟨split₃, result⟩ := runs_done.1 run
    cases result
    subst split₃ split₂ split₁
    exact .unread
  -- two bytes are a word of sixteen bits, so nothing is lost on the way
  have value : ofBigEndian bytes.toList =
      (UInt32.ofNat (ofBigEndian bytes.toList)).toUInt16.toNat := by
    have fits : ofBigEndian bytes.toList < 65536 := ofBigEndian_vector_lt bytes
    simp only [UInt32.toNat_toUInt16, UInt32.toNat_ofNat']
    omega
  dsimp only [Except.mapError, Except.map] at run
  split at run
  case isFalse other =>
    obtain ⟨_, split₃, run⟩ := runs_notify_bind.1 run
    obtain ⟨split₄, result⟩ := runs_done.1 run
    cases result
    subst split₄ split₃ split₂ split₁
    exact .mismatch value other
  case isTrue expected =>
    rw [expected] at value run
    obtain ⟨read, _, _, split₃, here, run⟩ := runs_bind_ok.1 run
    obtain ⟨answer, split₄, rfl⟩ := runs_read_ok (by decide) here
    rcases answer with cause | byte
    · obtain ⟨split₅, result⟩ := runs_done.1 run
      cases result
      subst split₅ split₄ split₃ split₂ split₁
      exact .unrevised value
    · obtain ⟨split₅, result⟩ := runs_done.1 run
      cases result
      subst split₅ split₄ split₃ split₂ split₁
      refine .identified value ?_
      have fits : ofBigEndian byte.toList < 256 := ofBigEndian_vector_lt byte
      simp only [UInt32.toNat_toUInt8, UInt32.toNat_ofNat']
      omega

end ImageSensor.Bus
