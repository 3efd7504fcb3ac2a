import ImageSensor.Proofs.Device.Wiring
import ImageSensor.Proofs.Session.Accounting

/-!
# Failed Requests

A request for power or for the stream that fails leaves no trace in the device, wherever it fails: a
reference is refused, the sensor cannot be powered, or a write of the start sequence is lost. What
the request took is given back. Only the sensor may be in another power state than before, and even
that only as far as other references allow it.

## Main statements

- `Undone`: what is left of a request that failed.
- `Started.undone`, `PowerSet.undone`: a failed start, and a failed request for power.
- `Session.failed_request_undone`: the same in any session, with the accounts of the call.
-/

namespace ImageSensor

open ImageSensor.Action

namespace Device

/-! ## §1 What is left of a failed request -/

/-- The device is as it was, but for the power of its sensor. -/
structure Undone (device device' : Device) : Prop where
  frame : ∃ power, device' = { device with sequencer := { device.sequencer with power } }
  /-- A sensor is not turned off by a request that fails. -/
  stays_on : device.sequencer.power = .on → device'.sequencer.power = .on
  /-- Nor is it left on for nobody. -/
  off_of_unused : device'.users = 0 → device'.sequencer.power = .off

variable {device device' : Device} {events : List Event} {outcome : Except DeviceError Unit}

/-- A sensor without references is off. -/
theorem Holds.off_of_unused {count : Nat} (holds : device.Holds count)
    (unused : device.users = 0) : device.sequencer.power = .off := by
  cases power : device.sequencer.power with
  | off => rfl
  | on =>
    have counted := holds.users
    have positive := (holds.powered power).1
    rw [unused] at counted
    exact absurd positive (counted ▸ Nat.lt_irrefl 0)

theorem Undone.refl {count : Nat} (holds : device.Holds count) : device.Undone device :=
  ⟨⟨device.sequencer.power, rfl⟩, id, holds.off_of_unused⟩

theorem Acquired.undone {e : DeviceError} (acquired : device.Acquired events (.error e) device')
    {count : Nat} (holds : device.Holds count) : device.Undone device' := by
  obtain rfl := acquired.of_error
  exact .refl holds

/-- A reference that was taken and dropped again, with the sensor left on in between. -/
theorem Released.undone {first second : List Event} {device₁ : Device}
    (acquired : device.Acquired first (.ok ()) device₁) (awake : device₁.suspended = false)
    (released : device₁.Released second device') {count : Nat} (holds : device.Holds count) :
    device.Undone device' := by
  obtain ⟨holds₁, powered⟩ := acquired.holds holds
  obtain ⟨holds', kept⟩ := released.holds holds₁
  have wired : device'.wiring = device.wiring := released.wiring_eq.trans acquired.wiring_eq
  have counted : device'.users = device.users :=
    UInt32.toNat_inj.1 (holds'.users.trans holds.users.symm)
  obtain ⟨_, _, rfl⟩ := acquired.frame
  obtain ⟨sequencer, _, rfl⟩ := released.frame
  refine ⟨⟨sequencer.power, ?_⟩, fun on => ?_, holds'.off_of_unused⟩
  · have same : sequencer = { device.sequencer with power := sequencer.power } :=
      congrArg (Sequencer.mk · sequencer.power) wired
    exact same ▸ counted ▸ rfl
  · -- a sensor that was on has another reference, so dropping this one does not touch it
    have shared := kept (holds.powered on).1
    exact (congrArg Sequencer.power shared).trans (powered awake)

/-! ## §2 Start and power requests -/

/-- A start that fails leaves the device as it was. -/
theorem Started.undone {e : DeviceError} (started : device.Started events (.error e) device')
    {count : Nat} (holds : device.Holds count) : device.Undone device' := by
  cases started with
  | refused stopped acquired => exact acquired.undone holds
  | failed stopped acquired awake on released =>
    -- the reference has powered the sensor, so switching the stream on changes nothing
    have powered := (acquired.holds holds).2
    obtain ⟨_, _, rfl⟩ := acquired.frame
    cases on.eq_of_on (powered awake)
    exact released.undone acquired awake holds

theorem PowerSet.undone {on : Bool} {e : DeviceError}
    (set : device.PowerSet on events (.error e) device') {count : Nat}
    (holds : device.Holds count) : device.Undone device' := by
  cases set with
  | refused fresh acquired => exact acquired.undone holds

/-- Where the references held are the same, as many were granted as given back. -/
theorem Balanced.grants_eq (balanced : device.Balanced events device')
    (undone : device.Undone device') :
    events.countP (·.takes .reference) = events.countP (·.returns .reference) := by
  have kept := balanced .reference
  obtain ⟨⟨_, rfl⟩, -, -⟩ := undone
  exact outstanding_eq_zero_iff.1 (kept.trans (Int.sub_self _))

/-! ## §3 Refused references -/

/-- The power manager refuses a reference, and no other call is made but to write to the log. -/
def OnlyRefused (events : List Event) (cause : Cause) : Prop :=
  ∃ notices, events = notices ++ [⟨.acquire, Except.error cause⟩] ∧
    ∀ event ∈ notices, ∃ notice, event.call = .notify notice

theorem Acquired.onlyRefused {cause : Cause}
    (acquired : device.Acquired events (.error (.acquire cause)) device') :
    events = [⟨.acquire, Except.error cause⟩] := by
  cases acquired with
  | refused => rfl

/-- Making the sensor stream fails for want of power, or on the bus. -/
theorem StreamedOn.ne_refused {cause : Cause}
    (on : device.StreamedOn events outcome device') : outcome ≠ .error (.acquire cause) := by
  rintro rfl
  -- the outcome is made a variable, so that the cases can be told apart
  generalize ended : Except.error (DeviceError.acquire cause) = outcome at on
  cases on with
  | unpowered up => cases ended
  | @programmed _ _ _ written up programmed => cases written <;> cases ended

theorem Started.onlyRefused {cause : Cause}
    (started : device.Started events (.error (.acquire cause)) device') :
    OnlyRefused events cause := by
  cases started with
  | refused stopped acquired =>
    rw [acquired.onlyRefused]
    exact ⟨[_], rfl, by simp⟩
  | failed stopped acquired awake on released => exact absurd rfl on.ne_refused

theorem PowerSet.onlyRefused {on : Bool} {cause : Cause}
    (set : device.PowerSet on events (.error (.acquire cause)) device') :
    OnlyRefused events cause := by
  cases set with
  | refused fresh acquired =>
    rw [acquired.onlyRefused]
    exact ⟨[], rfl, nofun⟩

end Device

/-! ## §4 Sessions -/

namespace Session

open Device

variable {configuration : Configuration} {wiring : Wiring} {trace events : List Event}
  {steps : List Step} {device device' : Device} {operation : Operation}

/-- In every session, a start or a request for power that fails leaves the device as it was, but for
the power of its sensor: one that was on is still on, and one that nobody refers to is off. The call
has given back as many references as it was granted. If it failed because a reference was refused,
asking for it is the only call that was made. -/
theorem failed_request_undone (session : Session configuration wiring trace steps device)
    (request : operation = .start ∨ operation = .setStream true ∨ operation = .setPower true)
    {e : DeviceError}
    (run : Runs (device.perform operation) events (.ok (.completed (.error e), device'))) :
    (∃ power, device' = { device with sequencer := { device.sequencer with power } }) ∧
      events.countP (·.takes .reference) = events.countP (·.returns .reference) ∧
      (device.sequencer.power = .on → device'.sequencer.power = .on) ∧
      (device'.users = 0 → device'.sequencer.power = .off) ∧
      ∀ cause, e = .acquire cause → OnlyRefused events cause := by
  have holds := session.consistent.holds
  have performed := performed_of_runs run
  -- switching the stream on is starting it, so there are two kinds of request
  have undone : device.Undone device' ∧ ∀ cause, e = .acquire cause → OnlyRefused events cause := by
    rcases request with rfl | rfl | rfl
    · cases performed with
      | start started =>
        exact ⟨started.undone holds, fun _ refused => (refused ▸ started).onlyRefused⟩
    · cases performed with
      | streamOn started =>
        exact ⟨started.undone holds, fun _ refused => (refused ▸ started).onlyRefused⟩
    · cases performed with
      | setPower set => exact ⟨set.undone holds, fun _ refused => (refused ▸ set).onlyRefused⟩
  obtain ⟨undone, refused⟩ := undone
  exact ⟨undone.frame, performed.balanced.grants_eq undone, undone.stays_on, undone.off_of_unused,
    refused⟩

/-- With power requested, a start fails in the middle of the register table. -/
def brokenStart : List (FaultPlan × Operation) :=
  [({}, .setPower true), ({ writeAt := [60] }, .start)]

/-- The start that fails in the middle of the table leaves the sensor on for the request, and gives
the reference it was granted back. -/
theorem failed_broken_start :
    ∃ trace steps events device device', Session {} ⟨true, true, true⟩ trace steps device ∧
      Runs (device.perform .start) events
        (.ok (.completed (.error (.bus brokenWrite)), device')) ∧
      (∃ power, device' = { device with sequencer := { device.sequencer with power } }) ∧
      events.countP (·.takes .reference) = 1 ∧ events.countP (·.returns .reference) = 1 ∧
      device'.sequencer.power = .on := by
  obtain ⟨_, _, device', session, shown⟩ := exists_session_of_rehearse {} ⟨true, true, true⟩
    brokenStart
    (fun _ steps _ => steps.getLast?.any fun step =>
      step.operation = .start && step.before.sequencer.power = .on &&
        step.events.countP (·.takes .reference) = 1 && step.reply.isBroken)
    (by decide +kernel)
  cases session with
  | created run => cases shown
  | @performed trace events steps device _ operation reply session run =>
    simp only [List.getLast?_concat, Option.any_some, Bool.and_eq_true, decide_eq_true_eq] at shown
    obtain ⟨⟨⟨rfl, powered⟩, granted⟩, broken⟩ := shown
    obtain rfl := Reply.eq_of_isBroken broken
    obtain ⟨frame, counted, on, -, -⟩ := failed_request_undone session (.inl rfl) run
    exact ⟨trace, steps, events, device, device', session, run, frame, granted,
      counted.symm.trans granted, on powered⟩

end Session

end ImageSensor
