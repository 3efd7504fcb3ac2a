import ImageSensor.Proofs.Session.Completion

/-!
# Sleeping Sensors Are Left Alone

A suspended device is off, and only a resume brings it back. Whatever else is asked of it in the
meantime is bookkeeping: references are taken from the power manager or given back to it, and no
pin is driven, no supply or clock is switched, no byte goes out on the bus.

Every operation has a reason of its own for this. Starting and requesting power count a reference
without powering the sensor; dropping the last one finds the sensor off already; stopping skips the
standby write; and a sensor that is off is not written to when its controls change.

## Main statements

- `Performed.rests`: every operation but a resume leaves a sleeping device asleep and off.
- `Detached.rests`: so does taking it apart.
- `Session.quarantined`: what can happen in a session while its device is suspended.
-/

namespace ImageSensor

open ImageSensor.Action

/-! ## §1 Bookkeeping -/

/-- A call to the power manager or to the log: it does not reach the sensor. -/
def Call.Bookkeeping : Call → Prop
  | .acquire | .release | .notify _ => True
  | .busWrite _ _ | .busRead _ _ _ | .drive _ _ | .delay _ | .setClockRate _ | .clockRate
  | .enableClock | .disableClock | .enableRegulators | .disableRegulators | .selectPins _ => False

/-- A call that is both bus traffic and beside the point can only be a notice. -/
theorem Call.Exchange.bookkeeping {call : Call} (exchange : call.Exchange)
    (incidental : call.Incidental) : call.Bookkeeping := by
  cases call with
  | notify notice => trivial
  | busWrite | busRead => exact incidental.elim
  | _ => exact exchange.elim

namespace Device

variable {device device₁ device' : Device} {events first second : List Event}
  {outcome : Except DeviceError Unit}

/-- Nothing but bookkeeping is asked of the platform, and power and suspension stay as they are. -/
structure Rests (device : Device) (events : List Event) (device' : Device) : Prop where
  calls : ∀ event ∈ events, event.call.Bookkeeping
  sequencer : device'.sequencer = device.sequencer
  suspended : device'.suspended = device.suspended

theorem Rests.refl (device : Device) : device.Rests [] device :=
  ⟨nofun, rfl, rfl⟩

theorem Rests.trans (one : device.Rests first device₁) (two : device₁.Rests second device') :
    device.Rests (first ++ second) device' where
  calls := List.forall_mem_append.2 ⟨one.calls, two.calls⟩
  sequencer := two.sequencer.trans one.sequencer
  suspended := two.suspended.trans one.suspended

theorem Rests.noticed {notice : Notice} (rests : device.Rests events device') :
    device.Rests (⟨.notify notice, ()⟩ :: events) device' where
  calls := List.forall_mem_cons.2 ⟨trivial, rests.calls⟩
  sequencer := rests.sequencer
  suspended := rests.suspended

theorem Rests.off (rests : device.Rests events device') (off : device.sequencer.power = .off) :
    device'.sequencer.power = .off := by
  rw [rests.sequencer, off]

/-! ## §2 References of a sleeping device -/

/-- A reference that is taken while asleep is only counted. -/
theorem Acquired.rests (acquired : device.Acquired events outcome device')
    (asleep : device.suspended = true) : device.Rests events device' := by
  cases acquired with
  | refused | deferred => exact ⟨by simp [Call.Bookkeeping], rfl, rfl⟩
  | unpowered awake up | powered awake up counted => exact nomatch asleep.symm.trans awake

/-- Nothing has to be done to power down a sensor that is off. -/
theorem Released.rests (released : device.Released events device')
    (off : device.sequencer.power = .off) : device.Rests events device' := by
  cases released with
  | none unused => exact .refl device
  | kept used shared => exact ⟨by simp [Call.Bookkeeping], rfl, rfl⟩
  | last one down =>
    cases down with
    | already off => exact ⟨by simp [Call.Bookkeeping], rfl, rfl⟩
    | lowered on stopped reset slept disabled => exact nomatch off.symm.trans on

theorem PowerSet.rests {on : Bool} (set : device.PowerSet on events outcome device')
    (asleep : device.suspended = true) (off : device.sequencer.power = .off) :
    device.Rests events device' := by
  cases set with
  | unchanged => exact .refl device
  | refused fresh acquired => exact acquired.rests asleep
  | requested fresh acquired =>
    have rests := acquired.rests asleep
    exact ⟨rests.calls, rests.sequencer, rests.suspended⟩
  | withdrawn requested released =>
    have rests := released.rests off
    exact ⟨rests.calls, rests.sequencer, rests.suspended⟩

/-! ## §3 Operations on a sleeping device -/

theorem Probed.eq_of_asleep {outcome : Except DeviceError ChipIdentity}
    (probed : device.Probed events outcome device') (asleep : device.suspended = true) :
    events = [] ∧ outcome = .error .suspended ∧ device' = device := by
  cases probed with
  | asleep => exact ⟨rfl, rfl, rfl⟩
  | unpowered awake | rejected awake | detected awake => exact nomatch asleep.symm.trans awake

theorem Started.rests (started : device.Started events outcome device')
    (asleep : device.suspended = true) : device.Rests events device' := by
  cases started with
  | already streaming => exact .refl device
  | refused stopped acquired => exact (acquired.rests asleep).noticed
  | deferred stopped acquired asleep₁ =>
    refine Rests.noticed ((acquired.rests asleep).trans ?_)
    exact ⟨by simp [Call.Bookkeeping], rfl, rfl⟩
  | failed stopped acquired awake on released | started stopped acquired awake on =>
    -- taking a reference does not wake the device
    have still := (acquired.rests asleep).suspended
    exact nomatch awake.symm.trans (still.trans asleep)

theorem Stopped.rests (stopped : device.Stopped events device')
    (asleep : device.suspended = true) (off : device.sequencer.power = .off) :
    device.Rests events device' := by
  cases stopped with
  | idle stopped => exact .refl device
  | stopped streaming halted released =>
    cases halted with
    | untouched idle =>
      have rests := released.rests off
      exact Rests.noticed ⟨rests.calls, rests.sequencer, rests.suspended⟩
    | standby streaming awake stood => exact nomatch asleep.symm.trans awake

theorem Suspended.rests (suspended : device.Suspended events device')
    (asleep : device.suspended = true) : device.Rests events device' := by
  cases suspended with
  | already asleep => exact .refl device
  | suspended awake halted down => exact nomatch asleep.symm.trans awake

/-- Control writes are kept back from a sensor that is off. -/
theorem Tuned.rests (tuned : device.Tuned events device') (off : device.sequencer.power = .off) :
    device.Rests events device' where
  calls := by
    have unreachable : device.isLive = false := by simp [Device.isLive, off]
    intro event member
    exact (tuned.exchange event member).bookkeeping (tuned.unreachable unreachable event member)
  sequencer := tuned.sequencer
  suspended := tuned.suspended

/-- Every operation but a resume leaves a sleeping device asleep and off. -/
theorem Performed.rests {operation : Operation} {reply : Reply}
    (performed : device.Performed operation events reply device')
    (asleep : device.suspended = true) (off : device.sequencer.power = .off)
    (other : operation ≠ .resume) : device.Rests events device' := by
  cases performed with
  | probe probed =>
    obtain ⟨rfl, -, rfl⟩ := probed.eq_of_asleep asleep
    exact .refl _
  | start started | streamOn started => exact started.rests asleep
  | stop stopped | streamOff stopped => exact stopped.rests asleep off
  | setPower set => exact set.rests asleep off
  | suspend suspended => exact suspended.rests asleep
  | resume resumed => exact absurd rfl other
  | tryFormat => exact (tuned_trialFormat device _).rests off
  | useFormat selected => exact selected.tuned.rests off
  | setControl adjusted => exact adjusted.tuned_of_set.rests off
  | setControlRaw adjusted => exact adjusted.tuned_of_setRaw.rests off
  | setControls set => exact set.tuned.rests off

/-! ## §4 Taking a sleeping device apart -/

theorem Dropped.rests {count : Nat} (dropped : Dropped count device events device')
    (off : device.sequencer.power = .off) : device.Rests events device' := by
  induction dropped with
  | none => exact .refl _
  | next released later ih =>
    have rests := released.rests off
    exact rests.trans (ih (rests.off off))

/-- The references are given back, and the pins are those that were wired. -/
theorem Detached.rests {wiring : Wiring} (detached : device.Detached events wiring)
    (asleep : device.suspended = true) (off : device.sequencer.power = .off) :
    (∀ event ∈ events, event.call.Bookkeeping) ∧ wiring = device.sequencer.wiring := by
  cases detached with
  | detached stopped dropped down =>
    have rests₁ := stopped.rests asleep off
    have rests := rests₁.trans (dropped.rests (rests₁.off off))
    cases down with
    | already off' =>
      rw [List.append_nil]
      exact ⟨rests.calls, by rw [rests.sequencer]⟩
    | lowered on => exact nomatch (rests.off off).symm.trans on

end Device

/-! ## §5 Sessions -/

namespace Session

open Device

variable {configuration : Configuration} {wiring : Wiring} {trace : List Event}
  {steps : List Step} {device : Device}

/-- While a device is suspended it is off, and whatever is done with it but to resume it asks the
platform for nothing but references. The operation ends with a reply, and leaves the device off and
suspended; probing fails at once. Taking the device apart gives back the pins, just as quietly. -/
theorem quarantined (session : Session configuration wiring trace steps device)
    (asleep : device.suspended = true) :
    device.sequencer.power = .off ∧
      (∀ operation events outcome, operation ≠ .resume →
        Runs (device.perform operation) events outcome →
          (∀ event ∈ events, event.call.Bookkeeping) ∧
            ∃ reply device', outcome = .ok (reply, device') ∧
              device'.sequencer.power = .off ∧ device'.suspended = true ∧
              (operation = .probe →
                events = [] ∧ reply = .identified (.error .suspended) ∧ device' = device)) ∧
      (∀ events outcome, Runs device.detach events outcome →
        (∀ event ∈ events, event.call.Bookkeeping) ∧ outcome = .ok device.sequencer.wiring) := by
  have off := session.consistent.off_of_asleep asleep
  refine ⟨off, ?_, ?_⟩
  · intro operation events outcome other run
    obtain ⟨reply, device', rfl, -⟩ := session.exists_reply run
    have performed := performed_of_runs run
    have rests := performed.rests asleep off other
    refine ⟨rests.calls, reply, device', rfl, rests.off off, rests.suspended.trans asleep, ?_⟩
    rintro rfl
    cases performed with
    | probe probed =>
      obtain ⟨silent, rfl, same⟩ := probed.eq_of_asleep asleep
      exact ⟨silent, rfl, same⟩
  · intro events outcome run
    obtain ⟨returned, rfl⟩ := device.detach_total.exists_ok run
    obtain ⟨calls, rfl⟩ := (detached_of_runs run).rests asleep off
    exact ⟨calls, rfl⟩

/-- A streaming sensor for which power is requested too is sent to sleep, although it does not go
into standby any more; its controls are then changed and its stream is stopped. -/
def disturbedSleep : List (FaultPlan × Operation) :=
  [({}, .setPower true), ({}, .start), ({ allWrites := true }, .suspend),
    ({}, .setControl .exposure 100), ({}, .stop)]

/-- The sleeping sensor of this session still holds the reference of the request. Withdrawing the
request is bookkeeping. -/
theorem quarantined_disturbed :
    ∃ trace steps device, Session {} ⟨true, true, true⟩ trace steps device ∧
      device.suspended = true ∧ device.users = 1 ∧ device.sequencer.power = .off ∧
      ∀ events outcome, Runs (device.perform (.setPower false)) events outcome →
        ∀ event ∈ events, event.call.Bookkeeping := by
  have seen := exists_session_of_rehearse {} ⟨true, true, true⟩ disturbedSleep
    (fun _ _ device => device.suspended && device.users = 1) (by decide +kernel)
  obtain ⟨trace, steps, device, session, shown⟩ := seen
  simp only [Bool.and_eq_true, decide_eq_true_eq] at shown
  obtain ⟨asleep, users⟩ := shown
  obtain ⟨off, quiet, -⟩ := quarantined session asleep
  exact ⟨trace, steps, device, session, asleep, users, off,
    fun events outcome run => (quiet (.setPower false) events outcome nofun run).1⟩

end Session

end ImageSensor
