import ImageSensor.Proofs.Device.Smooth
import ImageSensor.Proofs.Device.Wiring
import ImageSensor.Proofs.Session.Completion

/-!
# How a Resume Ends

A resume that succeeds gives a device back as it was before it was suspended, with its sensor on if
anybody refers to it. One that fails stops the stream instead, gives the reference of the stream
back, and tells the caller what went wrong first: the standby write that stops the stream may be
lost as well, but that is not what the caller is told.

Power and bus agree on what goes wrong first. Each of them ends at the first call that fails and
returns the error of that call, so the error of the whole is the one that a scan of the trace from
the front comes upon.

## Main statements

- `Restored.firstFault?_eq`: bringing back a sensor fails with the first fault of its trace, and
  succeeds if there is none.
- `Stopped.managerCalls_eq`: stopping a stream gives back one reference.
- `Resumed.continued`, `Resumed.brokenOff`: the two ways in which a resume ends.
- `Session.resume_outcome`: one of them happens in every session whose device is suspended.
-/

namespace ImageSensor

open ImageSensor.Action

/-! ## §1 Faults of a trace -/

/-- The error of an outcome, if it is one. -/
def failure? {ε α : Type} : Except ε α → Option ε
  | .ok _ => none
  | .error e => some e

@[simp] theorem failure?_ok {ε α : Type} (result : α) :
    failure? (.ok result : Except ε α) = none := rfl

@[simp] theorem failure?_error {ε α : Type} (e : ε) :
    failure? (.error e : Except ε α) = some e := rfl

@[simp] theorem failure?_mapError {ε ε' α : Type} (f : ε → ε') (outcome : Except ε α) :
    failure? (outcome.mapError f) = (failure? outcome).map f := by
  cases outcome <;> rfl

/-- The error in which a failing call ends: one of the clock, of the supplies, or of a register
write. Failures of other calls are reported and passed over. -/
def Event.fault? : Event → Option DeviceError
  | ⟨.enableClock, (answer : Except Cause Unit)⟩ =>
    (failure? answer).map fun cause => .power (.clock cause)
  | ⟨.enableRegulators, (answer : Except Cause Unit)⟩ =>
    (failure? answer).map fun cause => .power (.regulators cause)
  | ⟨.busWrite _ _, (answer : Except Cause Unit)⟩ =>
    (failure? answer).map fun cause => .bus (.transport cause)
  | _ => none

/-- The error of the first call that fails in this way. -/
def firstFault? (events : List Event) : Option DeviceError :=
  events.findSome? Event.fault?

variable {events : List Event}

@[simp] theorem firstFault?_nil : firstFault? [] = none := rfl

@[simp] theorem firstFault?_cons (event : Event) (events : List Event) :
    firstFault? (event :: events) = event.fault?.or (firstFault? events) := by
  unfold firstFault?
  rw [List.findSome?_cons]
  cases event.fault? <;> rfl

/-- The first fault of a trace in two parts is that of the first part, if it has one. -/
@[simp] theorem firstFault?_append (first second : List Event) :
    firstFault? (first ++ second) = (firstFault? first).or (firstFault? second) :=
  List.findSome?_append

theorem Call.Incidental.fault?_eq_none {event : Event} (incidental : event.call.Incidental) :
    event.fault? = none := by
  obtain ⟨call, answer⟩ := event
  cases call with
  | busWrite | enableClock | enableRegulators => exact incidental.elim
  | _ => rfl

theorem firstFault?_part {action : Action Unit} {outcome : Except Trap Unit}
    (limited : action.Within Call.Incidental) (run : Runs action events outcome) :
    firstFault? events = none :=
  List.findSome?_eq_none_iff.2 fun event member => (limited.mem run event member).fault?_eq_none

/-- Powering up ends at the first fault. -/
theorem Sequencer.PoweredUp.firstFault?_eq {sequencer sequencer' : Sequencer}
    {outcome : Except PowerError Unit} (up : sequencer.PoweredUp events outcome sequencer') :
    firstFault? events = (failure? outcome).map .power := by
  cases up with
  | already on => rfl
  | clockFailed off prepared =>
    simp [firstFault?_part (prepare_within _) prepared, Event.fault?]
  | suppliesFailed off prepared reset =>
    simp [firstFault?_part (prepare_within _) prepared,
      firstFault?_part (drive_within _ _ _) reset, Event.fault?]
  | powered off prepared reset released =>
    simp [firstFault?_part (prepare_within _) prepared,
      firstFault?_part (drive_within _ _ _) reset,
      firstFault?_part (releaseReset_within _) released, Event.fault?]

/-- So do register writes in order. -/
theorem Bus.Wrote.firstFault?_eq {bus : Bus} {writes : List RegisterWrite}
    {outcome : Except BusError Unit} (wrote : bus.Wrote writes events outcome)
    (valid : ∀ write ∈ writes, validWidth write.width = true) :
    firstFault? events = (failure? outcome).map .bus := by
  induction wrote with
  | done => rfl
  | refused invalid => exact nomatch invalid.symm.trans (valid _ List.mem_cons_self)
  | failed _ => rfl
  | sent _ later ih => exact ih fun other member => valid other (List.mem_cons_of_mem _ member)

namespace Device

variable {device device' : Device} {outcome : Except DeviceError Unit}

/-- All writes that program a sensor have a valid width, so only the bus can refuse them. -/
theorem Programmed.firstFault?_eq {written : Except BusError Unit}
    (programmed : device.Programmed events written) :
    firstFault? events = (failure? written).map .bus := by
  have tableValid := validWidth_table device.mode.table device.configuration.orientation
  cases programmed with
  | tableFailed table => exact table.firstFault?_eq tableValid
  | restoreFailed table replay restored =>
    have first := table.firstFault?_eq tableValid
    have second := restored.firstFault?_eq (ControlBank.validWidth_of_writesOf replay)
    simp [first, second, Event.fault?]
  | enabled table replay restored enable =>
    have first := table.firstFault?_eq tableValid
    have second := restored.firstFault?_eq (ControlBank.validWidth_of_writesOf replay)
    have third := enable.firstFault?_eq (by decide)
    simp [first, second, third, Event.fault?]

theorem StreamedOn.firstFault?_eq (on : device.StreamedOn events outcome device') :
    firstFault? events = failure? outcome := by
  cases on with
  | unpowered up => exact up.firstFault?_eq
  | programmed up programmed => simp [up.firstFault?_eq, programmed.firstFault?_eq]

/-- Bringing back a sensor fails with the first fault there is, and succeeds if there is none. -/
theorem Restored.firstFault?_eq (restored : device.Restored events outcome device') :
    firstFault? events = failure? outcome := by
  cases restored with
  | streaming streaming on => exact on.firstFault?_eq
  | powered stopped used up => rw [up.firstFault?_eq, failure?_mapError]
  | idle stopped unused => rfl

end Device

/-! ## §2 Calls to the power manager -/

/-- A call that asks the power manager for a reference, or gives one back. -/
def Call.asksManager : Call → Bool
  | .acquire | .release => true
  | _ => false

/-- The calls to the power manager in a trace, in order. -/
def managerCalls (events : List Event) : List Call :=
  (events.map Event.call).filter Call.asksManager

@[simp] theorem managerCalls_nil : managerCalls [] = [] := rfl

@[simp] theorem managerCalls_cons (event : Event) (events : List Event) :
    managerCalls (event :: events) =
      if event.call.asksManager then event.call :: managerCalls events
      else managerCalls events := by
  simp [managerCalls, List.filter_cons]

@[simp] theorem managerCalls_append (first second : List Event) :
    managerCalls (first ++ second) = managerCalls first ++ managerCalls second := by
  simp [managerCalls]

/-- Nobody is asked for a reference by calls that touch no resource. -/
theorem managerCalls_eq_nil (idle : ∀ event ∈ events, event.call.Idle) :
    managerCalls events = [] := by
  simp only [managerCalls, List.filter_eq_nil_iff, List.mem_map]
  rintro _ ⟨event, member, rfl⟩ asks
  obtain ⟨taking, returning⟩ := idle event member .reference
  cases call : event.call with
  | acquire => exact taking call
  | release => exact returning call
  | _ => simp [call, Call.asksManager] at asks

theorem managerCalls_part {action : Action Unit} {outcome : Except Trap Unit}
    (limited : action.Within Call.Incidental) (run : Runs action events outcome) :
    managerCalls events = [] :=
  managerCalls_eq_nil fun event member => (limited.mem run event member).idle

namespace Sequencer

variable {sequencer sequencer' : Sequencer}

theorem PoweredUp.managerCalls_eq_nil {outcome : Except PowerError Unit}
    (up : sequencer.PoweredUp events outcome sequencer') : managerCalls events = [] := by
  cases up with
  | already on => rfl
  | clockFailed off prepared =>
    simp [managerCalls_part (prepare_within _) prepared, Call.asksManager]
  | suppliesFailed off prepared reset =>
    simp [managerCalls_part (prepare_within _) prepared,
      managerCalls_part (drive_within _ _ _) reset, Call.asksManager]
  | powered off prepared reset released =>
    simp [managerCalls_part (prepare_within _) prepared,
      managerCalls_part (drive_within _ _ _) reset,
      managerCalls_part (releaseReset_within _) released, Call.asksManager]

theorem PoweredDown.managerCalls_eq_nil (down : sequencer.PoweredDown events sequencer') :
    managerCalls events = [] := by
  cases down with
  | already off => rfl
  | lowered on stopped reset slept disabled =>
    simp [managerCalls_part (drive_within _ _ _) stopped,
      managerCalls_part (drive_within _ _ _) reset,
      managerCalls_part (selectPins_within _) slept,
      managerCalls_part (drive_within _ _ _) disabled, Call.asksManager]

end Sequencer

namespace Device

variable {device device' : Device} {outcome : Except DeviceError Unit}

/-- Dropping a reference that is held gives one back. -/
theorem Released.managerCalls_eq (released : device.Released events device')
    (used : device.users ≠ 0) : managerCalls events = [.release] := by
  cases released with
  | none unused => exact absurd unused used
  | kept used shared => rfl
  | last one down => simp [down.managerCalls_eq_nil, Call.asksManager]

/-- Stopping a stream gives back its reference; there is nothing else to stop. -/
theorem Stopped.managerCalls_eq (stopped : device.Stopped events device')
    (holds : device.Holds device.demand) :
    managerCalls events = if device.stream = .streaming then [.release] else [] := by
  cases stopped with
  | idle stopped => simp [stopped]
  | stopped streaming halted released =>
    have used : device.users ≠ 0 := by
      intro unused
      have counted := holds.users
      have positive := demand_pos streaming
      simp only [unused, UInt32.toNat_zero] at counted
      omega
    have silent : managerCalls _ = [] :=
      ImageSensor.managerCalls_eq_nil fun event member => (halted.exchange event member).idle
    simp [silent, released.managerCalls_eq used, streaming, Call.asksManager]

theorem StreamedOn.managerCalls_eq_nil (on : device.StreamedOn events outcome device') :
    managerCalls events = [] := by
  cases on with
  | unpowered up => exact up.managerCalls_eq_nil
  | programmed up programmed =>
    have silent : managerCalls _ = [] :=
      ImageSensor.managerCalls_eq_nil fun event member => (programmed.exchange event member).idle
    simp [up.managerCalls_eq_nil, silent]

theorem Restored.managerCalls_eq_nil (restored : device.Restored events outcome device') :
    managerCalls events = [] := by
  cases restored with
  | streaming streaming on => exact on.managerCalls_eq_nil
  | powered stopped used up => exact up.managerCalls_eq_nil
  | idle stopped unused => rfl

/-! ## §3 How a resume ends -/

/-- The device goes on as before the suspension. Only its sensor has changed: it is on if anybody
refers to it. -/
structure Continued (device : Device) (events : List Event) (device' : Device) : Prop where
  frame : ∃ power, device' =
    { device with suspended := false, sequencer := { device.sequencer with power } }
  powered : device'.sequencer.power = .on ↔ 0 < device'.users
  references : managerCalls events = []
  faultless : firstFault? events = none

/-- The resume has failed. The stream is stopped, and at most the reference of an explicit request
is left. -/
structure BrokenOff (device : Device) (events : List Event) (e : DeviceError)
    (device' : Device) : Prop where
  frame : ∃ power, device' =
    { device with
      suspended := false
      stream := .stopped
      users := if device.powerRequested then 1 else 0
      sequencer := { device.sequencer with power } }
  references : managerCalls events = if device.stream = .streaming then [.release] else []
  fault : firstFault? events = some e

/-- Where the wiring is kept, sequencers differ in their power only. -/
theorem eq_with_power {sequencer sequencer' : Sequencer}
    (wired : sequencer'.wiring = sequencer.wiring) :
    sequencer' = { sequencer with power := sequencer'.power } :=
  congrArg (Sequencer.mk · sequencer'.power) wired

theorem Resumed.continued (resumed : device.Resumed events (.ok ()) device')
    (asleep : device.suspended = true) (consistent : device.Consistent) :
    device.Continued events device' := by
  have holds' := (resumed.consistent consistent).holds
  have wired : device'.sequencer.wiring = device.sequencer.wiring := resumed.wiring_eq
  cases resumed with
  | already awake => exact nomatch asleep.symm.trans awake
  | resumed _ restored =>
    refine ⟨?_, ⟨fun on => ?_, restored.power_eq_on⟩,
      by simp [restored.managerCalls_eq_nil, Call.asksManager],
      by simp [restored.firstFault?_eq, Event.fault?]⟩
    · obtain ⟨sequencer, rfl⟩ := restored.frame
      exact ⟨sequencer.power, by rw [← eq_with_power wired]⟩
    · have positive := (holds'.powered on).1
      rw [← holds'.users] at positive
      exact UInt32.lt_iff_toNat_lt.2 positive

theorem Resumed.brokenOff {e : DeviceError} (resumed : device.Resumed events (.error e) device')
    (consistent : device.Consistent) : device.BrokenOff events e device' := by
  have counted := (resumed.consistent consistent).holds.users
  have wired : device'.sequencer.wiring = device.sequencer.wiring := resumed.wiring_eq
  cases resumed with
  | failed asleep restored stopped =>
    have quiet := restored.managerCalls_eq_nil
    have faulty := restored.firstFault?_eq
    have holds := restored.holds (consistent.awoken asleep) rfl demand_pos
    obtain ⟨_, rfl⟩ := restored.frame
    have dropped := stopped.managerCalls_eq holds
    have idle := stopped.stream_eq
    obtain ⟨sequencer, users, _, rfl⟩ := stopped.frame
    cases idle
    refine ⟨⟨sequencer.power, ?_⟩, ?_, ?_⟩
    · -- with the stream stopped, the only reference asked for is that of the request
      have left : users = if device.powerRequested then 1 else 0 := by
        refine UInt32.toNat_inj.1 (counted.trans ?_)
        simp [demand, apply_ite UInt32.toNat]
      rw [← eq_with_power wired, left]
    · simp [quiet, dropped, Call.asksManager]
    · -- the cleanup comes behind the fault, whatever goes wrong in it
      simp [faulty, Event.fault?]

end Device

/-! ## §4 Sessions -/

namespace Session

open Device

variable {configuration : Configuration} {wiring : Wiring} {trace : List Event}
  {steps : List Step} {device : Device}

/-- In every session whose device is suspended, a resume ends with a reply. If it succeeds, the
device goes on as before, with its sensor on if anybody refers to it, and the power manager was not
asked for anything. If it fails, the stream is stopped and its reference given back, only that of an
explicit request is left, and the error is that of the first call that failed. -/
theorem resume_outcome (session : Session configuration wiring trace steps device)
    (asleep : device.suspended = true) {ended : Except Trap (Reply × Device)}
    (run : Runs (device.perform .resume) events ended) :
    ∃ outcome device', ended = .ok (.completed outcome, device') ∧
      match outcome with
      | .ok () => device.Continued events device'
      | .error e => device.BrokenOff events e device' := by
  have consistent := session.consistent
  obtain ⟨⟨reply, device'⟩, rfl⟩ := (session.operation_total .resume).exists_ok run
  cases performed_of_runs run with
  | @resume _ outcome _ resumed =>
    refine ⟨outcome, device', rfl, ?_⟩
    cases outcome with
    | ok _ => exact resumed.continued asleep consistent
    | error e => exact resumed.brokenOff consistent

/-- Power is requested and the stream started; then the sensor sleeps, and does not take any write
when it is to wake up. -/
def muteResume : List (FaultPlan × Operation) :=
  [({}, .setPower true), ({}, .start), ({}, .suspend), ({ allWrites := true }, .resume)]

/-- The sensor is powered but does not take the orientation. The standby write fails as well, which
is not what the caller is told, and one reference goes back. -/
theorem outcome_mute_resume :
    ∃ trace steps events device device', Session {} ⟨true, true, true⟩ trace steps device ∧
      device.suspended = true ∧ device.stream = .streaming ∧ device.users = 2 ∧
      Runs (device.perform .resume) events
        (.ok (.completed (.error (.bus brokenWrite)), device')) ∧
      (events.filterMap Event.fault?).length = 2 ∧
      device.BrokenOff events (.bus brokenWrite) device' ∧ device'.users = 1 := by
  obtain ⟨_, _, device', session, shown⟩ := exists_session_of_rehearse {} ⟨true, true, true⟩
    muteResume
    (fun _ steps _ => steps.getLast?.any fun step =>
      step.operation = .resume && step.before.suspended && step.before.stream = .streaming &&
        step.before.users = 2 && step.before.powerRequested &&
        (step.events.filterMap Event.fault?).length = 2 && step.reply.isBroken)
    (by decide +kernel)
  cases session with
  | created run => cases shown
  | @performed trace events steps device _ operation reply session run =>
    simp only [List.getLast?_concat, Option.any_some, Bool.and_eq_true, decide_eq_true_eq] at shown
    obtain ⟨⟨⟨⟨⟨⟨rfl, asleep⟩, streaming⟩, users⟩, requested⟩, faults⟩, broken⟩ := shown
    obtain rfl := Reply.eq_of_isBroken broken
    obtain ⟨_, _, ended, brokenOff⟩ := resume_outcome session asleep run
    cases ended
    obtain ⟨_, same⟩ := brokenOff.frame
    exact ⟨trace, steps, events, device, device', session, asleep, streaming, users, run, faults,
      brokenOff, by rw [same, requested]; rfl⟩

end Session

end ImageSensor
