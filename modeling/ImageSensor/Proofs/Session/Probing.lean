import ImageSensor.Proofs.Session.FailedRequests
import ImageSensor.Proofs.Session.Quarantine
import ImageSensor.Proofs.Session.Resuming
import ImageSensor.Proofs.Session.Transactions

/-!
# What a Probe Concludes

Probing takes a power reference for as long as it reads the identity of the chip. The device it
leaves behind is the one it found: the reference is dropped whatever was read, and a sensor that was
powered only for the probe is off again.

What the caller is told can be read off the trace. Three things in it decide the verdict: what the
power manager was asked and answered, the first fault of powering up, and what was read. They decide
it completely, so a probe succeeds for one reason only, and each of its failures has its own.

## Main statements

- `Concludes`: the verdict that follows from what the platform answered.
- `Concludes.unique`: no trace leads to two verdicts.
- `Probed.eq_of_powered`: a probe leaves the device as it was.
- `Probed.concludes`: an awake probe concludes what follows from its trace.
- `Session.probe_verdict`: both in any session.
-/

namespace ImageSensor

open ImageSensor.Action

variable {events : List Event}

/-! ## §1 Answers of the power manager -/

/-- The calls to the power manager in a trace, with their answers. -/
def managerEvents (events : List Event) : List Event :=
  events.filter (·.call.asksManager)

@[simp] theorem managerEvents_nil : managerEvents [] = [] := rfl

@[simp] theorem managerEvents_cons (event : Event) (events : List Event) :
    managerEvents (event :: events) =
      if event.call.asksManager then event :: managerEvents events else managerEvents events :=
  List.filter_cons

@[simp] theorem managerEvents_append (first second : List Event) :
    managerEvents (first ++ second) = managerEvents first ++ managerEvents second :=
  List.filter_append first second

theorem map_call_managerEvents (events : List Event) :
    (managerEvents events).map Event.call = managerCalls events := by
  rw [managerEvents, managerCalls, List.filter_map]
  rfl

theorem managerEvents_eq_nil (silent : managerCalls events = []) : managerEvents events = [] := by
  rw [← map_call_managerEvents] at silent
  exact List.map_eq_nil_iff.1 silent

/-- There is only one answer to a reference that is given back. -/
theorem managerEvents_of_release (released : managerCalls events = [.release]) :
    managerEvents events = [⟨.release, ()⟩] := by
  rw [← map_call_managerEvents] at released
  obtain ⟨⟨call, answer⟩, only, same⟩ := List.map_eq_singleton_iff.1 released
  cases same
  exact only

/-! ## §2 The verdict -/

/-- Events of one call differ in their answers. -/
theorem Event.mk_inj {call : Call} {answer answer' : call.Answer} :
    Event.mk call answer = ⟨call, answer'⟩ ↔ answer = answer' := by
  constructor
  · rintro ⟨⟩
    rfl
  · rintro rfl
    rfl

namespace Bus

variable {bus : Bus}

@[simp] theorem idRead_inj {answer answer' : Except Cause (Vector UInt8 2)} :
    bus.idRead answer = bus.idRead answer' ↔ answer = answer' :=
  Event.mk_inj

@[simp] theorem revisionRead_inj {answer answer' : Except Cause (Vector UInt8 1)} :
    bus.revisionRead answer = bus.revisionRead answer' ↔ answer = answer' :=
  Event.mk_inj

end Bus

/-- A reference that is granted and given back. -/
def lentReference : List Event :=
  [⟨.acquire, Except.ok ()⟩, ⟨.release, ()⟩]

namespace Device

/-- The verdict of an awake probe, as it follows from what the platform answered. -/
inductive Concludes (device : Device) (events : List Event) :
    Except DeviceError ChipIdentity → Prop where
  /-- No reference is granted, and nothing is read. -/
  | refused {cause : Cause} (asked : managerEvents events = [⟨.acquire, Except.error cause⟩])
      (read : transactions events = []) : Concludes device events (.error (.acquire cause))
  /-- The sensor cannot be powered, and nothing is read. -/
  | unpowered {e : PowerError} (asked : managerEvents events = lentReference)
      (fault : firstFault? events = some (.power e)) (read : transactions events = []) :
      Concludes device events (.error (.power e))
  /-- The identity cannot be read. -/
  | unread {cause : Cause} (asked : managerEvents events = lentReference)
      (faultless : firstFault? events = none)
      (read : transactions events = [device.bus.idRead (.error cause)]) :
      Concludes device events (.error (.identity (.bus (.transport cause))))
  /-- Another chip answers, and its revision is not read. -/
  | mismatch {bytes : Vector UInt8 2} {id : UInt16}
      (asked : managerEvents events = lentReference) (faultless : firstFault? events = none)
      (read : transactions events = [device.bus.idRead (.ok bytes)])
      (value : ofBigEndian bytes.toList = id.toNat) (other : id.toNat ≠ 0x30C6) :
      Concludes device events (.error (.identity (.mismatch id)))
  /-- The revision cannot be read. -/
  | unrevised {bytes : Vector UInt8 2} {cause : Cause}
      (asked : managerEvents events = lentReference) (faultless : firstFault? events = none)
      (read : transactions events =
        [device.bus.idRead (.ok bytes), device.bus.revisionRead (.error cause)])
      (value : ofBigEndian bytes.toList = 0x30C6) :
      Concludes device events (.error (.identity (.bus (.transport cause))))
  /-- The expected chip answers. -/
  | detected {bytes : Vector UInt8 2} {byte : Vector UInt8 1} {revision : UInt8}
      (asked : managerEvents events = lentReference) (faultless : firstFault? events = none)
      (read : transactions events =
        [device.bus.idRead (.ok bytes), device.bus.revisionRead (.ok byte)])
      (value : ofBigEndian bytes.toList = 0x30C6)
      (revised : ofBigEndian byte.toList = revision.toNat) :
      Concludes device events (.ok ⟨0x30C6, revision⟩)

variable {device device' : Device} {verdict verdict' : Except DeviceError ChipIdentity}

/-- No trace leads to two verdicts. -/
theorem Concludes.unique (one : device.Concludes events verdict)
    (two : device.Concludes events verdict') : verdict = verdict' := by
  -- the readings of the trace tell the cases apart, and in each of them they hold the verdict
  cases one with
  | refused asked read =>
    cases two with
    | refused asked' read' =>
      cases asked.symm.trans asked'
      rfl
    | _ => simp_all [lentReference]
  | unpowered asked fault read => cases two <;> simp_all [lentReference]
  | unread asked faultless read => cases two <;> simp_all [lentReference]
  | mismatch asked faultless read value other =>
    cases two <;> simp_all [lentReference, ← UInt16.toNat_inj]
  | unrevised asked faultless read value => cases two <;> simp_all [lentReference]
  | detected asked faultless read value revised =>
    cases two <;> simp_all [lentReference, ← UInt8.toNat_inj]

/-- Whatever is concluded, the sensor was only read. -/
theorem Concludes.silent (concludes : device.Concludes events verdict) :
    ∀ event ∈ events, event.call.Silent := by
  have reading : ∀ event ∈ transactions events, event.call.Silent := by
    cases concludes with
    | refused asked read => simp [read]
    | unpowered asked fault read => simp [read]
    | unread asked faultless read => simp [read, Bus.idRead, Call.Silent]
    | mismatch asked faultless read value other => simp [read, Bus.idRead, Call.Silent]
    | unrevised asked faultless read value =>
      simp [read, Bus.idRead, Bus.revisionRead, Call.Silent]
    | detected asked faultless read value revised =>
      simp [read, Bus.idRead, Bus.revisionRead, Call.Silent]
  -- a write would be one of the transactions
  intro event member address bytes write
  have used : event.call.usesBus = true := by rw [write]; rfl
  exact reading event (List.mem_filter.2 ⟨member, used⟩) address bytes write

/-- A notice does not change the verdict. -/
theorem Concludes.noticed {notice : Notice} (concludes : device.Concludes events verdict) :
    device.Concludes (events ++ [⟨.notify notice, ()⟩]) verdict := by
  have same : managerEvents (events ++ [⟨.notify notice, ()⟩]) = managerEvents events := by
    simp [Call.asksManager]
  have still : firstFault? (events ++ [⟨.notify notice, ()⟩]) = firstFault? events := by
    simp [Event.fault?]
  have silent : transactions (events ++ [⟨.notify notice, ()⟩]) = transactions events := by
    simp [Call.usesBus]
  cases concludes with
  | refused asked read => exact .refused (same.trans asked) (silent.trans read)
  | unpowered asked fault read =>
    exact .unpowered (same.trans asked) (still.trans fault) (silent.trans read)
  | unread asked faultless read =>
    exact .unread (same.trans asked) (still.trans faultless) (silent.trans read)
  | mismatch asked faultless read value other =>
    exact .mismatch (same.trans asked) (still.trans faultless) (silent.trans read) value other
  | unrevised asked faultless read value =>
    exact .unrevised (same.trans asked) (still.trans faultless) (silent.trans read) value
  | detected asked faultless read value revised =>
    exact .detected (same.trans asked) (still.trans faultless) (silent.trans read) value revised

/-! ## §3 Taking and dropping the reference -/

variable {outcome : Except DeviceError Unit} {first second third : List Event} {device₁ : Device}
  {count : Nat}

/-- Powering down passes over every failure. -/
theorem firstFault?_of_released (released : device.Released events device') :
    firstFault? events = none := by
  cases released with
  | none unused | kept used shared => rfl
  | last one down =>
    cases down with
    | already off => rfl
    | lowered on stopped reset slept disabled =>
      simp [firstFault?_part (Sequencer.drive_within _ _ _) stopped,
        firstFault?_part (Sequencer.drive_within _ _ _) reset,
        firstFault?_part (Sequencer.selectPins_within _) slept,
        firstFault?_part (Sequencer.drive_within _ _ _) disabled, Event.fault?]

/-- An awake device is granted a reference only if its sensor has come up without a fault. -/
theorem Acquired.faultless (acquired : device.Acquired events (.ok ()) device')
    (awake : device.suspended = false) :
    managerEvents events = [⟨.acquire, Except.ok ()⟩] ∧ firstFault? events = none := by
  generalize ended : Except.ok () = outcome at acquired
  cases acquired with
  | refused | unpowered awake up => cases ended
  | deferred asleep counted => exact nomatch awake.symm.trans asleep
  | powered awake up counted =>
    simp [managerEvents_eq_nil up.managerCalls_eq_nil, up.firstFault?_eq, Call.asksManager,
      Event.fault?]

/-- A probe that cannot have power reads nothing. -/
theorem Acquired.concludes {e : DeviceError}
    (acquired : device.Acquired events (.error e) device') :
    device.Concludes events (.error e) := by
  have read := acquired.transactions_eq_nil
  cases acquired with
  | refused => exact .refused rfl read
  | unpowered awake up =>
    refine .unpowered ?_ ?_ read
    · simp [managerEvents_eq_nil up.managerCalls_eq_nil, Call.asksManager, lentReference]
    · simp [up.firstFault?_eq, Event.fault?]

/-- Taking the reference and dropping it again adds nothing to what is read in between. -/
theorem lent_of_released (acquired : device.Acquired first (.ok ()) device₁)
    (awake : device.suspended = false) (released : device₁.Released third device')
    (holds : device.Holds count) (quiet : managerEvents second = [])
    (faultless : firstFault? second = none) :
    managerEvents (first ++ (second ++ third)) = lentReference ∧
      firstFault? (first ++ (second ++ third)) = none ∧
      transactions (first ++ (second ++ third)) = transactions second := by
  have used : device₁.users ≠ 0 := by
    intro unused
    have counted := (acquired.holds holds).1.users
    rw [unused] at counted
    cases counted
  obtain ⟨granted, up⟩ := acquired.faultless awake
  have returned := managerEvents_of_release (released.managerCalls_eq used)
  refine ⟨?_, ?_, ?_⟩
  · simp [granted, quiet, returned, lentReference]
  · simp [up, faultless, firstFault?_of_released released]
  · simp [acquired.transactions_eq_nil, released.transactions_eq_nil]

/-- A probe that has power concludes what the chip is identified as. -/
theorem concludes_of_identified {identity : Except IdentityError ChipIdentity}
    (acquired : device.Acquired first (.ok ()) device₁) (awake : device.suspended = false)
    (released : device₁.Released third device') (holds : device.Holds count)
    (identified : device.bus.Identified second identity) :
    device.Concludes (first ++ (second ++ third)) (identity.mapError .identity) := by
  have lent := @lent_of_released _ _ first second third _ _ acquired awake released holds
  cases identified with
  | unread =>
    obtain ⟨asked, faultless, read⟩ := lent rfl rfl
    exact .unread asked faultless read
  | mismatch value other =>
    obtain ⟨asked, faultless, read⟩ := lent rfl rfl
    exact .mismatch asked faultless read value fun same => other (UInt16.toNat_inj.1 same)
  | unrevised value =>
    obtain ⟨asked, faultless, read⟩ := lent rfl rfl
    exact .unrevised asked faultless read value
  | identified value revised =>
    obtain ⟨asked, faultless, read⟩ := lent rfl rfl
    exact .detected asked faultless read value revised

/-! ## §4 Probing -/

/-- What is left undone is left as it was, if the sensor is on whenever it is referenced. -/
theorem Undone.eq_of_powered (undone : device.Undone device') (holds : device.Holds count)
    (powered : 0 < device.users → device.sequencer.power = .on) : device' = device := by
  obtain ⟨⟨power, rfl⟩, stays, off⟩ := undone
  have same : power = device.sequencer.power := by
    by_cases unused : device.users = 0
    · exact (off unused).trans (holds.off_of_unused unused).symm
    · have on := powered (UInt32.pos_iff_ne_zero.2 unused)
      exact (stays on).trans on.symm
  rw [same]

/-- A probe leaves the device as it was. -/
theorem Probed.eq_of_powered (probed : device.Probed events verdict device')
    (holds : device.Holds count)
    (powered : device.suspended = false → 0 < device.users → device.sequencer.power = .on) :
    device' = device := by
  cases probed with
  | asleep asleep => rfl
  | unpowered awake acquired => exact acquired.of_error
  | rejected awake acquired identified released | detected awake acquired identified released =>
    refine Undone.eq_of_powered ?_ holds (powered awake)
    refine released.undone acquired ?_ holds
    obtain ⟨_, _, rfl⟩ := acquired.frame
    exact awake

/-- The verdict of an awake probe follows from its trace. -/
theorem Probed.concludes (probed : device.Probed events verdict device')
    (holds : device.Holds count) (awake : device.suspended = false) :
    device.Concludes events verdict := by
  cases probed with
  | asleep asleep => exact nomatch awake.symm.trans asleep
  | unpowered awake acquired => exact acquired.concludes
  | rejected awake acquired identified released =>
    have identified := Bus.identified_of_runs identified
    rw [Device.bus, acquired.keeps.configuration] at identified
    exact concludes_of_identified acquired awake released holds identified
  | @detected first second third chip _ _ awake acquired identified released =>
    have identified := Bus.identified_of_runs identified
    rw [Device.bus, acquired.keeps.configuration] at identified
    -- the notice comes last, behind everything the verdict depends on
    have concludes : device.Concludes (first ++ (second ++ third)) (.ok chip) :=
      concludes_of_identified acquired awake released holds identified
    simpa only [List.append_assoc] using concludes.noticed

/-- A probe does not write to the sensor. -/
theorem Probed.silent (probed : device.Probed events verdict device')
    (holds : device.Holds count) : ∀ event ∈ events, event.call.Silent := by
  cases asleep : device.suspended with
  | true =>
    obtain ⟨rfl, -, -⟩ := probed.eq_of_asleep asleep
    exact List.forall_mem_nil _
  | false => exact (probed.concludes holds asleep).silent

end Device

/-! ## §5 Sessions -/

namespace Session

open Device

variable {configuration : Configuration} {wiring : Wiring} {trace : List Event}
  {steps : List Step} {device : Device}

/-- In every session whose awake sensor is on whenever it is referenced, a probe ends with a verdict
and leaves the device as it was. It does not write to the sensor, and gives back every reference it
is granted. A suspended device is not probed at all. An awake one is given the verdict that follows
from what the platform answered, and no other. -/
theorem probe_verdict (session : Session configuration wiring trace steps device)
    (powered : device.suspended = false → 0 < device.users → device.sequencer.power = .on)
    {ended : Except Trap (Reply × Device)}
    (run : Runs (device.perform .probe) events ended) :
    ∃ verdict, ended = .ok (.identified verdict, device) ∧
      (∀ event ∈ events, event.call.Silent) ∧
      events.countP (·.takes .reference) = events.countP (·.returns .reference) ∧
      (device.suspended = true → events = [] ∧ verdict = .error .suspended) ∧
      (device.suspended = false →
        ∀ verdict', verdict = verdict' ↔ device.Concludes events verdict') := by
  have holds := session.consistent.holds
  obtain ⟨reply, device', rfl, -⟩ := session.exists_reply run
  have performed := performed_of_runs run
  have balanced := performed.balanced .reference
  cases performed with
  | @probe _ verdict _ probed =>
    have same := probed.eq_of_powered holds powered
    subst same
    refine ⟨verdict, rfl, probed.silent holds, ?_, fun asleep => ?_, fun awake verdict' => ?_⟩
    · exact outstanding_eq_zero_iff.1 (balanced.trans (Int.sub_self _))
    · obtain ⟨unasked, refused, -⟩ := probed.eq_of_asleep asleep
      exact ⟨unasked, refused⟩
    · have concludes := probed.concludes holds awake
      constructor
      · rintro rfl
        exact concludes
      · exact concludes.unique

/-- A bench with the expected chip on it. -/
def mountedBench : Bench :=
  { registers := [(0x0000, 0x30C6), (0x0002, 0xB0)] }

/-- Whether probing on this bench is told that the chip is there. -/
def detectsMounted (device : Device) : Bool :=
  match ((device.perform .probe).run Bench.respond mountedBench).outcome with
  | .ok (.identified (.ok chip), _) => chip = ⟨0x30C6, 0xB0⟩
  | _ => false

/-- Power is requested and the stream started, and then the running sensor is probed: the chip is
detected, and two references are held as before. -/
theorem verdict_running_stream :
    ∃ trace steps device events, Session {} ⟨true, true, true⟩ trace steps device ∧
      device.stream = .streaming ∧ device.users = 2 ∧
      Runs (device.perform .probe) events (.ok (.identified (.ok ⟨0x30C6, 0xB0⟩), device)) ∧
      device.Concludes events (.ok ⟨0x30C6, 0xB0⟩) := by
  have seen := exists_session_of_rehearse {} ⟨true, true, true⟩
    [({}, .setPower true), ({}, .start)]
    (fun _ _ device => device.stream = .streaming && device.users = 2 && !device.suspended &&
      device.sequencer.power = .on && detectsMounted device) (by decide +kernel)
  obtain ⟨trace, steps, device, session, shown⟩ := seen
  simp only [Bool.and_eq_true, decide_eq_true_eq, Bool.not_eq_true'] at shown
  obtain ⟨⟨⟨⟨streaming, users⟩, awake⟩, on⟩, detected⟩ := shown
  have run := runs_run Bench.respond (device.perform .probe) mountedBench
  obtain ⟨verdict, ended, -, -, -, decided⟩ := probe_verdict session (fun _ _ => on) run
  -- what the bench has shown is the verdict that the theorem speaks of
  unfold detectsMounted at detected
  rw [ended] at detected run
  obtain rfl : verdict = .ok ⟨0x30C6, 0xB0⟩ := by
    rcases verdict with e | chip
    · cases detected
    · exact congrArg Except.ok (of_decide_eq_true detected)
  exact ⟨trace, steps, device, _, session, streaming, users, run, (decided awake _).1 rfl⟩

end Session

end ImageSensor
