import ImageSensor.Proofs.Control.Registers
import ImageSensor.Proofs.Device.Operations

/-!
# When Nothing Fails

On a platform on which every call succeeds, every operation on power and stream succeeds too, and a
device does what it was asked to: it streams or not, has power requested or not, and sleeps or not,
as the operations on it say.

## Main statements

- `exists_smooth_run`: every action can be run without a failing call.
- `PoweredUp.ok_of_granted`, `Acquired.ok_of_granted`: nothing but a refused resource can go wrong
  with power or with a reference.
- `StreamedOn.ok_of_smooth`, `Sent.ok_of_smooth`: nothing but a failing call can go wrong with a
  stream or a register write.
- `Performed.intent_eq`: what a device intends after an operation on which nothing failed.
-/

namespace ImageSensor

open ImageSensor.Action

/-! ## §1 Smooth traces -/

/-- No call of the trace fails. -/
def Smooth (events : List Event) : Prop :=
  ∀ event ∈ events, event.succeeded = true

@[simp] theorem smooth_nil : Smooth [] :=
  nofun

@[simp] theorem smooth_cons {event : Event} {events : List Event} :
    Smooth (event :: events) ↔ event.succeeded = true ∧ Smooth events :=
  List.forall_mem_cons

@[simp] theorem smooth_append {first second : List Event} :
    Smooth (first ++ second) ↔ Smooth first ∧ Smooth second :=
  List.forall_mem_append

theorem Smooth.unbroken {events : List Event} (smooth : Smooth events) : Unbroken events := by
  rintro ⟨call, answer⟩ member
  have succeeded := smooth _ member
  cases call with
  | busWrite address bytes =>
    have arrived : Except.isOk answer = true := succeeded
    show (!Except.isOk answer) = false
    rw [arrived]
    rfl
  | _ => rfl

/-- Every resource that is asked for is granted; other calls may fail. -/
def Granted (events : List Event) : Prop :=
  ∀ event ∈ events, ∀ resource : Resource, event.call = resource.taking → event.succeeded = true

@[simp] theorem granted_cons {event : Event} {events : List Event} :
    Granted (event :: events) ↔
      (∀ resource : Resource, event.call = resource.taking → event.succeeded = true) ∧
        Granted events :=
  List.forall_mem_cons

@[simp] theorem granted_append {first second : List Event} :
    Granted (first ++ second) ↔ Granted first ∧ Granted second :=
  List.forall_mem_append

theorem Smooth.granted {events : List Event} (smooth : Smooth events) : Granted events :=
  fun event member _ _ => smooth event member

/-- Every action can be run without a failing call. -/
theorem exists_smooth_run {α : Type} (action : Action α) :
    ∃ events outcome, Runs action events outcome ∧ Smooth events := by
  induction action with
  | done result => exact ⟨[], .ok result, .done result, smooth_nil⟩
  | trap reason => exact ⟨[], .error reason, .trap reason, smooth_nil⟩
  | call c next ih =>
    obtain ⟨later, outcome, run, smooth⟩ := ih c.success
    refine ⟨⟨c, c.success⟩ :: later, outcome, .call run, smooth_cons.2 ⟨?_, smooth⟩⟩
    cases c <;> rfl

/-! ## §2 Power -/

/-- The sensor is powered up if clock and supplies are granted. -/
theorem Sequencer.PoweredUp.ok_of_granted {sequencer sequencer' : Sequencer} {events : List Event}
    {outcome : Except PowerError Unit} (up : sequencer.PoweredUp events outcome sequencer')
    (granted : Granted events) : outcome = .ok () := by
  cases up with
  | already on => rfl
  | @clockFailed lead cause off prepared =>
    exact nomatch granted ⟨.enableClock, Except.error cause⟩ (by simp) .clock rfl
  | @suppliesFailed lead held cause off prepared reset =>
    exact nomatch granted ⟨.enableRegulators, Except.error cause⟩ (by simp) .supplies rfl
  | powered off prepared reset released => rfl

namespace Device

variable {device device' : Device} {events : List Event} {outcome : Except DeviceError Unit}

theorem Acquired.ok_of_granted (acquired : device.Acquired events outcome device')
    (granted : Granted events) : outcome = .ok () := by
  cases acquired with
  | @refused cause =>
    exact nomatch granted ⟨.acquire, Except.error cause⟩ (by simp) .reference rfl
  | unpowered awake up =>
    simp only [granted_cons, granted_append] at granted
    exact nomatch up.ok_of_granted granted.2.1
  | deferred asleep counted => rfl
  | powered awake up counted => rfl

/-! ## §3 The bus -/

/-- All writes of a register table are of two bytes. -/
theorem validWidth_table (table : RegisterTable) (orientation : Orientation) :
    ∀ write ∈ Bus.tableWrites table orientation, validWidth write.width = true := by
  have two : validWidth 2 = true := by decide
  intro write member
  rcases List.mem_cons.1 member with rfl | member
  · exact two
  · obtain ⟨entry, -, rfl⟩ := List.mem_map.1 member
    exact two

theorem Programmed.ok_of_smooth {outcome : Except BusError Unit}
    (programmed : device.Programmed events outcome) (smooth : Smooth events) :
    outcome = .ok () := by
  have valid := validWidth_table device.mode.table device.configuration.orientation
  cases programmed with
  | tableFailed table => exact table.ok_of_unbroken smooth.unbroken valid
  | restoreFailed table replay restored =>
    simp only [smooth_cons, smooth_append] at smooth
    exact restored.ok_of_unbroken smooth.2.2.unbroken (ControlBank.validWidth_of_writesOf replay)
  | enabled table replay restored enable =>
    simp only [smooth_cons, smooth_append] at smooth
    exact enable.ok_of_unbroken smooth.2.2.2.unbroken (by decide)

theorem StreamedOn.ok_of_smooth (on : device.StreamedOn events outcome device')
    (smooth : Smooth events) : outcome = .ok () := by
  cases on with
  | unpowered up => exact nomatch up.ok_of_granted smooth.granted
  | programmed up programmed =>
    rw [programmed.ok_of_smooth (smooth_append.1 smooth).2]
    rfl

theorem Restored.ok_of_smooth (restored : device.Restored events outcome device')
    (smooth : Smooth events) : outcome = .ok () := by
  cases restored with
  | streaming streaming on => exact on.ok_of_smooth smooth
  | powered stopped used up =>
    rw [up.ok_of_granted smooth.granted]
    rfl
  | idle stopped unused => rfl

theorem Sent.ok_of_smooth {writes : List RegisterWrite} {outcome : Except BusError Unit}
    (sent : device.Sent writes events outcome) (smooth : Smooth events)
    (valid : ∀ write ∈ writes, validWidth write.width = true) : outcome = .ok () := by
  cases sent with
  | skipped unreachable => rfl
  | sent live wrote => exact wrote.ok_of_unbroken smooth.unbroken valid

end Device

/-! ## §4 Intentions -/

/-- What a device is meant to do: to stream, to be powered on request, to sleep. -/
structure Intent where
  stream : StreamState
  powerRequested : Bool
  suspended : Bool
  deriving DecidableEq, Repr

namespace Intent

/-- What is meant after an operation that does what it is for. -/
def after (intent : Intent) : Operation → Intent
  | .start | .setStream true => { intent with stream := .streaming }
  | .stop | .setStream false => { intent with stream := .stopped }
  | .setPower on => { intent with powerRequested := on }
  | .suspend => { intent with suspended := true }
  | .resume => { intent with suspended := false }
  | .probe | .setFormat _ _ _ | .setControl _ _ | .setControlRaw _ _ | .setControls _ => intent

end Intent

namespace Device

/-- What a device is meant to do. -/
def intent (device : Device) : Intent :=
  ⟨device.stream, device.powerRequested, device.suspended⟩

variable {device device' : Device} {events : List Event} {outcome : Except DeviceError Unit}

theorem Acquired.intent_eq (acquired : device.Acquired events outcome device') :
    device'.intent = device.intent := by
  obtain ⟨_, _, rfl⟩ := acquired.frame
  rfl

theorem Released.intent_eq (released : device.Released events device') :
    device'.intent = device.intent := by
  obtain ⟨_, _, rfl⟩ := released.frame
  rfl

theorem Probed.intent_eq {outcome : Except DeviceError ChipIdentity}
    (probed : device.Probed events outcome device') : device'.intent = device.intent := by
  cases probed with
  | asleep asleep => rfl
  | unpowered awake acquired => exact acquired.intent_eq
  | rejected awake acquired identified released | detected awake acquired identified released =>
    exact released.intent_eq.trans acquired.intent_eq

/-- A start without a failing call succeeds, and the device streams. -/
theorem Started.of_smooth (started : device.Started events outcome device')
    (smooth : Smooth events) :
    outcome = .ok () ∧ device'.intent = { device.intent with stream := .streaming } := by
  cases started with
  | already streaming => exact ⟨rfl, by rw [intent, streaming]⟩
  | refused stopped acquired =>
    exact nomatch acquired.ok_of_granted (smooth_cons.1 smooth).2.granted
  | deferred stopped acquired asleep =>
    obtain ⟨_, _, rfl⟩ := acquired.frame
    exact ⟨rfl, rfl⟩
  | failed stopped acquired awake on released =>
    simp only [smooth_cons, smooth_append] at smooth
    exact nomatch on.ok_of_smooth smooth.2.2.1
  | started stopped acquired awake on =>
    obtain ⟨_, _, rfl⟩ := acquired.frame
    obtain ⟨_, rfl⟩ := on.frame
    exact ⟨rfl, rfl⟩

theorem Stopped.intent_eq (stopped : device.Stopped events device') :
    device'.intent = { device.intent with stream := .stopped } := by
  have ended := stopped.stream_eq
  obtain ⟨_, _, _, rfl⟩ := stopped.frame
  exact congrArg (Intent.mk · _ _) ended

theorem PowerSet.of_smooth {on : Bool} (set : device.PowerSet on events outcome device')
    (smooth : Smooth events) :
    outcome = .ok () ∧ device'.intent = { device.intent with powerRequested := on } := by
  cases set with
  | unchanged => exact ⟨rfl, rfl⟩
  | refused fresh acquired => exact nomatch acquired.ok_of_granted smooth.granted
  | requested fresh acquired =>
    obtain ⟨_, _, rfl⟩ := acquired.frame
    exact ⟨rfl, rfl⟩
  | withdrawn requested released =>
    obtain ⟨_, _, rfl⟩ := released.frame
    exact ⟨rfl, rfl⟩

theorem Suspended.intent_eq (suspended : device.Suspended events device') :
    device'.intent = { device.intent with suspended := true } := by
  cases suspended with
  | already asleep => rw [intent, asleep]
  | suspended awake halted down => rfl

/-- A resume without a failing call succeeds, and the device is awake. -/
theorem Resumed.of_smooth (resumed : device.Resumed events outcome device')
    (smooth : Smooth events) :
    outcome = .ok () ∧ device'.intent = { device.intent with suspended := false } := by
  cases resumed with
  | already awake => exact ⟨rfl, by rw [intent, awake]⟩
  | resumed asleep restored =>
    obtain ⟨_, rfl⟩ := restored.frame
    exact ⟨rfl, rfl⟩
  | failed asleep restored stopped =>
    simp only [smooth_cons, smooth_append] at smooth
    exact nomatch restored.ok_of_smooth smooth.2.1

theorem Tuned.intent_eq (tuned : device.Tuned events device') : device'.intent = device.intent := by
  rw [intent, intent, tuned.stream, tuned.powerRequested, tuned.suspended]

/-- What a device is meant to do after an operation on which no call failed. -/
theorem Performed.intent_eq {operation : Operation} {reply : Reply}
    (performed : device.Performed operation events reply device') (smooth : Smooth events) :
    device'.intent = device.intent.after operation := by
  cases performed with
  | probe probed => exact probed.intent_eq
  | start started | streamOn started => exact (started.of_smooth smooth).2
  | stop stopped | streamOff stopped => exact stopped.intent_eq
  | setPower set => exact (set.of_smooth smooth).2
  | suspend suspended => exact suspended.intent_eq
  | resume resumed => exact (resumed.of_smooth smooth).2
  | tryFormat => rfl
  | useFormat selected => exact selected.tuned.intent_eq
  | setControl adjusted => exact adjusted.tuned_of_set.intent_eq
  | setControlRaw adjusted => exact adjusted.tuned_of_setRaw.intent_eq
  | setControls set => exact set.tuned.intent_eq

end Device

end ImageSensor
