import ImageSensor.Device.Power
import ImageSensor.Proofs.Power.Sequence

/-!
# Taking and Dropping References

How taking a power reference, dropping one and requesting power can go. In each case the references
outstanding at the power manager, the clock and the supplies change as the device's own count and
power state do.

## Main statements

- `acquired_of_runs`, `released_of_runs`, `powerSet_of_runs`: every completed run is one of the
  cases.
- `Acquired.balanced`, `Released.balanced`, `PowerSet.balanced`: the trace and the device keep the
  same accounts.
-/

namespace ImageSensor.Device

open ImageSensor.Action

variable {device device' : Device} {events : List Event} {outcome : Except DeviceError Unit}

/-! ## §1 What powering leaves alone -/

/-- Power, references, stream and suspension may change; everything else stays as it was set. -/
structure Kept (device device' : Device) : Prop where
  configuration : device'.configuration = device.configuration
  mode : device'.mode = device.mode
  trialFormat : device'.trialFormat = device.trialFormat
  controls : device'.controls = device.controls

theorem Kept.refl (device : Device) : device.Kept device :=
  ⟨rfl, rfl, rfl, rfl⟩

theorem Kept.trans {device₁ : Device} (one : device.Kept device₁) (two : device₁.Kept device') :
    device.Kept device' where
  configuration := two.configuration.trans one.configuration
  mode := two.mode.trans one.mode
  trialFormat := two.trialFormat.trans one.trialFormat
  controls := two.controls.trans one.controls

/-! ## §2 Taking a reference -/

/-- How taking a power reference can go. -/
inductive Acquired (device : Device) : List Event → Except DeviceError Unit → Device → Prop where
  | refused {cause : Cause} :
      Acquired device [⟨.acquire, Except.error cause⟩] (.error (.acquire cause)) device
  | unpowered {events : List Event} {e : PowerError} (awake : device.suspended = false)
      (up : device.sequencer.PoweredUp events (.error e) device.sequencer) :
      Acquired device (⟨.acquire, Except.ok ()⟩ :: (events ++ [⟨.release, ()⟩]))
        (.error (.power e)) device
  | deferred {users : UInt32} (asleep : device.suspended = true)
      (counted : Checked.add device.users 1 = .ok users) :
      Acquired device [⟨.acquire, Except.ok ()⟩] (.ok ()) { device with users }
  | powered {events : List Event} {sequencer : Sequencer} {users : UInt32}
      (awake : device.suspended = false)
      (up : device.sequencer.PoweredUp events (.ok ()) sequencer)
      (counted : Checked.add device.users 1 = .ok users) :
      Acquired device (⟨.acquire, Except.ok ()⟩ :: events) (.ok ())
        { device with sequencer, users }

theorem acquired_of_runs (run : Runs device.acquirePower events (.ok (outcome, device'))) :
    device.Acquired events outcome device' := by
  obtain ⟨granted, _, split₁, run⟩ := runs_ask_bind.1 run
  rcases granted with cause | _
  · obtain ⟨split₂, result⟩ := runs_done.1 run
    cases result
    subst split₂ split₁
    exact .refused
  obtain ⟨⟨powered, device₁⟩, first, _, split₂, up, run⟩ := runs_bind_ok.1 run
  -- while suspended nothing is powered, and the reference is counted at once
  unfold powerUp at up
  cases asleep : device.suspended with
  | true =>
    rw [if_pos asleep] at up
    obtain ⟨split₃, result⟩ := runs_done.1 up
    cases result
    obtain ⟨users, counted, run⟩ := runs_ofChecked_bind.1 run
    obtain ⟨split₄, result⟩ := runs_done.1 run
    cases result
    subst split₄ split₃ split₂ split₁
    exact .deferred asleep counted
  | false =>
    rw [if_neg (by simp [asleep])] at up
    obtain ⟨⟨outcome, sequencer⟩, _, _, split₃, on, up⟩ := runs_bind_ok.1 up
    have on := Sequencer.poweredUp_of_runs on
    obtain ⟨split₄, result⟩ := runs_done.1 up
    cases result
    subst split₄ split₃ split₂
    rw [List.append_nil] at split₁
    rcases outcome with e | _
    · obtain ⟨_, _, split₅, run⟩ := runs_ask_bind.1 run
      obtain ⟨split₆, result⟩ := runs_done.1 run
      cases result
      subst split₆ split₅ split₁
      -- a sequencer that could not power the sensor is what it was
      have same : sequencer = device.sequencer := by cases on <;> rfl
      subst same
      exact .unpowered asleep on
    · obtain ⟨users, counted, run⟩ := runs_ofChecked_bind.1 run
      obtain ⟨split₅, result⟩ := runs_done.1 run
      cases result
      subst split₅ split₁
      rw [List.append_nil]
      exact .powered asleep on counted

/-- Taking a reference changes the count and the power of the sensor, nothing else. -/
theorem Acquired.frame (acquired : device.Acquired events outcome device') :
    ∃ sequencer users, device' = { device with sequencer, users } := by
  cases acquired with
  | refused => exact ⟨_, _, rfl⟩
  | unpowered awake up => exact ⟨_, _, rfl⟩
  | deferred asleep counted => exact ⟨_, _, rfl⟩
  | powered awake up counted => exact ⟨_, _, rfl⟩

theorem Acquired.keeps (acquired : device.Acquired events outcome device') :
    device.Kept device' := by
  obtain ⟨_, _, rfl⟩ := acquired.frame
  exact ⟨rfl, rfl, rfl, rfl⟩

/-- A reference that was not taken leaves no trace in the device. -/
theorem Acquired.of_error {e : DeviceError} (acquired : device.Acquired events (.error e) device') :
    device' = device := by
  cases acquired with
  | refused => rfl
  | unpowered awake up => rfl

/-! ## §3 Dropping a reference -/

/-- One less than a count that is not zero. -/
theorem toNat_pred {users : UInt32} (used : users ≠ 0) :
    (users - 1).toNat + 1 = users.toNat := by
  have positive : 1 ≤ users := by grind
  have bound : 1 ≤ users.toNat := UInt32.le_iff_toNat_le.1 positive
  rw [UInt32.toNat_sub_of_le _ _ positive, UInt32.toNat_one]
  omega

/-- How dropping a power reference can go. -/
inductive Released (device : Device) : List Event → Device → Prop where
  | none (unused : device.users = 0) : Released device [] device
  | kept (used : device.users ≠ 0) (shared : device.users - 1 ≠ 0) :
      Released device [⟨.release, ()⟩] { device with users := device.users - 1 }
  | last {events : List Event} {sequencer : Sequencer} (one : device.users = 1)
      (down : device.sequencer.PoweredDown events sequencer) :
      Released device (events ++ [⟨.release, ()⟩]) { device with users := 0, sequencer }

theorem released_of_runs (run : Runs device.releasePower events (.ok device')) :
    device.Released events device' := by
  unfold releasePower at run
  by_cases unused : device.users = 0
  · rw [if_pos unused] at run
    obtain ⟨rfl, result⟩ := runs_done.1 run
    cases result
    exact .none unused
  rw [if_neg unused] at run
  obtain ⟨device₁, _, _, split₁, dropped, run⟩ := runs_bind_ok.1 run
  obtain ⟨_, _, split₂, run⟩ := runs_ask_bind.1 run
  obtain ⟨split₃, result⟩ := runs_done.1 run
  cases result
  -- the count is lowered first, and the power depends on what is left of it
  unfold powerDownUnused at dropped
  by_cases shared : device.users - 1 = 0
  · rw [if_pos shared] at dropped
    obtain ⟨sequencer, _, _, split₄, down, dropped⟩ := runs_bind_ok.1 dropped
    obtain ⟨split₅, result⟩ := runs_done.1 dropped
    cases result
    subst split₅ split₄ split₃ split₂ split₁
    have one : device.users = 1 := by grind
    rw [List.append_nil]
    exact shared ▸ .last one (Sequencer.poweredDown_of_runs down)
  · rw [if_neg shared] at dropped
    obtain ⟨split₄, result⟩ := runs_done.1 dropped
    cases result
    subst split₄ split₃ split₂ split₁
    exact .kept unused shared

/-- Dropping a reference changes the count and the power of the sensor, nothing else. -/
theorem Released.frame (released : device.Released events device') :
    ∃ sequencer users, device' = { device with sequencer, users } := by
  cases released with
  | none unused => exact ⟨_, _, rfl⟩
  | kept used shared => exact ⟨_, _, rfl⟩
  | last one down => exact ⟨_, _, rfl⟩

theorem Released.keeps (released : device.Released events device') : device.Kept device' := by
  obtain ⟨_, _, rfl⟩ := released.frame
  exact ⟨rfl, rfl, rfl, rfl⟩

/-! ## §4 Requesting power -/

/-- How requesting power, or withdrawing the request, can go. -/
inductive PowerSet (device : Device) :
    Bool → List Event → Except DeviceError Unit → Device → Prop where
  | unchanged : PowerSet device device.powerRequested [] (.ok ()) device
  | refused {events : List Event} {e : DeviceError} {device' : Device}
      (fresh : device.powerRequested = false)
      (acquired : device.Acquired events (.error e) device') :
      PowerSet device true events (.error e) device'
  | requested {events : List Event} {device' : Device} (fresh : device.powerRequested = false)
      (acquired : device.Acquired events (.ok ()) device') :
      PowerSet device true events (.ok ()) { device' with powerRequested := true }
  | withdrawn {events : List Event} {device' : Device} (requested : device.powerRequested = true)
      (released : device.Released events device') :
      PowerSet device false events (.ok ()) { device' with powerRequested := false }

theorem powerSet_of_runs {on : Bool} (run : Runs (device.setPower on) events (.ok (outcome, device'))) :
    device.PowerSet on events outcome device' := by
  unfold setPower at run
  by_cases same : device.powerRequested = on
  · rw [if_pos same] at run
    obtain ⟨rfl, result⟩ := runs_done.1 run
    cases result
    subst same
    exact .unchanged
  rw [if_neg same] at run
  cases on with
  | true =>
    have fresh : device.powerRequested = false := by simpa using same
    obtain ⟨⟨granted, device₁⟩, _, _, split₁, acquired, run⟩ := runs_bind_ok.1 run
    have acquired := acquired_of_runs acquired
    rcases granted with e | _
    · obtain ⟨split₂, result⟩ := runs_done.1 run
      cases result
      subst split₂ split₁
      rw [List.append_nil]
      exact .refused fresh acquired
    · obtain ⟨split₂, result⟩ := runs_done.1 run
      cases result
      subst split₂ split₁
      rw [List.append_nil]
      exact .requested fresh acquired
  | false =>
    have requested : device.powerRequested = true := by simpa using same
    obtain ⟨device₁, _, _, split₁, released, run⟩ := runs_bind_ok.1 run
    obtain ⟨split₂, result⟩ := runs_done.1 run
    cases result
    subst split₂ split₁
    rw [List.append_nil]
    exact .withdrawn requested (released_of_runs released)

theorem PowerSet.keeps {on : Bool} (set : device.PowerSet on events outcome device') :
    device.Kept device' := by
  cases set with
  | unchanged => exact .refl device
  | refused fresh acquired => exact acquired.keeps
  | requested fresh acquired =>
    have kept := acquired.keeps
    exact ⟨kept.configuration, kept.mode, kept.trialFormat, kept.controls⟩
  | withdrawn requested released =>
    have kept := released.keeps
    exact ⟨kept.configuration, kept.mode, kept.trialFormat, kept.controls⟩

/-! ## §5 Accounts -/

/-- How much of a resource a device holds. -/
def held (device : Device) : Resource → Int
  | .reference => device.users.toNat
  | .clock => device.sequencer.held .clock
  | .supplies => device.sequencer.held .supplies

/-- The platform grants and takes back what the device has more or less afterwards. -/
def Balanced (device : Device) (events : List Event) (device' : Device) : Prop :=
  ∀ resource, outstanding resource events = device'.held resource - device.held resource

theorem Balanced.trans {device₁ : Device} {first second : List Event}
    (one : device.Balanced first device₁) (two : device₁.Balanced second device') :
    device.Balanced (first ++ second) device' := by
  intro resource
  rw [outstanding_append, one resource, two resource]
  omega

/-- A notice in front changes no account. -/
theorem Balanced.noticed {notice : Notice} (balanced : device.Balanced events device') :
    device.Balanced (⟨.notify notice, ()⟩ :: events) device' := by
  intro resource
  rw [outstanding_cons, change_notify, balanced resource, Int.zero_add]

/-- Bus traffic and notices change no account. -/
theorem balanced_exchange (device : Device) (exchange : ∀ event ∈ events, event.call.Exchange) :
    device.Balanced events device := by
  intro resource
  rw [outstanding_eq_zero fun event member => (exchange event member).idle]
  exact (Int.sub_self _).symm

theorem balanced_nil (device : Device) : device.Balanced [] device :=
  balanced_exchange device nofun

/-- Powering up changes the accounts of clock and supplies as it changes the power. -/
theorem balanced_poweredUp {outcome : Except PowerError Unit} {sequencer : Sequencer}
    (up : device.sequencer.PoweredUp events outcome sequencer) :
    device.Balanced events { device with sequencer } := by
  intro resource
  have up := up.outstanding resource
  cases resource <;> simp [up, held, Sequencer.held]

theorem balanced_poweredDown {sequencer : Sequencer}
    (down : device.sequencer.PoweredDown events sequencer) :
    device.Balanced events { device with sequencer } := by
  intro resource
  have down := down.outstanding resource
  cases resource <;> simp [down, held, Sequencer.held]

/-- Counting one reference more or less, as the platform does. -/
theorem balanced_counted {event : Event} {users : UInt32}
    (counted : ∀ resource, event.change resource =
      if resource = .reference then (users.toNat : Int) - device.users.toNat else 0) :
    device.Balanced [event] { device with users } := by
  intro resource
  rw [outstanding_cons, outstanding_nil, Int.add_zero, counted]
  cases resource with
  | reference => rfl
  | clock => exact (Int.sub_self _).symm
  | supplies => exact (Int.sub_self _).symm

theorem balanced_acquire {users : UInt32} (counted : Checked.add device.users 1 = .ok users) :
    device.Balanced [⟨.acquire, Except.ok ()⟩] { device with users } := by
  have more : device.users.toNat + 1 = users.toNat := Checked.add_eq_ok_iff.1 counted
  refine balanced_counted fun resource => ?_
  rw [change_acquire]
  split <;> omega

theorem balanced_release (used : device.users ≠ 0) :
    device.Balanced [⟨.release, ()⟩] { device with users := device.users - 1 } := by
  have fewer := toNat_pred used
  refine balanced_counted fun resource => ?_
  rw [change_release]
  split <;> omega

theorem Acquired.balanced (acquired : device.Acquired events outcome device') :
    device.Balanced events device' := by
  cases acquired with
  | refused =>
    intro resource
    rw [outstanding_cons, change_refused, outstanding_nil]
    exact (Int.sub_self _).symm
  | @unpowered raised _ awake up =>
    intro resource
    -- the reference comes and goes, and powering up has left nothing on
    have still : outstanding resource raised = device.held resource - device.held resource :=
      balanced_poweredUp up resource
    rw [outstanding_cons, outstanding_append, still, change_acquire, outstanding_cons,
      change_release, outstanding_nil]
    split <;> omega
  | deferred asleep counted => exact balanced_acquire counted
  | powered awake up counted => exact (balanced_acquire counted).trans (balanced_poweredUp up)

theorem Released.balanced (released : device.Released events device') :
    device.Balanced events device' := by
  cases released with
  | none unused => exact balanced_nil device
  | kept used shared => exact balanced_release used
  | @last _ sequencer one down =>
    have used : device.users ≠ 0 := by simp [one]
    have none : device.users - 1 = 0 := by simp [one]
    exact none ▸ (balanced_poweredDown down).trans
      (@balanced_release { device with sequencer } used)

theorem PowerSet.balanced {on : Bool} (set : device.PowerSet on events outcome device') :
    device.Balanced events device' := by
  cases set with
  | unchanged => exact balanced_nil device
  | refused fresh acquired => exact acquired.balanced
  | requested fresh acquired => exact acquired.balanced
  | withdrawn requested released => exact released.balanced

end ImageSensor.Device
