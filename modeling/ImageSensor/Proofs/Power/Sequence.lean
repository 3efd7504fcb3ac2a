import ImageSensor.Power
import ImageSensor.Proofs.Platform.Trace

/-!
# What the Power Sequencer Does

The completed runs of powering up and down, one case for each way they can go. The parts in
between drive pins, wait and set the clock rate; they neither use the bus nor touch a resource.

## Main statements

- `poweredUp_of_runs`, `poweredDown_of_runs`: every completed run is one of these cases.
- `PoweredUp.outstanding`, `PoweredDown.outstanding`: clock and supplies follow the power state.
-/

namespace ImageSensor

open ImageSensor.Action

/-! ## §1 The settle delay -/

/-- Time a sensor takes to settle, in microseconds. -/
def settleTime : UInt32 := 342

theorem settleDelay_eq_ok : settleDelay settleCycles referenceClock = .ok settleTime := by
  have sum : Checked.add settleCycles (referenceClock / 1000000) = .ok 8216 :=
    Checked.add_eq_ok_iff.2 (by decide)
  have raised : Checked.sub 8216 1 = .ok 8215 := Checked.sub_eq_ok_iff.2 (by decide)
  simp only [settleDelay, sum, raised, bind, Except.bind]
  rfl

namespace Sequencer

/-! ## §2 Powering up and down -/

/-- How powering up can go. -/
inductive PoweredUp (sequencer : Sequencer) :
    List Event → Except PowerError Unit → Sequencer → Prop where
  | already (on : sequencer.power = .on) : PoweredUp sequencer [] (.ok ()) sequencer
  | clockFailed {lead : List Event} {cause : Cause} (off : sequencer.power = .off)
      (prepared : Runs (prepare sequencer.wiring) lead (.ok ())) :
      PoweredUp sequencer (lead ++ [⟨.enableClock, Except.error cause⟩]) (.error (.clock cause))
        sequencer
  | suppliesFailed {lead held : List Event} {cause : Cause} (off : sequencer.power = .off)
      (prepared : Runs (prepare sequencer.wiring) lead (.ok ()))
      (reset : Runs (drive sequencer.wiring .reset false) held (.ok ())) :
      PoweredUp sequencer
        (lead ++ ⟨.enableClock, Except.ok ()⟩ ::
          (held ++ [⟨.enableRegulators, Except.error cause⟩, ⟨.disableClock, ()⟩]))
        (.error (.regulators cause)) sequencer
  | powered {lead held settled : List Event} (off : sequencer.power = .off)
      (prepared : Runs (prepare sequencer.wiring) lead (.ok ()))
      (reset : Runs (drive sequencer.wiring .reset false) held (.ok ()))
      (released : Runs (releaseReset sequencer.wiring) settled (.ok ())) :
      PoweredUp sequencer
        (lead ++ ⟨.enableClock, Except.ok ()⟩ ::
          (held ++ ⟨.enableRegulators, Except.ok ()⟩ :: settled))
        (.ok ()) { sequencer with power := .on }

/-- How powering down can go. -/
inductive PoweredDown (sequencer : Sequencer) : List Event → Sequencer → Prop where
  | already (off : sequencer.power = .off) : PoweredDown sequencer [] sequencer
  | lowered {down held parked cut : List Event} (on : sequencer.power = .on)
      (stopped : Runs (drive sequencer.wiring .powerDown false) down (.ok ()))
      (reset : Runs (drive sequencer.wiring .reset false) held (.ok ()))
      (slept : Runs (selectPins .sleep) parked (.ok ()))
      (disabled : Runs (drive sequencer.wiring .powerEnable false) cut (.ok ())) :
      PoweredDown sequencer
        (⟨.notify .poweringOff, ()⟩ :: (down ++ ⟨.disableClock, ()⟩ ::
          (held ++ (parked ++ (cut ++ [⟨.disableRegulators, ()⟩])))))
        { sequencer with power := .off }

variable {sequencer sequencer' : Sequencer} {events : List Event}

theorem poweredUp_of_runs {outcome : Except PowerError Unit}
    (run : Runs sequencer.powerOn events (.ok (outcome, sequencer'))) :
    sequencer.PoweredUp events outcome sequencer' := by
  cases power : sequencer.power with
  | on =>
    simp only [powerOn, power] at run
    obtain ⟨rfl, result⟩ := runs_done.1 run
    cases result
    exact .already power
  | off =>
    simp only [powerOn, power] at run
    obtain ⟨_, lead, _, split₁, prepared, run⟩ := runs_bind_ok.1 run
    obtain ⟨clock, _, split₂, run⟩ := runs_ask_bind.1 run
    rcases clock with cause | _
    · obtain ⟨split₃, result⟩ := runs_done.1 run
      cases result
      subst split₃ split₂ split₁
      exact .clockFailed power prepared
    obtain ⟨_, held, _, split₃, reset, run⟩ := runs_bind_ok.1 run
    obtain ⟨supplies, _, split₄, run⟩ := runs_ask_bind.1 run
    rcases supplies with cause | _
    · obtain ⟨_, _, split₅, run⟩ := runs_ask_bind.1 run
      obtain ⟨split₆, result⟩ := runs_done.1 run
      cases result
      subst split₆ split₅ split₄ split₃ split₂ split₁
      exact .suppliesFailed power prepared reset
    · obtain ⟨_, settled, _, split₅, released, run⟩ := runs_bind_ok.1 run
      obtain ⟨split₆, result⟩ := runs_done.1 run
      cases result
      subst split₆ split₅ split₄ split₃ split₂ split₁
      rw [List.append_nil]
      exact .powered power prepared reset released

theorem poweredDown_of_runs (run : Runs sequencer.powerOff events (.ok sequencer')) :
    sequencer.PoweredDown events sequencer' := by
  cases power : sequencer.power with
  | off =>
    simp only [powerOff, power] at run
    obtain ⟨rfl, result⟩ := runs_done.1 run
    cases result
    exact .already power
  | on =>
    simp only [powerOff, power] at run
    obtain ⟨_, split₁, run⟩ := runs_notify_bind.1 run
    obtain ⟨_, down, _, split₂, stopped, run⟩ := runs_bind_ok.1 run
    obtain ⟨_, _, split₃, run⟩ := runs_ask_bind.1 run
    obtain ⟨_, held, _, split₄, reset, run⟩ := runs_bind_ok.1 run
    obtain ⟨_, parked, _, split₅, slept, run⟩ := runs_bind_ok.1 run
    obtain ⟨_, cut, _, split₆, disabled, run⟩ := runs_bind_ok.1 run
    obtain ⟨_, _, split₇, run⟩ := runs_ask_bind.1 run
    obtain ⟨split₈, result⟩ := runs_done.1 run
    cases result
    subst split₈ split₇ split₆ split₅ split₄ split₃ split₂ split₁
    exact .lowered power stopped reset slept disabled

theorem PoweredUp.power_eq_on (up : sequencer.PoweredUp events (.ok ()) sequencer') :
    sequencer'.power = .on := by
  cases up with
  | already on => exact on
  | powered off prepared reset released => rfl

/-- A sensor that cannot be powered up is off, before and after. -/
theorem PoweredUp.of_error {e : PowerError}
    (up : sequencer.PoweredUp events (.error e) sequencer') :
    sequencer' = sequencer ∧ sequencer.power = .off := by
  cases up with
  | clockFailed off prepared => exact ⟨rfl, off⟩
  | suppliesFailed off prepared reset => exact ⟨rfl, off⟩

theorem PoweredDown.power_eq_off (down : sequencer.PoweredDown events sequencer') :
    sequencer'.power = .off := by
  cases down with
  | already off => exact off
  | lowered on stopped reset slept disabled => rfl

/-! ## §3 The parts in between -/

theorem drive_within (wiring : Wiring) (pin : ControlPin) (high : Bool) :
    (drive wiring pin high).Within Call.Incidental := by
  unfold drive
  split
  · apply Within.bind (within_ask.2 trivial)
    intro answer
    cases answer with
    | error cause => exact within_notify.2 trivial
    | ok _ => trivial
  · trivial

theorem selectPins_within (profile : PinProfile) :
    (selectPins profile).Within Call.Incidental := by
  apply Within.bind (within_ask.2 trivial)
  intro answer
  cases answer with
  | error cause => exact within_notify.2 trivial
  | ok _ => trivial

theorem requestRate_within : requestRate.Within Call.Incidental := by
  apply Within.bind (within_ask.2 trivial)
  intro answer
  cases answer with
  | error cause => exact within_notify.2 trivial
  | ok _ => trivial

theorem checkRate_within : checkRate.Within Call.Incidental := by
  refine Within.bind (within_ask.2 trivial) fun hz => ?_
  split
  · trivial
  · exact within_notify.2 trivial

theorem prepare_within (wiring : Wiring) : (prepare wiring).Within Call.Incidental := by
  refine Within.bind (within_notify.2 trivial) fun _ => ?_
  refine Within.bind (drive_within _ _ _) fun _ => ?_
  refine Within.bind (within_ask.2 trivial) fun _ => ?_
  refine Within.bind (selectPins_within _) fun _ => ?_
  exact Within.bind requestRate_within fun _ => checkRate_within

theorem releaseReset_within (wiring : Wiring) :
    (releaseReset wiring).Within Call.Incidental := by
  refine Within.bind (drive_within _ _ _) fun _ => ?_
  refine Within.bind (within_ask.2 trivial) fun _ => ?_
  refine Within.bind (drive_within _ _ _) fun _ => ?_
  exact Within.bind (within_ofChecked _) fun _ => within_ask.2 trivial

/-- A part that only makes incidental calls leaves every resource alone. -/
theorem outstanding_part {action : Action Unit} {outcome : Except Trap Unit}
    (limited : action.Within Call.Incidental) (run : Runs action events outcome)
    (resource : Resource) : outstanding resource events = 0 :=
  outstanding_eq_zero (fun event member => (limited.mem run event member).idle) resource

/-! ## §4 Clock and supplies -/

/-- How much of a resource a sequencer holds: clock and supplies, while it is on. -/
def held (sequencer : Sequencer) : Resource → Int
  | .reference => 0
  | .clock | .supplies => if sequencer.power = .on then 1 else 0

theorem PoweredUp.outstanding {outcome : Except PowerError Unit}
    (up : sequencer.PoweredUp events outcome sequencer') (resource : Resource) :
    outstanding resource events = sequencer'.held resource - sequencer.held resource := by
  cases up with
  | already on => simp
  | clockFailed off prepared =>
    have lead := outstanding_part (prepare_within _) prepared resource
    cases resource <;> simp [lead, Event.change] <;> rfl
  | suppliesFailed off prepared reset =>
    have lead := outstanding_part (prepare_within _) prepared resource
    have held := outstanding_part (drive_within _ _ _) reset resource
    cases resource <;> simp [lead, held] <;> rfl
  | powered off prepared reset released =>
    have lead := outstanding_part (prepare_within _) prepared resource
    have held := outstanding_part (drive_within _ _ _) reset resource
    have settled := outstanding_part (releaseReset_within _) released resource
    cases resource <;> simp [lead, held, settled, Sequencer.held, off] <;> rfl

theorem PoweredDown.outstanding (down : sequencer.PoweredDown events sequencer')
    (resource : Resource) :
    outstanding resource events = sequencer'.held resource - sequencer.held resource := by
  cases down with
  | already off => simp
  | lowered on stopped reset slept disabled =>
    have down := outstanding_part (drive_within _ _ _) stopped resource
    have held := outstanding_part (drive_within _ _ _) reset resource
    have parked := outstanding_part (selectPins_within _) slept resource
    have cut := outstanding_part (drive_within _ _ _) disabled resource
    cases resource <;> simp [down, held, parked, cut, Sequencer.held, on] <;> rfl

end Sequencer

end ImageSensor
