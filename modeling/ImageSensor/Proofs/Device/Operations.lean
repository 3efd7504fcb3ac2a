import ImageSensor.Device.Operation
import ImageSensor.Proofs.Device.Adjusting
import ImageSensor.Proofs.Device.Streaming

/-!
# Operations in Full

Every completed operation, with its reply, is one of the cases of `Performed`: what holds of all
operations is shown case by case from here on, and no operation is opened again.

## Main statements

- `performed_of_runs`: every completed operation goes as `Performed` says.
- `created_of_runs`: a new device is off and holds nothing.
- `detached_of_runs`: taking a device apart stops it, drops its references and powers it down.
-/

namespace ImageSensor

open ImageSensor.Action

variable {device device' : Device} {events : List Event}

namespace Device

/-! ## §1 Probing -/

/-- How probing can go. -/
inductive Probed (device : Device) :
    List Event → Except DeviceError ChipIdentity → Device → Prop where
  | asleep (asleep : device.suspended = true) : Probed device [] (.error .suspended) device
  | unpowered {events : List Event} {e : DeviceError} {device' : Device}
      (awake : device.suspended = false) (acquired : device.Acquired events (.error e) device') :
      Probed device events (.error e) device'
  | rejected {first second third : List Event} {e : IdentityError} {device₁ device' : Device}
      (awake : device.suspended = false) (acquired : device.Acquired first (.ok ()) device₁)
      (identified : Runs device₁.bus.identify second (.ok (.error e)))
      (released : device₁.Released third device') :
      Probed device (first ++ (second ++ third)) (.error (.identity e)) device'
  | detected {first second third : List Event} {chip : ChipIdentity} {device₁ device' : Device}
      (awake : device.suspended = false) (acquired : device.Acquired first (.ok ()) device₁)
      (identified : Runs device₁.bus.identify second (.ok (.ok chip)))
      (released : device₁.Released third device') :
      Probed device
        (first ++ (second ++ (third ++ [⟨.notify (.detected chip.id chip.revision), ()⟩])))
        (.ok chip) device'

theorem probed_of_runs {outcome : Except DeviceError ChipIdentity}
    (run : Runs device.probe events (.ok (outcome, device'))) :
    device.Probed events outcome device' := by
  unfold probe at run
  cases asleep : device.suspended with
  | true =>
    rw [if_pos asleep] at run
    obtain ⟨rfl, result⟩ := runs_done.1 run
    cases result
    exact .asleep asleep
  | false =>
    rw [if_neg (by simp [asleep])] at run
    obtain ⟨⟨granted, device₁⟩, first, _, split₁, acquired, run⟩ := runs_bind_ok.1 run
    have acquired := acquired_of_runs acquired
    rcases granted with e | _
    · obtain ⟨split₂, result⟩ := runs_done.1 run
      cases result
      subst split₂ split₁
      rw [List.append_nil]
      exact .unpowered asleep acquired
    -- the reference is dropped before the answer of the chip is looked at
    obtain ⟨identity, second, _, split₂, identified, run⟩ := runs_bind_ok.1 run
    obtain ⟨device₂, third, _, split₃, released, run⟩ := runs_bind_ok.1 run
    obtain ⟨announced, fourth, _, split₄, announce, run⟩ := runs_bind_ok.1 run
    obtain ⟨split₅, result⟩ := runs_done.1 run
    cases result
    have released := released_of_runs released
    rcases identity with e | chip
    · obtain ⟨split₆, result⟩ := runs_done.1 announce
      cases result
      subst split₆ split₅ split₄ split₃ split₂ split₁
      rw [List.append_nil, List.append_nil]
      exact .rejected asleep acquired identified released
    · obtain ⟨_, split₆, announce⟩ := runs_notify_bind.1 announce
      obtain ⟨split₇, result⟩ := runs_done.1 announce
      cases result
      subst split₇ split₆ split₅ split₄ split₃ split₂ split₁
      exact .detected asleep acquired identified released

/-! ## §2 All operations -/

/-- How an operation can go. -/
inductive Performed (device : Device) :
    Operation → List Event → Reply → Device → Prop where
  | probe {events : List Event} {outcome : Except DeviceError ChipIdentity} {device' : Device}
      (probed : device.Probed events outcome device') :
      Performed device .probe events (.identified outcome) device'
  | start {events : List Event} {outcome : Except DeviceError Unit} {device' : Device}
      (started : device.Started events outcome device') :
      Performed device .start events (.completed outcome) device'
  | stop {events : List Event} {device' : Device} (stopped : device.Stopped events device') :
      Performed device .stop events (.completed (.ok ())) device'
  | streamOn {events : List Event} {outcome : Except DeviceError Unit} {device' : Device}
      (started : device.Started events outcome device') :
      Performed device (.setStream true) events (.completed outcome) device'
  | streamOff {events : List Event} {device' : Device}
      (stopped : device.Stopped events device') :
      Performed device (.setStream false) events (.completed (.ok ())) device'
  | setPower {on : Bool} {events : List Event} {outcome : Except DeviceError Unit}
      {device' : Device} (set : device.PowerSet on events outcome device') :
      Performed device (.setPower on) events (.completed outcome) device'
  | suspend {events : List Event} {device' : Device}
      (suspended : device.Suspended events device') :
      Performed device .suspend events (.completed (.ok ())) device'
  | resume {events : List Event} {outcome : Except DeviceError Unit} {device' : Device}
      (resumed : device.Resumed events outcome device') :
      Performed device .resume events (.completed outcome) device'
  | tryFormat {width height : UInt32} :
      Performed device (.setFormat width height .trial) []
        (.negotiated ((Catalog.bestFit width height).format device.busCode))
        { device with trialFormat := (Catalog.bestFit width height).format device.busCode }
  | useFormat {width height : UInt32} {events : List Event} {device' : Device}
      (selected : device.ModeSelected (Catalog.bestFit width height) events device') :
      Performed device (.setFormat width height .active) events
        (.negotiated ((Catalog.bestFit width height).format device.busCode)) device'
  | setControl {id : ControlId} {v : Int} {events : List Event}
      {outcome : Except ControlError Unit} {device' : Device}
      (adjusted : device.Adjusted (device.controls.set id v) events outcome device') :
      Performed device (.setControl id v) events (.adjusted outcome) device'
  | setControlRaw {cid : UInt32} {v : Int} {events : List Event}
      {outcome : Except ControlError Unit} {device' : Device}
      (adjusted : device.Adjusted (device.controls.setRaw cid v) events outcome device') :
      Performed device (.setControlRaw cid v) events (.adjusted outcome) device'
  | setControls {values : List (ControlId × Int)} {events : List Event}
      {outcome : Except ControlError Unit} {device' : Device}
      (set : device.ControlsSet values events outcome device') :
      Performed device (.setControls values) events (.adjusted outcome) device'

/-- Negotiating a format is an operation on its own, of either kind. -/
theorem negotiated_of_runs {width height : UInt32} {kind : FormatKind} {format : Format}
    (run : Runs (device.setFormat width height kind) events (.ok (format, device'))) :
    device.Performed (.setFormat width height kind) events (.negotiated format) device' := by
  have useFormat := @Performed.useFormat device width height
  have tryFormat := @Performed.tryFormat device width height
  unfold setFormat at run
  -- the mode is kept opaque: nothing here depends on which of the catalog it is
  generalize Catalog.bestFit width height = mode at run useFormat tryFormat
  cases kind with
  | trial =>
    obtain ⟨rfl, result⟩ := runs_done.1 run
    cases result
    exact tryFormat
  | active =>
    obtain ⟨device₁, inner, wrapped⟩ := runs_bind_done.1 run
    cases wrapped
    exact useFormat (modeSelected_of_runs inner)

theorem performed_of_runs {operation : Operation} {reply : Reply}
    (run : Runs (device.perform operation) events (.ok (reply, device'))) :
    device.Performed operation events reply device' := by
  cases operation with
  | probe =>
    obtain ⟨⟨outcome, device₁⟩, inner, wrapped⟩ := runs_bind_done.1 run
    cases wrapped
    exact .probe (probed_of_runs inner)
  | start =>
    obtain ⟨⟨outcome, device₁⟩, inner, wrapped⟩ := runs_bind_done.1 run
    cases wrapped
    exact .start (started_of_runs inner)
  | stop =>
    obtain ⟨device₁, inner, wrapped⟩ := runs_bind_done.1 run
    cases wrapped
    exact .stop (stopped_of_runs inner)
  | setStream on =>
    obtain ⟨⟨outcome, device₁⟩, inner, wrapped⟩ := runs_bind_done.1 run
    cases wrapped
    cases on with
    | true => exact .streamOn (started_of_runs inner)
    | false =>
      obtain ⟨device₂, halt, wrapped⟩ := runs_bind_done.1 inner
      cases wrapped
      exact .streamOff (stopped_of_runs halt)
  | setPower on =>
    obtain ⟨⟨outcome, device₁⟩, inner, wrapped⟩ := runs_bind_done.1 run
    cases wrapped
    exact .setPower (powerSet_of_runs inner)
  | suspend =>
    obtain ⟨device₁, inner, wrapped⟩ := runs_bind_done.1 run
    cases wrapped
    exact .suspend (suspended_of_runs inner)
  | resume =>
    obtain ⟨⟨outcome, device₁⟩, inner, wrapped⟩ := runs_bind_done.1 run
    cases wrapped
    exact .resume (resumed_of_runs inner)
  | setFormat width height kind =>
    obtain ⟨⟨format, device₁⟩, inner, wrapped⟩ := runs_bind_done.1 run
    obtain ⟨rfl, rfl⟩ := Prod.mk.inj wrapped
    exact negotiated_of_runs inner
  | setControl id v =>
    obtain ⟨⟨outcome, device₁⟩, inner, wrapped⟩ := runs_bind_done.1 run
    cases wrapped
    exact .setControl (adjusted_of_runs inner)
  | setControlRaw cid v =>
    obtain ⟨⟨outcome, device₁⟩, inner, wrapped⟩ := runs_bind_done.1 run
    cases wrapped
    exact .setControlRaw (adjusted_of_runs inner)
  | setControls values =>
    obtain ⟨⟨outcome, device₁⟩, inner, wrapped⟩ := runs_bind_done.1 run
    cases wrapped
    exact .setControls (controlsSet_of_runs inner)

/-- What holds of each kind of operation holds of all; formats and controls are one kind. -/
theorem Performed.elim {operation : Operation} {reply : Reply} {goal : Prop}
    (probe : ∀ {outcome}, device.Probed events outcome device' → goal)
    (start : ∀ {outcome}, device.Started events outcome device' → goal)
    (stop : device.Stopped events device' → goal)
    (setPower : ∀ {on outcome}, device.PowerSet on events outcome device' → goal)
    (suspend : device.Suspended events device' → goal)
    (resume : ∀ {outcome}, device.Resumed events outcome device' → goal)
    (tune : device.Tuned events device' → goal)
    (performed : device.Performed operation events reply device') : goal := by
  cases performed with
  | probe probed => exact probe probed
  | start started | streamOn started => exact start started
  | stop stopped | streamOff stopped => exact stop stopped
  | setPower set => exact setPower set
  | suspend suspended => exact suspend suspended
  | resume resumed => exact resume resumed
  | tryFormat => exact tune (tuned_trialFormat device _)
  | useFormat selected => exact tune selected.tuned
  | setControl adjusted => exact tune adjusted.tuned_of_set
  | setControlRaw adjusted => exact tune adjusted.tuned_of_setRaw
  | setControls set => exact tune set.tuned

/-! ## §3 What operations leave alone -/

theorem Probed.keeps {outcome : Except DeviceError ChipIdentity}
    (probed : device.Probed events outcome device') : device.Kept device' := by
  cases probed with
  | asleep asleep => exact .refl device
  | unpowered awake acquired => exact acquired.keeps
  | rejected awake acquired identified released | detected awake acquired identified released =>
    exact acquired.keeps.trans released.keeps

theorem Performed.configuration_eq {operation : Operation} {reply : Reply}
    (performed : device.Performed operation events reply device') :
    device'.configuration = device.configuration :=
  performed.elim (·.keeps.configuration) (·.keeps.configuration) (·.keeps.configuration)
    (·.keeps.configuration) (·.keeps.configuration) (·.keeps.configuration) Tuned.configuration

end Device

/-- The active mode after an operation: only negotiating the active format selects one. -/
def Operation.selects (mode : Mode) : Operation → Mode
  | setFormat width height .active => Catalog.bestFit width height
  | setFormat _ _ .trial | probe | start | stop | setStream _ | setPower _ | suspend | resume
  | setControl _ _ | setControlRaw _ _ | setControls _ => mode

namespace Device

theorem Performed.mode_eq {operation : Operation} {reply : Reply}
    (performed : device.Performed operation events reply device') :
    device'.mode = operation.selects device.mode := by
  cases performed with
  | probe probed => exact probed.keeps.mode
  | start started | streamOn started => exact started.keeps.mode
  | stop stopped | streamOff stopped => exact stopped.keeps.mode
  | setPower set => exact set.keeps.mode
  | suspend suspended => exact suspended.keeps.mode
  | resume resumed => exact resumed.keeps.mode
  | tryFormat => rfl
  | useFormat selected => exact selected.mode_eq
  | setControl adjusted | setControlRaw adjusted => exact adjusted.mode_eq
  | setControls set => exact set.mode_eq

/-! ## §4 Setting up and taking apart -/

/-- How a device is created: off, without references, in the default mode. -/
inductive Created (configuration : Configuration) (wiring : Wiring) :
    List Event → Device → Prop where
  | created {events : List Event} {controls : ControlBank}
      (reported : ∀ event ∈ events, event.call.Incidental)
      (derived :
        ControlBank.ofMode Catalog.defaultMode configuration.digitalGain = .ok controls) :
      Created configuration wiring events
        { configuration, sequencer := ⟨wiring, .off⟩, users := 0, powerRequested := false,
          stream := .stopped, suspended := false, mode := Catalog.defaultMode,
          trialFormat := Catalog.defaultMode.format configuration.orientation.busCode, controls }

theorem reportUnwired_within (wiring : Wiring) (pin : ControlPin) :
    (Sequencer.reportUnwired wiring pin).Within Call.Incidental := by
  unfold Sequencer.reportUnwired
  split
  · trivial
  · exact within_notify.2 trivial

theorem created_of_runs {configuration : Configuration} {wiring : Wiring}
    (run : Runs (create configuration wiring) events (.ok device)) :
    Created configuration wiring events device := by
  obtain ⟨sequencer, first, second, split₁, wired, run⟩ := runs_bind_ok.1 run
  have reported : ∀ event ∈ first, event.call.Incidental := by
    refine Within.mem ?_ wired
    refine Within.bind (reportUnwired_within _ _) fun _ => ?_
    refine Within.bind (reportUnwired_within _ _) fun _ => ?_
    exact Within.bind (reportUnwired_within _ _) fun _ => trivial
  -- the reports say nothing about the sequencer that is returned behind them
  have off : sequencer = ⟨wiring, .off⟩ := by
    obtain ⟨_, _, _, _, _, wired⟩ := runs_bind_ok.1 wired
    obtain ⟨_, _, _, _, _, wired⟩ := runs_bind_ok.1 wired
    obtain ⟨_, _, same⟩ := runs_bind_done.1 wired
    exact same.symm
  obtain ⟨controls, derived, run⟩ := runs_ofChecked_bind.1 run
  obtain ⟨split₂, result⟩ := runs_done.1 run
  cases result
  subst off split₂ split₁
  rw [List.append_nil]
  exact .created reported derived

/-- How dropping several references can go. -/
inductive Dropped : Nat → Device → List Event → Device → Prop where
  | none {device : Device} : Dropped 0 device [] device
  | next {count : Nat} {device device₁ device' : Device} {first second : List Event}
      (released : device.Released first device₁) (later : Dropped count device₁ second device') :
      Dropped (count + 1) device (first ++ second) device'

theorem dropped_of_runs {count : Nat} (run : Runs (dropReferences count device) events (.ok device')) :
    Dropped count device events device' := by
  induction count generalizing device events with
  | zero =>
    obtain ⟨rfl, result⟩ := runs_done.1 run
    cases result
    exact .none
  | succ count ih =>
    obtain ⟨device₁, first, second, rfl, released, rest⟩ := runs_bind_ok.1 run
    exact .next (released_of_runs released) (ih rest)

/-- How taking a device apart goes. -/
inductive Detached (device : Device) : List Event → Wiring → Prop where
  | detached {first second third : List Event} {device₁ device₂ : Device} {sequencer : Sequencer}
      (stopped : device.Stopped first device₁)
      (dropped : Dropped device₁.users.toNat device₁ second device₂)
      (down : device₂.sequencer.PoweredDown third sequencer) :
      Detached device (first ++ (second ++ third)) sequencer.wiring

theorem detached_of_runs {wiring : Wiring} (run : Runs device.detach events (.ok wiring)) :
    device.Detached events wiring := by
  obtain ⟨device₁, first, _, split₁, stopped, run⟩ := runs_bind_ok.1 run
  obtain ⟨device₂, second, _, split₂, dropped, run⟩ := runs_bind_ok.1 run
  obtain ⟨device₃, lowered, same⟩ := runs_bind_done.1 run
  obtain ⟨sequencer, down, last⟩ := runs_bind_done.1 lowered
  subst same last split₂ split₁
  exact .detached (stopped_of_runs stopped) (dropped_of_runs dropped)
    (Sequencer.poweredDown_of_runs down)

end Device

end ImageSensor
