import ImageSensor.Proofs.Control.Ranges
import ImageSensor.Proofs.Device.Operations

/-!
# Operations Complete

No operation stops half-way. The power sequence and the bus never compute anything that can trap;
the operations of a device compute the register writes of its controls and count its references,
and both have results while the device is regular.

## Main statements

- `Device.Regular`: the mode is one of the catalog, and the controls are in their ranges.
- `perform_total`: every operation of a regular device ends with a result, whatever the platform
  answers.
- `Performed.regular`: every operation leaves a regular device regular.
-/

namespace ImageSensor

open ImageSensor.Action

/-! ## §1 The power sequence -/

namespace Sequencer

theorem reportUnwired_total (wiring : Wiring) (pin : ControlPin) :
    (reportUnwired wiring pin).Total := by
  unfold reportUnwired
  split
  · exact total_done _
  · exact total_notify _

theorem create_total (wiring : Wiring) : (create wiring).Total := by
  refine (reportUnwired_total wiring _).bind fun _ _ _ => ?_
  refine (reportUnwired_total wiring _).bind fun _ _ _ => ?_
  exact (reportUnwired_total wiring _).map

theorem drive_total (wiring : Wiring) (pin : ControlPin) (high : Bool) :
    (drive wiring pin high).Total := by
  unfold drive
  split
  · apply Total.ask_bind
    intro answer
    cases answer with
    | error cause => exact total_notify _
    | ok _ => exact total_done _
  · exact total_done _

theorem selectPins_total (profile : PinProfile) : (selectPins profile).Total := by
  apply Total.ask_bind
  intro answer
  cases answer with
  | error cause => exact total_notify _
  | ok _ => exact total_done _

theorem requestRate_total : requestRate.Total := by
  apply Total.ask_bind
  intro answer
  cases answer with
  | error cause => exact total_notify _
  | ok _ => exact total_done _

theorem checkRate_total : checkRate.Total := by
  apply Total.ask_bind
  intro hz
  split
  · exact total_done _
  · exact total_notify _

theorem prepare_total (wiring : Wiring) : (prepare wiring).Total := by
  apply Total.notify_bind
  refine (drive_total _ _ _).bind fun _ _ _ => ?_
  apply Total.ask_bind
  intro _
  refine (selectPins_total _).bind fun _ _ _ => ?_
  refine requestRate_total.bind fun _ _ _ => ?_
  exact checkRate_total

theorem releaseReset_total (wiring : Wiring) : (releaseReset wiring).Total := by
  refine (drive_total _ _ _).bind fun _ _ _ => ?_
  apply Total.ask_bind
  intro _
  refine (drive_total _ _ _).bind fun _ _ _ => ?_
  exact Total.ofChecked_bind settleDelay_eq_ok (total_ask _)

theorem powerOn_total (sequencer : Sequencer) : sequencer.powerOn.Total := by
  unfold powerOn
  split
  · exact total_done _
  · refine (prepare_total _).bind fun _ _ _ => ?_
    apply Total.ask_bind
    rintro (cause | _)
    · exact total_done _
    refine (drive_total _ _ _).bind fun _ _ _ => ?_
    apply Total.ask_bind
    intro answer
    cases answer with
    | error cause => exact Total.ask_bind fun _ => total_done _
    | ok _ => exact (releaseReset_total _).map

theorem powerOff_total (sequencer : Sequencer) : sequencer.powerOff.Total := by
  unfold powerOff
  split
  · exact total_done _
  · apply Total.notify_bind
    refine (drive_total _ _ _).bind fun _ _ _ => ?_
    apply Total.ask_bind
    intro _
    refine (drive_total _ _ _).bind fun _ _ _ => ?_
    refine (selectPins_total _).bind fun _ _ _ => ?_
    refine (drive_total _ _ _).bind fun _ _ _ => ?_
    exact Total.ask_bind fun _ => total_done _

end Sequencer

/-! ## §2 The bus -/

namespace Bus

theorem write_total (bus : Bus) (write : RegisterWrite) : (bus.write write).Total := by
  unfold Bus.write
  split
  · exact Total.notify_bind (Total.ask_bind fun _ => total_done _)
  · exact total_done _

theorem read_total (bus : Bus) (address : RegisterAddress) (width : UInt8) :
    (bus.read address width).Total := by
  unfold Bus.read
  split
  · exact Total.ask_bind fun _ => total_done _
  · exact total_done _

theorem writeAll_total (bus : Bus) (writes : List RegisterWrite) : (bus.writeAll writes).Total := by
  induction writes with
  | nil => exact total_done _
  | cons write rest ih =>
    apply (bus.write_total write).bind
    intro _ outcome _
    cases outcome with
    | error e => exact total_done _
    | ok _ => exact ih

theorem applyTable_total (bus : Bus) (table : RegisterTable) (orientation : Orientation) :
    (bus.applyTable table orientation).Total := by
  apply (bus.writeAll_total _).bind
  intro _ outcome _
  cases outcome with
  | error e => exact total_done _
  | ok _ => exact Total.notify_bind (total_done _)

theorem identify_total (bus : Bus) : bus.identify.Total := by
  apply (bus.read_total _ _).bind
  rintro _ (e | word) _
  · exact total_done _
  dsimp only
  split
  · apply (bus.read_total _ _).bind
    rintro _ (e | revision) _
    · exact total_done _
    · exact total_done _
  · exact Total.notify_bind (total_done _)

end Bus

/-! ## §3 Power and references -/

namespace Device

variable {device device' : Device} {events : List Event}

theorem powerUp_total (device : Device) : device.powerUp.Total := by
  unfold powerUp
  split
  · exact total_done _
  · exact (Sequencer.powerOn_total _).map

/-- Powering up counts nothing. -/
theorem users_of_powerUp {outcome : Except DeviceError Unit}
    (run : Runs device.powerUp events (.ok (outcome, device'))) : device'.users = device.users := by
  unfold powerUp at run
  split at run
  · cases (runs_done.1 run).2
    rfl
  · obtain ⟨_, -, same⟩ := runs_bind_done.1 run
    cases same
    rfl

theorem powerDown_total (device : Device) : device.powerDown.Total :=
  (Sequencer.powerOff_total _).map

/-- One more reference can be counted. -/
def HasRoom (device : Device) : Prop :=
  device.users.toNat + 1 < 0x100000000

theorem acquirePower_total (room : device.HasRoom) : device.acquirePower.Total := by
  -- the count is the only thing that could trap, and it is taken after powering up
  obtain ⟨users, counted⟩ : ∃ users, Checked.add device.users 1 = .ok users := by
    refine ⟨device.users + 1, Checked.add_eq_ok_iff.2 ?_⟩
    rw [UInt32.toNat_add, UInt32.toNat_one]
    exact (Nat.mod_eq_of_lt room).symm
  apply Total.ask_bind
  rintro (cause | _)
  · exact total_done _
  apply device.powerUp_total.bind
  rintro _ ⟨outcome, device₁⟩ up
  rcases outcome with e | _
  · exact Total.ask_bind fun _ => total_done _
  · rw [← users_of_powerUp up] at counted
    exact Total.ofChecked_bind counted (total_done _)

theorem releasePower_total (device : Device) : device.releasePower.Total := by
  unfold releasePower
  split
  · exact total_done _
  · refine Total.bind ?_ fun _ _ _ => Total.ask_bind fun _ => total_done _
    unfold powerDownUnused
    split
    · exact powerDown_total _
    · exact total_done _

theorem setPower_total (room : device.HasRoom) (on : Bool) : (device.setPower on).Total := by
  unfold setPower
  split
  · exact total_done _
  split
  · apply (acquirePower_total room).bind
    rintro _ ⟨outcome, device₁⟩ _
    cases outcome with
    | error e => exact total_done _
    | ok _ => exact total_done _
  · exact (releasePower_total _).map

/-! ## §4 The stream -/

/-- The mode is one of the catalog, and the controls are in their ranges. -/
structure Regular (device : Device) : Prop where
  mode : device.mode ∈ Catalog.modes
  controls : device.controls.Sound

theorem Regular.of_kept (regular : device.Regular) (kept : device.Kept device') :
    device'.Regular := by
  refine ⟨?_, ?_⟩
  · rw [kept.mode]
    exact regular.mode
  · rw [kept.controls]
    exact regular.controls

theorem programSensor_total (regular : device.Regular) : device.programSensor.Total := by
  obtain ⟨restore, replay⟩ := regular.controls.replay_ok
  apply (device.bus.applyTable_total _ _).bind
  rintro _ (e | _) _
  · exact total_done _
  refine Total.ofChecked_bind replay ?_
  apply (device.bus.writeAll_total _).bind
  intro _ outcome _
  cases outcome with
  | error e => exact total_done _
  | ok _ => exact device.bus.writeAll_total _

theorem streamOn_total (regular : device.Regular) : device.streamOn.Total := by
  apply (Sequencer.powerOn_total _).bind
  rintro _ ⟨outcome, sequencer⟩ _
  cases outcome with
  | error e => exact total_done _
  | ok _ => exact (programSensor_total ⟨regular.mode, regular.controls⟩).map

theorem enterStandby_total (device : Device) : device.enterStandby.Total := by
  apply (device.bus.write_total _).bind
  intro _ outcome _
  cases outcome with
  | error e => exact total_notify _
  | ok _ => exact total_done _

/-- The frame rate of a supported mode exists. -/
theorem announceStream_total (regular : device.Regular) : device.announceStream.Total := by
  have rate : ∃ rate, device.mode.interval.framesPerSecond = .ok rate := by
    -- both modes of the catalog have the same interval
    have same : device.mode.interval = ⟨10000, 300000⟩ := by
      rcases List.mem_cons.1 regular.mode with mode | mode
      · rw [mode]
        rfl
      · rw [List.mem_singleton.1 mode]
        rfl
    have sum : Checked.add 300000 (10000 / 2) = .ok 305000 := Checked.add_eq_ok_iff.2 (by decide)
    rw [same]
    exact ⟨30, by simp only [FrameInterval.framesPerSecond, sum, bind, Except.bind]; rfl⟩
  obtain ⟨rate, framesPerSecond⟩ := rate
  exact Total.ofChecked_bind framesPerSecond (total_notify _)

theorem start_total (regular : device.Regular) (room : device.HasRoom) :
    device.start.Total := by
  unfold start
  split
  · exact total_done _
  refine (announceStream_total regular).bind fun _ _ _ => ?_
  apply (acquirePower_total room).bind
  rintro _ ⟨e | _, device₁⟩ run
  · exact total_done _
  -- taking the reference has left mode and controls alone
  have regular₁ := regular.of_kept (acquired_of_runs run).keeps
  dsimp only
  split
  · exact Total.notify_bind (total_done _)
  apply (streamOn_total regular₁).bind
  rintro _ ⟨outcome, device₂⟩ _
  cases outcome with
  | error e => exact Total.notify_bind (releasePower_total _).map
  | ok _ => exact total_done _

theorem stop_total (device : Device) : device.stop.Total := by
  unfold stop
  split
  · exact total_done _
  apply Total.notify_bind
  refine Total.bind ?_ fun _ _ _ => (releasePower_total _).map
  unfold quiesce
  split
  · exact total_done _
  · exact device.enterStandby_total

theorem setStream_total (regular : device.Regular) (room : device.HasRoom) (on : Bool) :
    (device.setStream on).Total := by
  unfold setStream
  split
  · exact start_total regular room
  · exact device.stop_total.map

theorem suspend_total (device : Device) : device.suspend.Total := by
  unfold suspend
  split
  · exact total_done _
  apply Total.notify_bind
  refine Total.bind ?_ fun _ _ _ => device.powerDown_total.map
  unfold pauseStream
  split
  · exact total_done _
  · exact device.enterStandby_total

theorem restore_total (regular : device.Regular) : device.restore.Total := by
  unfold restore
  split
  · exact streamOn_total regular
  split
  · exact device.powerUp_total
  · exact total_done _

theorem resume_total (regular : device.Regular) : device.resume.Total := by
  unfold resume
  split
  · apply Total.notify_bind
    have awoken : { device with suspended := false }.Regular := ⟨regular.mode, regular.controls⟩
    apply (restore_total awoken).bind
    rintro _ ⟨outcome, device₁⟩ _
    cases outcome with
    | error e => exact Total.notify_bind device₁.stop_total.map
    | ok _ => exact total_done _
  · exact total_done _

/-! ## §5 Formats and controls -/

theorem send_total (device : Device) (writes : List RegisterWrite) : (device.send writes).Total := by
  unfold send
  split
  · exact device.bus.writeAll_total _
  · exact total_done _

theorem selectMode_total (regular : device.Regular) {mode : Mode}
    (supported : mode ∈ Catalog.modes) : (device.selectMode mode).Total := by
  obtain ⟨adjustment, derived, -⟩ := regular.controls.selectMode_ok (Catalog.wellFormed supported)
  apply Total.notify_bind
  refine Total.ofChecked_bind derived ?_
  apply (send_total _ _).bind
  intro _ outcome _
  cases outcome with
  | error e => exact Total.notify_bind (total_done _)
  | ok _ => exact total_done _

theorem setFormat_total (regular : device.Regular) (width height : UInt32) (kind : FormatKind) :
    (device.setFormat width height kind).Total := by
  have supported := Catalog.bestFit_mem width height
  unfold setFormat
  -- the mode is kept opaque: nothing here depends on which of the catalog it is
  generalize Catalog.bestFit width height = mode at supported
  cases kind with
  | trial => exact total_done _
  | active => exact (selectMode_total regular supported).map

theorem adjust_total (device : Device) {change : Checked (Except ControlError Adjustment)}
    {outcome : Except ControlError Adjustment} (result : change = .ok outcome) :
    (device.adjust change).Total := by
  refine Total.ofChecked_bind result ?_
  rcases outcome with e | adjustment
  · exact total_done _
  · exact (send_total _ _).map

theorem setControl_total (regular : device.Regular) (id : ControlId) (v : Int) :
    (device.setControl id v).Total := by
  obtain ⟨outcome, result, -⟩ := regular.controls.set_ok id v
  exact device.adjust_total result

theorem setControlRaw_total (regular : device.Regular) (cid : UInt32) (v : Int) :
    (device.setControlRaw cid v).Total := by
  obtain ⟨outcome, result, -⟩ := regular.controls.setRaw_ok cid v
  exact device.adjust_total result

/-- A change that leads from controls in range to controls in range keeps a device regular. -/
theorem Adjusted.regular {change : Checked (Except ControlError Adjustment)}
    {outcome : Except ControlError Unit}
    (adjusted : device.Adjusted change events outcome device') (regular : device.Regular)
    (sound : ∃ changed, change = .ok changed ∧
      ∀ adjustment, changed = .ok adjustment → adjustment.bank.Sound) : device'.Regular := by
  obtain ⟨changed, result, sound⟩ := sound
  cases adjusted with
  | rejected refused => exact regular
  | applied accepted sent =>
    exact ⟨regular.mode, sound _ (Except.ok.inj (result.symm.trans accepted))⟩

theorem setControls_total (regular : device.Regular) (values : List (ControlId × Int)) :
    (device.setControls values).Total := by
  -- every control that is set leaves a regular device for those behind it
  induction values generalizing device with
  | nil => exact total_done _
  | cons value rest ih =>
    obtain ⟨id, v⟩ := value
    apply (setControl_total regular id v).bind
    rintro _ ⟨outcome, device₁⟩ run
    cases outcome with
    | error e => exact total_done _
    | ok _ => exact ih ((adjusted_of_runs run).regular regular (regular.controls.set_ok id v))

/-! ## §6 All operations -/

theorem probe_total (room : device.HasRoom) : device.probe.Total := by
  unfold probe
  split
  · exact total_done _
  apply (acquirePower_total room).bind
  rintro _ ⟨e | _, device₁⟩ _
  · exact total_done _
  refine (Bus.identify_total _).bind fun _ identity _ => ?_
  refine (releasePower_total _).bind fun _ device₂ _ => ?_
  refine Total.bind ?_ fun _ _ _ => total_done _
  rcases identity with e | chip
  · exact total_done _
  · exact Total.notify_bind (total_done _)

/-- Every operation of a regular device ends with a result, whatever the platform answers. -/
theorem perform_total (regular : device.Regular) (room : device.HasRoom)
    (operation : Operation) : (device.perform operation).Total := by
  cases operation with
  | probe => exact (probe_total room).map
  | start => exact (start_total regular room).map
  | stop => exact device.stop_total.map
  | setStream on => exact (setStream_total regular room on).map
  | setPower on => exact (setPower_total room on).map
  | suspend => exact device.suspend_total.map
  | resume => exact (resume_total regular).map
  | setFormat width height kind => exact (setFormat_total regular width height kind).map
  | setControl id v => exact (setControl_total regular id v).map
  | setControlRaw cid v => exact (setControlRaw_total regular cid v).map
  | setControls values => exact (setControls_total regular values).map

theorem create_total (configuration : Configuration) (wiring : Wiring) :
    (create configuration wiring).Total := by
  obtain ⟨controls, derived, -⟩ :=
    ControlBank.ofMode_ok Catalog.wellFormed_defaultMode configuration.digitalGain
  exact (Sequencer.create_total wiring).bind fun _ _ _ =>
    Total.ofChecked_bind derived (total_done _)

theorem dropReferences_total (count : Nat) (device : Device) :
    (dropReferences count device).Total := by
  induction count generalizing device with
  | zero => exact total_done _
  | succ count ih => exact device.releasePower_total.bind fun _ device₁ _ => ih device₁

/-- Taking a device apart ends with its pins, whatever state it was in. -/
theorem detach_total (device : Device) : device.detach.Total := by
  refine device.stop_total.bind fun _ device₁ _ => ?_
  refine (dropReferences_total _ device₁).bind fun _ device₂ _ => ?_
  exact (powerDown_total _).map

/-! ## §7 Regular devices stay regular -/

theorem Created.regular {configuration : Configuration} {wiring : Wiring}
    (created : Created configuration wiring events device) : device.Regular := by
  cases created with
  | created reported derived =>
    obtain ⟨bank, result, -, sound⟩ :=
      ControlBank.ofMode_ok Catalog.wellFormed_defaultMode configuration.digitalGain
    refine ⟨List.mem_cons_self, ?_⟩
    rwa [← Except.ok.inj (result.symm.trans derived)]

theorem ModeSelected.regular {mode : Mode} (selected : device.ModeSelected mode events device')
    (regular : device.Regular) (supported : mode ∈ Catalog.modes) : device'.Regular := by
  obtain ⟨adjustment, result, sound⟩ :=
    regular.controls.selectMode_ok (Catalog.wellFormed supported)
  cases selected with
  | selected derived sent | failed derived sent =>
    cases Except.ok.inj (result.symm.trans derived)
    exact ⟨supported, sound⟩

theorem ControlsSet.regular {values : List (ControlId × Int)} {outcome : Except ControlError Unit}
    (set : device.ControlsSet values events outcome device') (regular : device.Regular) :
    device'.Regular := by
  induction set with
  | none => exact regular
  | stopped adjusted => exact adjusted.regular regular (regular.controls.set_ok _ _)
  | next adjusted _ ih => exact ih (adjusted.regular regular (regular.controls.set_ok _ _))

theorem Performed.regular {operation : Operation} {reply : Reply}
    (performed : device.Performed operation events reply device') (regular : device.Regular) :
    device'.Regular := by
  cases performed with
  | probe probed => exact regular.of_kept probed.keeps
  | start started | streamOn started => exact regular.of_kept started.keeps
  | stop stopped | streamOff stopped => exact regular.of_kept stopped.keeps
  | setPower set => exact regular.of_kept set.keeps
  | suspend suspended => exact regular.of_kept suspended.keeps
  | resume resumed => exact regular.of_kept resumed.keeps
  | tryFormat => exact ⟨regular.mode, regular.controls⟩
  | useFormat selected => exact selected.regular regular (Catalog.bestFit_mem _ _)
  | setControl adjusted => exact adjusted.regular regular (regular.controls.set_ok _ _)
  | setControlRaw adjusted => exact adjusted.regular regular (regular.controls.setRaw_ok _ _)
  | setControls set => exact set.regular regular

end Device

end ImageSensor
