import ImageSensor.Device.Adjustment
import ImageSensor.Proofs.Bus.Transfer
import ImageSensor.Proofs.Control.Writes

/-!
# Adjusting Formats and Controls

How selecting a mode and setting controls can go. Both change what the device holds and write
control registers of a sensor that can receive them; they leave power, stream and suspension as
they are.

## Main statements

- `modeSelected_of_runs`, `adjusted_of_runs`, `controlsSet_of_runs`: every completed run is one of
  the cases.
- `ModeSelected.tuned`, `Adjusted.tuned`, `ControlsSet.tuned`: what an adjustment leaves alone.
-/

namespace ImageSensor.Device

open ImageSensor.Action

variable {device device' : Device} {events : List Event}

/-! ## §1 Sending writes -/

/-- How sending writes can go. -/
inductive Sent (device : Device) :
    List RegisterWrite → List Event → Except BusError Unit → Prop where
  | skipped {writes : List RegisterWrite} (unreachable : device.isLive = false) :
      Sent device writes [] (.ok ())
  | sent {writes : List RegisterWrite} {events : List Event} {outcome : Except BusError Unit}
      (live : device.isLive = true) (wrote : device.bus.Wrote writes events outcome) :
      Sent device writes events outcome

theorem sent_of_runs {writes : List RegisterWrite} {outcome : Except BusError Unit}
    (run : Runs (device.send writes) events (.ok outcome)) :
    device.Sent writes events outcome := by
  unfold send at run
  cases live : device.isLive with
  | true =>
    rw [if_pos live] at run
    exact .sent live (Bus.wrote_of_runs run)
  | false =>
    rw [if_neg (by simp [live])] at run
    obtain ⟨rfl, result⟩ := runs_done.1 run
    cases result
    exact .skipped live

/-! ## §2 Selecting a mode and setting controls -/

/-- How making a mode the active one can go. -/
inductive ModeSelected (device : Device) (mode : Mode) : List Event → Device → Prop where
  | selected {events : List Event} {adjustment : Adjustment}
      (derived : device.controls.selectMode mode = .ok adjustment)
      (sent : { device with mode, controls := adjustment.bank }.Sent adjustment.writes events
        (.ok ())) :
      ModeSelected device mode (⟨.notify (.modeSelected mode.width mode.height), ()⟩ :: events)
        { device with mode, controls := adjustment.bank }
  | failed {events : List Event} {adjustment : Adjustment} {e : BusError}
      (derived : device.controls.selectMode mode = .ok adjustment)
      (sent : { device with mode, controls := adjustment.bank }.Sent adjustment.writes events
        (.error e)) :
      ModeSelected device mode
        (⟨.notify (.modeSelected mode.width mode.height), ()⟩ ::
          (events ++ [⟨.notify (.modeUpdateFailed e), ()⟩]))
        { device with mode, controls := adjustment.bank }

theorem modeSelected_of_runs {mode : Mode}
    (run : Runs (device.selectMode mode) events (.ok device')) :
    device.ModeSelected mode events device' := by
  obtain ⟨_, split₁, run⟩ := runs_notify_bind.1 run
  obtain ⟨adjustment, derived, run⟩ := runs_ofChecked_bind.1 run
  obtain ⟨outcome, _, _, split₂, sent, run⟩ := runs_bind_ok.1 run
  have sent := sent_of_runs sent
  rcases outcome with e | _
  · obtain ⟨_, split₃, run⟩ := runs_notify_bind.1 run
    obtain ⟨split₄, result⟩ := runs_done.1 run
    cases result
    subst split₄ split₃ split₂ split₁
    exact .failed derived sent
  · obtain ⟨split₃, result⟩ := runs_done.1 run
    cases result
    subst split₃ split₂ split₁
    rw [List.append_nil]
    exact .selected derived sent

/-- How a change of the controls can go. -/
inductive Adjusted (device : Device) (change : Checked (Except ControlError Adjustment)) :
    List Event → Except ControlError Unit → Device → Prop where
  | rejected {e : ControlError} (refused : change = .ok (.error e)) :
      Adjusted device change [] (.error e) device
  | applied {events : List Event} {adjustment : Adjustment} {outcome : Except BusError Unit}
      (accepted : change = .ok (.ok adjustment))
      (sent : { device with controls := adjustment.bank }.Sent adjustment.writes events outcome) :
      Adjusted device change events (outcome.mapError .bus)
        { device with controls := adjustment.bank }

theorem adjusted_of_runs {change : Checked (Except ControlError Adjustment)}
    {outcome : Except ControlError Unit}
    (run : Runs (device.adjust change) events (.ok (outcome, device'))) :
    device.Adjusted change events outcome device' := by
  obtain ⟨changed, same, run⟩ := runs_ofChecked_bind.1 run
  rcases changed with e | adjustment
  · obtain ⟨rfl, result⟩ := runs_done.1 run
    cases result
    exact .rejected same
  · obtain ⟨outcome, _, _, split₁, sent, run⟩ := runs_bind_ok.1 run
    obtain ⟨split₂, result⟩ := runs_done.1 run
    cases result
    subst split₂ split₁
    rw [List.append_nil]
    exact .applied same (sent_of_runs sent)

/-- How setting controls in order can go. -/
inductive ControlsSet : Device → List (ControlId × Int) → List Event →
    Except ControlError Unit → Device → Prop where
  | none {device : Device} : ControlsSet device [] [] (.ok ()) device
  | stopped {device device' : Device} {id : ControlId} {v : Int}
      {rest : List (ControlId × Int)} {events : List Event} {e : ControlError}
      (adjusted : device.Adjusted (device.controls.set id v) events (.error e) device') :
      ControlsSet device ((id, v) :: rest) events (.error e) device'
  | next {device device₁ device' : Device} {id : ControlId} {v : Int}
      {rest : List (ControlId × Int)} {first second : List Event}
      {outcome : Except ControlError Unit}
      (adjusted : device.Adjusted (device.controls.set id v) first (.ok ()) device₁)
      (later : ControlsSet device₁ rest second outcome device') :
      ControlsSet device ((id, v) :: rest) (first ++ second) outcome device'

theorem controlsSet_of_runs {values : List (ControlId × Int)} {outcome : Except ControlError Unit}
    (run : Runs (device.setControls values) events (.ok (outcome, device'))) :
    device.ControlsSet values events outcome device' := by
  -- the device changes with every control set, so it has to be general in the induction
  induction values generalizing device events with
  | nil =>
    obtain ⟨rfl, result⟩ := runs_done.1 run
    cases result
    exact .none
  | cons value rest ih =>
    obtain ⟨id, v⟩ := value
    obtain ⟨⟨set, device₁⟩, first, _, split₁, adjusted, run⟩ := runs_bind_ok.1 run
    have adjusted := adjusted_of_runs adjusted
    rcases set with e | _
    · obtain ⟨split₂, result⟩ := runs_done.1 run
      cases result
      subst split₂ split₁
      rw [List.append_nil]
      exact .stopped adjusted
    · have later := ih run
      subst split₁
      exact .next adjusted later

/-! ## §3 What an adjustment leaves alone -/

/-- Power, references, stream and suspension stay as they are; what goes out are control writes,
and only to a sensor that can receive them. -/
structure Tuned (device : Device) (events : List Event) (device' : Device) : Prop where
  configuration : device'.configuration = device.configuration
  sequencer : device'.sequencer = device.sequencer
  users : device'.users = device.users
  powerRequested : device'.powerRequested = device.powerRequested
  stream : device'.stream = device.stream
  suspended : device'.suspended = device.suspended
  exchange : ∀ event ∈ events, event.call.Exchange
  unreachable : device.isLive = false → ∀ event ∈ events, event.call.Incidental
  control : ∀ frame ∈ delivered events,
    ∃ write : RegisterWrite, write.ForControl ∧ frame = write.frame

theorem Tuned.isLive (tuned : device.Tuned events device') : device'.isLive = device.isLive := by
  simp only [Device.isLive, tuned.users, tuned.sequencer]

theorem Tuned.trans {device₁ : Device} {first second : List Event}
    (one : device.Tuned first device₁) (two : device₁.Tuned second device') :
    device.Tuned (first ++ second) device' where
  configuration := two.configuration.trans one.configuration
  sequencer := two.sequencer.trans one.sequencer
  users := two.users.trans one.users
  powerRequested := two.powerRequested.trans one.powerRequested
  stream := two.stream.trans one.stream
  suspended := two.suspended.trans one.suspended
  exchange := fun event member =>
    (List.mem_append.1 member).elim (one.exchange event) (two.exchange event)
  unreachable := fun idle event member =>
    (List.mem_append.1 member).elim (one.unreachable idle event)
      (two.unreachable (one.isLive.trans idle) event)
  control := fun frame member => by
    rw [delivered_append] at member
    exact (List.mem_append.1 member).elim (one.control frame) (two.control frame)

/-- Notices and control writes of a device with other controls, mode or trial format. -/
theorem Sent.tuned {writes : List RegisterWrite} {outcome : Except BusError Unit} {mode : Mode}
    {trialFormat : Format} {controls : ControlBank}
    (sent : { device with mode, trialFormat, controls }.Sent writes events outcome)
    (forControl : ∀ write ∈ writes, write.ForControl) :
    device.Tuned events { device with mode, trialFormat, controls } where
  configuration := rfl
  sequencer := rfl
  users := rfl
  powerRequested := rfl
  stream := rfl
  suspended := rfl
  exchange := by
    cases sent with
    | skipped => simp
    | sent live wrote => exact wrote.exchange
  unreachable := by
    intro unreachable
    cases sent with
    | skipped => simp
    | sent live wrote => exact nomatch unreachable.symm.trans live
  control := by
    intro frame member
    cases sent with
    | skipped => cases member
    | sent live wrote =>
      -- a failure cuts the frames short, so what arrived is among those sent
      have within := wrote.delivered_prefix.subset member
      obtain ⟨write, among, rfl⟩ := List.mem_map.1 within
      exact ⟨write, forControl write among, rfl⟩

theorem tuned_notice (device : Device) (notice : Notice) :
    device.Tuned [⟨.notify notice, ()⟩] device where
  configuration := rfl
  sequencer := rfl
  users := rfl
  powerRequested := rfl
  stream := rfl
  suspended := rfl
  exchange := by simp [Call.Exchange]
  unreachable := by simp [Call.Incidental]
  control := nofun

theorem tuned_trialFormat (device : Device) (trialFormat : Format) :
    device.Tuned [] { device with trialFormat } :=
  ⟨rfl, rfl, rfl, rfl, rfl, rfl, nofun, nofun, nofun⟩

theorem ModeSelected.tuned {mode : Mode} (selected : device.ModeSelected mode events device') :
    device.Tuned events device' := by
  cases selected with
  | selected derived sent =>
    have tuned := sent.tuned (ControlBank.forControl_of_selectMode derived)
    exact (tuned_notice _ _).trans tuned
  | failed derived sent =>
    have tuned := sent.tuned (ControlBank.forControl_of_selectMode derived)
    exact (tuned_notice _ _).trans (tuned.trans (tuned_notice _ _))

theorem Adjusted.tuned {change : Checked (Except ControlError Adjustment)}
    {outcome : Except ControlError Unit}
    (adjusted : device.Adjusted change events outcome device')
    (forControl : ∀ adjustment, change = .ok (.ok adjustment) →
      ∀ write ∈ adjustment.writes, write.ForControl) : device.Tuned events device' := by
  cases adjusted with
  | rejected refused => exact tuned_trialFormat device device.trialFormat
  | applied accepted sent => exact sent.tuned (forControl _ accepted)

theorem Adjusted.tuned_of_set {id : ControlId} {v : Int} {outcome : Except ControlError Unit}
    (adjusted : device.Adjusted (device.controls.set id v) events outcome device') :
    device.Tuned events device' :=
  adjusted.tuned fun _ => ControlBank.forControl_of_set

theorem Adjusted.tuned_of_setRaw {cid : UInt32} {v : Int} {outcome : Except ControlError Unit}
    (adjusted : device.Adjusted (device.controls.setRaw cid v) events outcome device') :
    device.Tuned events device' :=
  adjusted.tuned fun _ => ControlBank.forControl_of_setRaw

theorem ControlsSet.tuned {values : List (ControlId × Int)} {outcome : Except ControlError Unit}
    (set : device.ControlsSet values events outcome device') : device.Tuned events device' := by
  induction set with
  | none => exact tuned_trialFormat _ _
  | stopped adjusted => exact adjusted.tuned_of_set
  | next adjusted _ ih => exact adjusted.tuned_of_set.trans ih

/-! ## §4 The mode and the negotiated format -/

theorem ModeSelected.mode_eq {mode : Mode} (selected : device.ModeSelected mode events device') :
    device'.mode = mode := by
  cases selected with
  | selected derived sent => rfl
  | failed derived sent => rfl

theorem Adjusted.mode_eq {change : Checked (Except ControlError Adjustment)}
    {outcome : Except ControlError Unit}
    (adjusted : device.Adjusted change events outcome device') : device'.mode = device.mode := by
  cases adjusted with
  | rejected refused => rfl
  | applied accepted sent => rfl

theorem ControlsSet.mode_eq {values : List (ControlId × Int)} {outcome : Except ControlError Unit}
    (set : device.ControlsSet values events outcome device') : device'.mode = device.mode := by
  induction set with
  | none => rfl
  | stopped adjusted => exact adjusted.mode_eq
  | next adjusted _ ih => exact ih.trans adjusted.mode_eq

theorem ModeSelected.trialFormat_eq {mode : Mode}
    (selected : device.ModeSelected mode events device') :
    device'.trialFormat = device.trialFormat := by
  cases selected with
  | selected derived sent => rfl
  | failed derived sent => rfl

theorem Adjusted.trialFormat_eq {change : Checked (Except ControlError Adjustment)}
    {outcome : Except ControlError Unit}
    (adjusted : device.Adjusted change events outcome device') :
    device'.trialFormat = device.trialFormat := by
  cases adjusted with
  | rejected refused => rfl
  | applied accepted sent => rfl

theorem ControlsSet.trialFormat_eq {values : List (ControlId × Int)}
    {outcome : Except ControlError Unit}
    (set : device.ControlsSet values events outcome device') :
    device'.trialFormat = device.trialFormat := by
  induction set with
  | none => rfl
  | stopped adjusted => exact adjusted.trialFormat_eq
  | next adjusted _ ih => exact ih.trans adjusted.trialFormat_eq

end ImageSensor.Device
