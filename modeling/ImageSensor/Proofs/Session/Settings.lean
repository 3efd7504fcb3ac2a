import ImageSensor.Proofs.Control.History
import ImageSensor.Proofs.Session.Basic

/-!
# Settings Do Not Depend on the Platform

The formats and controls of a device are what its user has chosen. They can be computed from the
operations that choose them, without a device and without a platform: which operations came in
between, how the sensor is wired, what it answers and which calls fail is all the same.

A batch of controls is different. It stops at the first write that fails, so what it leaves undone
is up to the bus.

## Main statements

- `Settings.follow`: the settings after an operation, computed from the settings before it.
- `Performed.follow`: a single operation leaves the settings that are computed for it, whatever the
  platform answers.
- `Session.settings_computed`: so does every session without batches.
- `settings_determined`: two sessions in which the same is chosen end with the same settings.
-/

namespace ImageSensor

open ImageSensor.Action

/-! ## §1 Settings -/

namespace ControlBank

/-- Sets controls in order and stops at the first one that is refused. -/
def setAll (bank : ControlBank) :
    List (ControlId × Int) → Checked (Except ControlError Unit × ControlBank)
  | [] => return (.ok (), bank)
  | (id, v) :: rest => do
    match ← bank.set id v with
    | .error e => return (.error e, bank)
    | .ok adjustment => adjustment.bank.setAll rest

end ControlBank

/-- The formats and controls that were chosen. -/
structure Settings where
  mode : Mode
  trialFormat : Format
  controls : ControlBank
  deriving DecidableEq, Repr

/-- What is chosen on a device. -/
def Device.settings (device : Device) : Settings :=
  ⟨device.mode, device.trialFormat, device.controls⟩

namespace Settings

/-- The settings of a new device. -/
def initial (configuration : Configuration) : Checked Settings := do
  let controls ← ControlBank.ofMode Catalog.defaultMode configuration.digitalGain
  return ⟨Catalog.defaultMode, Catalog.defaultMode.format configuration.orientation.busCode,
    controls⟩

/-- Makes a mode the active one. -/
def select (settings : Settings) (mode : Mode) : Checked Settings := do
  let adjustment ← settings.controls.selectMode mode
  return { settings with mode, controls := adjustment.bank }

/-- The settings after an operation, for a device with the given bus code. -/
def follow (code : BusCode) (settings : Settings) : Operation → Checked Settings
  | .setFormat width height .trial =>
    return { settings with trialFormat := (Catalog.bestFit width height).format code }
  | .setFormat width height .active => settings.select (Catalog.bestFit width height)
  | .setControl id v => do
    let outcome ← settings.controls.set id v
    return { settings with controls := settings.controls.settle outcome }
  | .setControlRaw cid v => do
    let outcome ← settings.controls.setRaw cid v
    return { settings with controls := settings.controls.settle outcome }
  | .setControls values => do
    let (_, controls) ← settings.controls.setAll values
    return { settings with controls }
  | .probe | .start | .stop | .setStream _ | .setPower _ | .suspend | .resume => return settings

/-- The settings of a device after several operations. -/
def ofOperations (configuration : Configuration) (operations : List Operation) :
    Checked Settings := do
  let settings ← initial configuration
  operations.foldlM (follow configuration.orientation.busCode) settings

end Settings

namespace Operation

/-- Sets several controls in one go. -/
def isBatch : Operation → Bool
  | setControls _ => true
  | probe | start | stop | setStream _ | setPower _ | suspend | resume | setFormat _ _ _
  | setControl _ _ | setControlRaw _ _ => false

/-- Chooses a format or sets controls. -/
def tunes : Operation → Bool
  | setFormat _ _ _ | setControl _ _ | setControlRaw _ _ | setControls _ => true
  | probe | start | stop | setStream _ | setPower _ | suspend | resume => false

end Operation

/-! ## §2 Computing settings -/

namespace Settings

variable {settings : Settings} {code : BusCode} {configuration : Configuration}

theorem follow_of_not_tunes {operation : Operation} (other : operation.tunes = false) :
    settings.follow code operation = .ok settings := by
  cases operation with
  | setFormat | setControl | setControlRaw | setControls => cases other
  | _ => rfl

/-- Operations that choose nothing can be left out. -/
theorem foldlM_filter_tunes (operations : List Operation) :
    (operations.filter Operation.tunes).foldlM (follow code) settings =
      operations.foldlM (follow code) settings := by
  induction operations generalizing settings with
  | nil => rfl
  | cons operation rest ih =>
    cases tunes : operation.tunes with
    | true =>
      rw [List.filter_cons_of_pos tunes, List.foldlM_cons, List.foldlM_cons]
      exact congrArg _ (funext fun _ => ih)
    | false =>
      rw [List.filter_cons_of_neg (by simp [tunes]), List.foldlM_cons, follow_of_not_tunes tunes]
      exact ih

theorem ofOperations_filter_tunes (operations : List Operation) :
    ofOperations configuration (operations.filter Operation.tunes) =
      ofOperations configuration operations := by
  simp only [ofOperations, foldlM_filter_tunes]

/-- One more operation. -/
theorem ofOperations_concat {operations : List Operation} {operation : Operation}
    {settings' : Settings} (before : ofOperations configuration operations = .ok settings)
    (here : settings.follow configuration.orientation.busCode operation = .ok settings') :
    ofOperations configuration (operations ++ [operation]) = .ok settings' := by
  obtain ⟨first, created, followed⟩ := Checked.bind_eq_ok_iff.1 before
  refine Checked.bind_eq_ok_iff.2 ⟨first, created, ?_⟩
  rw [List.foldlM_append]
  refine Checked.bind_eq_ok_iff.2 ⟨settings, followed, ?_⟩
  exact Checked.bind_eq_ok_iff.2 ⟨settings', here, rfl⟩

end Settings

/-! ## §3 One operation -/

namespace Device

variable {device device' : Device} {events : List Event} {code : BusCode}

theorem Kept.settings_eq (kept : device.Kept device') : device'.settings = device.settings := by
  rw [settings, kept.mode, kept.trialFormat, kept.controls]
  rfl

theorem ModeSelected.select {mode : Mode} (selected : device.ModeSelected mode events device') :
    device.settings.select mode = .ok device'.settings := by
  cases selected with
  | selected derived sent | failed derived sent =>
    exact Checked.bind_eq_ok_iff.2 ⟨_, derived, rfl⟩

/-- Controls change as they are asked to, whether the writes arrive or not. -/
theorem Adjusted.settle {change : Checked (Except ControlError Adjustment)}
    {outcome : Except ControlError Unit}
    (adjusted : device.Adjusted change events outcome device') :
    ∃ changed, change = .ok changed ∧
      device' = { device with controls := device.controls.settle changed } := by
  cases adjusted with
  | rejected refused => exact ⟨_, refused, rfl⟩
  | applied accepted sent => exact ⟨_, accepted, rfl⟩

/-- A single operation leaves the settings that are computed for it. -/
theorem Performed.follow {operation : Operation} {reply : Reply}
    (performed : device.Performed operation events reply device')
    (single : operation.isBatch = false) :
    device.settings.follow device.busCode operation = .ok device'.settings := by
  have other (kept : device.Kept device') (untuned : operation.tunes = false) :
      device.settings.follow device.busCode operation = .ok device'.settings := by
    rw [kept.settings_eq]
    exact Settings.follow_of_not_tunes untuned
  cases performed with
  | probe probed => exact other probed.keeps rfl
  | start started | streamOn started => exact other started.keeps rfl
  | stop stopped | streamOff stopped => exact other stopped.keeps rfl
  | setPower set => exact other set.keeps rfl
  | suspend suspended => exact other suspended.keeps rfl
  | resume resumed => exact other resumed.keeps rfl
  | tryFormat => rfl
  | useFormat selected => exact selected.select
  | setControl adjusted | setControlRaw adjusted =>
    obtain ⟨changed, result, rfl⟩ := adjusted.settle
    exact Checked.bind_eq_ok_iff.2 ⟨changed, result, rfl⟩
  | setControls set => cases single

end Device

/-! ## §4 Sessions -/

section

open Device

variable {configuration : Configuration} {wiring : Wiring} {trace : List Event}
  {steps : List Step} {device : Device}

/-- A session without batches ends with the settings computed from its operations. -/
theorem Session.settings_computed (session : Session configuration wiring trace steps device)
    (single : ∀ step ∈ steps, step.operation.isBatch = false) :
    Settings.ofOperations configuration (steps.map Step.operation) = .ok device.settings := by
  induction session with
  | created run =>
    cases created_of_runs run with
    | created reported derived =>
      simp only [Settings.ofOperations, Settings.initial, derived]
      rfl
  | @performed _ _ _ device _ _ _ session run ih =>
    obtain ⟨earlier, last⟩ := List.forall_mem_append.1 single
    have here := (performed_of_runs run).follow (last _ List.mem_cons_self)
    rw [busCode, session.configuration_eq] at here
    rw [List.map_append]
    exact Settings.ofOperations_concat (ih earlier) here

/-- Two devices of the same configuration, on which the same formats and controls are chosen one by
one, end with the same modes, the same trial formats and the same controls. They may be wired
differently, operated differently otherwise and answered differently: the settings are those that
are computed from the choices alone. -/
theorem settings_determined {wiring' : Wiring} {trace' : List Event} {steps' : List Step}
    {device' : Device} (session : Session configuration wiring trace steps device)
    (session' : Session configuration wiring' trace' steps' device')
    (single : ∀ step ∈ steps, step.operation.isBatch = false)
    (single' : ∀ step ∈ steps', step.operation.isBatch = false)
    (same : (steps.map Step.operation).filter Operation.tunes =
      (steps'.map Step.operation).filter Operation.tunes) :
    (device.mode = device'.mode ∧ device.trialFormat = device'.trialFormat ∧
        device.controls = device'.controls) ∧
      Settings.ofOperations configuration ((steps.map Step.operation).filter Operation.tunes) =
        .ok ⟨device.mode, device.trialFormat, device.controls⟩ := by
  have computed := session.settings_computed single
  have computed' := session'.settings_computed single'
  rw [← Settings.ofOperations_filter_tunes] at computed computed'
  have equal : device.settings = device'.settings := by
    rw [same] at computed
    exact Except.ok.inj (computed.symm.trans computed')
  refine ⟨?_, computed⟩
  simpa only [settings, Settings.mk.injEq] using equal

/-- A frame is binned and exposed while the sensor streams, on a bus that fails every other time. -/
def noisyTuning : List (FaultPlan × Operation) :=
  [({ clock := true }, .setPower true), ({}, .start),
    ({ writeAt := [0] }, .setFormat 2000 1500 .active), ({}, .suspend),
    ({}, .setControl .verticalBlank 2500), ({ allWrites := true }, .resume),
    ({ allWrites := true }, .setControlRaw ControlId.exposure.cid 4000), ({}, .stop)]

/-- The same is chosen on a sensor that has no pins and is never powered. -/
def quietTuning : List (FaultPlan × Operation) :=
  [({}, .setFormat 2000 1500 .active), ({}, .setControl .verticalBlank 2500),
    ({}, .setControlRaw ControlId.exposure.cid 4000)]

/-- The noise has left no trace in the settings. -/
theorem settings_of_noisy_tuning :
    ∃ trace steps device trace' steps' device',
      Session {} ⟨true, true, true⟩ trace steps device ∧
      Session {} ⟨false, false, false⟩ trace' steps' device' ∧
      (steps.map Step.operation).filter Operation.tunes =
        (steps'.map Step.operation).filter Operation.tunes ∧
      device.sequencer ≠ device'.sequencer ∧ device.controls = device'.controls := by
  have noisy := exists_session_of_rehearse {} ⟨true, true, true⟩ noisyTuning
    (fun _ steps device => steps.all (! ·.operation.isBatch) &&
      (steps.map Step.operation).filter Operation.tunes = quietTuning.map Prod.snd &&
      device.sequencer.wiring = ⟨true, true, true⟩) (by decide +kernel)
  have quiet := exists_session_of_rehearse {} ⟨false, false, false⟩ quietTuning
    (fun _ steps device => steps.all (! ·.operation.isBatch) &&
      (steps.map Step.operation).filter Operation.tunes = quietTuning.map Prod.snd &&
      device.sequencer.wiring = ⟨false, false, false⟩) (by decide +kernel)
  obtain ⟨trace, steps, device, session, shown⟩ := noisy
  obtain ⟨trace', steps', device', session', shown'⟩ := quiet
  simp only [Bool.and_eq_true, Bool.not_eq_true', decide_eq_true_eq, List.all_eq_true]
    at shown shown'
  obtain ⟨⟨single, chosen⟩, wired⟩ := shown
  obtain ⟨⟨single', chosen'⟩, wired'⟩ := shown'
  have same := chosen.trans chosen'.symm
  obtain ⟨⟨-, -, controls⟩, -⟩ := settings_determined session session' single single' same
  refine ⟨trace, steps, device, trace', steps', device', session, session', same, ?_, controls⟩
  intro equal
  rw [equal, wired'] at wired
  cases wired

end

end ImageSensor
