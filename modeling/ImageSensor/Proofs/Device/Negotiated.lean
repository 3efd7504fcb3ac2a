import ImageSensor.Proofs.Device.Operations
import ImageSensor.Proofs.Platform.TwoRuns

/-!
# Operations Without Regard to Negotiations

The format of a negotiation is kept in the device, but nothing looks at it: on two devices that
differ in it at most, every operation makes the same calls and ends with the same reply, and leaves
two devices that differ in it at most. Only negotiating a format changes it.

## Main statements

- `perform_alike`: operations on two devices that match.
- `exists_performed`: what happens to a device happens to every device that matches.
- `trialFormat_eq_of_runs`: other operations keep the format of the negotiation.
-/

namespace ImageSensor

open ImageSensor.Action

/-- Whether an operation only negotiates a format. -/
def Operation.isTrial : Operation → Bool
  | setFormat _ _ .trial => true
  | setFormat _ _ .active | probe | start | stop | setStream _ | setPower _ | suspend | resume
  | setControl _ _ | setControlRaw _ _ | setControls _ => false

namespace Device

variable {device device' : Device}

/-! ## §1 Devices that match -/

/-- The devices differ in the format of a negotiation at most. -/
def Matches (device device' : Device) : Prop :=
  ∃ format, device' = { device with trialFormat := format }

theorem Matches.refl (device : Device) : device.Matches device :=
  ⟨device.trialFormat, rfl⟩

theorem Matches.symm (same : device.Matches device') : device'.Matches device := by
  obtain ⟨_, rfl⟩ := same
  exact ⟨device.trialFormat, rfl⟩

theorem Matches.trans {device₁ : Device} (one : device.Matches device₁)
    (two : device₁.Matches device') : device.Matches device' := by
  obtain ⟨_, rfl⟩ := one
  obtain ⟨format, rfl⟩ := two
  exact ⟨format, rfl⟩

theorem Matches.stream_eq (same : device.Matches device') : device'.stream = device.stream := by
  obtain ⟨_, rfl⟩ := same
  rfl

theorem Matches.users_eq (same : device.Matches device') : device'.users = device.users := by
  obtain ⟨_, rfl⟩ := same
  rfl

/-- What can be asked of a device, the format of a negotiation apart. -/
structure Answers where
  activeFormat : Format
  interval : FrameInterval
  crop : Checked Rectangle
  busCode? : Nat → Option BusCode
  size? : Nat → BusCode → Option SizeRange
  summary? : Nat → BusCode → Option ModeSummary

/-- The answers of a device, in whatever state its sensor is. -/
def answers (device : Device) : Answers where
  activeFormat := device.format .active
  interval := device.frameInterval
  crop := device.cropBounds
  busCode? := device.busCodeAt?
  size? := device.sizeAt?
  summary? := device.intervalAt?

/-- Devices that match answer every question alike. -/
theorem Matches.answers_eq (same : device.Matches device') : device'.answers = device.answers := by
  obtain ⟨_, rfl⟩ := same
  rfl

/-- The same result, with devices that match. -/
def Agree {α : Type} (result result' : α × Device) : Prop :=
  result.1 = result'.1 ∧ result.2.Matches result'.2

/-! ## §2 References and power -/

theorem powerUp_alike (same : device.Matches device') :
    Alike Agree device.powerUp device'.powerUp := by
  obtain ⟨format, rfl⟩ := same
  unfold powerUp
  by_cases asleep : device.suspended
  · rw [if_pos asleep, if_pos asleep]
    exact .done ⟨rfl, format, rfl⟩
  · rw [if_neg asleep, if_neg asleep]
    exact .after _ fun _ => .done ⟨rfl, format, rfl⟩

theorem powerDown_alike (same : device.Matches device') :
    Alike Matches device.powerDown device'.powerDown := by
  obtain ⟨format, rfl⟩ := same
  exact .after _ fun _ => .done ⟨format, rfl⟩

theorem acquirePower_alike (same : device.Matches device') :
    Alike Agree device.acquirePower device'.acquirePower := by
  -- both are answered alike, so the reference is refused to both or granted to both
  refine .after _ fun granted => ?_
  rcases granted with cause | _
  · exact .done ⟨rfl, same⟩
  refine (powerUp_alike same).bind ?_
  rintro ⟨outcome, device₁⟩ ⟨_, _⟩ ⟨rfl, format, rfl⟩
  rcases outcome with e | _
  · exact .after _ fun _ => .done ⟨rfl, format, rfl⟩
  · exact .after _ fun _ => .done ⟨rfl, format, rfl⟩

theorem powerDownUnused_alike (same : device.Matches device') :
    Alike Matches device.powerDownUnused device'.powerDownUnused := by
  have lowered := powerDown_alike same
  obtain ⟨format, rfl⟩ := same
  unfold powerDownUnused
  by_cases unused : device.users = 0
  · rw [if_pos unused, if_pos unused]
    exact lowered
  · rw [if_neg unused, if_neg unused]
    exact .done ⟨format, rfl⟩

theorem releasePower_alike (same : device.Matches device') :
    Alike Matches device.releasePower device'.releasePower := by
  obtain ⟨format, rfl⟩ := same
  unfold releasePower
  by_cases unused : device.users = 0
  · rw [if_pos unused, if_pos unused]
    exact .done ⟨format, rfl⟩
  · rw [if_neg unused, if_neg unused]
    refine (powerDownUnused_alike ⟨format, rfl⟩).bind fun _ _ left => ?_
    exact .after _ fun _ => .done left

theorem setPower_alike (same : device.Matches device') (on : Bool) :
    Alike Agree (device.setPower on) (device'.setPower on) := by
  obtain ⟨format, rfl⟩ := same
  unfold setPower
  by_cases unchanged : device.powerRequested = on
  · rw [if_pos unchanged, if_pos unchanged]
    exact .done ⟨rfl, format, rfl⟩
  rw [if_neg unchanged, if_neg unchanged]
  cases on with
  | true =>
    refine (acquirePower_alike ⟨format, rfl⟩).bind ?_
    rintro ⟨outcome, device₁⟩ ⟨_, _⟩ ⟨rfl, format, rfl⟩
    rcases outcome with e | _
    · exact .done ⟨rfl, format, rfl⟩
    · exact .done ⟨rfl, format, rfl⟩
  | false =>
    refine (releasePower_alike ⟨format, rfl⟩).bind ?_
    rintro device₁ _ ⟨format, rfl⟩
    exact .done ⟨rfl, format, rfl⟩

theorem probe_alike (same : device.Matches device') :
    Alike Agree device.probe device'.probe := by
  obtain ⟨format, rfl⟩ := same
  unfold probe
  by_cases asleep : device.suspended
  · rw [if_pos asleep, if_pos asleep]
    exact .done ⟨rfl, format, rfl⟩
  rw [if_neg asleep, if_neg asleep]
  refine (acquirePower_alike ⟨format, rfl⟩).bind ?_
  rintro ⟨outcome, device₁⟩ ⟨_, _⟩ ⟨rfl, format, rfl⟩
  rcases outcome with e | _
  · exact .done ⟨rfl, format, rfl⟩
  refine .after _ fun identity => ?_
  refine (releasePower_alike ⟨format, rfl⟩).bind fun _ _ left => ?_
  exact .after _ fun _ => .done ⟨rfl, left⟩

/-! ## §3 The stream -/

theorem streamOn_alike (same : device.Matches device') :
    Alike Agree device.streamOn device'.streamOn := by
  obtain ⟨format, rfl⟩ := same
  refine .after _ fun (outcome, sequencer) => ?_
  rcases outcome with e | _
  · exact .done ⟨rfl, format, rfl⟩
  · exact .after _ fun _ => .done ⟨rfl, format, rfl⟩

theorem announceStream_eq (same : device.Matches device') :
    device'.announceStream = device.announceStream := by
  obtain ⟨_, rfl⟩ := same
  rfl

theorem quiesce_eq (same : device.Matches device') : device'.quiesce = device.quiesce := by
  obtain ⟨_, rfl⟩ := same
  rfl

theorem start_alike (same : device.Matches device') :
    Alike Agree device.start device'.start := by
  unfold start
  rw [same.stream_eq]
  cases device.stream with
  | streaming => exact .done ⟨rfl, same⟩
  | stopped =>
    rw [announceStream_eq same]
    refine .after _ fun _ => ?_
    refine (acquirePower_alike same).bind ?_
    rintro ⟨outcome, device₁⟩ ⟨_, _⟩ ⟨rfl, format, rfl⟩
    rcases outcome with e | _
    · exact .done ⟨rfl, format, rfl⟩
    -- whether the stream starts at once is asked of the devices that hold the reference
    dsimp only
    by_cases asleep : device₁.suspended
    · rw [if_pos asleep, if_pos asleep]
      exact .after _ fun _ => .done ⟨rfl, format, rfl⟩
    rw [if_neg asleep, if_neg asleep]
    refine (streamOn_alike ⟨format, rfl⟩).bind ?_
    rintro ⟨outcome, device₂⟩ ⟨_, _⟩ ⟨rfl, format, rfl⟩
    rcases outcome with e | _
    · refine .after _ fun _ => ?_
      refine (releasePower_alike ⟨format, rfl⟩).bind fun _ _ left => ?_
      exact .done ⟨rfl, left⟩
    · exact .done ⟨rfl, format, rfl⟩

theorem stop_alike (same : device.Matches device') : Alike Matches device.stop device'.stop := by
  unfold stop
  rw [same.stream_eq, quiesce_eq same]
  cases device.stream with
  | stopped => exact .done same
  | streaming =>
    refine .after _ fun _ => .after _ fun _ => ?_
    refine (releasePower_alike same).bind ?_
    rintro device₁ _ ⟨format, rfl⟩
    exact .done ⟨format, rfl⟩

theorem setStream_alike (same : device.Matches device') (on : Bool) :
    Alike Agree (device.setStream on) (device'.setStream on) := by
  cases on with
  | true => exact start_alike same
  | false => exact (stop_alike same).bind fun _ _ left => .done ⟨rfl, left⟩

theorem suspend_alike (same : device.Matches device') :
    Alike Matches device.suspend device'.suspend := by
  obtain ⟨format, rfl⟩ := same
  unfold suspend
  by_cases asleep : device.suspended
  · rw [if_pos asleep, if_pos asleep]
    exact .done ⟨format, rfl⟩
  rw [if_neg asleep, if_neg asleep]
  refine .after _ fun _ => .after _ fun _ => ?_
  refine (powerDown_alike ⟨format, rfl⟩).bind ?_
  rintro device₁ _ ⟨format, rfl⟩
  exact .done ⟨format, rfl⟩

theorem restore_alike (same : device.Matches device') :
    Alike Agree device.restore device'.restore := by
  unfold restore
  rw [same.stream_eq, same.users_eq]
  cases device.stream with
  | streaming => exact streamOn_alike same
  | stopped =>
    dsimp only
    by_cases used : 0 < device.users
    · rw [if_pos used, if_pos used]
      exact powerUp_alike same
    · rw [if_neg used, if_neg used]
      exact .done ⟨rfl, same⟩

theorem resume_alike (same : device.Matches device') :
    Alike Agree device.resume device'.resume := by
  obtain ⟨format, rfl⟩ := same
  unfold resume
  by_cases asleep : device.suspended
  · rw [if_pos asleep, if_pos asleep]
    refine .after _ fun _ => ?_
    refine (restore_alike ⟨format, rfl⟩).bind ?_
    rintro ⟨outcome, device₁⟩ ⟨_, _⟩ ⟨rfl, format, rfl⟩
    rcases outcome with e | _
    · refine .after _ fun _ => ?_
      exact (stop_alike ⟨format, rfl⟩).bind fun _ _ left => .done ⟨rfl, left⟩
    · exact .done ⟨rfl, format, rfl⟩
  · rw [if_neg asleep, if_neg asleep]
    exact .done ⟨rfl, format, rfl⟩

/-! ## §4 Formats and controls -/

theorem selectMode_alike (same : device.Matches device') (mode : Mode) :
    Alike Matches (device.selectMode mode) (device'.selectMode mode) := by
  obtain ⟨format, rfl⟩ := same
  refine .after _ fun _ => .after _ fun adjustment => .after _ fun outcome => ?_
  rcases outcome with e | _
  · exact .after _ fun _ => .done ⟨format, rfl⟩
  · exact .done ⟨format, rfl⟩

theorem adjust_alike (same : device.Matches device')
    (change : Checked (Except ControlError Adjustment)) :
    Alike Agree (device.adjust change) (device'.adjust change) := by
  obtain ⟨format, rfl⟩ := same
  refine .after _ fun adjusted => ?_
  rcases adjusted with e | adjustment
  · exact .done ⟨rfl, format, rfl⟩
  · exact .after _ fun _ => .done ⟨rfl, format, rfl⟩

theorem setControl_alike (same : device.Matches device') (id : ControlId) (v : Int) :
    Alike Agree (device.setControl id v) (device'.setControl id v) := by
  obtain ⟨format, rfl⟩ := same
  exact adjust_alike ⟨format, rfl⟩ _

theorem setControlRaw_alike (same : device.Matches device') (cid : UInt32) (v : Int) :
    Alike Agree (device.setControlRaw cid v) (device'.setControlRaw cid v) := by
  obtain ⟨format, rfl⟩ := same
  exact adjust_alike ⟨format, rfl⟩ _

theorem setControls_alike (same : device.Matches device') (values : List (ControlId × Int)) :
    Alike Agree (device.setControls values) (device'.setControls values) := by
  -- both devices change on the way, and match again after each control
  induction values generalizing device device' with
  | nil => exact .done ⟨rfl, same⟩
  | cons value rest ih =>
    refine (setControl_alike same _ _).bind ?_
    rintro ⟨outcome, device₁⟩ ⟨_, _⟩ ⟨rfl, left⟩
    rcases outcome with e | _
    · exact .done ⟨rfl, left⟩
    · exact ih left

/-! ## §5 Operations -/

/-- Negotiating a format has no use for the one negotiated before. -/
theorem setFormat_alike (same : device.Matches device') (width height : UInt32)
    (kind : FormatKind) :
    Alike Agree (device.setFormat width height kind) (device'.setFormat width height kind) := by
  obtain ⟨format, rfl⟩ := same
  cases kind with
  | trial => exact .done ⟨rfl, _, rfl⟩
  | active => exact (selectMode_alike ⟨format, rfl⟩ _).bind fun _ _ left => .done ⟨rfl, left⟩

/-- Two devices that match reply alike to every operation. -/
theorem perform_alike (same : device.Matches device') (operation : Operation) :
    Alike Agree (device.perform operation) (device'.perform operation) := by
  have wrapped {α : Type} {one two : Action (α × Device)} (wrap : α → Reply)
      (alike : Alike Agree one two) :
      Alike Agree (one >>= fun result => done (wrap result.1, result.2))
        (two >>= fun result => done (wrap result.1, result.2)) :=
    alike.bind fun _ _ agree => .done ⟨congrArg wrap agree.1, agree.2⟩
  have completed {one two : Action Device} (alike : Alike Matches one two) :
      Alike Agree (one >>= fun device => done (Reply.completed (.ok ()), device))
        (two >>= fun device => done (Reply.completed (.ok ()), device)) :=
    alike.bind fun _ _ left => .done ⟨rfl, left⟩
  cases operation with
  | probe => exact wrapped .identified (probe_alike same)
  | start => exact wrapped .completed (start_alike same)
  | stop => exact completed (stop_alike same)
  | setStream on => exact wrapped .completed (setStream_alike same on)
  | setPower on => exact wrapped .completed (setPower_alike same on)
  | suspend => exact completed (suspend_alike same)
  | resume => exact wrapped .completed (resume_alike same)
  | setFormat width height kind => exact wrapped .negotiated (setFormat_alike same _ _ _)
  | setControl id v => exact wrapped .adjusted (setControl_alike same id v)
  | setControlRaw cid v => exact wrapped .adjusted (setControlRaw_alike same cid v)
  | setControls values => exact wrapped .adjusted (setControls_alike same values)

theorem dropReferences_alike (same : device.Matches device') (count : Nat) :
    Alike Matches (dropReferences count device) (dropReferences count device') := by
  induction count generalizing device device' with
  | zero => exact .done same
  | succ count ih => exact (releasePower_alike same).bind fun _ _ left => ih left

/-- Two devices that match are taken apart in the same way. -/
theorem detach_eq (same : device.Matches device') : device'.detach = device.detach := by
  refine (Alike.eq ?_).symm
  refine (stop_alike same).bind fun device₁ device₁' stopped => ?_
  -- the references are counted once the stream is stopped
  rw [stopped.users_eq]
  refine (dropReferences_alike stopped _).bind ?_
  rintro device₂ _ ⟨format, rfl⟩
  refine (powerDown_alike ⟨format, rfl⟩).bind ?_
  rintro device₃ _ ⟨format, rfl⟩
  exact .done rfl

/-! ## §6 What is negotiated -/

variable {events : List Event} {operation : Operation} {reply : Reply}

/-- What happens to a device happens to every device that matches. -/
theorem Matches.exists_performed {twin : Device} (same : device.Matches twin)
    (run : Runs (device.perform operation) events (.ok (reply, device'))) :
    ∃ twin', Runs (twin.perform operation) events (.ok (reply, twin')) ∧ device'.Matches twin' := by
  obtain ⟨⟨_, twin'⟩, run', rfl, left⟩ := (perform_alike same operation).exists_runs run
  exact ⟨twin', run', left⟩

/-- Negotiating a format is not noticed by the platform, nor by anything else of the device. -/
theorem Performed.of_isTrial (performed : device.Performed operation events reply device')
    (trial : operation.isTrial = true) : events = [] ∧ device.Matches device' := by
  cases performed with
  | tryFormat => exact ⟨rfl, _, rfl⟩
  | _ => cases trial

end Device

/-- The format that a negotiation has led to. -/
def Operation.negotiated? : Operation → Reply → Option Format
  | setFormat _ _ .trial, .negotiated format => some format
  | _, _ => none

/-- A device keeps the format of the latest negotiation. -/
theorem Device.Performed.trialFormat_eq {device device' : Device} {events : List Event}
    {operation : Operation} {reply : Reply}
    (performed : device.Performed operation events reply device') :
    device'.trialFormat = (operation.negotiated? reply).getD device.trialFormat := by
  cases performed with
  | probe probed => exact probed.keeps.trialFormat
  | start started | streamOn started => exact started.keeps.trialFormat
  | stop stopped | streamOff stopped => exact stopped.keeps.trialFormat
  | setPower set => exact set.keeps.trialFormat
  | suspend suspended => exact suspended.keeps.trialFormat
  | resume resumed => exact resumed.keeps.trialFormat
  | tryFormat => rfl
  | useFormat selected => exact selected.trialFormat_eq
  | setControl adjusted | setControlRaw adjusted => exact adjusted.trialFormat_eq
  | setControls set => exact set.trialFormat_eq

end ImageSensor
