import ImageSensor.Device.Stream
import ImageSensor.Proofs.Bus.Transfer
import ImageSensor.Proofs.Device.References

/-!
# Starting, Stopping, Suspending and Resuming

How the operations on the stream can go, one case for each way through them, with the parts they
are made of: programming the sensor, putting it into standby, taking and dropping references.

## Main statements

- `started_of_runs`, `stopped_of_runs`, `suspended_of_runs`, `resumed_of_runs`: every completed run
  is one of the cases.
-/

namespace ImageSensor.Device

open ImageSensor.Action

variable {device device' : Device} {events : List Event} {outcome : Except DeviceError Unit}

/-! ## §1 Programming the sensor -/

/-- How programming the sensor can go. -/
inductive Programmed (device : Device) : List Event → Except BusError Unit → Prop where
  | tableFailed {events : List Event} {e : BusError}
      (table : device.bus.Wrote
        (Bus.tableWrites device.mode.table device.configuration.orientation) events (.error e)) :
      Programmed device events (.error e)
  | restoreFailed {first second : List Event} {restore : List RegisterWrite} {e : BusError}
      (table : device.bus.Wrote
        (Bus.tableWrites device.mode.table device.configuration.orientation) first (.ok ()))
      (replay : device.controls.replay = .ok restore)
      (restored : device.bus.Wrote restore second (.error e)) :
      Programmed device
        (first ++ ⟨.notify (.tableApplied device.mode.table.size), ()⟩ :: second) (.error e)
  | enabled {first second third : List Event} {restore : List RegisterWrite}
      {outcome : Except BusError Unit}
      (table : device.bus.Wrote
        (Bus.tableWrites device.mode.table device.configuration.orientation) first (.ok ()))
      (replay : device.controls.replay = .ok restore)
      (restored : device.bus.Wrote restore second (.ok ()))
      (enable : device.bus.Wrote enableWrites third outcome) :
      Programmed device
        (first ++ ⟨.notify (.tableApplied device.mode.table.size), ()⟩ :: (second ++ third))
        outcome

theorem programmed_of_runs {outcome : Except BusError Unit}
    (run : Runs device.programSensor events (.ok outcome)) : device.Programmed events outcome := by
  obtain ⟨applied, _, _, split₁, table, run⟩ := runs_bind_ok.1 run
  obtain ⟨written, first, _, split₂, wrote, table⟩ := runs_bind_ok.1 table
  have wrote := Bus.wrote_of_runs wrote
  rcases written with e | _
  · obtain ⟨split₃, result⟩ := runs_done.1 table
    cases result
    obtain ⟨split₄, result⟩ := runs_done.1 run
    cases result
    subst split₄ split₃ split₂ split₁
    simpa using Programmed.tableFailed wrote
  -- the table is in, and reported; the controls follow
  obtain ⟨_, split₃, table⟩ := runs_notify_bind.1 table
  obtain ⟨split₄, result⟩ := runs_done.1 table
  cases result
  obtain ⟨restore, replay, run⟩ := runs_ofChecked_bind.1 run
  obtain ⟨restoring, second, third, split₅, restored, run⟩ := runs_bind_ok.1 run
  have restored := Bus.wrote_of_runs restored
  rcases restoring with e | _
  · obtain ⟨split₆, result⟩ := runs_done.1 run
    cases result
    subst split₆ split₅ split₄ split₃ split₂ split₁
    simpa using Programmed.restoreFailed wrote replay restored
  · have enable := Bus.wrote_of_runs run
    subst split₅ split₄ split₃ split₂ split₁
    simpa using Programmed.enabled wrote replay restored enable

/-- How powering the sensor and making it stream can go. -/
inductive StreamedOn (device : Device) :
    List Event → Except DeviceError Unit → Device → Prop where
  | unpowered {events : List Event} {e : PowerError}
      (up : device.sequencer.PoweredUp events (.error e) device.sequencer) :
      StreamedOn device events (.error (.power e)) device
  | programmed {first second : List Event} {sequencer : Sequencer}
      {outcome : Except BusError Unit}
      (up : device.sequencer.PoweredUp first (.ok ()) sequencer)
      (programmed : device.Programmed second outcome) :
      StreamedOn device (first ++ second) (outcome.mapError .bus) { device with sequencer }

theorem streamedOn_of_runs (run : Runs device.streamOn events (.ok (outcome, device'))) :
    device.StreamedOn events outcome device' := by
  obtain ⟨⟨powered, sequencer⟩, first, _, split₁, up, run⟩ := runs_bind_ok.1 run
  have up := Sequencer.poweredUp_of_runs up
  rcases powered with e | _
  · obtain ⟨split₂, result⟩ := runs_done.1 run
    cases result
    subst split₂ split₁
    have same : sequencer = device.sequencer := by cases up <;> rfl
    subst same
    simpa using StreamedOn.unpowered up
  · obtain ⟨outcome, second, _, split₂, programmed, run⟩ := runs_bind_ok.1 run
    obtain ⟨split₃, result⟩ := runs_done.1 run
    cases result
    subst split₃ split₂ split₁
    -- programming reads the mode, the controls and the configuration, not the sequencer
    have programmed : device.Programmed second outcome := by
      cases programmed_of_runs programmed with
      | tableFailed table => exact .tableFailed table
      | restoreFailed table replay restored => exact .restoreFailed table replay restored
      | enabled table replay restored enable => exact .enabled table replay restored enable
    simpa using StreamedOn.programmed up programmed

/-- Making the sensor stream changes its power, nothing else of the device. -/
theorem StreamedOn.frame (on : device.StreamedOn events outcome device') :
    ∃ sequencer, device' = { device with sequencer } := by
  cases on with
  | unpowered up => exact ⟨_, rfl⟩
  | programmed up programmed => exact ⟨_, rfl⟩

theorem StreamedOn.keeps (on : device.StreamedOn events outcome device') :
    device.Kept device' := by
  obtain ⟨_, rfl⟩ := on.frame
  exact ⟨rfl, rfl, rfl, rfl⟩

/-- Making a sensor stream that is on already leaves the device as it is. -/
theorem StreamedOn.eq_of_on (on : device.StreamedOn events outcome device')
    (powered : device.sequencer.power = .on) : device' = device := by
  cases on with
  | unpowered up => exact nomatch up.of_error.2.symm.trans powered
  | programmed up programmed =>
    cases up with
    | already on => rfl
    | powered off prepared reset released => exact nomatch off.symm.trans powered

theorem StreamedOn.power_eq_on (on : device.StreamedOn events (.ok ()) device') :
    device'.sequencer.power = .on := by
  generalize ended : Except.ok () = outcome at on
  cases on with
  | unpowered up => cases ended
  | programmed up programmed => exact up.power_eq_on

/-! ## §2 Standby -/

/-- How putting the sensor into standby can go. -/
inductive StoodBy (device : Device) : List Event → Prop where
  | entered :
      StoodBy device [⟨.notify (.writing standbyWrite), ()⟩,
        ⟨.busWrite device.configuration.address standbyWrite.frame, Except.ok ()⟩]
  | failed {cause : Cause} :
      StoodBy device [⟨.notify (.writing standbyWrite), ()⟩,
        ⟨.busWrite device.configuration.address standbyWrite.frame, Except.error cause⟩,
        ⟨.notify (.standbyFailed (.transport cause)), ()⟩]

theorem stoodBy_of_runs (run : Runs device.enterStandby events (.ok ())) :
    device.StoodBy events := by
  obtain ⟨written, _, _, split₁, write, run⟩ := runs_bind_ok.1 run
  obtain ⟨answer, split₂, rfl⟩ := Bus.runs_write_ok rfl write
  rcases answer with cause | _
  · have split₃ := runs_notify_ok.1 run
    subst split₃ split₂ split₁
    exact .failed
  · obtain ⟨split₃, -⟩ := runs_done.1 run
    subst split₃ split₂ split₁
    exact .entered

/-- Standby in front of stopping or suspending: only an awake, streaming sensor is written to. -/
inductive Halted (device : Device) : List Event → Prop where
  | untouched (idle : device.stream = .stopped ∨ device.suspended = true) : Halted device []
  | standby {events : List Event} (streaming : device.stream = .streaming)
      (awake : device.suspended = false) (stood : device.StoodBy events) : Halted device events

theorem halted_of_quiesce (streaming : device.stream = .streaming)
    (run : Runs device.quiesce events (.ok ())) : device.Halted events := by
  unfold quiesce at run
  cases asleep : device.suspended with
  | true =>
    rw [if_pos asleep] at run
    obtain ⟨rfl, -⟩ := runs_done.1 run
    exact .untouched (.inr asleep)
  | false =>
    rw [if_neg (by simp [asleep])] at run
    exact .standby streaming asleep (stoodBy_of_runs run)

theorem halted_of_pause (awake : device.suspended = false)
    (run : Runs device.pauseStream events (.ok ())) : device.Halted events := by
  unfold pauseStream at run
  cases stream : device.stream with
  | stopped =>
    rw [stream] at run
    obtain ⟨rfl, -⟩ := runs_done.1 run
    exact .untouched (.inl stream)
  | streaming =>
    rw [stream] at run
    exact .standby stream awake (stoodBy_of_runs run)

/-! ## §3 Start and stop -/

/-- How stopping the stream can go. -/
inductive Stopped (device : Device) : List Event → Device → Prop where
  | idle (stopped : device.stream = .stopped) : Stopped device [] device
  | stopped {halting dropping : List Event} {device' : Device}
      (streaming : device.stream = .streaming) (halted : device.Halted halting)
      (released : device.Released dropping device') :
      Stopped device (⟨.notify .streamStopping, ()⟩ :: (halting ++ dropping))
        { device' with stream := .stopped }

theorem stopped_of_runs (run : Runs device.stop events (.ok device')) :
    device.Stopped events device' := by
  unfold stop at run
  cases stream : device.stream with
  | stopped =>
    rw [stream] at run
    obtain ⟨rfl, result⟩ := runs_done.1 run
    cases result
    exact .idle stream
  | streaming =>
    rw [stream] at run
    obtain ⟨_, split₁, run⟩ := runs_notify_bind.1 run
    obtain ⟨_, halting, _, split₂, halted, run⟩ := runs_bind_ok.1 run
    obtain ⟨device₁, dropping, _, split₃, released, run⟩ := runs_bind_ok.1 run
    obtain ⟨split₄, result⟩ := runs_done.1 run
    cases result
    subst split₄ split₃ split₂ split₁
    rw [List.append_nil]
    exact .stopped stream (halted_of_quiesce stream halted) (released_of_runs released)

/-- Stopping changes the stream and the reference, nothing else of the device. -/
theorem Stopped.frame (stopped : device.Stopped events device') :
    ∃ sequencer users stream, device' = { device with sequencer, users, stream } := by
  cases stopped with
  | idle stopped => exact ⟨_, _, _, rfl⟩
  | stopped streaming halted released =>
    obtain ⟨_, _, rfl⟩ := released.frame
    exact ⟨_, _, _, rfl⟩

theorem Stopped.stream_eq (stopped : device.Stopped events device') :
    device'.stream = .stopped := by
  cases stopped with
  | idle stopped => exact stopped
  | stopped streaming halted released => rfl

theorem Stopped.keeps (stopped : device.Stopped events device') : device.Kept device' := by
  obtain ⟨_, _, _, rfl⟩ := stopped.frame
  exact ⟨rfl, rfl, rfl, rfl⟩

/-- How starting the stream can go. -/
inductive Started (device : Device) :
    List Event → Except DeviceError Unit → Device → Prop where
  | already (streaming : device.stream = .streaming) : Started device [] (.ok ()) device
  | refused {framesPerSecond : UInt32} {events : List Event} {e : DeviceError}
      {device' : Device} (stopped : device.stream = .stopped)
      (acquired : device.Acquired events (.error e) device') :
      Started device
        (⟨.notify (.streamStarting device.mode.width device.mode.height framesPerSecond), ()⟩ ::
          events)
        (.error e) device'
  | deferred {framesPerSecond : UInt32} {events : List Event} {device' : Device}
      (stopped : device.stream = .stopped) (acquired : device.Acquired events (.ok ()) device')
      (asleep : device'.suspended = true) :
      Started device
        (⟨.notify (.streamStarting device.mode.width device.mode.height framesPerSecond), ()⟩ ::
          (events ++ [⟨.notify .streamDeferred, ()⟩]))
        (.ok ()) { device' with stream := .streaming }
  | failed {framesPerSecond : UInt32} {first second third : List Event} {e : DeviceError}
      {device₁ device₂ device' : Device} (stopped : device.stream = .stopped)
      (acquired : device.Acquired first (.ok ()) device₁) (awake : device₁.suspended = false)
      (on : device₁.StreamedOn second (.error e) device₂)
      (released : device₂.Released third device') :
      Started device
        (⟨.notify (.streamStarting device.mode.width device.mode.height framesPerSecond), ()⟩ ::
          (first ++ (second ++ ⟨.notify (.streamFailed e), ()⟩ :: third)))
        (.error e) device'
  | started {framesPerSecond : UInt32} {first second : List Event}
      {device₁ device' : Device} (stopped : device.stream = .stopped)
      (acquired : device.Acquired first (.ok ()) device₁) (awake : device₁.suspended = false)
      (on : device₁.StreamedOn second (.ok ()) device') :
      Started device
        (⟨.notify (.streamStarting device.mode.width device.mode.height framesPerSecond), ()⟩ ::
          (first ++ second))
        (.ok ()) { device' with stream := .streaming }

theorem started_of_runs (run : Runs device.start events (.ok (outcome, device'))) :
    device.Started events outcome device' := by
  unfold start at run
  cases stream : device.stream with
  | streaming =>
    rw [stream] at run
    obtain ⟨rfl, result⟩ := runs_done.1 run
    cases result
    exact .already stream
  | stopped =>
    rw [stream] at run
    obtain ⟨_, announcing, _, split₁, announced, run⟩ := runs_bind_ok.1 run
    obtain ⟨framesPerSecond, -, announced⟩ := runs_ofChecked_bind.1 announced
    have split₂ := runs_notify_ok.1 announced
    obtain ⟨⟨granted, device₁⟩, first, _, split₃, acquired, run⟩ := runs_bind_ok.1 run
    have acquired := acquired_of_runs acquired
    rcases granted with e | _
    · obtain ⟨split₄, result⟩ := runs_done.1 run
      cases result
      subst split₄ split₃ split₂ split₁
      rw [List.append_nil]
      exact .refused stream acquired
    dsimp only at run
    -- whether the stream can start now is asked of the device that holds the reference
    cases asleep : device₁.suspended with
    | true =>
      rw [if_pos asleep] at run
      obtain ⟨_, split₄, run⟩ := runs_notify_bind.1 run
      obtain ⟨split₅, result⟩ := runs_done.1 run
      cases result
      subst split₅ split₄ split₃ split₂ split₁
      exact .deferred stream acquired asleep
    | false =>
      rw [if_neg (by simp [asleep])] at run
      obtain ⟨⟨streamed, device₂⟩, second, _, split₄, on, run⟩ := runs_bind_ok.1 run
      have on := streamedOn_of_runs on
      rcases streamed with e | _
      · obtain ⟨_, split₅, run⟩ := runs_notify_bind.1 run
        obtain ⟨device₃, third, _, split₆, released, run⟩ := runs_bind_ok.1 run
        obtain ⟨split₇, result⟩ := runs_done.1 run
        cases result
        subst split₇ split₆ split₅ split₄ split₃ split₂ split₁
        rw [List.append_nil]
        exact .failed stream acquired asleep on (released_of_runs released)
      · obtain ⟨split₅, result⟩ := runs_done.1 run
        cases result
        subst split₅ split₄ split₃ split₂ split₁
        rw [List.append_nil, List.singleton_append]
        exact .started stream acquired asleep on

theorem Started.keeps (started : device.Started events outcome device') :
    device.Kept device' := by
  cases started with
  | already streaming => exact .refl device
  | refused stopped acquired => exact acquired.keeps
  | deferred stopped acquired asleep =>
    have kept := acquired.keeps
    exact ⟨kept.configuration, kept.mode, kept.trialFormat, kept.controls⟩
  | failed stopped acquired awake on released =>
    exact acquired.keeps.trans (on.keeps.trans released.keeps)
  | started stopped acquired awake on =>
    have kept := acquired.keeps.trans on.keeps
    exact ⟨kept.configuration, kept.mode, kept.trialFormat, kept.controls⟩

/-! ## §4 Suspend and resume -/

/-- How suspending can go. -/
inductive Suspended (device : Device) : List Event → Device → Prop where
  | already (asleep : device.suspended = true) : Suspended device [] device
  | suspended {halting lowering : List Event} {sequencer : Sequencer}
      (awake : device.suspended = false) (halted : device.Halted halting)
      (down : device.sequencer.PoweredDown lowering sequencer) :
      Suspended device (⟨.notify .suspending, ()⟩ :: (halting ++ lowering))
        { device with sequencer, suspended := true }

theorem suspended_of_runs (run : Runs device.suspend events (.ok device')) :
    device.Suspended events device' := by
  unfold suspend at run
  cases asleep : device.suspended with
  | true =>
    rw [if_pos asleep] at run
    obtain ⟨rfl, result⟩ := runs_done.1 run
    cases result
    exact .already asleep
  | false =>
    rw [if_neg (by simp [asleep])] at run
    obtain ⟨_, split₁, run⟩ := runs_notify_bind.1 run
    obtain ⟨_, halting, _, split₂, halted, run⟩ := runs_bind_ok.1 run
    obtain ⟨device₁, _, _, split₃, down, run⟩ := runs_bind_ok.1 run
    obtain ⟨sequencer, lowering, _, split₄, off, down⟩ := runs_bind_ok.1 down
    obtain ⟨split₅, result⟩ := runs_done.1 down
    cases result
    obtain ⟨split₆, result⟩ := runs_done.1 run
    cases result
    subst split₆ split₅ split₄ split₃ split₂ split₁
    rw [List.append_nil, List.append_nil]
    exact .suspended asleep (halted_of_pause asleep halted) (Sequencer.poweredDown_of_runs off)

theorem Suspended.asleep (suspended : device.Suspended events device') :
    device'.suspended = true := by
  cases suspended with
  | already asleep => exact asleep
  | suspended awake halted down => rfl

theorem Suspended.keeps (suspended : device.Suspended events device') :
    device.Kept device' := by
  cases suspended with
  | already asleep => exact .refl device
  | suspended awake halted down => exact ⟨rfl, rfl, rfl, rfl⟩

/-- How bringing back an awake sensor can go. -/
inductive Restored (device : Device) :
    List Event → Except DeviceError Unit → Device → Prop where
  | streaming {events : List Event} {outcome : Except DeviceError Unit} {device' : Device}
      (streaming : device.stream = .streaming) (on : device.StreamedOn events outcome device') :
      Restored device events outcome device'
  | powered {events : List Event} {outcome : Except PowerError Unit} {sequencer : Sequencer}
      (stopped : device.stream = .stopped) (used : 0 < device.users)
      (up : device.sequencer.PoweredUp events outcome sequencer) :
      Restored device events (outcome.mapError .power) { device with sequencer }
  | idle (stopped : device.stream = .stopped) (unused : device.users = 0) :
      Restored device [] (.ok ()) device

theorem restored_of_runs (awake : device.suspended = false)
    (run : Runs device.restore events (.ok (outcome, device'))) :
    device.Restored events outcome device' := by
  unfold restore at run
  cases stream : device.stream with
  | streaming =>
    rw [stream] at run
    exact .streaming stream (streamedOn_of_runs run)
  | stopped =>
    rw [stream] at run
    dsimp only at run
    by_cases used : 0 < device.users
    · rw [if_pos used, powerUp, if_neg (by simp [awake])] at run
      obtain ⟨⟨outcome, sequencer⟩, _, _, split₁, up, run⟩ := runs_bind_ok.1 run
      obtain ⟨split₂, result⟩ := runs_done.1 run
      cases result
      subst split₂ split₁
      rw [List.append_nil]
      exact .powered stream used (Sequencer.poweredUp_of_runs up)
    · rw [if_neg used] at run
      obtain ⟨rfl, result⟩ := runs_done.1 run
      cases result
      exact .idle stream (by grind)

/-- Bringing back the sensor changes its power, nothing else of the device. -/
theorem Restored.frame (restored : device.Restored events outcome device') :
    ∃ sequencer, device' = { device with sequencer } := by
  cases restored with
  | streaming streaming on => exact on.frame
  | powered stopped used up => exact ⟨_, rfl⟩
  | idle stopped unused => exact ⟨_, rfl⟩

theorem Restored.keeps (restored : device.Restored events outcome device') :
    device.Kept device' := by
  obtain ⟨_, rfl⟩ := restored.frame
  exact ⟨rfl, rfl, rfl, rfl⟩

/-- Bringing back a sensor fails for want of power, or on the bus with the sensor on. -/
theorem Restored.of_error {e : DeviceError} (restored : device.Restored events (.error e) device') :
    (∃ cause, e = .power cause) ∧ device'.sequencer.power = .off ∨
      (∃ cause, e = .bus cause) ∧ device'.sequencer.power = .on := by
  -- the outcome is made a variable, so that the cases can be told apart
  generalize ended : Except.error e = outcome at restored
  cases restored with
  | streaming streaming on =>
    cases on with
    | unpowered up =>
      cases ended
      exact .inl ⟨⟨_, rfl⟩, up.of_error.2⟩
    | @programmed _ _ _ written up programmed =>
      rcases written with cause | _
      · cases ended
        exact .inr ⟨⟨cause, rfl⟩, up.power_eq_on⟩
      · cases ended
  | @powered _ powering _ stopped used up =>
    rcases powering with cause | _
    · cases ended
      obtain ⟨same, off⟩ := up.of_error
      exact .inl ⟨⟨cause, rfl⟩, (congrArg Sequencer.power same).trans off⟩
    · cases ended
  | idle stopped unused => cases ended

/-- A sensor that is brought back for somebody is on. -/
theorem Restored.power_eq_on (restored : device.Restored events (.ok ()) device')
    (used : 0 < device'.users) : device'.sequencer.power = .on := by
  generalize ended : Except.ok () = outcome at restored
  cases restored with
  | streaming streaming on =>
    subst ended
    exact on.power_eq_on
  | @powered _ powering _ stopped used up =>
    rcases powering with cause | _
    · cases ended
    · exact up.power_eq_on
  | idle stopped unused =>
    rw [unused] at used
    exact absurd used (by decide)

/-- How resuming can go. -/
inductive Resumed (device : Device) :
    List Event → Except DeviceError Unit → Device → Prop where
  | already (awake : device.suspended = false) : Resumed device [] (.ok ()) device
  | resumed {events : List Event} {device' : Device} (asleep : device.suspended = true)
      (restored : { device with suspended := false }.Restored events (.ok ()) device') :
      Resumed device (⟨.notify .resuming, ()⟩ :: events) (.ok ()) device'
  | failed {first second : List Event} {e : DeviceError} {device₁ device' : Device}
      (asleep : device.suspended = true)
      (restored : { device with suspended := false }.Restored first (.error e) device₁)
      (stopped : device₁.Stopped second device') :
      Resumed device
        (⟨.notify .resuming, ()⟩ :: (first ++ ⟨.notify (.resumeFailed e), ()⟩ :: second))
        (.error e) device'

theorem resumed_of_runs (run : Runs device.resume events (.ok (outcome, device'))) :
    device.Resumed events outcome device' := by
  unfold resume at run
  cases asleep : device.suspended with
  | false =>
    rw [if_neg (by simp [asleep])] at run
    obtain ⟨rfl, result⟩ := runs_done.1 run
    cases result
    exact .already asleep
  | true =>
    rw [if_pos asleep] at run
    obtain ⟨_, split₁, run⟩ := runs_notify_bind.1 run
    obtain ⟨⟨restoring, device₁⟩, first, _, split₂, restored, run⟩ := runs_bind_ok.1 run
    -- the suspension has ended before anything else is done
    have restored := restored_of_runs rfl restored
    rcases restoring with e | _
    · obtain ⟨_, split₃, run⟩ := runs_notify_bind.1 run
      obtain ⟨device₂, second, _, split₄, stopped, run⟩ := runs_bind_ok.1 run
      obtain ⟨split₅, result⟩ := runs_done.1 run
      cases result
      subst split₅ split₄ split₃ split₂ split₁
      rw [List.append_nil]
      exact .failed asleep restored (stopped_of_runs stopped)
    · obtain ⟨split₃, result⟩ := runs_done.1 run
      cases result
      subst split₃ split₂ split₁
      rw [List.append_nil]
      exact .resumed asleep restored

/-- A device whose suspension has ended is set as it was. -/
theorem kept_awoken (device : Device) : device.Kept { device with suspended := false } :=
  ⟨rfl, rfl, rfl, rfl⟩

theorem Resumed.keeps (resumed : device.Resumed events outcome device') :
    device.Kept device' := by
  cases resumed with
  | already awake => exact .refl device
  | resumed asleep restored => exact (kept_awoken device).trans restored.keeps
  | failed asleep restored stopped =>
    exact (kept_awoken device).trans (restored.keeps.trans stopped.keeps)

end ImageSensor.Device
