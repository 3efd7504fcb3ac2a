import ImageSensor.Proofs.Session.Mirror

/-!
# The Exposure of a Streaming Sensor

From the replay that brings the controls into the sensor until the stream ends, the exposure that is
stored stays four lines below the frame that is stored: not only between operations, but after every
single register write, also where one operation changes both.

## Main statements

- `Session.cut`: a session can be cut at each of its steps.
- `Continues.tracks`: the controls are kept track of while the stream goes on.
- `Session.exposure_fits`: the exposure fits at every point of the window.
-/

namespace ImageSensor

open ImageSensor.Action ImageSensor.Device

/-! ## §1 Cutting a session -/

/-- Steps that lead from one device to another. -/
inductive Continues : Device → List Step → Device → Prop where
  | none {device : Device} : Continues device [] device
  | next {step : Step} {later : List Step} {device : Device}
      (performed : step.before.Performed step.operation step.events step.reply step.after)
      (behind : Continues step.after later device) : Continues step.before (step :: later) device

variable {configuration : Configuration} {wiring : Wiring} {trace : List Event}
  {steps earlier later : List Step} {device device' : Device}

theorem Continues.concat {step : Step} (continues : Continues device steps step.before)
    (performed : step.before.Performed step.operation step.events step.reply step.after) :
    Continues device (steps ++ [step]) step.after := by
  generalize ended : step.before = device' at continues
  induction continues with
  | none =>
    subst ended
    exact .next performed .none
  | next first _ ih => exact .next first (ih ended)

/-- What is in front of a step is a session, and what is behind it continues from there. -/
theorem Session.cut {step : Step} (session : Session configuration wiring trace steps device)
    (split : steps = earlier ++ step :: later) :
    ∃ past, Session configuration wiring past earlier step.before ∧
      step.before.Performed step.operation step.events step.reply step.after ∧
      Continues step.after later device ∧
      trace = past ++ (step.events ++ later.flatMap Step.events) := by
  induction session generalizing later with
  | created run => cases earlier <;> cases split
  | @performed trace events steps device device' operation reply session run ih =>
    have performed := performed_of_runs run
    -- the step is the last one, or there is one more behind it than there was before
    rcases List.eq_nil_or_concat later with rfl | ⟨later, last, rfl⟩
    · obtain ⟨rfl, same⟩ := List.append_inj' split rfl
      cases same
      exact ⟨trace, session, performed, .none, by simp⟩
    · rw [List.concat_eq_append, ← List.cons_append, ← List.append_assoc] at split
      obtain ⟨rfl, same⟩ := List.append_inj' split rfl
      cases same
      obtain ⟨past, before, first, continues, rfl⟩ := ih rfl
      refine ⟨past, before, first, ?_, by simp⟩
      rw [List.concat_eq_append]
      exact continues.concat performed

/-! ## §2 The window -/

/-- Operations that end the stream of a device that streams. -/
def Operation.EndsStream (operation : Operation) : Prop :=
  operation = .stop ∨ operation = .setStream false ∨ operation = .suspend

instance (operation : Operation) : Decidable operation.EndsStream :=
  inferInstanceAs (Decidable (_ ∨ _ ∨ _))

/-- All other operations let the stream go on. -/
theorem Device.Performed.streams {operation : Operation} {events : List Event} {reply : Reply}
    (performed : device.Performed operation events reply device') (streams : device.Streams)
    (ongoing : ¬ operation.EndsStream) : device'.Streams := by
  cases performed with
  | probe probed => exact probed.streams_iff.2 streams
  | start started | streamOn started =>
    cases started with
    | already streaming => exact streams
    | refused stopped | deferred stopped | failed stopped | started stopped =>
      exact absurd streams (not_streams_of_stopped stopped)
  | stop | streamOff | suspend => exact absurd (by simp [Operation.EndsStream]) ongoing
  | setPower set => exact set.streams_iff.2 streams
  | resume resumed =>
    cases resumed with
    | already awake => exact streams
    | resumed asleep | failed asleep => exact absurd streams (not_streams_of_asleep asleep)
  | tryFormat => exact (tuned_trialFormat device _).streams_iff.2 streams
  | useFormat selected => exact selected.tuned.streams_iff.2 streams
  | setControl adjusted => exact adjusted.tuned_of_set.streams_iff.2 streams
  | setControlRaw adjusted => exact adjusted.tuned_of_setRaw.streams_iff.2 streams
  | setControls set => exact set.tuned.streams_iff.2 streams

/-- While the stream goes on, the controls are kept track of. -/
theorem Continues.tracks (continues : Continues device later device') (streams : device.Streams)
    (consistent : device.Consistent) (regular : device.Regular)
    (ongoing : ∀ step ∈ later, ¬ step.operation.EndsStream) :
    Tracks device.controls (later.flatMap Step.events) device'.controls := by
  induction continues with
  | none => exact tracks_of_silent regular.controls not_supplied_nil rfl
  | next performed _ ih =>
    have streams' := performed.streams streams (ongoing _ List.mem_cons_self)
    have one := performed.tracks streams streams' consistent regular
    have rest := ih streams' (performed.consistent consistent) (performed.regular regular)
      fun step member => ongoing step (List.mem_cons_of_mem _ member)
    rw [List.flatMap_cons]
    exact one.trans rest

/-! ## §3 Sessions -/

namespace Session

/-- The trace of a session in which the stream was switched on and has not been ended since can be
cut where the replay is finished. At every point from there on, the exposure that is stored fits
into the frame that is stored, unless a register write behind the cut has failed. -/
theorem exposure_fits {launch : Step}
    (session : Session configuration wiring trace steps device)
    (split : steps = earlier ++ launch :: later) (launches : launch.Launches)
    (ongoing : ∀ step ∈ later, ¬ step.operation.EndsStream) :
    ∃ past front back restore,
      trace = past ++ front ++ (back ++ later.flatMap Step.events) ∧
      launch.events = front ++ back ∧ launch.after.controls.replay = .ok restore ∧
      delivered front = launch.after.mode.program configuration.orientation ++
        restore.map RegisterWrite.frame ∧
      ∀ done, done <+: back ++ later.flatMap Step.events → Unbroken done →
        (memoryAfter .blank (past ++ front ++ done)).ExposureFits := by
  obtain ⟨past, before, performed, continues, rfl⟩ := session.cut split
  have regular' := performed.regular before.regular
  have consistent' := performed.consistent before.consistent
  obtain ⟨front, back, cut, opens⟩ :=
    performed.opens launches.1 launches.2 before.regular
  obtain ⟨restore, replay, received⟩ := opens.delivered
  have tracks := opens.tracks.trans (continues.tracks launches.2 consistent' regular' ongoing)
  rw [performed.configuration_eq, before.configuration_eq] at received
  refine ⟨past, front, back, restore, by simp [cut], cut, replay, received,
    fun done part unbroken => ?_⟩
  rw [memoryAfter_append, memoryAfter_append]
  exact tracks.fits _ (opens.stored _) done part unbroken

/-- In the frames that were too short for the exposure, the exposure has come to fit. -/
theorem exposure_shortened_exposure :
    ∃ trace steps device, Session {} ⟨true, true, true⟩ trace steps device ∧
      (∃ earlier launch later, steps = earlier ++ launch :: later ∧ launch.Launches ∧
        ∀ step ∈ later, ¬ step.operation.EndsStream) ∧
      (memoryAfter .blank trace).ExposureFits := by
  obtain ⟨trace, first, launch, later, device, session, launches, sent, operations, -, -⟩ :=
    exists_shortenedExposure
  have ongoing : ∀ step ∈ later, ¬ step.operation.EndsStream := by
    have others : ∀ operation ∈ (shortenedExposure.drop 2).map Prod.snd,
        ¬ operation.EndsStream := by
      decide
    rw [← operations] at others
    exact fun step member => others _ (List.mem_map_of_mem member)
  obtain ⟨past, front, back, restore, rfl, cut, -, -, fits⟩ :=
    exposure_fits session (show _ = [first] ++ launch :: later from rfl) launches ongoing
  refine ⟨_, _, device, session, ⟨[first], launch, later, rfl, launches, ongoing⟩,
    fits _ (List.prefix_refl _) ?_⟩
  -- no write has failed since the launch began, so none has failed in the window
  have launched := Step.unbroken_of_not_failsWrite (sent launch List.mem_cons_self)
  rw [cut] at launched
  refine unbroken_append.2 ⟨(unbroken_append.1 launched).2, fun event member => ?_⟩
  obtain ⟨step, among, member⟩ := List.mem_flatMap.1 member
  exact Step.unbroken_of_not_failsWrite (sent step (List.mem_cons_of_mem _ among)) event member

end Session

end ImageSensor
