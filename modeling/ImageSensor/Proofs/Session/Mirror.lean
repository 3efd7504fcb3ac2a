import ImageSensor.Proofs.Control.Registers
import ImageSensor.Proofs.Session.HeldPower
import ImageSensor.Proofs.Session.Program

/-!
# Controls and the Registers behind them

While a device streams, the sensor has stored the values of all its controls: switching the stream
on replays them, and every change since has been written through. This holds for as long as no
register write fails; a failed write is reported, but not made up for until the next start.

## Main statements

- `Tracks`: events that take a memory with the controls of one bank to one with those of another.
- `Performed.tracks`: what an operation of a streaming device does to the memory of the sensor.
- `Performed.opens`: switching the stream on brings all controls into the sensor.
- `Session.controls_stored`: a streaming sensor has stored the controls of its device.
-/

namespace ImageSensor

open ImageSensor.Action

/-! ## §1 Events that keep track of the controls -/

/-- As long as no write fails, the exposure that is stored fits into the frame, and in the end the
memory holds the controls of the second bank if it held those of the first. -/
structure Tracks (bank : ControlBank) (events : List Event) (bank' : ControlBank) : Prop where
  stored : ∀ memory, bank.StoredIn memory → Unbroken events →
    bank'.StoredIn (memoryAfter memory events)
  fits : ∀ memory, bank.StoredIn memory → ∀ done, done <+: events → Unbroken done →
    (memoryAfter memory done).ExposureFits

variable {bank bank₁ bank' : ControlBank} {events first second : List Event}

theorem Tracks.trans (one : Tracks bank first bank₁) (two : Tracks bank₁ second bank') :
    Tracks bank (first ++ second) bank' where
  stored := by
    intro memory stored unbroken
    obtain ⟨unbroken₁, unbroken₂⟩ := unbroken_append.1 unbroken
    rw [memoryAfter_append]
    exact two.stored _ (one.stored memory stored unbroken₁) unbroken₂
  fits := by
    intro memory stored done part unbroken
    -- the point lies in the first events, or behind all of them
    obtain ⟨rest, split⟩ := part
    rcases List.append_eq_append_iff.1 split with ⟨more, rfl, -⟩ | ⟨more, rfl, behind⟩
    · exact one.fits memory stored done (List.prefix_append _ _) unbroken
    · obtain ⟨unbroken₁, unbroken₂⟩ := unbroken_append.1 unbroken
      rw [memoryAfter_append]
      exact two.fits _ (one.stored memory stored unbroken₁) more ⟨rest, behind.symm⟩ unbroken₂

/-- Events that neither reach the sensor nor supply it. -/
theorem tracks_of_silent (sound : bank.Sound) (quiet : ¬ Supplied events)
    (silent : delivered events = []) : Tracks bank events bank := by
  have steady := takes_eq_false_of_not_supplied quiet
  refine ⟨fun memory stored _ => ?_, fun memory stored done part _ => ?_⟩
  · rwa [memoryAfter_passive steady silent]
  · have none : delivered done = [] := by
      have less : delivered done <+: delivered events := part.filterMap Event.delivered?
      rwa [silent, List.prefix_nil] at less
    rw [memoryAfter_passive (fun event member => steady event (part.subset member)) none]
    exact sound.exposureFits stored

theorem tracks_notice (sound : bank.Sound) (notice : Notice) :
    Tracks bank [⟨.notify notice, ()⟩] bank :=
  tracks_of_silent sound (by simp [supplied_cons, not_supplied_nil, Event.takes, Resource.taking])
    rfl

/-- Writes that lead from one bank to another, on the bus. -/
theorem Bus.Wrote.tracks {bus : Bus} {adjustment : Adjustment} {outcome : Except BusError Unit}
    (wrote : bus.Wrote adjustment.writes events outcome) (leads : bank.Leads adjustment) :
    Tracks bank events adjustment.bank where
  stored := by
    intro memory stored unbroken
    have ended := wrote.ok_of_unbroken unbroken leads.valid
    subst ended
    rw [memoryAfter_exchange wrote.exchange, wrote.delivered_eq]
    exact leads.stored memory stored
  fits := by
    intro memory stored done part _
    obtain ⟨sent, within, received⟩ := wrote.delivered_of_prefix part
    rw [memoryAfter_exchange fun event member => wrote.exchange event (part.subset member),
      received]
    exact leads.fits memory stored sent within

/-! ## §2 Operations of a streaming device -/

namespace Device

variable {device device' : Device} {outcome : Except DeviceError Unit}

/-- A streaming device has a sensor that its writes reach. -/
theorem Consistent.isLive (consistent : device.Consistent) (streams : device.Streams) :
    device.isLive = true := by
  have on := consistent.streams streams.1 streams.2
  have used : 0 < device.users := by
    rw [UInt32.lt_iff_toNat_lt, consistent.holds.users]
    exact demand_pos streams.1
  simp [Device.isLive, on, used]

theorem Sent.tracks {mode : Mode} {adjustment : Adjustment} {outcome : Except BusError Unit}
    (sent : { device with mode, controls := adjustment.bank }.Sent adjustment.writes events
      outcome)
    (live : device.isLive = true) (leads : device.controls.Leads adjustment) :
    Tracks device.controls events adjustment.bank := by
  cases sent with
  | skipped unreachable => exact nomatch unreachable.symm.trans live
  | sent _ wrote => exact wrote.tracks leads

theorem ModeSelected.tracks {mode : Mode} (selected : device.ModeSelected mode events device')
    (live : device.isLive = true) (regular : device.Regular) (regular' : device'.Regular) :
    Tracks device.controls events device'.controls := by
  have sound := regular.controls
  have sound' := regular'.controls
  cases selected with
  | selected derived sent =>
    have leads := (ControlBank.selected_of_selectMode derived).leads sound sound'
    exact (tracks_notice sound _).trans (sent.tracks live leads)
  | failed derived sent =>
    have leads := (ControlBank.selected_of_selectMode derived).leads sound sound'
    exact (tracks_notice sound _).trans ((sent.tracks live leads).trans (tracks_notice sound' _))

theorem Adjusted.tracks {change : Checked (Except ControlError Adjustment)}
    {outcome : Except ControlError Unit}
    (adjusted : device.Adjusted change events outcome device') (live : device.isLive = true)
    (regular : device.Regular) (regular' : device'.Regular)
    (wasSet : ∀ adjustment, change = .ok (.ok adjustment) →
      ∃ id, device.controls.WasSet id adjustment) :
    Tracks device.controls events device'.controls := by
  cases adjusted with
  | rejected refused => exact tracks_of_silent regular.controls not_supplied_nil rfl
  | applied accepted sent =>
    obtain ⟨id, set⟩ := wasSet _ accepted
    exact sent.tracks live (set.leads regular.controls regular'.controls)

theorem ControlsSet.tracks {values : List (ControlId × Int)} {outcome : Except ControlError Unit}
    (set : device.ControlsSet values events outcome device') (live : device.isLive = true)
    (regular : device.Regular) : Tracks device.controls events device'.controls := by
  have one {device device₁ : Device} {id : ControlId} {v : Int} {first : List Event}
      {outcome : Except ControlError Unit}
      (adjusted : device.Adjusted (device.controls.set id v) first outcome device₁)
      (live : device.isLive = true) (regular : device.Regular) :
      device₁.Regular ∧ device₁.isLive = true ∧
        Tracks device.controls first device₁.controls := by
    have regular₁ := adjusted.regular regular (regular.controls.set_ok _ _)
    have tuned := adjusted.tuned_of_set
    exact ⟨regular₁, tuned.isLive.trans live, adjusted.tracks live regular regular₁
      fun _ accepted => ⟨_, ControlBank.wasSet_of_set accepted⟩⟩
  induction set with
  | none => exact tracks_of_silent regular.controls not_supplied_nil rfl
  | stopped adjusted => exact (one adjusted live regular).2.2
  | next adjusted _ ih =>
    obtain ⟨regular₁, live₁, tracks⟩ := one adjusted live regular
    exact tracks.trans (ih live₁ regular₁)

/-- Whatever is asked of a device that streams before and after, its controls are kept track of. -/
theorem Performed.tracks {operation : Operation} {reply : Reply}
    (performed : device.Performed operation events reply device') (streams : device.Streams)
    (streams' : device'.Streams) (consistent : device.Consistent) (regular : device.Regular) :
    Tracks device.controls events device'.controls := by
  have live := consistent.isLive streams
  have on := consistent.streams streams.1 streams.2
  have regular' := performed.regular regular
  have sound := regular.controls
  cases performed with
  | probe probed =>
    rw [probed.keeps.controls]
    exact tracks_of_silent sound (probed.not_supplied_of_on on) probed.delivered_eq_nil
  | start started | streamOn started =>
    -- a stream that goes on is not started again
    cases started with
    | already streaming => exact tracks_of_silent sound not_supplied_nil rfl
    | refused stopped | deferred stopped | failed stopped | started stopped =>
      exact absurd streams (not_streams_of_stopped stopped)
  | stop stopped | streamOff stopped =>
    exact absurd streams' (not_streams_of_stopped stopped.stream_eq)
  | setPower set =>
    rw [set.keeps.controls]
    exact tracks_of_silent sound (set.not_supplied_of_on on) set.delivered_eq_nil
  | suspend suspended => exact absurd streams' (not_streams_of_asleep suspended.asleep)
  | resume resumed =>
    cases resumed with
    | already awake => exact tracks_of_silent sound not_supplied_nil rfl
    | resumed asleep | failed asleep => exact absurd streams (not_streams_of_asleep asleep)
  | tryFormat => exact tracks_of_silent sound not_supplied_nil rfl
  | useFormat selected => exact selected.tracks live regular regular'
  | setControl adjusted =>
    exact adjusted.tracks live regular regular' fun _ accepted =>
      ⟨_, ControlBank.wasSet_of_set accepted⟩
  | setControlRaw adjusted =>
    exact adjusted.tracks live regular regular' fun _ => ControlBank.wasSet_of_setRaw
  | setControls set => exact set.tracks live regular

/-! ## §3 Switching the stream on -/

/-- The writes that enable streaming are apart from all controls. -/
theorem leads_enable (sound : bank.Sound) : bank.Leads ⟨bank, enableWrites⟩ := by
  have disjoint : ∀ id ∈ ControlId.all, ∀ other ∈ enableWrites,
      id.register?.all (fun r => r.1.toNat + r.2.toNat ≤ other.address.toNat ||
        other.address.toNat + other.width.toNat ≤ r.1.toNat) = true := by
    decide
  have apart {id : ControlId} {write other : RegisterWrite}
      (own : bank.registerWrite? id = .ok (some write)) (member : other ∈ enableWrites) :
      write.Apart other := by
    have here := disjoint id id.mem_all other member
    rw [ControlBank.register?_of_registerWrite? own] at here
    simpa [RegisterWrite.Apart] using here
  have valid : ∀ write ∈ enableWrites, validWidth write.width = true := by decide
  refine ⟨fun _ stored => stored.storeAll fun _ _ own _ => apart own,
    fun _ stored sent part => ?_, valid⟩
  exact sound.exposureFits (stored.storeAll fun _ _ own _ among => apart own (part.subset among))

/-- Events that switch the stream on, cut where all controls are in the sensor: in front of the cut
the program of the mode and the replay have been delivered, behind it the stream is enabled. -/
structure Opens (device : Device) (front back : List Event) : Prop where
  delivered : ∃ restore, device.controls.replay = .ok restore ∧
    delivered front = device.mode.program device.configuration.orientation ++
      restore.map RegisterWrite.frame
  stored : ∀ memory, device.controls.StoredIn (memoryAfter memory front)
  tracks : Tracks device.controls back device.controls
  unbroken : Unbroken back

/-- What comes first is overwritten. -/
theorem Opens.prepend {front back : List Event} (opens : device.Opens front back)
    (silent : ImageSensor.delivered first = []) : device.Opens (first ++ front) back where
  delivered := by
    rw [delivered_append, silent, List.nil_append]
    exact opens.delivered
  stored := by
    intro memory
    rw [memoryAfter_append]
    exact opens.stored _
  tracks := opens.tracks
  unbroken := opens.unbroken

theorem StreamedOn.opens (on : device.StreamedOn events (.ok ()) device')
    (sound : device.controls.Sound) :
    ∃ front back, events = front ++ back ∧ device'.Opens front back := by
  generalize ended : Except.ok () = outcome at on
  cases on with
  | unpowered up => cases ended
  | @programmed raised _ _ written up programmed =>
    rcases written with e | _
    · cases ended
    cases programmed with
    | @enabled table replayed enabling restore _ written replay restored enable =>
      let applied : Event := ⟨.notify (.tableApplied device.mode.table.size), ()⟩
      refine ⟨raised ++ (table ++ applied :: replayed), enabling, by simp [applied], ?_⟩
      refine Opens.prepend ⟨⟨restore, replay, ?_⟩, fun memory => ?_, ?_, enable.unbroken⟩
        (delivered_eq_nil_of_transactions up.transactions_eq_nil)
      · show ImageSensor.delivered (table ++ ([applied] ++ replayed)) = _
        rw [delivered_append, delivered_append, written.delivered_eq, restored.delivered_eq]
        rfl
      · -- the replay comes last, so the controls are stored whatever is there before it
        show device.controls.StoredIn (memoryAfter memory (table ++ ([applied] ++ replayed)))
        rw [memoryAfter_append, memoryAfter_append, memoryAfter_exchange restored.exchange,
          restored.delivered_eq]
        exact ControlBank.storedIn_of_replay replay _
      · exact enable.tracks (leads_enable sound)

theorem Started.opens (started : device.Started events outcome device')
    (idle : ¬ device.Streams) (streams' : device'.Streams) (regular : device.Regular) :
    ∃ front back, events = front ++ back ∧ device'.Opens front back := by
  cases started with
  | already streaming => exact absurd streams' idle
  | refused stopped acquired =>
    obtain ⟨_, _, rfl⟩ := acquired.frame
    exact absurd streams' (not_streams_of_stopped stopped)
  | deferred stopped acquired asleep => exact absurd streams' (not_streams_of_asleep asleep)
  | failed stopped acquired awake on released =>
    -- the stream flag is only set at the end, which was not reached
    obtain ⟨_, _, rfl⟩ := acquired.frame
    obtain ⟨_, rfl⟩ := on.frame
    obtain ⟨_, _, rfl⟩ := released.frame
    exact absurd streams' (not_streams_of_stopped stopped)
  | @started framesPerSecond first second device₁ device₂ stopped acquired awake on =>
    have sound := (regular.of_kept acquired.keeps).controls
    obtain ⟨front, back, rfl, opens⟩ := on.opens sound
    have silent : delivered (⟨.notify (.streamStarting device.mode.width device.mode.height
        framesPerSecond), ()⟩ :: first) = [] := acquired.delivered_eq_nil
    have opens := opens.prepend silent
    exact ⟨_, back, by simp, opens.delivered, opens.stored, opens.tracks, opens.unbroken⟩

theorem Resumed.opens (resumed : device.Resumed events outcome device')
    (idle : ¬ device.Streams) (streams' : device'.Streams) (regular : device.Regular) :
    ∃ front back, events = front ++ back ∧ device'.Opens front back := by
  cases resumed with
  | already awake => exact absurd streams' idle
  | resumed asleep restored =>
    generalize ended : Except.ok () = outcome at restored
    cases restored with
    | streaming streaming on =>
      subst ended
      obtain ⟨front, back, rfl, opens⟩ := on.opens regular.controls
      have silent : delivered [⟨.notify .resuming, ()⟩] = [] := rfl
      exact ⟨_, back, rfl, opens.prepend silent⟩
    | powered stopped | idle stopped => exact absurd streams' (not_streams_of_stopped stopped)
  | failed asleep restored stopped =>
    exact absurd streams' (not_streams_of_stopped stopped.stream_eq)

/-- An operation that switches the stream on brings all controls into the sensor. -/
theorem Performed.opens {operation : Operation} {reply : Reply}
    (performed : device.Performed operation events reply device') (idle : ¬ device.Streams)
    (streams' : device'.Streams) (regular : device.Regular) :
    ∃ front back, events = front ++ back ∧ device'.Opens front back :=
  performed.elim (fun probed => absurd (probed.streams_iff.1 streams') idle)
    (·.opens idle streams' regular)
    (fun stopped => absurd streams' (not_streams_of_stopped stopped.stream_eq))
    (fun set => absurd (set.streams_iff.1 streams') idle)
    (fun suspended => absurd streams' (not_streams_of_asleep suspended.asleep))
    (·.opens idle streams' regular)
    (fun tuned => absurd (tuned.streams_iff.1 streams') idle)

end Device

namespace Step

/-- Some register write of the step fails. -/
def FailsWrite (step : Step) : Prop :=
  ∃ event ∈ step.events, event.failsWrite = true

instance (step : Step) : Decidable step.FailsWrite :=
  inferInstanceAs (Decidable (∃ event ∈ step.events, event.failsWrite = true))

instance (step : Step) : Decidable step.Launches :=
  inferInstanceAs (Decidable (¬ (_ ∧ _) ∧ _ ∧ _))

theorem unbroken_of_not_failsWrite {step : Step} (sent : ¬ step.FailsWrite) :
    Unbroken step.events := by
  intro event member
  rw [← Bool.not_eq_true]
  exact fun fails => sent ⟨event, member, fails⟩

end Step

/-! ## §4 Sessions -/

namespace Session

open Device

variable {configuration : Configuration} {wiring : Wiring} {trace : List Event}
  {steps : List Step} {device : Device}

theorem storedIn (session : Session configuration wiring trace steps device)
    (streams : device.Streams) (intact : Since Step.Launches Step.FailsWrite steps) :
    device.controls.StoredIn (memoryAfter .blank trace) := by
  induction session with
  | created run =>
    cases created_of_runs run
    exact absurd streams (not_streams_of_stopped rfl)
  | @performed trace events steps device device' operation reply session run ih =>
    have performed := performed_of_runs run
    rw [memoryAfter_append]
    by_cases before : device.Streams
    · -- the stream goes on, so the write that failed, if any, was in front of its launch
      rcases since_concat.1 intact with launches | ⟨intact, sent⟩
      · exact absurd before launches.1
      · have tracks := performed.tracks before streams session.consistent session.regular
        exact tracks.stored _ (ih before intact) (Step.unbroken_of_not_failsWrite sent)
    · -- the step has switched the stream on, so all its writes were in
      obtain ⟨front, back, rfl, opens⟩ := performed.opens before streams session.regular
      rw [memoryAfter_append]
      exact opens.tracks.stored _ (opens.stored _) opens.unbroken

/-- As long as no register write has failed since the stream was switched on, a streaming sensor has
stored the current value of every writable control on offer. -/
theorem controls_stored (session : Session configuration wiring trace steps device)
    (streaming : device.stream = .streaming) (awake : device.suspended = false)
    (intact : Since Step.Launches Step.FailsWrite steps) {id : ControlId}
    (writable : id.isReadOnly = false) {setting : Setting}
    (present : device.controls.setting? id = some setting) :
    ∃ write, device.controls.registerWrite? id = .ok (some write) ∧
      (memoryAfter .blank trace).Holds write := by
  obtain ⟨write, own⟩ := session.regular.controls.ranged.exists_write writable present
  exact ⟨write, own, session.storedIn ⟨streaming, awake⟩ intact id write own⟩

/-- The first start fails at once, the second succeeds; a long exposure is set, and then frames are
asked for that are too short for it. -/
def shortenedExposure : List (FaultPlan × Operation) :=
  [({ writeAt := [0] }, .start), ({}, .start), ({}, .setControl .verticalBlank 4000),
    ({}, .setControl .exposure 7000), ({}, .setFormat 2104 1560 .active)]

theorem exists_shortenedExposure :
    ∃ trace first launch later device,
      Session {} ⟨true, true, true⟩ trace (first :: launch :: later) device ∧ launch.Launches ∧
      (∀ step ∈ launch :: later, ¬ step.FailsWrite) ∧
      later.map Step.operation = (shortenedExposure.drop 2).map Prod.snd ∧ device.Streams ∧
      device.controls.exposure.value = 5556 := by
  have seen := exists_session_of_rehearse {} ⟨true, true, true⟩ shortenedExposure
    (fun _ steps device => (steps.drop 1).head?.any (·.Launches) &&
      (steps.drop 1).all (¬ Step.FailsWrite ·) &&
      (steps.drop 2).map Step.operation = (shortenedExposure.drop 2).map Prod.snd &&
      device.stream = .streaming && !device.suspended && device.controls.exposure.value = 5556)
    (by decide +kernel)
  obtain ⟨trace, steps, device, session, shown⟩ := seen
  rcases steps with _ | ⟨first, _ | ⟨launch, later⟩⟩
  · cases shown
  · cases shown
  · simp only [List.drop_succ_cons, List.drop_zero, List.head?_cons, Option.any_some,
      Bool.and_eq_true, Bool.not_eq_true', decide_eq_true_eq, List.all_eq_true] at shown
    obtain ⟨⟨⟨⟨⟨launches, sent⟩, operations⟩, streaming⟩, awake⟩, value⟩ := shown
    exact ⟨trace, first, launch, later, device, session, launches, sent, operations,
      ⟨streaming, awake⟩, value⟩

/-- The sensor has followed to the longest exposure of the new frames. -/
theorem stored_shortened_exposure :
    ∃ trace steps device, Session {} ⟨true, true, true⟩ trace steps device ∧
      device.Streams ∧ Since Step.Launches Step.FailsWrite steps ∧
      (memoryAfter .blank trace).Holds ⟨Register.exposure, 2, 5556⟩ := by
  obtain ⟨trace, first, launch, later, device, session, launches, sent, -, streams, value⟩ :=
    exists_shortenedExposure
  have intact : Since Step.Launches Step.FailsWrite (first :: launch :: later) :=
    ⟨[first], launch, later, rfl, launches, fun step member =>
      sent step (List.mem_cons_of_mem _ member)⟩
  obtain ⟨write, own, holds⟩ := controls_stored session streams.1 streams.2 intact
    (show ControlId.exposure.isReadOnly = false from rfl) rfl
  have same : write = ⟨Register.exposure, 2, 5556⟩ := by
    have exposure : device.controls.registerWrite? .exposure =
        .ok (some ⟨Register.exposure, 2, UInt32.ofInt device.controls.exposure.value⟩) := rfl
    rw [own, value] at exposure
    exact Option.some.inj (Except.ok.inj exposure)
  exact ⟨trace, _, device, session, streams, intact, same ▸ holds⟩

end Session

end ImageSensor
