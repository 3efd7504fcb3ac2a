import ImageSensor.Proofs.Session.Accounting

/-!
# Held References and Power

An awake device that holds a reference is meant to have a sensor that is on. One way leads out of
this: a resume that fails to power the sensor while power is requested keeps the reference of the
request. The device is then stranded, and requesting power again does nothing, until it is
suspended, the request is withdrawn, or an operation turns the supplies on.

## Main statements

- `Performed.stranded_iff`: what one operation does to a stranded device.
- `Session.stranded_iff_since`: exactly which sessions leave a device stranded.
- `Session.powerless_request`: one of them, in which a request for power succeeds with the sensor
  off.
-/

namespace ImageSensor

open ImageSensor.Action

/-! ## §1 Supplies turned on -/

/-- Some event turns the supplies on. -/
def Supplied (events : List Event) : Prop :=
  ∃ event ∈ events, event.takes .supplies = true

theorem not_supplied_nil : ¬ Supplied [] := by
  rintro ⟨event, member, -⟩
  cases member

theorem supplied_append {first second : List Event} :
    Supplied (first ++ second) ↔ Supplied first ∨ Supplied second := by
  simp only [Supplied, List.mem_append, or_and_right, exists_or]

theorem supplied_cons {event : Event} {events : List Event} :
    Supplied (event :: events) ↔ event.takes .supplies = true ∨ Supplied events := by
  simp only [Supplied, List.mem_cons, exists_eq_or_imp]

theorem takes_eq_false_of_not_supplied {events : List Event} (quiet : ¬ Supplied events) :
    ∀ event ∈ events, event.takes .supplies = false := by
  intro event member
  rw [← Bool.not_eq_true]
  exact fun taking => quiet ⟨event, member, taking⟩

theorem not_supplied_of_idle {events : List Event} (idle : ∀ event ∈ events, event.call.Idle) :
    ¬ Supplied events := by
  rintro ⟨event, member, taking⟩
  refine (idle event member .supplies).1 ?_
  simp only [Event.takes, Bool.and_eq_true, decide_eq_true_eq] at taking
  exact taking.1

/-- A part that only makes incidental calls turns no supply on. -/
theorem not_supplied_part {action : Action Unit} {events : List Event} {outcome : Except Trap Unit}
    (limited : action.Within Call.Incidental) (run : Runs action events outcome) :
    ¬ Supplied events :=
  not_supplied_of_idle fun event member => (limited.mem run event member).idle

/-- A sensor that is off is powered up by turning the supplies on. -/
theorem Sequencer.PoweredUp.supplied {sequencer sequencer' : Sequencer} {events : List Event}
    (up : sequencer.PoweredUp events (.ok ()) sequencer') (off : sequencer.power = .off) :
    Supplied events := by
  cases up with
  | already on => exact nomatch off.symm.trans on
  | powered off prepared reset released =>
    exact ⟨⟨.enableRegulators, Except.ok ()⟩, by simp, rfl⟩

theorem Sequencer.PoweredUp.not_supplied {sequencer sequencer' : Sequencer}
    {events : List Event} {e : PowerError}
    (up : sequencer.PoweredUp events (.error e) sequencer') : ¬ Supplied events := by
  cases up with
  | clockFailed off prepared =>
    have lead := not_supplied_part (prepare_within _) prepared
    simp [supplied_append, supplied_cons, not_supplied_nil, lead, Event.takes, Resource.taking]
  | suppliesFailed off prepared reset =>
    have lead := not_supplied_part (prepare_within _) prepared
    have held := not_supplied_part (drive_within _ _ _) reset
    -- the supplies were asked for, but refused
    simp [supplied_append, supplied_cons, not_supplied_nil, lead, held, Event.takes,
      Resource.taking]
    rfl

/-- Nothing has to be done for a sensor that is on. -/
theorem Sequencer.PoweredUp.events_eq_nil {sequencer sequencer' : Sequencer} {events : List Event}
    {outcome : Except PowerError Unit} (up : sequencer.PoweredUp events outcome sequencer')
    (on : sequencer.power = .on) : events = [] := by
  cases up with
  | already on => rfl
  | clockFailed off | suppliesFailed off | powered off => exact nomatch off.symm.trans on

theorem Sequencer.PoweredDown.not_supplied {sequencer sequencer' : Sequencer}
    {events : List Event} (down : sequencer.PoweredDown events sequencer') :
    ¬ Supplied events := by
  cases down with
  | already off => exact not_supplied_nil
  | lowered on stopped reset slept disabled =>
    have down := not_supplied_part (drive_within _ _ _) stopped
    have held := not_supplied_part (drive_within _ _ _) reset
    have parked := not_supplied_part (selectPins_within _) slept
    have cut := not_supplied_part (drive_within _ _ _) disabled
    simp [supplied_append, supplied_cons, not_supplied_nil, down, held, parked, cut, Event.takes,
      Resource.taking]

namespace Device

variable {device device' : Device} {events : List Event} {outcome : Except DeviceError Unit}

theorem Acquired.supplied (acquired : device.Acquired events (.ok ()) device')
    (awake : device.suspended = false) (off : device.sequencer.power = .off) :
    Supplied events := by
  generalize ended : Except.ok () = outcome at acquired
  cases acquired with
  | refused => cases ended
  | unpowered awake up => cases ended
  | deferred asleep counted => exact nomatch asleep.symm.trans awake
  | powered awake up counted => exact supplied_cons.2 (.inr (up.supplied off))

theorem Acquired.not_supplied {e : DeviceError}
    (acquired : device.Acquired events (.error e) device') : ¬ Supplied events := by
  cases acquired with
  | refused => simp [supplied_cons, not_supplied_nil, Event.takes, Resource.taking]
  | unpowered awake up =>
    simp [supplied_append, supplied_cons, not_supplied_nil, up.not_supplied, Event.takes,
      Resource.taking]

theorem Acquired.not_supplied_of_on (acquired : device.Acquired events outcome device')
    (on : device.sequencer.power = .on) : ¬ Supplied events := by
  cases acquired with
  | refused | deferred => simp [supplied_cons, not_supplied_nil, Event.takes, Resource.taking]
  | unpowered awake up | powered awake up =>
    simp [up.events_eq_nil on, supplied_cons, not_supplied_nil, Event.takes, Resource.taking]

theorem Released.not_supplied (released : device.Released events device') : ¬ Supplied events := by
  cases released with
  | none unused => exact not_supplied_nil
  | kept used shared => simp [supplied_cons, not_supplied_nil, Event.takes, Resource.taking]
  | last one down =>
    simp [supplied_append, supplied_cons, not_supplied_nil, down.not_supplied, Event.takes,
      Resource.taking]

theorem PowerSet.not_supplied_of_on {on : Bool}
    (set : device.PowerSet on events outcome device') (powered : device.sequencer.power = .on) :
    ¬ Supplied events := by
  cases set with
  | unchanged => exact not_supplied_nil
  | refused fresh acquired | requested fresh acquired =>
    exact acquired.not_supplied_of_on powered
  | withdrawn requested released => exact released.not_supplied

theorem Probed.not_supplied_of_on {outcome : Except DeviceError ChipIdentity}
    (probed : device.Probed events outcome device') (on : device.sequencer.power = .on) :
    ¬ Supplied events := by
  have reading {bus : Bus} {second : List Event} {identity}
      (identified : Runs bus.identify second identity) : ¬ Supplied second :=
    not_supplied_of_idle fun event member =>
      ((Bus.identify_within bus).mem identified event member).1.idle
  cases probed with
  | asleep asleep => exact not_supplied_nil
  | unpowered awake acquired => exact acquired.not_supplied_of_on on
  | rejected awake acquired identified released | detected awake acquired identified released =>
    simp [supplied_append, supplied_cons, not_supplied_nil, acquired.not_supplied_of_on on,
      reading identified, released.not_supplied, Event.takes, Resource.taking]

/-! ## §2 Stranded devices -/

/-- A device that is awake and holds a reference, but whose sensor is off. -/
def Stranded (device : Device) : Prop :=
  device.suspended = false ∧ 0 < device.users ∧ device.sequencer.power = .off

/-- The reference of a stranded device is that of the explicit request. -/
theorem Consistent.stranded_iff (consistent : device.Consistent) :
    device.Stranded ↔ device.suspended = false ∧ device.powerRequested = true ∧
      device.sequencer.power = .off := by
  obtain ⟨⟨users, -⟩, streams⟩ := consistent
  constructor
  · rintro ⟨awake, used, off⟩
    refine ⟨awake, ?_, off⟩
    -- a stream would have the sensor on, so the reference can only be that of the request
    have stopped : device.stream ≠ .streaming := fun streaming =>
      nomatch off.symm.trans (streams streaming awake)
    have positive : 0 < device.users.toNat := UInt32.lt_iff_toNat_lt.1 used
    cases requested : device.powerRequested with
    | true => rfl
    | false => simp [users, demand, stopped, requested] at positive
  · rintro ⟨awake, requested, off⟩
    refine ⟨awake, UInt32.lt_iff_toNat_lt.2 ?_, off⟩
    simp [users, demand, requested]

theorem not_stranded_of_on (on : device.sequencer.power = .on) : ¬ device.Stranded :=
  fun stranded => nomatch on.symm.trans stranded.2.2

theorem not_stranded_of_asleep (asleep : device.suspended = true) : ¬ device.Stranded :=
  fun stranded => nomatch asleep.symm.trans stranded.1

/-- Dropping a reference of a sensor that is on strands nothing: it stays on for the others. -/
theorem Released.not_stranded {count : Nat} (released : device.Released events device')
    (holds : device.Holds (count + 1)) (on : device.sequencer.power = .on) :
    ¬ device'.Stranded := by
  intro stranded
  obtain ⟨holds', kept⟩ := released.holds holds
  have positive : 0 < count := by
    rw [← holds'.users]
    exact UInt32.lt_iff_toNat_lt.1 stranded.2.1
  exact not_stranded_of_on ((congrArg Sequencer.power (kept positive)).trans on) stranded

/-! ## §3 One operation -/

theorem Probed.stranded_iff {outcome : Except DeviceError ChipIdentity}
    (probed : device.Probed events outcome device') (consistent : device.Consistent) :
    device'.Stranded ↔ device.Stranded ∧ ¬ Supplied events := by
  have shared {first second third : List Event} {device₁ : Device}
      (awake : device.suspended = false) (acquired : device.Acquired first (.ok ()) device₁)
      (released : device₁.Released second device') :
      device'.Stranded ↔ device.Stranded ∧ ¬ Supplied (first ++ third) := by
    -- taking the reference for the probe powers the sensor, also that of a stranded device
    obtain ⟨holds, powered⟩ := acquired.holds consistent.holds
    refine iff_of_false (released.not_stranded holds (powered awake)) ?_
    rintro ⟨stranded, quiet⟩
    exact quiet (supplied_append.2 (.inl (acquired.supplied awake stranded.2.2)))
  cases probed with
  | asleep asleep => exact (and_iff_left not_supplied_nil).symm
  | unpowered awake acquired =>
    cases acquired.of_error
    exact (and_iff_left acquired.not_supplied).symm
  | rejected awake acquired identified released => exact shared awake acquired released
  | detected awake acquired identified released => exact shared awake acquired released

/-- A notice in front turns no supply on. -/
theorem supplied_noticed {notice : Notice} :
    Supplied (⟨.notify notice, ()⟩ :: events) ↔ Supplied events := by
  rw [supplied_cons]
  exact or_iff_right (by simp [Event.takes, Resource.taking])

theorem Started.stranded_iff (started : device.Started events outcome device')
    (consistent : device.Consistent) :
    device'.Stranded ↔ device.Stranded ∧ ¬ Supplied events := by
  have supplied {first : List Event} {device₁ : Device}
      (acquired : device.Acquired first (.ok ()) device₁) (stranded : device.Stranded) :
      Supplied first :=
    acquired.supplied stranded.1 stranded.2.2
  cases started with
  | already streaming => exact (and_iff_left not_supplied_nil).symm
  | refused stopped acquired =>
    cases acquired.of_error
    rw [supplied_noticed]
    exact (and_iff_left acquired.not_supplied).symm
  | deferred stopped acquired asleep =>
    refine iff_of_false (not_stranded_of_asleep asleep) fun ⟨stranded, _⟩ => ?_
    obtain ⟨_, _, rfl⟩ := acquired.frame
    exact nomatch asleep.symm.trans stranded.1
  | failed stopped acquired awake on released =>
    -- the reference has powered the sensor before the stream failed
    obtain ⟨holds, powered⟩ := acquired.holds consistent.holds
    rw [supplied_noticed, supplied_append]
    obtain ⟨_, _, rfl⟩ := acquired.frame
    cases on.eq_of_on (powered awake)
    refine iff_of_false (released.not_stranded holds (powered awake)) fun ⟨stranded, quiet⟩ => ?_
    exact quiet (.inl (supplied acquired stranded))
  | started stopped acquired awake on =>
    rw [supplied_noticed, supplied_append]
    refine iff_of_false (not_stranded_of_on on.power_eq_on) fun ⟨stranded, quiet⟩ => ?_
    exact quiet (.inl (supplied acquired stranded))

/-- Stopping an awake device whose sensor is on strands nothing. -/
theorem Stopped.not_stranded (stopped : device.Stopped events device')
    (holds : device.Holds device.demand) (on : device.sequencer.power = .on) :
    ¬ device'.Stranded := by
  cases stopped with
  | idle stopped => exact not_stranded_of_on on
  | stopped streaming halted released =>
    rw [demand_of_streaming streaming] at holds
    exact released.not_stranded holds on

theorem Stopped.stranded_iff (stopped : device.Stopped events device')
    (consistent : device.Consistent) :
    device'.Stranded ↔ device.Stranded ∧ ¬ Supplied events := by
  cases stopped with
  | idle stopped => exact (and_iff_left not_supplied_nil).symm
  | @stopped halting dropping released streaming halted released' =>
    have stopping := Stopped.stopped streaming halted released'
    -- the sensor of an awake stream is on, so the device is stranded neither before nor after
    refine iff_of_false (fun stranded => ?_) fun ⟨stranded, _⟩ => ?_
    · obtain ⟨_, _, _, same⟩ := stopping.frame
      have awake : device.suspended = false := by
        rw [same] at stranded
        exact stranded.1
      exact stopping.not_stranded consistent.holds (consistent.streams streaming awake) stranded
    · exact not_stranded_of_on (consistent.streams streaming stranded.1) stranded

theorem PowerSet.stranded_iff {on : Bool} (set : device.PowerSet on events outcome device')
    (consistent : device.Consistent) :
    device'.Stranded ↔ device.Stranded ∧ ¬ (on = false ∨ Supplied events) := by
  have consistent' := set.consistent consistent
  cases set with
  | unchanged =>
    -- a stranded device has power requested, so what changes nothing is requesting it again
    refine ⟨fun stranded => ⟨stranded, ?_⟩, And.left⟩
    have requested := (consistent.stranded_iff.1 stranded).2.1
    simp [requested, not_supplied_nil]
  | refused fresh acquired =>
    cases acquired.of_error
    simp [acquired.not_supplied]
  | requested fresh acquired =>
    obtain ⟨-, powered⟩ := acquired.holds consistent.holds
    refine iff_of_false (fun stranded => ?_) fun ⟨stranded, quiet⟩ => ?_
    · obtain ⟨_, _, rfl⟩ := acquired.frame
      exact not_stranded_of_on (powered stranded.1) stranded
    · exact quiet (.inr (acquired.supplied stranded.1 stranded.2.2))
  | withdrawn requested released =>
    -- without the request nothing is left that could strand the device
    refine iff_of_false (fun stranded => ?_) fun ⟨_, quiet⟩ => quiet (.inl rfl)
    cases (consistent'.stranded_iff.1 stranded).2.1

/-- A sensor that is off stays off when the stream is stopped. -/
theorem Stopped.power_eq_off (stopped : device.Stopped events device')
    (off : device.sequencer.power = .off) : device'.sequencer.power = .off := by
  cases stopped with
  | idle stopped => exact off
  | stopped streaming halted released =>
    cases released with
    | none unused => exact off
    | kept used shared => exact off
    | last one down => exact down.power_eq_off

theorem Resumed.stranded_iff (resumed : device.Resumed events outcome device')
    (consistent : device.Consistent) :
    device'.Stranded ↔
      ((∃ cause, outcome = .error (.power cause)) ∧ device.powerRequested = true) ∨
        (device.Stranded ∧ ¬ Supplied events) := by
  have consistent' := resumed.consistent consistent
  cases resumed with
  | already awake => simp [not_supplied_nil]
  | resumed asleep restored =>
    refine iff_of_false ?_ ?_
    · rintro ⟨-, used, off⟩
      exact nomatch (restored.power_eq_on used).symm.trans off
    · simp [not_stranded_of_asleep asleep]
  | failed asleep restored stopped =>
    have error := restored.of_error
    have holds := restored.holds (consistent.awoken asleep) rfl demand_pos
    obtain ⟨_, rfl⟩ := restored.frame
    obtain ⟨_, _, _, same⟩ := stopped.frame
    rw [or_iff_left fun ⟨stranded, _⟩ => not_stranded_of_asleep asleep stranded]
    rcases error with ⟨⟨cause, rfl⟩, off⟩ | ⟨⟨cause, rfl⟩, on⟩
    · -- no power: the stream gives its reference back, the request keeps its own
      have off' := stopped.power_eq_off off
      rw [consistent'.stranded_iff, and_iff_left off', same]
      simp
    · -- the bus failed with the sensor on, where a request left over is served
      exact iff_of_false (stopped.not_stranded holds on) nofun

theorem Tuned.stranded_iff (tuned : device.Tuned events device') :
    device'.Stranded ↔ device.Stranded ∧ ¬ Supplied events := by
  have quiet := not_supplied_of_idle fun event member => (tuned.exchange event member).idle
  rw [and_iff_left quiet, Stranded, Stranded, tuned.suspended, tuned.users, tuned.sequencer]

end Device

namespace Step

/-- A resume that fails to power the sensor while power is requested. -/
def LosesPower (step : Step) : Prop :=
  step.operation = .resume ∧ (∃ cause, step.reply = .completed (.error (.power cause))) ∧
    step.before.powerRequested = true

/-- What ends a power loss: the device is suspended, the request is withdrawn, or the operation
turns the supplies on. -/
def EndsLoss (step : Step) : Prop :=
  step.operation = .suspend ∨ step.operation = .setPower false ∨ Supplied step.events

/-- A request for power that succeeds. -/
def grantsPower (step : Step) : Bool :=
  match step.operation, step.reply with
  | .setPower true, .completed (.ok ()) => true
  | _, _ => false

end Step

namespace Device

/-- A device is stranded by a power loss, or was before and has not been helped. -/
theorem Performed.stranded_iff {operation : Operation} {reply : Reply}
    (performed : device.Performed operation events reply device')
    (consistent : device.Consistent) :
    device'.Stranded ↔ Step.LosesPower ⟨device, operation, events, reply, device'⟩ ∨
      (device.Stranded ∧ ¬ Step.EndsLoss ⟨device, operation, events, reply, device'⟩) := by
  -- operations other than these three cannot lose power, and help only by turning the supplies on
  have other (resume : operation ≠ .resume) (suspend : operation ≠ .suspend)
      (withdraw : operation ≠ .setPower false)
      (stranded : device'.Stranded ↔ device.Stranded ∧ ¬ Supplied events) :
      device'.Stranded ↔ Step.LosesPower ⟨device, operation, events, reply, device'⟩ ∨
        (device.Stranded ∧ ¬ Step.EndsLoss ⟨device, operation, events, reply, device'⟩) := by
    simpa [Step.LosesPower, Step.EndsLoss, resume, suspend, withdraw] using stranded
  cases performed with
  | probe probed =>
    exact other nofun nofun nofun (probed.stranded_iff consistent)
  | start started | streamOn started =>
    exact other nofun nofun nofun (started.stranded_iff consistent)
  | stop stopped | streamOff stopped =>
    exact other nofun nofun nofun (stopped.stranded_iff consistent)
  | @setPower on _ _ _ set =>
    have stranded := set.stranded_iff consistent
    simpa [Step.LosesPower, Step.EndsLoss] using stranded
  | suspend suspended =>
    refine iff_of_false (not_stranded_of_asleep suspended.asleep) ?_
    simp [Step.LosesPower, Step.EndsLoss]
  | resume resumed =>
    have stranded := resumed.stranded_iff consistent
    simpa [Step.LosesPower, Step.EndsLoss] using stranded
  | tryFormat => exact other nofun nofun nofun (tuned_trialFormat device _).stranded_iff
  | useFormat selected => exact other nofun nofun nofun selected.tuned.stranded_iff
  | setControl adjusted => exact other nofun nofun nofun adjusted.tuned_of_set.stranded_iff
  | setControlRaw adjusted => exact other nofun nofun nofun adjusted.tuned_of_setRaw.stranded_iff
  | setControls set => exact other nofun nofun nofun set.tuned.stranded_iff

end Device

/-! ## §4 Sessions -/

namespace Session

open Device

variable {configuration : Configuration} {wiring : Wiring} {trace : List Event}
  {steps : List Step} {device : Device}

/-- An awake device that holds a reference has a sensor that is on, except after a resume that
failed to power the sensor while power was requested, for as long as nothing has ended that
loss. -/
theorem stranded_iff_since (session : Session configuration wiring trace steps device) :
    device.suspended = false ∧ 0 < device.users ∧ device.sequencer.power = .off ↔
      Since Step.LosesPower Step.EndsLoss steps := by
  -- induction on the session: both sides change with a step as `Performed.stranded_iff` says
  induction session with
  | created run =>
    cases created_of_runs run
    exact iff_of_false (fun ⟨_, used, _⟩ => nomatch used) not_since_nil
  | performed session run ih =>
    rw [since_concat, ← ih]
    exact (performed_of_runs run).stranded_iff session.consistent

/-- Power is requested, the sensor sleeps, and the clock cannot be enabled when it is to wake up;
then power is requested once more. -/
def unclockedResume : List (FaultPlan × Operation) :=
  [({}, .setPower true), ({}, .suspend), ({ clock := true }, .resume), ({}, .setPower true)]

/-- The loss is there to be found in the steps. -/
theorem stranded_unclocked_resume :
    ∃ trace steps device, Session {} ⟨true, true, true⟩ trace steps device ∧
      Since Step.LosesPower Step.EndsLoss steps := by
  have seen := exists_session_of_rehearse {} ⟨true, true, true⟩ unclockedResume
    (fun _ _ device => !device.suspended && 0 < device.users && device.sequencer.power = .off)
    (by decide +kernel)
  obtain ⟨trace, steps, device, session, shown⟩ := seen
  simp only [Bool.and_eq_true, Bool.not_eq_true', decide_eq_true_eq] at shown
  obtain ⟨⟨awake, used⟩, off⟩ := shown
  exact ⟨trace, steps, device, session, (stranded_iff_since session).1 ⟨awake, used, off⟩⟩

/-- The second request for power succeeds, with a reference held and the sensor off. -/
theorem powerless_request :
    ∃ trace steps device, Session {} ⟨true, true, true⟩ trace steps device ∧
      steps.getLast?.any Step.grantsPower = true ∧
      device.suspended = false ∧ 0 < device.users ∧ device.sequencer.power = .off := by
  have seen := exists_session_of_rehearse {} ⟨true, true, true⟩ unclockedResume
    (fun _ steps device => steps.getLast?.any Step.grantsPower && !device.suspended &&
      0 < device.users && device.sequencer.power = .off)
    (by decide +kernel)
  obtain ⟨trace, steps, device, session, shown⟩ := seen
  simp only [Bool.and_eq_true, Bool.not_eq_true', decide_eq_true_eq] at shown
  obtain ⟨⟨⟨granted, awake⟩, used⟩, off⟩ := shown
  exact ⟨trace, steps, device, session, granted, awake, used, off⟩

end Session

end ImageSensor
