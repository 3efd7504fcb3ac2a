import ImageSensor.Proofs.Session.Completion

/-!
# Bus Access and Power

A sensor answers on the bus once its supplies are on and it has had time to settle, and no longer
once it is held in reset, put into power-down or cut off. How far it has come is read off the
trace, so that every single bus transaction of a session can be judged.

One kind of transaction comes too early: a resume that fails to power a streaming sensor stops the
stream, and stopping writes to a sensor that is off.

## Main statements

- `strays_eq_nil_iff`: what it means for a trace to have no stray transaction.
- `Performed.course`: what one operation does to the readiness of the sensor, and which of its
  transactions are stray.
- `Session.strays_calls`: the stray transactions of every session, with its end.
-/

namespace ImageSensor

open ImageSensor.Action

/-! ## §1 Readiness, as read off a trace -/

/-- How far a sensor has been brought up. -/
inductive Readiness where
  /-- Not powered up, or on the way down. -/
  | down
  /-- Supplied, but not settled. -/
  | supplied
  /-- Settled: registers can be accessed. -/
  | ready
  deriving DecidableEq, Repr

/-- What an event does to the readiness of a sensor. -/
def Event.prepares (event : Event) (readiness : Readiness) : Readiness :=
  match event.call with
  | .enableRegulators => if event.succeeded then .supplied else readiness
  | .delay microseconds =>
    if readiness = .supplied ∧ microseconds = settleTime then .ready else readiness
  | .drive .reset false | .drive .powerDown false | .disableClock | .disableRegulators => .down
  | _ => readiness

/-- Readiness after a trace. -/
def readinessAfter : Readiness → List Event → Readiness
  | readiness, [] => readiness
  | readiness, event :: later => readinessAfter (event.prepares readiness) later

/-- A transaction on the bus. -/
def Call.usesBus : Call → Bool
  | .busWrite _ _ | .busRead _ _ _ => true
  | .drive _ _ | .delay _ | .setClockRate _ | .clockRate | .enableClock | .disableClock
  | .enableRegulators | .disableRegulators | .selectPins _ | .acquire | .release | .notify _ =>
    false

/-- The bus transactions attempted while the sensor was not ready. -/
def strays : Readiness → List Event → List Event
  | _, [] => []
  | readiness, event :: later =>
    if event.call.usesBus ∧ readiness ≠ .ready then
      event :: strays (event.prepares readiness) later
    else
      strays (event.prepares readiness) later

/-- Nothing is stray if every transaction happens at a point of the trace at which the sensor is
ready. -/
theorem strays_eq_nil_iff {readiness : Readiness} {trace : List Event} :
    strays readiness trace = [] ↔
      ∀ earlier event later, trace = earlier ++ event :: later → event.call.usesBus = true →
        readinessAfter readiness earlier = .ready := by
  -- the readiness changes along the trace, so it has to be general in the induction
  induction trace generalizing readiness with
  | nil =>
    refine iff_of_true rfl fun earlier event later split => ?_
    cases earlier <;> cases split
  | cons first rest ih =>
    unfold strays
    split
    case isTrue stray =>
      -- the first event is stray itself, with nothing in front of it
      refine iff_of_false nofun fun always => ?_
      exact stray.2 (always [] first rest rfl stray.1)
    case isFalse fine =>
      rw [ih]
      constructor
      · intro always earlier event later split uses
        cases earlier with
        | nil =>
          cases split
          exact Decidable.of_not_not fun early => fine ⟨uses, early⟩
        | cons head earlier =>
          cases split
          exact always earlier event later rfl uses
      · rintro always earlier event later rfl uses
        exact always (first :: earlier) event later rfl uses

/-! ## §2 Courses -/

/-- What a trace does to the readiness of a sensor, and which of its transactions are stray. -/
structure Course (readiness : Readiness) (events : List Event) (readiness' : Readiness)
    (lost : List Event) : Prop where
  readiness_eq : readinessAfter readiness events = readiness'
  strays_eq : strays readiness events = lost

variable {readiness readiness' : Readiness} {events : List Event}

theorem readinessAfter_append (first second : List Event) :
    readinessAfter readiness (first ++ second) =
      readinessAfter (readinessAfter readiness first) second := by
  induction first generalizing readiness with
  | nil => rfl
  | cons event rest ih => exact ih

theorem strays_append (first second : List Event) :
    strays readiness (first ++ second) =
      strays readiness first ++ strays (readinessAfter readiness first) second := by
  induction first generalizing readiness with
  | nil => rfl
  | cons event rest ih =>
    simp only [List.cons_append, strays, readinessAfter, ih]
    split <;> rfl

namespace Course

theorem nil (readiness : Readiness) : Course readiness [] readiness [] :=
  ⟨rfl, rfl⟩

theorem append {readiness₁ : Readiness} {first second lost₁ lost₂ : List Event}
    (one : Course readiness first readiness₁ lost₁)
    (two : Course readiness₁ second readiness' lost₂) :
    Course readiness (first ++ second) readiness' (lost₁ ++ lost₂) := by
  obtain ⟨rfl, rfl⟩ := one
  obtain ⟨rfl, rfl⟩ := two
  exact ⟨readinessAfter_append first second, strays_append first second⟩

/-- An event that is no bus transaction, in front. -/
theorem cons {readiness₁ : Readiness} {event : Event} {lost : List Event}
    (prepares : event.prepares readiness = readiness₁) (unused : event.call.usesBus = false)
    (later : Course readiness₁ events readiness' lost) :
    Course readiness (event :: events) readiness' lost := by
  subst prepares
  refine ⟨later.readiness_eq, ?_⟩
  rw [strays, if_neg (by simp [unused])]
  exact later.strays_eq

theorem noticed {notice : Notice} {lost : List Event}
    (later : Course readiness events readiness' lost) :
    Course readiness (⟨.notify notice, ()⟩ :: events) readiness' lost :=
  cons rfl rfl later

end Course

/-- A call that changes no readiness, whatever it is answered. -/
def Call.Steady (call : Call) : Prop :=
  ∀ answer readiness, Event.prepares ⟨call, answer⟩ readiness = readiness

theorem Call.Exchange.steady {call : Call} (exchange : call.Exchange) : call.Steady := by
  intro answer readiness
  cases call <;> first | rfl | cases exchange

theorem Call.Incidental.not_usesBus {call : Call} (incidental : call.Incidental) :
    call.usesBus = false := by
  cases call <;> first | rfl | cases incidental

/-- Transactions with a ready sensor are fine, and it stays ready. -/
theorem course_exchange (exchange : ∀ event ∈ events, event.call.Exchange) :
    Course .ready events .ready [] := by
  induction events with
  | nil => exact .nil _
  | cons event later ih =>
    have rest := ih fun other member => exchange other (List.mem_cons_of_mem _ member)
    have steady : event.prepares .ready = .ready :=
      (exchange event List.mem_cons_self).steady event.answer .ready
    refine ⟨?_, ?_⟩
    · rw [readinessAfter, steady]
      exact rest.readiness_eq
    · rw [strays, if_neg (by simp), steady]
      exact rest.strays_eq

/-- Notices change nothing. -/
theorem course_notices (exchange : ∀ event ∈ events, event.call.Exchange)
    (incidental : ∀ event ∈ events, event.call.Incidental) (readiness : Readiness) :
    Course readiness events readiness [] := by
  induction events with
  | nil => exact .nil _
  | cons event later ih =>
    have rest := ih (fun other member => exchange other (List.mem_cons_of_mem _ member))
      fun other member => incidental other (List.mem_cons_of_mem _ member)
    refine .cons ?_ (incidental event List.mem_cons_self).not_usesBus rest
    exact (exchange event List.mem_cons_self).steady event.answer readiness

theorem prepares_of_incidental {event : Event} (incidental : event.call.Incidental) :
    event.prepares .down = .down := by
  obtain ⟨call, answer⟩ := event
  cases call with
  | enableRegulators => exact incidental.elim
  | delay microseconds => simp [Event.prepares]
  | drive pin high => cases pin <;> cases high <;> rfl
  | _ => rfl

/-- What is only incidental never gets a sensor up. -/
theorem course_incidental (incidental : ∀ event ∈ events, event.call.Incidental) :
    Course .down events .down [] := by
  induction events with
  | nil => exact .nil _
  | cons event later ih =>
    have rest := ih fun other member => incidental other (List.mem_cons_of_mem _ member)
    have here := incidental event List.mem_cons_self
    exact .cons (prepares_of_incidental here) here.not_usesBus rest

/-! ## §3 Powering up and down -/

namespace Sequencer

variable {sequencer sequencer' : Sequencer}

/-- The readiness that goes with a power state. -/
def standing (sequencer : Sequencer) : Readiness :=
  if sequencer.power = .on then .ready else .down

theorem standing_of_on (on : sequencer.power = .on) : sequencer.standing = .ready :=
  if_pos on

theorem standing_of_off (off : sequencer.power = .off) : sequencer.standing = .down :=
  if_neg (by simp [off])

/-- A part that only makes incidental calls leaves a sensor that is down as it is. -/
theorem course_part {action : Action Unit} {outcome : Except Trap Unit}
    (limited : action.Within Call.Incidental) (run : Runs action events outcome) :
    Course .down events .down [] :=
  course_incidental (limited.mem run)

/-- Raising a pin changes no readiness. -/
theorem course_drive_high {wiring : Wiring} {pin : ControlPin}
    (run : Runs (drive wiring pin true) events (.ok ())) (readiness : Readiness) :
    Course readiness events readiness [] := by
  unfold drive at run
  split at run
  · obtain ⟨answer, _, split, rest⟩ := runs_ask_bind.1 run
    subst split
    refine .cons (by cases pin <;> rfl) rfl ?_
    rcases answer with cause | _
    · cases runs_notify_ok.1 rest
      exact Course.noticed (.nil _)
    · obtain ⟨rfl, -⟩ := runs_done.1 rest
      exact .nil _
  · obtain ⟨rfl, -⟩ := runs_done.1 run
    exact .nil _

/-- A supplied sensor is ready once reset and power-down are released and it has settled. -/
theorem course_releaseReset {wiring : Wiring}
    (run : Runs (releaseReset wiring) events (.ok ())) :
    Course .supplied events .ready [] := by
  obtain ⟨_, first, _, split₁, reset, run⟩ := runs_bind_ok.1 run
  obtain ⟨_, _, split₂, run⟩ := runs_ask_bind.1 run
  obtain ⟨_, second, _, split₃, released, run⟩ := runs_bind_ok.1 run
  obtain ⟨settle, delay, run⟩ := runs_ofChecked_bind.1 run
  obtain ⟨_, _, split₄, run⟩ := runs_call.1 run
  obtain ⟨split₅, -⟩ := runs_done.1 run
  cases Except.ok.inj (delay.symm.trans settleDelay_eq_ok)
  subst split₅ split₄ split₃ split₂ split₁
  -- neither pin nor the delay between them settles the sensor, only the wait at the end does
  have settled : Course .supplied [⟨.delay settleTime, ()⟩] .ready [] :=
    .cons (by decide) rfl (.nil _)
  have waiting : Event.prepares ⟨.delay resetDelay, ()⟩ .supplied = .supplied := by decide
  have last := (course_drive_high released .supplied).append settled
  exact (course_drive_high reset .supplied).append (.cons waiting rfl last)

theorem PoweredUp.course {outcome : Except PowerError Unit}
    (up : sequencer.PoweredUp events outcome sequencer') :
    Course sequencer.standing events sequencer'.standing [] := by
  cases up with
  | already on => exact .nil _
  | clockFailed off prepared =>
    rw [standing_of_off off]
    exact (course_part (prepare_within _) prepared).append (.cons rfl rfl (.nil _))
  | suppliesFailed off prepared reset =>
    rw [standing_of_off off]
    -- supplies that are refused do not count
    have failed (cause : Cause) : Course .down
        [⟨.enableRegulators, Except.error cause⟩, ⟨.disableClock, ()⟩] .down [] :=
      .cons rfl rfl (.cons rfl rfl (.nil _))
    exact (course_part (prepare_within _) prepared).append
      (.cons rfl rfl ((course_part (drive_within _ _ _) reset).append (failed _)))
  | powered off prepared reset released =>
    rw [standing_of_off off]
    have supplied : Course .down (⟨.enableRegulators, Except.ok ()⟩ :: _) .ready [] :=
      .cons rfl rfl (course_releaseReset released)
    exact (course_part (prepare_within _) prepared).append
      (.cons rfl rfl ((course_part (drive_within _ _ _) reset).append supplied))

/-- Without bus transactions nothing is stray, whatever becomes of the readiness. -/
theorem strays_eq_nil_of_incidental (incidental : ∀ event ∈ events, event.call.Incidental)
    (readiness : Readiness) : strays readiness events = [] := by
  refine strays_eq_nil_iff.2 fun earlier event later split uses => ?_
  have member : event ∈ events := by simp [split]
  exact absurd uses (by simp [(incidental event member).not_usesBus])

theorem PoweredDown.course (down : sequencer.PoweredDown events sequencer') :
    Course sequencer.standing events sequencer'.standing [] := by
  cases down with
  | already off => exact .nil _
  | lowered on stopped reset slept disabled =>
    -- whether the first pin is wired or not, the clock is turned off behind it
    have first := strays_eq_nil_of_incidental ((drive_within _ _ _).mem stopped) .ready
    have cut : Course .down [⟨.disableRegulators, ()⟩] .down [] := .cons rfl rfl (.nil _)
    have rest := (course_part (drive_within _ _ _) reset).append
      ((course_part (selectPins_within _) slept).append ((course_part (drive_within _ _ _) disabled).append cut))
    rw [standing_of_on on]
    exact Course.noticed (Course.append ⟨rfl, first⟩ (.cons rfl rfl rest))

end Sequencer

/-! ## §4 One operation -/

namespace Device

variable {device device' : Device} {outcome : Except DeviceError Unit}

/-- The readiness of the sensor of a device between operations. -/
def standing (device : Device) : Readiness :=
  device.sequencer.standing

theorem Acquired.course (acquired : device.Acquired events outcome device') :
    Course device.standing events device'.standing [] := by
  cases acquired with
  | refused => exact .cons rfl rfl (.nil _)
  | unpowered awake up => exact .cons rfl rfl (up.course.append (.cons rfl rfl (.nil _)))
  | deferred asleep counted => exact .cons rfl rfl (.nil _)
  | powered awake up counted => exact .cons rfl rfl up.course

theorem Released.course (released : device.Released events device') :
    Course device.standing events device'.standing [] := by
  cases released with
  | none unused => exact .nil _
  | kept used shared => exact .cons rfl rfl (.nil _)
  | last one down => exact down.course.append (.cons rfl rfl (.nil _))

theorem PowerSet.course {on : Bool} (set : device.PowerSet on events outcome device') :
    Course device.standing events device'.standing [] := by
  cases set with
  | unchanged => exact .nil _
  | refused fresh acquired => exact acquired.course
  | requested fresh acquired => exact acquired.course
  | withdrawn requested released => exact released.course

theorem StreamedOn.course (on : device.StreamedOn events outcome device') :
    Course device.standing events device'.standing [] := by
  cases on with
  | unpowered up => exact up.course
  | @programmed _ second sequencer _ up programmed =>
    have writes : Course sequencer.standing second sequencer.standing [] := by
      rw [Sequencer.standing_of_on up.power_eq_on]
      exact course_exchange programmed.exchange
    exact up.course.append writes

/-- A sensor that is on can be put into standby. -/
theorem Halted.course (halted : device.Halted events)
    (streams : device.stream = .streaming → device.suspended = false →
      device.sequencer.power = .on) :
    Course device.standing events device.standing [] := by
  cases halted with
  | untouched idle => exact .nil _
  | standby streaming awake stood =>
    rw [standing, Sequencer.standing_of_on (streams streaming awake)]
    exact course_exchange (Halted.standby streaming awake stood).exchange

theorem Stopped.course (stopped : device.Stopped events device')
    (streams : device.stream = .streaming → device.suspended = false →
      device.sequencer.power = .on) :
    Course device.standing events device'.standing [] := by
  cases stopped with
  | idle stopped => exact .nil _
  | stopped streaming halted released =>
    exact .noticed ((halted.course streams).append released.course)

theorem Started.course (started : device.Started events outcome device') :
    Course device.standing events device'.standing [] := by
  cases started with
  | already streaming => exact .nil _
  | refused stopped acquired => exact acquired.course.noticed
  | deferred stopped acquired asleep =>
    exact (acquired.course.append (Course.nil _).noticed).noticed
  | failed stopped acquired awake on released =>
    exact (acquired.course.append (on.course.append released.course.noticed)).noticed
  | started stopped acquired awake on => exact (acquired.course.append on.course).noticed

theorem Suspended.course (suspended : device.Suspended events device')
    (consistent : device.Consistent) :
    Course device.standing events device'.standing [] := by
  cases suspended with
  | already asleep => exact .nil _
  | suspended awake halted down =>
    exact ((halted.course consistent.streams).append down.course).noticed

theorem Restored.course (restored : device.Restored events outcome device') :
    Course device.standing events device'.standing [] := by
  cases restored with
  | streaming streaming on => exact on.course
  | powered stopped used up => exact up.course
  | idle stopped unused => exact .nil _

theorem Probed.course {outcome : Except DeviceError ChipIdentity}
    (probed : device.Probed events outcome device') (consistent : device.Consistent) :
    Course device.standing events device'.standing [] := by
  have reading {first second : List Event} {device₁ : Device} {identity}
      (awake : device.suspended = false) (acquired : device.Acquired first (.ok ()) device₁)
      (identified : Runs device₁.bus.identify second identity) :
      Course device₁.standing second device₁.standing [] := by
    -- the reference taken for the probe has powered the sensor
    have powered := (acquired.holds consistent.holds).2 awake
    rw [standing, Sequencer.standing_of_on powered]
    exact course_exchange fun event member =>
      ((Bus.identify_within device₁.bus).mem identified event member).1
  cases probed with
  | asleep asleep => exact .nil _
  | unpowered awake acquired => exact acquired.course
  | rejected awake acquired identified released =>
    exact acquired.course.append ((reading awake acquired identified).append released.course)
  | detected awake acquired identified released =>
    exact acquired.course.append
      ((reading awake acquired identified).append (released.course.append (Course.nil _).noticed))

theorem Tuned.course (tuned : device.Tuned events device') :
    Course device.standing events device'.standing [] := by
  have same : device'.standing = device.standing := by
    rw [standing, standing, tuned.sequencer]
  rw [same]
  -- writes are sent only if the sensor is on; otherwise there are just notices
  cases live : device.isLive with
  | true =>
    have on : device.sequencer.power = .on := by
      simp only [Device.isLive, Bool.and_eq_true, decide_eq_true_eq] at live
      exact live.2
    rw [standing, Sequencer.standing_of_on on]
    exact course_exchange tuned.exchange
  | false => exact course_notices tuned.exchange (tuned.unreachable live) _

/-- The write that puts a sensor into standby. -/
def standbyCall (device : Device) : Call :=
  .busWrite device.configuration.address standbyWrite.frame

/-- Stopping the stream of an awake device whose sensor is off writes to the sensor. -/
theorem Stopped.course_of_off (stopped : device.Stopped events device')
    (streaming : device.stream = .streaming) (awake : device.suspended = false)
    (off : device.sequencer.power = .off) :
    ∃ lost, Course device.standing events device'.standing lost ∧
      lost.map Event.call = [device.standbyCall] := by
  rw [standing, Sequencer.standing_of_off off]
  cases stopped with
  | idle stopped => exact nomatch stopped.symm.trans streaming
  | stopped _ halted released =>
    -- dropping the reference is in order, what comes before it is not
    have released := released.course
    rw [standing, Sequencer.standing_of_off off] at released
    cases halted with
    | untouched idle =>
      rcases idle with stopped | asleep
      · exact nomatch stopped.symm.trans streaming
      · exact nomatch asleep.symm.trans awake
    | standby _ _ stood =>
      cases stood with
      | entered => exact ⟨_, Course.noticed (Course.append ⟨rfl, rfl⟩ released), rfl⟩
      | failed => exact ⟨_, Course.noticed (Course.append ⟨rfl, rfl⟩ released), rfl⟩

end Device

/-- A resume that fails to power a streaming sensor, and so stops a stream with the sensor off. -/
def Step.StopsUnpowered (step : Step) : Bool :=
  match step.operation, step.reply with
  | .resume, .completed (.error (.power _)) => step.before.stream = .streaming
  | _, _ => false

namespace Device

variable {device device' : Device} {outcome : Except DeviceError Unit}

theorem Resumed.course (resumed : device.Resumed events outcome device') :
    ∃ lost, Course device.standing events device'.standing lost ∧
      lost.map Event.call =
        if Step.StopsUnpowered ⟨device, .resume, events, .completed outcome, device'⟩ then
          [device.standbyCall]
        else [] := by
  cases resumed with
  | already awake => exact ⟨[], .nil _, rfl⟩
  | resumed asleep restored => exact ⟨[], restored.course.noticed, rfl⟩
  | @failed _ second _ device₁ _ asleep restored stopped =>
    have error := restored.of_error
    have course := restored.course
    obtain ⟨_, rfl⟩ := restored.frame
    -- the sensor is off exactly if it was the power that failed
    rcases error with ⟨⟨cause, rfl⟩, off⟩ | ⟨⟨cause, rfl⟩, on⟩
    · cases streaming : device.stream with
      | stopped =>
        have idle := stopped.course fun still => nomatch streaming.symm.trans still
        exact ⟨_, (course.append idle.noticed).noticed, by simp [Step.StopsUnpowered, streaming]⟩
      | streaming =>
        obtain ⟨lost, halting, calls⟩ := stopped.course_of_off streaming rfl off
        refine ⟨_, (course.append halting.noticed).noticed, ?_⟩
        rw [List.nil_append, calls, if_pos (by simp [Step.StopsUnpowered, streaming])]
        rfl
    · have stopping := stopped.course fun _ _ => on
      exact ⟨_, (course.append stopping.noticed).noticed, rfl⟩

/-- Operations leave the readiness that goes with the power state. Only a resume that stops an
unpowered stream makes a stray transaction: the standby write. -/
theorem Performed.course {operation : Operation} {reply : Reply}
    (performed : device.Performed operation events reply device')
    (consistent : device.Consistent) :
    ∃ lost, Course device.standing events device'.standing lost ∧
      lost.map Event.call =
        if Step.StopsUnpowered ⟨device, operation, events, reply, device'⟩ then
          [device.standbyCall]
        else [] := by
  cases performed with
  | probe probed => exact ⟨[], probed.course consistent, rfl⟩
  | start started | streamOn started => exact ⟨[], started.course, rfl⟩
  | stop stopped | streamOff stopped => exact ⟨[], stopped.course consistent.streams, rfl⟩
  | setPower set => exact ⟨[], set.course, rfl⟩
  | suspend suspended => exact ⟨[], suspended.course consistent, rfl⟩
  | resume resumed => exact resumed.course
  | tryFormat => exact ⟨[], (tuned_trialFormat device _).course, rfl⟩
  | useFormat selected => exact ⟨[], selected.tuned.course, rfl⟩
  | setControl adjusted => exact ⟨[], adjusted.tuned_of_set.course, rfl⟩
  | setControlRaw adjusted => exact ⟨[], adjusted.tuned_of_setRaw.course, rfl⟩
  | setControls set => exact ⟨[], set.tuned.course, rfl⟩

/-! ## §5 The end of a session -/

theorem Dropped.course {count : Nat} (dropped : Dropped count device events device') :
    Course device.standing events device'.standing [] := by
  induction dropped with
  | none => exact .nil _
  | next released _ ih => exact released.course.append ih

theorem Detached.course {wiring : Wiring} (detached : device.Detached events wiring)
    (consistent : device.Consistent) : Course device.standing events .down [] := by
  cases detached with
  | detached stopped dropped down =>
    -- the last step powers the sensor down whatever is left of its references
    have off := down.course
    rw [Sequencer.standing_of_off down.power_eq_off] at off
    exact (stopped.course consistent.streams).append (dropped.course.append off)

end Device

namespace Session

open Device

variable {configuration : Configuration} {wiring : Wiring} {trace : List Event}
  {steps : List Step} {device : Device}

/-- The course of a session leads to the readiness that goes with the power state. -/
theorem course (session : Session configuration wiring trace steps device) :
    ∃ lost, Course .down trace device.standing lost ∧
      lost.map Event.call = (steps.filter Step.StopsUnpowered).map fun _ =>
        .busWrite configuration.address standbyWrite.frame := by
  induction session with
  | created run =>
    cases created_of_runs run with
    | created reported derived => exact ⟨[], course_incidental reported, rfl⟩
  | performed session run ih =>
    -- the invariant: the sensor is ready after the trace exactly if the sequencer says it is on
    obtain ⟨lost, sofar, calls⟩ := ih
    obtain ⟨more, next, moreCalls⟩ := (performed_of_runs run).course session.consistent
    refine ⟨lost ++ more, sofar.append next, ?_⟩
    rw [List.map_append, calls, moreCalls, List.filter_append, List.map_append]
    congr 1
    rw [standbyCall, session.configuration_eq, List.filter_cons, List.filter_nil]
    split <;> rfl

/-- The bus transactions that a session attempts while the sensor is not ready are the standby
writes of those resumes that fail to power a streaming sensor, one for each, in order. Taking the
device apart adds none. No operation stops half-way, so there are no transactions but those of
sessions and of their end. -/
theorem strays_calls (session : Session configuration wiring trace steps device) :
    (strays .down trace).map Event.call =
        ((steps.filter Step.StopsUnpowered).map fun _ =>
          .busWrite configuration.address standbyWrite.frame) ∧
      (∀ final outcome, Runs device.detach final outcome →
        strays .down (trace ++ final) = strays .down trace) ∧
      ∀ operation events outcome, Runs (device.perform operation) events outcome →
        ∃ reply device', outcome = .ok (reply, device') := by
  obtain ⟨lost, course, calls⟩ := session.course
  refine ⟨?_, ?_, ?_⟩
  · rw [course.strays_eq, calls]
  · intro final outcome run
    obtain ⟨back, rfl⟩ := device.detach_total.exists_ok run
    have ending := (detached_of_runs run).course session.consistent
    rw [(course.append ending).strays_eq, course.strays_eq, List.append_nil]
  · intro operation events outcome run
    obtain ⟨reply, device', ended, -⟩ := session.exists_reply run
    exact ⟨reply, device', ended⟩

/-- The stream is started, the sensor sleeps, and the clock cannot be enabled when it is to wake
up. -/
def unclockedStream : List (FaultPlan × Operation) :=
  [({}, .start), ({}, .suspend), ({ clock := true }, .resume)]

/-- What is stray in that session is the one standby write. -/
theorem strays_unclocked_stream :
    ∃ trace steps device, Session {} ⟨true, true, true⟩ trace steps device ∧
      (strays .down trace).map Event.call = [.busWrite defaultAddress standbyWrite.frame] := by
  have seen := exists_session_of_rehearse {} ⟨true, true, true⟩ unclockedStream
    (fun _ steps _ => (steps.filter Step.StopsUnpowered).length = 1) (by decide +kernel)
  obtain ⟨trace, steps, device, session, shown⟩ := seen
  obtain ⟨step, one⟩ := List.length_eq_one_iff.1 (of_decide_eq_true shown)
  refine ⟨trace, steps, device, session, ?_⟩
  rw [(strays_calls session).1, one]
  rfl

/-- A bus transaction is attempted at a point of the trace at which the sensor is off. -/
theorem unready_bus_access :
    ∃ trace steps device, Session {} ⟨true, true, true⟩ trace steps device ∧
      ∃ earlier event later, trace = earlier ++ event :: later ∧ event.call.usesBus = true ∧
        readinessAfter .down earlier ≠ .ready := by
  have seen := exists_session_of_rehearse {} ⟨true, true, true⟩ unclockedStream
    (fun trace _ _ => (strays .down trace).length = 1) (by decide +kernel)
  obtain ⟨trace, steps, device, session, shown⟩ := seen
  refine ⟨trace, steps, device, session, ?_⟩
  have stray : strays .down trace ≠ [] := by
    intro none
    simp [none] at shown
  simpa [strays_eq_nil_iff] using stray

end Session

end ImageSensor
