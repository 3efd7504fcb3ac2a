import ImageSensor.Proofs.Device.Smooth
import ImageSensor.Proofs.Device.Wiring
import ImageSensor.Proofs.Session.Completion
import ImageSensor.Proofs.Session.HeldPower
import ImageSensor.Proofs.Session.Settings

/-!
# Suspension Is Transparent

A device that is suspended goes on serving its user. It takes and drops references, remembers what
is to be powered and streamed, negotiates formats and sets controls; only the sensor hears nothing
of it. When the device is resumed it is as if it had never slept: as long as nothing fails, it has
given the same replies and is in the same state as a device that was not suspended.

The two devices go different ways, so they are not compared step by step. Both are compared with
what was asked of them: on a platform without faults the replies, the settings and the intentions
follow from the operations alone, and these determine the whole device.

## Main statements

- `Settings.serve`: the replies to operations on which no call fails, computed from the settings.
- `Orderly.eq`: a device is determined by its intentions and settings.
- `performAll_of_smooth`: operations on which no call fails give the replies that are computed.
- `Session.suspension_transparent`: a suspension around operations makes no difference.
-/

namespace ImageSensor

open ImageSensor.Action

/-! ## §1 Replies -/

namespace Settings

/-- The reply to an operation on which no call fails. Probing has none here, since its reply depends
on the chip. -/
def answer (code : BusCode) (settings : Settings) : Operation → Checked (Option Reply)
  | .probe => return none
  | .start | .stop | .setStream _ | .setPower _ | .suspend | .resume =>
    return some (.completed (.ok ()))
  | .setFormat width height _ =>
    return some (.negotiated ((Catalog.bestFit width height).format code))
  | .setControl id v => do
    let outcome ← settings.controls.set id v
    return some (.adjusted (outcome.map fun _ => ()))
  | .setControlRaw cid v => do
    let outcome ← settings.controls.setRaw cid v
    return some (.adjusted (outcome.map fun _ => ()))
  | .setControls values => do
    let (outcome, _) ← settings.controls.setAll values
    return some (.adjusted outcome)

/-- The replies to several operations, and the settings after them. -/
def serve (code : BusCode) (settings : Settings) :
    List Operation → Checked (List (Option Reply) × Settings)
  | [] => return ([], settings)
  | operation :: rest => do
    let reply ← settings.answer code operation
    let settings ← settings.follow code operation
    let (replies, settings) ← settings.serve code rest
    return (reply :: replies, settings)

variable {settings settings₁ settings₂ : Settings} {code : BusCode}

theorem serve_cons {operation : Operation} {operations : List Operation} {reply : Option Reply}
    {replies : List (Option Reply)} (answered : settings.answer code operation = .ok reply)
    (followed : settings.follow code operation = .ok settings₁)
    (served : settings₁.serve code operations = .ok (replies, settings₂)) :
    settings.serve code (operation :: operations) = .ok (reply :: replies, settings₂) :=
  Checked.bind_eq_ok_iff.2 ⟨reply, answered, Checked.bind_eq_ok_iff.2 ⟨settings₁, followed,
    Checked.bind_eq_ok_iff.2 ⟨(replies, settings₂), served, rfl⟩⟩⟩

theorem serve_append {first second : List Operation} {replies replies' : List (Option Reply)}
    (one : settings.serve code first = .ok (replies, settings₁))
    (two : settings₁.serve code second = .ok (replies', settings₂)) :
    settings.serve code (first ++ second) = .ok (replies ++ replies', settings₂) := by
  induction first generalizing settings replies with
  | nil =>
    cases one
    exact two
  | cons operation rest ih =>
    obtain ⟨reply, answered, one⟩ := Checked.bind_eq_ok_iff.1 one
    obtain ⟨middle, followed, one⟩ := Checked.bind_eq_ok_iff.1 one
    obtain ⟨⟨later, last⟩, served, same⟩ := Checked.bind_eq_ok_iff.1 one
    cases same
    exact serve_cons answered followed (ih served)

end Settings

namespace Device

variable {device device' : Device} {events : List Event}

/-- If no write fails, what becomes of a change is up to the controls alone. -/
theorem Adjusted.of_smooth {change : Checked (Except ControlError Adjustment)}
    {outcome : Except ControlError Unit}
    (adjusted : device.Adjusted change events outcome device') (smooth : Smooth events)
    (valid : ∀ adjustment, change = .ok (.ok adjustment) →
      ∀ write ∈ adjustment.writes, validWidth write.width = true) :
    ∃ changed, change = .ok changed ∧ outcome = changed.map (fun _ => ()) ∧
      device' = { device with controls := device.controls.settle changed } := by
  cases adjusted with
  | rejected refused => exact ⟨_, refused, rfl, rfl⟩
  | applied accepted sent =>
    refine ⟨_, accepted, ?_, rfl⟩
    rw [sent.ok_of_smooth smooth (valid _ accepted)]
    rfl

theorem ControlsSet.of_smooth {values : List (ControlId × Int)} {outcome : Except ControlError Unit}
    (set : device.ControlsSet values events outcome device') (smooth : Smooth events) :
    ∃ controls, device.controls.setAll values = .ok (outcome, controls) ∧
      device' = { device with controls } := by
  induction set with
  | none => exact ⟨_, rfl, rfl⟩
  | @stopped device device' id v rest events e adjusted =>
    obtain ⟨changed, result, refused, rfl⟩ :=
      adjusted.of_smooth smooth fun _ => ControlBank.validWidth_of_set
    cases changed with
    | ok adjustment => cases refused
    | error =>
      cases refused
      exact ⟨device.controls, Checked.bind_eq_ok_iff.2 ⟨_, result, rfl⟩, rfl⟩
  | @next device device₁ device' id v rest first second outcome adjusted later ih =>
    obtain ⟨here, behind⟩ := smooth_append.1 smooth
    obtain ⟨changed, result, accepted, rfl⟩ :=
      adjusted.of_smooth here fun _ => ControlBank.validWidth_of_set
    cases changed with
    | error e => cases accepted
    | ok adjustment =>
      obtain ⟨controls, all, rfl⟩ := ih behind
      exact ⟨controls, Checked.bind_eq_ok_iff.2 ⟨_, result, all⟩, rfl⟩

/-- An operation on which no call fails leaves the settings that are computed for it, a batch as
well. -/
theorem Performed.follow_of_smooth {operation : Operation} {reply : Reply}
    (performed : device.Performed operation events reply device') (smooth : Smooth events) :
    device.settings.follow device.busCode operation = .ok device'.settings := by
  cases batch : operation.isBatch with
  | false => exact performed.follow batch
  | true =>
    cases performed with
    | setControls set =>
      obtain ⟨controls, all, rfl⟩ := set.of_smooth smooth
      exact Checked.bind_eq_ok_iff.2 ⟨_, all, rfl⟩
    | _ => cases batch

/-- An operation on which no call fails gives the reply that is computed for it. -/
theorem Performed.answer_of_smooth {operation : Operation} {reply : Reply}
    (performed : device.Performed operation events reply device') (smooth : Smooth events)
    (other : operation ≠ .probe) :
    device.settings.answer device.busCode operation = .ok (some reply) := by
  cases performed with
  | probe probed => exact absurd rfl other
  | start started | streamOn started =>
    rw [(started.of_smooth smooth).1]
    rfl
  | setPower set =>
    rw [(set.of_smooth smooth).1]
    rfl
  | resume resumed =>
    rw [(resumed.of_smooth smooth).1]
    rfl
  | stop | streamOff | suspend | tryFormat | useFormat => rfl
  | setControl adjusted =>
    obtain ⟨changed, result, rfl, -⟩ :=
      adjusted.of_smooth smooth fun _ => ControlBank.validWidth_of_set
    exact Checked.bind_eq_ok_iff.2 ⟨changed, result, rfl⟩
  | setControlRaw adjusted =>
    obtain ⟨changed, result, rfl, -⟩ :=
      adjusted.of_smooth smooth fun _ => ControlBank.validWidth_of_setRaw
    exact Checked.bind_eq_ok_iff.2 ⟨changed, result, rfl⟩
  | setControls set =>
    obtain ⟨controls, all, -⟩ := set.of_smooth smooth
    exact Checked.bind_eq_ok_iff.2 ⟨_, all, rfl⟩

/-! ## §2 Orderly devices -/

/-- The parts of the device agree, and no reference of it is without power. -/
structure Orderly (device : Device) : Prop where
  consistent : device.Consistent
  powered : ¬ device.Stranded

/-- Power can only be lost to a fault. -/
theorem Performed.orderly {operation : Operation} {reply : Reply}
    (performed : device.Performed operation events reply device') (smooth : Smooth events)
    (orderly : device.Orderly) : device'.Orderly := by
  refine ⟨performed.consistent orderly.consistent, fun stranded => ?_⟩
  rcases (performed.stranded_iff orderly.consistent).1 stranded with loses | ⟨before, -⟩
  · obtain ⟨resumes, ⟨cause, failed⟩, -⟩ := loses
    simp only at resumes failed
    subst resumes failed
    cases performed with
    | resume resumed => exact nomatch (resumed.of_smooth smooth).1
  · exact orderly.powered before

/-- An orderly sensor is on exactly while something is asked of it. -/
theorem Orderly.power_eq (orderly : device.Orderly) :
    device.sequencer.power =
      if device.suspended = false ∧ 0 < device.demand then .on else .off := by
  cases power : device.sequencer.power with
  | on =>
    obtain ⟨asked, awake⟩ := orderly.consistent.holds.powered power
    rw [if_pos ⟨awake, asked⟩]
  | off =>
    refine (if_neg fun ⟨awake, asked⟩ => orderly.powered ⟨awake, ?_, power⟩).symm
    rw [UInt32.lt_iff_toNat_lt, orderly.consistent.holds.users]
    exact asked

/-- Orderly devices that are meant to do the same with the same settings are the same. -/
theorem Orderly.eq (one : device.Orderly) (two : device'.Orderly)
    (configuration : device.configuration = device'.configuration)
    (wiring : device.wiring = device'.wiring) (intent : device.intent = device'.intent)
    (settings : device.settings = device'.settings) : device = device' := by
  obtain ⟨stream, requested, suspended⟩ :
      device.stream = device'.stream ∧ device.powerRequested = device'.powerRequested ∧
        device.suspended = device'.suspended := by
    simpa only [Device.intent, Intent.mk.injEq] using intent
  obtain ⟨mode, trialFormat, controls⟩ :
      device.mode = device'.mode ∧ device.trialFormat = device'.trialFormat ∧
        device.controls = device'.controls := by
    simpa only [Device.settings, Settings.mk.injEq] using settings
  -- the references and the power follow from what is asked for
  have demand : device.demand = device'.demand := by
    rw [Device.demand, Device.demand, stream, requested]
  have users : device.users = device'.users := by
    rw [← UInt32.toNat_inj, one.consistent.holds.users, two.consistent.holds.users, demand]
  have sequencer : device.sequencer = device'.sequencer := by
    have power : device.sequencer.power = device'.sequencer.power := by
      rw [one.power_eq, two.power_eq, suspended, demand]
    cases first : device.sequencer
    cases second : device'.sequencer
    simp only [Device.wiring, first, second] at wiring power
    rw [wiring, power]
  cases device
  cases device'
  simp only at configuration sequencer users stream requested suspended mode trialFormat controls
  subst configuration sequencer users stream requested suspended mode trialFormat controls
  rfl

/-! ## §3 Operations in a row -/

/-- What a device has come to after operations on which no call failed. -/
structure Serves (device : Device) (operations : List Operation) (replies : List Reply)
    (device' : Device) : Prop where
  orderly : device'.Orderly
  configuration : device'.configuration = device.configuration
  wiring : device'.wiring = device.wiring
  intent : device'.intent = operations.foldl Intent.after device.intent
  served : device.settings.serve device.busCode operations =
    .ok (replies.map some, device'.settings)

/-- Operations on which no call fails give the replies that are computed, and lead to the settings
and intentions that are computed. -/
theorem performAll_of_smooth {operations : List Operation} {replies : List Reply}
    (run : Runs (device.performAll operations) events (.ok (replies, device')))
    (smooth : Smooth events) (orderly : device.Orderly)
    (unprobed : ∀ operation ∈ operations, operation ≠ .probe) :
    device.Serves operations replies device' := by
  induction operations generalizing device events replies with
  | nil =>
    obtain ⟨rfl, result⟩ := runs_done.1 run
    cases result
    exact ⟨orderly, rfl, rfl, rfl, rfl⟩
  | cons operation rest ih =>
    obtain ⟨⟨reply, device₁⟩, first, second, rfl, here, run⟩ := runs_bind_ok.1 run
    obtain ⟨⟨answers, device₂⟩, behind, same⟩ := runs_bind_done.1 run
    cases same
    obtain ⟨smooth₁, smooth₂⟩ := smooth_append.1 smooth
    obtain ⟨other, others⟩ := List.forall_mem_cons.1 unprobed
    have performed := performed_of_runs here
    have serves := ih behind smooth₂ (performed.orderly smooth₁ orderly) others
    have code : device₁.busCode = device.busCode := by
      rw [busCode, performed.configuration_eq, busCode]
    refine ⟨serves.orderly, serves.configuration.trans performed.configuration_eq,
      serves.wiring.trans performed.wiring_eq, ?_, ?_⟩
    · rw [serves.intent, performed.intent_eq smooth₁, List.foldl_cons]
    · exact Settings.serve_cons (performed.answer_of_smooth smooth₁ other)
        (performed.follow_of_smooth smooth₁) (code ▸ serves.served)

end Device

/-! ## §4 A suspension around operations -/

/-- An operation that a sleeping device takes note of, to act on when it wakes up. -/
def Operation.isDeferrable : Operation → Bool
  | start | stop | setStream _ | setPower _ | setFormat _ _ _ | setControl _ _
  | setControlRaw _ _ | setControls _ => true
  | probe | suspend | resume => false

/-- Operations between a suspension and a resume. -/
def detour (operations : List Operation) : List Operation :=
  .suspend :: (operations ++ [.resume])

variable {operations : List Operation}

/-- What a sleeping device takes note of has nothing to do with its sleep. -/
theorem Intent.after_asleep {intent : Intent} {operation : Operation}
    (deferrable : operation.isDeferrable = true) (asleep : Bool) :
    { intent with suspended := asleep }.after operation =
      { intent.after operation with suspended := asleep } := by
  cases operation with
  | probe | suspend | resume => cases deferrable
  | setStream on => cases on <;> rfl
  | start | stop | setPower | setFormat | setControl | setControlRaw | setControls => rfl

theorem Intent.foldl_after_asleep {intent : Intent}
    (deferrable : ∀ operation ∈ operations, operation.isDeferrable = true) (asleep : Bool) :
    operations.foldl after { intent with suspended := asleep } =
      { operations.foldl after intent with suspended := asleep } := by
  induction operations generalizing intent with
  | nil => rfl
  | cons operation rest ih =>
    obtain ⟨here, behind⟩ := List.forall_mem_cons.1 deferrable
    rw [List.foldl_cons, List.foldl_cons, after_asleep here, ih behind]

theorem Intent.foldl_after_detour {intent : Intent} (awake : intent.suspended = false)
    (deferrable : ∀ operation ∈ operations, operation.isDeferrable = true) :
    (detour operations).foldl after intent = operations.foldl after intent := by
  have awoken : intent = { intent with suspended := false } := by rw [← awake]
  calc (detour operations).foldl after intent
      = { operations.foldl after { intent with suspended := true } with suspended := false } := by
        rw [detour, List.foldl_cons, List.foldl_append]
        rfl
    _ = { operations.foldl after intent with suspended := false } := by
        rw [foldl_after_asleep deferrable]
    _ = operations.foldl after intent := by
        rw [← foldl_after_asleep deferrable, ← awoken]

/-- Suspending and resuming are replied to, and choose nothing. -/
theorem Settings.serve_detour {settings settings' : Settings} {code : BusCode}
    {replies : List (Option Reply)}
    (served : settings.serve code operations = .ok (replies, settings')) :
    settings.serve code (detour operations) =
      .ok (some (.completed (.ok ())) :: (replies ++ [some (.completed (.ok ()))]), settings') :=
  serve_cons rfl rfl (serve_append served (serve_cons rfl rfl rfl))

namespace Session

open Device

variable {configuration : Configuration} {wiring : Wiring} {trace events : List Event}
  {steps : List Step} {device : Device}

theorem orderly (session : Session configuration wiring trace steps device)
    (smooth : Smooth trace) : device.Orderly := by
  induction session with
  | created run =>
    refine ⟨(Session.created run).consistent, ?_⟩
    cases created_of_runs run
    exact fun ⟨_, used, _⟩ => nomatch used
  | performed session run ih =>
    obtain ⟨before, here⟩ := smooth_append.1 smooth
    exact (performed_of_runs run).orderly here (ih before)

/-- A device that is awake after a session without failing calls, and any operations but probing,
suspending and resuming. If no call fails either, these operations get the same replies and lead to
the same device whether they are carried out at once, or while the device is suspended and before it
is resumed. -/
theorem suspension_transparent (session : Session configuration wiring trace steps device)
    (smooth : Smooth trace) (awake : device.suspended = false)
    (deferrable : ∀ operation ∈ operations, operation.isDeferrable = true)
    {straight around : List Event} {outcome outcome' : Except Trap (List Reply × Device)}
    (run : Runs (device.performAll operations) straight outcome) (smooth₁ : Smooth straight)
    (run' : Runs (device.performAll (.suspend :: (operations ++ [.resume]))) around outcome')
    (smooth₂ : Smooth around) :
    ∃ replies device', outcome = .ok (replies, device') ∧
      outcome' = .ok (.completed (.ok ()) :: (replies ++ [.completed (.ok ())]), device') := by
  obtain ⟨⟨replies, device₁⟩, rfl⟩ := (session.performAll_total _).exists_ok run
  obtain ⟨⟨replies', device₂⟩, rfl⟩ := (session.performAll_total _).exists_ok run'
  have unprobed : ∀ operation ∈ operations, operation ≠ .probe := by
    rintro _ member rfl
    exact nomatch deferrable _ member
  have unprobed' : ∀ operation ∈ detour operations, operation ≠ .probe := by
    simpa [detour, or_imp, forall_and] using unprobed
  have orderly := session.orderly smooth
  have direct := performAll_of_smooth run smooth₁ orderly unprobed
  have delayed := performAll_of_smooth run' smooth₂ orderly unprobed'
  -- both sides are computed from the same operations, but for the suspension around one of them
  have computed := (Settings.serve_detour direct.served).symm.trans delayed.served
  obtain ⟨same, settings⟩ := Prod.mk.inj (Except.ok.inj computed)
  have intent : device₁.intent = device₂.intent := by
    rw [direct.intent, ← Intent.foldl_after_detour awake deferrable]
    exact delayed.intent.symm
  have equal : device₁ = device₂ := direct.orderly.eq delayed.orderly
    (direct.configuration.trans delayed.configuration.symm)
    (direct.wiring.trans delayed.wiring.symm) intent settings
  have replied : replies' = .completed (.ok ()) :: (replies ++ [.completed (.ok ())]) := by
    refine (List.map_inj_right fun _ _ => Option.some.inj).1 (same.symm.trans ?_)
    simp
  exact ⟨replies, device₁, rfl, by rw [replied, equal]⟩

/-- Power is requested and a stream started, by way of a first suspension. -/
def eventfulMorning : List (FaultPlan × Operation) :=
  [({}, .probe), ({}, .setPower true), ({}, .suspend), ({}, .start), ({}, .resume)]

/-- The stream is stopped to change the mode and started again; controls are set, up to one that is
refused, and power is no longer requested. -/
def chores : List Operation :=
  [.stop, .setFormat 2000 1500 .active, .setControls [(.exposure, 500), (.testPattern, 9)],
    .setPower false, .start]

/-- The chores are done while the sensor sleeps. -/
theorem transparent_chores :
    ∃ trace steps device, Session {} ⟨true, true, true⟩ trace steps device ∧ Smooth trace ∧
      device.stream = .streaming ∧ device.suspended = false ∧
      ∃ straight around replies device', Smooth straight ∧ Smooth around ∧
        Runs (device.performAll chores) straight (.ok (replies, device')) ∧
        Runs (device.performAll (.suspend :: (chores ++ [.resume]))) around
          (.ok (.completed (.ok ()) :: (replies ++ [.completed (.ok ())]), device')) := by
  have seen := exists_session_of_rehearse {} ⟨true, true, true⟩ eventfulMorning
    (fun trace _ device => trace.all Event.succeeded && device.stream = .streaming &&
      !device.suspended) (by decide +kernel)
  obtain ⟨trace, steps, device, session, shown⟩ := seen
  simp only [Bool.and_eq_true, Bool.not_eq_true', decide_eq_true_eq, List.all_eq_true] at shown
  obtain ⟨⟨smooth, streaming⟩, awake⟩ := shown
  obtain ⟨straight, outcome, run, smooth₁⟩ := exists_smooth_run (device.performAll chores)
  obtain ⟨around, outcome', run', smooth₂⟩ :=
    exists_smooth_run (device.performAll (.suspend :: (chores ++ [.resume])))
  obtain ⟨replies, device', rfl, rfl⟩ :=
    suspension_transparent session smooth awake (by decide) run smooth₁ run' smooth₂
  exact ⟨trace, steps, device, session, smooth, streaming, awake, straight, around, replies,
    device', smooth₁, smooth₂, run, run'⟩

end Session

end ImageSensor
