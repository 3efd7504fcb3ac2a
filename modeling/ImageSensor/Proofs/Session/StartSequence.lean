import ImageSensor.Proofs.Control.Replay
import ImageSensor.Proofs.Device.Smooth
import ImageSensor.Proofs.Session.Transactions

/-!
# The Start Sequence

A sensor is made to stream by one fixed sequence of register writes: the orientation, the register
table of the mode, the controls, and the switch to streaming. The writes are attempted in order
until one fails, and that failure is what the caller is told. Starting and resuming share the
sequence; only a resume follows a failure up with standby.

## Main statements

- `Programmed.attempted`: programming the sensor attempts the start sequence.
- `Started.attempted`, `Resumed.attempted`: so do the two operations that make it stream.
- `Session.sequence_attempted`: what start and resume do on the bus in any session.
-/

namespace ImageSensor

open ImageSensor.Action

namespace Device

/-! ## §1 The sequence -/

/-- The writes that make the sensor stream, with those that restore the controls given. -/
def startSequence (device : Device) (restore : List RegisterWrite) : List RegisterWrite :=
  ⟨Register.modeSelect, 2, device.configuration.orientation.registerValue⟩ ::
    (device.mode.table.entries.map fun entry => ⟨entry.address, 2, entry.value.toUInt32⟩) ++
    restore ++
    [⟨Register.streamOn, 1, 1⟩, ⟨Register.modeSelect, 1, Register.streaming⟩,
      ⟨Register.streamOn, 1, 0⟩]

theorem startSequence_eq (device : Device) (restore : List RegisterWrite) :
    device.startSequence restore =
      Bus.tableWrites device.mode.table device.configuration.orientation ++
        (restore ++ enableWrites) :=
  List.append_assoc _ _ _

variable {device device' : Device} {events : List Event} {outcome : Except DeviceError Unit}
  {restore : List RegisterWrite}

/-- Programming the sensor attempts the start sequence, up to the first write that fails. -/
theorem Programmed.attempted {written : Except BusError Unit}
    (programmed : device.Programmed events written)
    (replay : device.controls.replay = .ok restore) :
    device.bus.Attempted (device.startSequence restore) (transactions events) written := by
  have tableValid := validWidth_table device.mode.table device.configuration.orientation
  have restoreValid := ControlBank.validWidth_of_writesOf replay
  rw [startSequence_eq]
  cases programmed with
  | tableFailed table => exact (table.attempted tableValid).extend _
  | restoreFailed table replay' restored =>
    cases Except.ok.inj (replay.symm.trans replay')
    rw [transactions_append]
    exact (table.attempted tableValid).append ((restored.attempted restoreValid).extend _)
  | enabled table replay' restored enable =>
    cases Except.ok.inj (replay.symm.trans replay')
    have enableValid : ∀ write ∈ enableWrites, validWidth write.width = true := by decide
    -- table and controls went through, so whatever fails now is the switch itself
    rw [transactions_append, transactions_notice, transactions_append]
    exact (table.attempted tableValid).append
      ((restored.attempted restoreValid).append (enable.attempted enableValid))

/-- With power granted, making the sensor stream comes down to programming it. -/
theorem StreamedOn.attempted (on : device.StreamedOn events outcome device')
    (granted : Granted events) (replay : device.controls.replay = .ok restore) :
    ∃ written, outcome = written.mapError .bus ∧
      device.bus.Attempted (device.startSequence restore) (transactions events) written := by
  cases on with
  | unpowered up => exact nomatch up.ok_of_granted granted
  | programmed up programmed =>
    -- powering up does without the bus, so the transactions are those of programming
    refine ⟨_, rfl, ?_⟩
    rw [transactions_append, up.transactions_eq_nil]
    exact programmed.attempted replay

/-! ## §2 Starting and resuming -/

/-- A start attempts the sequence and nothing else, and the device streams if all of it went
through. -/
theorem Started.attempted (started : device.Started events outcome device')
    (stopped : device.stream = .stopped) (awake : device.suspended = false)
    (granted : Granted events) (replay : device.controls.replay = .ok restore) :
    ∃ written, outcome = written.mapError .bus ∧
      device.bus.Attempted (device.startSequence restore) (transactions events) written ∧
      (device'.stream = .streaming ↔ written = .ok ()) := by
  cases started with
  | already streaming => exact nomatch streaming.symm.trans stopped
  | refused _ acquired =>
    exact nomatch acquired.ok_of_granted (granted_cons.1 granted).2
  | deferred _ acquired asleep =>
    obtain ⟨_, _, rfl⟩ := acquired.frame
    exact nomatch asleep.symm.trans awake
  | failed _ acquired _ on released =>
    simp only [granted_cons, granted_append] at granted
    have before := acquired.transactions_eq_nil
    have behind := released.transactions_eq_nil
    -- the reference leaves alone whatever the sequence is made from
    obtain ⟨_, _, rfl⟩ := acquired.frame
    obtain ⟨written, ended, attempted⟩ := on.attempted granted.2.2.1 replay
    obtain ⟨_, rfl⟩ := on.frame
    obtain ⟨_, _, rfl⟩ := released.frame
    refine ⟨written, ended, ?_, ?_⟩
    · rw [transactions_notice, transactions_append, transactions_append, transactions_notice,
        before, behind, List.append_nil]
      exact attempted
    · cases written with
      | error e => simp [stopped]
      | ok _ => cases ended
  | started _ acquired _ on =>
    simp only [granted_cons, granted_append] at granted
    have before := acquired.transactions_eq_nil
    obtain ⟨_, _, rfl⟩ := acquired.frame
    obtain ⟨written, ended, attempted⟩ := on.attempted granted.2.2 replay
    refine ⟨written, ended, ?_, ?_⟩
    · rw [transactions_notice, transactions_append, before]
      exact attempted
    · cases written with
      | error e => cases ended
      | ok _ => exact ⟨fun _ => rfl, fun _ => rfl⟩

/-- Bringing back a stream comes down to making the sensor stream. -/
theorem Restored.attempted (restored : device.Restored events outcome device')
    (streaming : device.stream = .streaming) (granted : Granted events)
    (replay : device.controls.replay = .ok restore) :
    ∃ written, outcome = written.mapError .bus ∧
      device.bus.Attempted (device.startSequence restore) (transactions events) written := by
  cases restored with
  | streaming _ on => exact on.attempted granted replay
  | powered stopped used up => exact nomatch stopped.symm.trans streaming
  | idle stopped unused => exact nomatch stopped.symm.trans streaming

/-- What follows the start sequence on a resume: a single standby write if the sequence failed. -/
def FollowedUp (device : Device) (closing : List Event) : Except BusError Unit → Prop
  | .ok () => closing = []
  | .error _ => closing.map Event.call = [device.standbyCall]

/-- Resuming a stream attempts the sequence, and follows a failure up. The device goes on streaming
if all of the sequence went through. -/
theorem Resumed.attempted (resumed : device.Resumed events outcome device')
    (streaming : device.stream = .streaming) (asleep : device.suspended = true)
    (granted : Granted events) (replay : device.controls.replay = .ok restore) :
    ∃ written attempts closing, outcome = written.mapError .bus ∧
      transactions events = attempts ++ closing ∧
      device.bus.Attempted (device.startSequence restore) attempts written ∧
      device.FollowedUp closing written ∧
      (device'.stream = .streaming ↔ written = .ok ()) := by
  cases resumed with
  | already awake => exact nomatch asleep.symm.trans awake
  | resumed _ restored =>
    obtain ⟨written, ended, attempted⟩ :=
      restored.attempted streaming (granted_cons.1 granted).2 replay
    obtain ⟨_, rfl⟩ := restored.frame
    cases written with
    | error e => cases ended
    | ok _ =>
      exact ⟨.ok (), _, [], rfl, (List.append_nil _).symm, attempted, rfl, fun _ => rfl,
        fun _ => streaming⟩
  | failed _ restored stopped =>
    simp only [granted_cons, granted_append] at granted
    obtain ⟨written, ended, attempted⟩ := restored.attempted streaming granted.2.1 replay
    obtain ⟨_, rfl⟩ := restored.frame
    cases written with
    | error e =>
      -- the suspension is over by now, so the stream is stopped with a standby write
      have closing := stopped.transactions_eq
      rw [if_pos ⟨streaming, rfl⟩] at closing
      refine ⟨.error e, _, _, ended, transactions_append _ _, attempted, closing, ?_⟩
      simp [stopped.stream_eq]
    | ok _ => cases ended

end Device

/-! ## §3 Sessions -/

namespace Session

open Device

variable {configuration : Configuration} {wiring : Wiring} {trace : List Event}
  {steps : List Step} {device : Device}

/-- In every session there is a sequence to start with, which restores every control that is present
and can be set, in declaration order. Provided that power is granted, starting an awake, stopped
stream attempts the writes of the sequence in order, up to the first that fails, and nothing else on
the bus. The caller gets the error of that write, and the device streams exactly if there is none.
Resuming a stream does the same, except that it follows a failure up with one standby write. -/
theorem sequence_attempted (session : Session configuration wiring trace steps device) :
    ∃ restore, device.controls.replay = .ok restore ∧
      List.Forall₂ (fun id write => device.controls.registerWrite? id = .ok (some write))
        device.controls.writable restore ∧
      (∀ operation, operation = .start ∨ operation = .setStream true →
        device.stream = .stopped → device.suspended = false →
        ∀ events ended, Runs (device.perform operation) events ended → Granted events →
          ∃ written device', ended = .ok (.completed (written.mapError .bus), device') ∧
            device.bus.Attempted (device.startSequence restore) (transactions events) written ∧
            (device'.stream = .streaming ↔ written = .ok ())) ∧
      (device.stream = .streaming → device.suspended = true →
        ∀ events ended, Runs (device.perform .resume) events ended → Granted events →
          ∃ written attempts closing device',
            ended = .ok (.completed (written.mapError .bus), device') ∧
            transactions events = attempts ++ closing ∧
            device.bus.Attempted (device.startSequence restore) attempts written ∧
            device.FollowedUp closing written ∧
            (device'.stream = .streaming ↔ written = .ok ())) := by
  have regular := session.regular
  obtain ⟨restore, replay⟩ := regular.controls.replay_ok
  have each := ControlBank.eachOnce_of_replay regular.controls.ranged replay
  refine ⟨restore, replay, each.imp fun _ _ own => own.1, ?_, ?_⟩
  · rintro operation either stopped awake events ended run granted
    obtain ⟨⟨reply, device'⟩, rfl⟩ := (session.operation_total operation).exists_ok run
    -- switching the stream on is starting it
    have started : ∃ outcome, reply = .completed outcome ∧
        device.Started events outcome device' := by
      rcases either with rfl | rfl
      · cases performed_of_runs run with
        | start started => exact ⟨_, rfl, started⟩
      · cases performed_of_runs run with
        | streamOn started => exact ⟨_, rfl, started⟩
    obtain ⟨_, rfl, started⟩ := started
    obtain ⟨written, rfl, attempted, streams⟩ := started.attempted stopped awake granted replay
    exact ⟨written, device', rfl, attempted, streams⟩
  · intro streaming asleep events ended run granted
    obtain ⟨⟨reply, device'⟩, rfl⟩ := (session.operation_total .resume).exists_ok run
    cases performed_of_runs run with
    | resume resumed =>
      obtain ⟨written, attempts, closing, rfl, split, attempted, followed, streams⟩ :=
        resumed.attempted streaming asleep granted replay
      exact ⟨written, attempts, closing, device', rfl, split, attempted, followed, streams⟩

/-- If nothing but the bus fails, every resource is granted. -/
theorem granted_of_transactions {events : List Event}
    (others : ∀ event ∈ events, (event.succeeded || event.call.usesBus) = true) :
    Granted events := by
  rintro ⟨call, answer⟩ member resource rfl
  have here := others _ member
  cases resource with
  | reference | clock | supplies => simpa [Resource.taking, Call.usesBus] using here

/-- The smaller mode, with a test pattern. -/
def binnedPattern : List (FaultPlan × Operation) :=
  [({}, .setFormat 2104 1560 .active), ({}, .setControl .testPattern 1)]

/-- The same, put to sleep while it streams. -/
def sleepingPattern : List (FaultPlan × Operation) :=
  [({}, .setFormat 2104 1560 .active), ({}, .setControl .testPattern 1), ({}, .start),
    ({}, .suspend)]

/-- With every resource granted, the operation fails at a write, and makes so many transactions. -/
def breaksAt (device : Device) (operation : Operation) (position count : Nat) : Bool :=
  let run := (device.perform operation).run Bench.respond { plan := { writeAt := [position] } }
  run.events.all (fun event => event.succeeded || event.call.usesBus) &&
    (transactions run.events).length = count &&
    match run.outcome with
    | .ok (reply, _) => reply.isBroken
    | .error _ => false

theorem exists_run_of_breaksAt {operation : Operation} {position count : Nat}
    (breaks : breaksAt device operation position count = true) :
    ∃ events device', Granted events ∧ (transactions events).length = count ∧
      Runs (device.perform operation) events
        (.ok (.completed (.error (.bus brokenWrite)), device')) := by
  unfold breaksAt at breaks
  have run := runs_run Bench.respond (device.perform operation)
    { plan := { writeAt := [position] } }
  simp only [Bool.and_eq_true, decide_eq_true_eq] at breaks
  obtain ⟨⟨others, counted⟩, ended⟩ := breaks
  split at ended
  · next reply device' outcome =>
    rw [outcome, Reply.eq_of_isBroken ended] at run
    exact ⟨_, device', granted_of_transactions (List.all_eq_true.1 others), counted, run⟩
  · cases ended

/-- In the smaller mode, the write that restores the analog gain fails on a start, and the very last
write of the sequence on a resume. -/
theorem sequence_of_binned_pattern :
    (∃ trace steps device restore events device',
      Session { digitalGain := true } ⟨true, true, true⟩ trace steps device ∧
      device.mode = Catalog.binned ∧ device.controls.replay = .ok restore ∧
      Runs (device.perform .start) events
        (.ok (.completed (.error (.bus brokenWrite)), device')) ∧
      device.bus.Attempted (device.startSequence restore) (transactions events)
        (.error brokenWrite) ∧
      (transactions events).length = 134 ∧ device'.stream ≠ .streaming) ∧
    ∃ trace steps device restore events attempts closing device',
      Session { digitalGain := true } ⟨true, true, true⟩ trace steps device ∧
      device.mode = Catalog.binned ∧ device.controls.replay = .ok restore ∧
      Runs (device.perform .resume) events
        (.ok (.completed (.error (.bus brokenWrite)), device')) ∧
      transactions events = attempts ++ closing ∧ (transactions events).length = 140 ∧
      device.bus.Attempted (device.startSequence restore) attempts (.error brokenWrite) ∧
      closing.map Event.call = [device.standbyCall] ∧ device'.stream ≠ .streaming := by
  constructor
  · obtain ⟨trace, steps, device, session, shown⟩ := exists_session_of_rehearse
      { digitalGain := true } ⟨true, true, true⟩ binnedPattern
      (fun _ _ device => device.mode = Catalog.binned && device.stream = .stopped &&
        !device.suspended && breaksAt device .start 133 134)
      (by decide +kernel)
    simp only [Bool.and_eq_true, Bool.not_eq_true', decide_eq_true_eq] at shown
    obtain ⟨⟨⟨mode, stopped⟩, awake⟩, breaks⟩ := shown
    obtain ⟨events, device', granted, counted, run⟩ := exists_run_of_breaksAt breaks
    obtain ⟨restore, replay, -, starts, -⟩ := sequence_attempted session
    obtain ⟨written, _, ended, attempted, streams⟩ :=
      starts .start (.inl rfl) stopped awake events _ run granted
    cases written with
    | error e =>
      cases ended
      exact ⟨trace, steps, device, restore, events, device', session, mode, replay, run, attempted,
        counted, by simp [streams]⟩
    | ok _ => cases ended
  · obtain ⟨trace, steps, device, session, shown⟩ := exists_session_of_rehearse
      { digitalGain := true } ⟨true, true, true⟩ sleepingPattern
      (fun _ _ device => device.mode = Catalog.binned && device.stream = .streaming &&
        device.suspended && breaksAt device .resume 138 140)
      (by decide +kernel)
    simp only [Bool.and_eq_true, decide_eq_true_eq] at shown
    obtain ⟨⟨⟨mode, streaming⟩, asleep⟩, breaks⟩ := shown
    obtain ⟨events, device', granted, counted, run⟩ := exists_run_of_breaksAt breaks
    obtain ⟨restore, replay, -, -, resumes⟩ := sequence_attempted session
    obtain ⟨written, attempts, closing, _, ended, split, attempted, followed, streams⟩ :=
      resumes streaming asleep events _ run granted
    cases written with
    | error e =>
      cases ended
      exact ⟨trace, steps, device, restore, events, attempts, closing, device', session, mode,
        replay, run, split, counted, attempted, followed, by simp [streams]⟩
    | ok _ => cases ended

end Session

end ImageSensor
