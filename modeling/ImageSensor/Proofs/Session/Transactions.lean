import ImageSensor.Proofs.Session.BusAccess

/-!
# Bus Transactions

What a device attempts on the bus can be read off the trace, whatever the bus answers. Only
programming the sensor, putting it into standby, writing its controls and identifying the chip use
the bus; power and references do not. Register writes in order are attempted one after the other,
and the first one that fails is the last.

## Main statements

- `Wrote.attempted`: writes in order are attempted up to the first that fails.
- `Released.transactions_eq_nil`, `Acquired.transactions_eq_nil`: references do without the bus.
- `delivered_eq_nil_of_transactions`: without the bus, nothing reaches the sensor.
- `Stopped.transactions_eq`: stopping an awake stream attempts the standby write, and no more.
-/

namespace ImageSensor

open ImageSensor.Action

/-! ## §1 Transactions of a trace -/

/-- The bus transactions attempted in a trace, with their answers. -/
def transactions (trace : List Event) : List Event :=
  trace.filter (·.call.usesBus)

variable {events : List Event}

@[simp] theorem transactions_nil : transactions [] = [] := rfl

@[simp] theorem transactions_append (first second : List Event) :
    transactions (first ++ second) = transactions first ++ transactions second :=
  List.filter_append first second

@[simp] theorem transactions_cons (event : Event) (trace : List Event) :
    transactions (event :: trace) =
      if event.call.usesBus then event :: transactions trace else transactions trace :=
  List.filter_cons

@[simp] theorem transactions_notice (notice : Notice) (trace : List Event) :
    transactions (⟨.notify notice, ()⟩ :: trace) = transactions trace := rfl

theorem transactions_eq_nil_iff :
    transactions events = [] ↔ ∀ event ∈ events, event.call.usesBus = false := by
  simp [transactions]

/-- Bytes only reach the sensor in a transaction. -/
theorem delivered_eq_nil_of_transactions (unused : transactions events = []) :
    delivered events = [] := by
  refine delivered_eq_nil fun event member address bytes write => ?_
  have idle := transactions_eq_nil_iff.1 unused event member
  rw [write] at idle
  cases idle

/-- A part that only makes incidental calls does not use the bus. -/
theorem transactions_part {action : Action Unit} {outcome : Except Trap Unit}
    (limited : action.Within Call.Incidental) (run : Runs action events outcome) :
    transactions events = [] :=
  transactions_eq_nil_iff.2 fun event member => (limited.mem run event member).not_usesBus

/-! ## §2 Writes in order -/

namespace Bus

/-- The transaction of a register write that succeeds. -/
def accepted (bus : Bus) (write : RegisterWrite) : Event :=
  ⟨.busWrite bus.address write.frame, Except.ok ()⟩

/-- The transaction of a register write that fails. -/
def rejected (bus : Bus) (write : RegisterWrite) (cause : Cause) : Event :=
  ⟨.busWrite bus.address write.frame, Except.error cause⟩

/-- The transactions of writes in order: one for each write if all of them succeed, otherwise one
for each up to the first that fails, whose error is the outcome. -/
inductive Attempted (bus : Bus) (writes : List RegisterWrite) :
    List Event → Except BusError Unit → Prop where
  | all : Attempted bus writes (writes.map bus.accepted) (.ok ())
  | cut {sent rest : List RegisterWrite} {failing : RegisterWrite} {cause : Cause}
      (split : writes = sent ++ failing :: rest) :
      Attempted bus writes (sent.map bus.accepted ++ [bus.rejected failing cause])
        (.error (.transport cause))

variable {bus : Bus} {writes more : List RegisterWrite} {attempts : List Event}
  {outcome : Except BusError Unit}

namespace Attempted

/-- Writes that succeed in front of others. -/
theorem prepend (attempted : bus.Attempted writes attempts outcome)
    (before : List RegisterWrite) :
    bus.Attempted (before ++ writes) (before.map bus.accepted ++ attempts) outcome := by
  cases attempted with
  | all =>
    rw [← List.map_append]
    exact .all
  | cut split =>
    rw [← List.append_assoc, ← List.map_append]
    exact .cut (by rw [split, List.append_assoc])

/-- What would have followed a failure is not attempted. -/
theorem extend {e : BusError} (attempted : bus.Attempted writes attempts (.error e))
    (more : List RegisterWrite) : bus.Attempted (writes ++ more) attempts (.error e) := by
  cases attempted with
  | cut split => exact .cut (by rw [split, List.append_assoc, List.cons_append])

theorem eq_of_ok (attempted : bus.Attempted writes attempts (.ok ())) :
    attempts = writes.map bus.accepted := by
  cases attempted with
  | all => rfl

/-- Writes that succeed, then others. -/
theorem append {attempts' : List Event} (one : bus.Attempted writes attempts (.ok ()))
    (two : bus.Attempted more attempts' outcome) :
    bus.Attempted (writes ++ more) (attempts ++ attempts') outcome := by
  rw [one.eq_of_ok]
  exact two.prepend writes

end Attempted

/-- Writes in order are attempted up to the first that fails. -/
theorem Wrote.attempted (wrote : bus.Wrote writes events outcome)
    (valid : ∀ write ∈ writes, validWidth write.width = true) :
    bus.Attempted writes (transactions events) outcome := by
  -- one write at a time from the front: what was sent is put before what is attempted behind it
  induction wrote with
  | done => exact .all
  | refused invalid => exact nomatch invalid.symm.trans (valid _ List.mem_cons_self)
  | @failed write rest cause _ => exact .cut (List.nil_append (write :: rest)).symm
  | @sent write rest events outcome _ later ih =>
    have behind := ih fun other member => valid other (List.mem_cons_of_mem _ member)
    exact behind.prepend [write]

end Bus

/-! ## §3 Power and references -/

namespace Sequencer

variable {sequencer sequencer' : Sequencer}

theorem PoweredUp.transactions_eq_nil {outcome : Except PowerError Unit}
    (up : sequencer.PoweredUp events outcome sequencer') : transactions events = [] := by
  cases up with
  | already on => rfl
  | clockFailed off prepared =>
    simp [transactions_part (prepare_within _) prepared, Call.usesBus]
  | suppliesFailed off prepared reset =>
    simp [transactions_part (prepare_within _) prepared,
      transactions_part (drive_within _ _ _) reset, Call.usesBus]
  | powered off prepared reset released =>
    simp [transactions_part (prepare_within _) prepared,
      transactions_part (drive_within _ _ _) reset,
      transactions_part (releaseReset_within _) released, Call.usesBus]

theorem PoweredDown.transactions_eq_nil (down : sequencer.PoweredDown events sequencer') :
    transactions events = [] := by
  cases down with
  | already off => rfl
  | lowered on stopped reset slept disabled =>
    simp [transactions_part (drive_within _ _ _) stopped,
      transactions_part (drive_within _ _ _) reset,
      transactions_part (selectPins_within _) slept,
      transactions_part (drive_within _ _ _) disabled, Call.usesBus]

end Sequencer

namespace Device

variable {device device' : Device} {outcome : Except DeviceError Unit}

theorem Acquired.transactions_eq_nil (acquired : device.Acquired events outcome device') :
    transactions events = [] := by
  cases acquired with
  | refused | deferred asleep counted => rfl
  | unpowered awake up => simp [up.transactions_eq_nil, Call.usesBus]
  | powered awake up counted => simp [up.transactions_eq_nil, Call.usesBus]

theorem Released.transactions_eq_nil (released : device.Released events device') :
    transactions events = [] := by
  cases released with
  | none unused | kept used shared => rfl
  | last one down => simp [down.transactions_eq_nil, Call.usesBus]

/-! ## §4 Standby -/

/-- Putting the sensor into standby is one transaction, behind nothing but a notice. -/
theorem StoodBy.split (stood : device.StoodBy events) :
    ∃ answer rest,
      events = ⟨.notify (.writing standbyWrite), ()⟩ :: ⟨device.standbyCall, answer⟩ :: rest ∧
        transactions rest = [] := by
  cases stood with
  | entered => exact ⟨Except.ok (), [], rfl, rfl⟩
  | failed => exact ⟨Except.error _, _, rfl, rfl⟩

/-- Stopping an awake stream attempts the standby write, and no more; whatever else is stopped does
without the bus. -/
theorem Stopped.transactions_eq (stopped : device.Stopped events device') :
    (transactions events).map Event.call =
      if device.stream = .streaming ∧ device.suspended = false then [device.standbyCall]
      else [] := by
  cases stopped with
  | idle stopped => simp [stopped]
  | stopped streaming halted released =>
    cases halted with
    | untouched idle =>
      have asleep : device.suspended = true := by simpa [streaming] using idle
      simp [released.transactions_eq_nil, asleep, Call.usesBus]
    | standby _ awake stood =>
      -- the one transaction is the standby write, dropping the reference adds none
      obtain ⟨answer, rest, rfl, silent⟩ := stood.split
      simp [released.transactions_eq_nil, silent, streaming, awake, standbyCall, Call.usesBus]

end Device

end ImageSensor
