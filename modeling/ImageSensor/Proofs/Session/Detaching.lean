import ImageSensor.Proofs.Device.Wiring
import ImageSensor.Proofs.Session.GrantedPower
import ImageSensor.Proofs.Session.Transactions

/-!
# Nothing Is Left Behind

A device is taken apart in whatever state it is: streaming, suspended, powered on request, or with
its sensor off after a failed resume. It always comes to an end, and everything that was ever taken
from the platform has then been returned. The sensor is only told to stop if it streams and is
awake, before anything else is done to it.

## Main statements

- `dropReferences_eq_loop`: references are dropped one by one, for as long as any is held.
- `Detached.balances`: taking a device apart returns what the device holds.
- `Session.nothing_left_behind`: no session leaves anything behind.
-/

namespace ImageSensor

open ImageSensor.Action

/-! ## §1 Dropping references one by one -/

namespace Device

variable {device device' : Device} {events : List Event}

theorem Released.users_succ (released : device.Released events device')
    (used : device.users ≠ 0) : device'.users.toNat + 1 = device.users.toNat := by
  cases released with
  | none unused => exact absurd unused used
  | kept used shared => exact toNat_pred used
  | last one down => simp [one]

/-- Dropping as many references as are held is dropping one after the other until none is left. -/
theorem dropReferences_eq_loop (device : Device) :
    dropReferences device.users.toNat device =
      if device.users = 0 then return device
      else device.releasePower >>= fun left => dropReferences left.users.toNat left := by
  by_cases unused : device.users = 0
  · rw [if_pos unused, unused]
    rfl
  · rw [if_neg unused]
    -- every pass leaves one reference less, so the count is right for what is left
    obtain ⟨count, counted⟩ : ∃ count, device.users.toNat = count + 1 :=
      Nat.exists_eq_succ_of_ne_zero fun zero => unused (UInt32.toNat_inj.1 zero)
    rw [counted]
    refine bind_congr_of_runs fun events left run => ?_
    have fewer := (released_of_runs run).users_succ unused
    rw [show count = left.users.toNat by omega]

theorem Dropped.users_eq_zero {count : Nat} (dropped : Dropped count device events device')
    (counted : device.users.toNat = count) : device'.users = 0 := by
  induction dropped with
  | none => exact UInt32.toNat_inj.1 counted
  | @next count device _ _ _ _ released _ ih =>
    have used : device.users ≠ 0 := fun unused => by simp [unused] at counted
    have fewer := released.users_succ used
    exact ih (by omega)

theorem Dropped.transactions_eq_nil {count : Nat} (dropped : Dropped count device events device') :
    transactions events = [] := by
  induction dropped with
  | none => rfl
  | next released _ ih => rw [transactions_append, released.transactions_eq_nil, ih]; rfl

theorem Dropped.wiring_eq {count : Nat} (dropped : Dropped count device events device') :
    device'.wiring = device.wiring := by
  induction dropped with
  | none => rfl
  | next released _ ih => exact ih.trans released.wiring_eq

/-! ## §2 Taking a device apart -/

variable {wiring : Wiring}

theorem Detached.wiring_eq (detached : device.Detached events wiring) :
    wiring = device.wiring := by
  cases detached with
  | detached stopped dropped down =>
    exact down.wiring_eq.trans (dropped.wiring_eq.trans stopped.wiring_eq)

/-- A device without references whose sensor is off holds nothing. -/
theorem held_eq_zero (unused : device.users = 0) (off : device.sequencer.power = .off)
    (resource : Resource) : device.held resource = 0 := by
  cases resource <;> simp [held, Sequencer.held, unused, off]

/-- What the device holds is returned. -/
theorem Detached.balances (detached : device.Detached events wiring) (resource : Resource) :
    outstanding resource events = -device.held resource := by
  cases detached with
  | @detached _ _ _ device₁ device₂ sequencer stopped dropped down =>
    have emptied : { device₂ with sequencer }.held resource = 0 :=
      @held_eq_zero { device₂ with sequencer } (dropped.users_eq_zero rfl) down.power_eq_off
        resource
    have balanced :=
      (stopped.balanced.trans (dropped.balanced.trans (balanced_poweredDown down))) resource
    rw [balanced, emptied, Int.zero_sub]

/-- Behind the stream, taking a device apart does without the bus. -/
theorem Detached.split (detached : device.Detached events wiring) :
    ∃ stopping rest device₁, events = stopping ++ rest ∧ device.Stopped stopping device₁ ∧
      transactions rest = [] := by
  cases detached with
  | detached stopped dropped down =>
    refine ⟨_, _, _, rfl, stopped, ?_⟩
    rw [transactions_append, dropped.transactions_eq_nil, down.transactions_eq_nil]
    rfl

/-- A sensor that streams is put into standby before anything is done to it. -/
theorem Stopped.standby_first (stopped : device.Stopped events device')
    (streaming : device.stream = .streaming) (awake : device.suspended = false) :
    ∃ notices answer rest, events = notices ++ ⟨device.standbyCall, answer⟩ :: rest ∧
      (∀ event ∈ notices, ∃ notice, event.call = .notify notice) ∧ transactions rest = [] := by
  cases stopped with
  | idle stopped => exact nomatch stopped.symm.trans streaming
  | stopped _ halted released =>
    cases halted with
    | untouched idle => simp [streaming, awake] at idle
    | standby _ _ stood =>
      obtain ⟨answer, rest, rfl, silent⟩ := stood.split
      refine ⟨[⟨.notify .streamStopping, ()⟩, ⟨.notify (.writing standbyWrite), ()⟩], answer,
        rest ++ _, rfl, by simp, ?_⟩
      rw [transactions_append, silent, released.transactions_eq_nil]
      rfl

end Device

/-! ## §3 Sessions -/

namespace Session

open Device

variable {configuration : Configuration} {wiring : Wiring} {trace final : List Event}
  {steps : List Step} {device : Device}

/-- A device keeps the pins it was created with. -/
theorem wiring_eq (session : Session configuration wiring trace steps device) :
    device.wiring = wiring := by
  refine session.preserved (·.wiring = wiring) ?_ fun same performed =>
    performed.wiring_eq.trans same
  intro _ _ created
  cases created
  rfl

/-- Taking apart the device of a session always ends, with the pins it was wired to, each in its
place: the references are dropped one by one until none is left. References, clock and supplies have
then been taken just as often as they were returned. If the device streams and is awake, the first
thing done is to attempt the standby write, and the bus is not used again; otherwise it is not used
at all. -/
theorem nothing_left_behind (session : Session configuration wiring trace steps device) :
    (∀ holder : Device, dropReferences holder.users.toNat holder =
        if holder.users = 0 then return holder
        else holder.releasePower >>= fun left => dropReferences left.users.toNat left) ∧
      ∀ final ended, Runs device.detach final ended →
        ended = .ok wiring ∧
        (∀ resource, (trace ++ final).countP (·.takes resource) =
          (trace ++ final).countP (·.returns resource)) ∧
        (device.stream = .streaming ∧ device.suspended = false →
          ∃ notices answer rest, final = notices ++ ⟨device.standbyCall, answer⟩ :: rest ∧
            (∀ event ∈ notices, ∃ notice, event.call = .notify notice) ∧
            transactions rest = []) ∧
        (¬(device.stream = .streaming ∧ device.suspended = false) → transactions final = []) := by
  refine ⟨dropReferences_eq_loop, fun final ended run => ?_⟩
  obtain ⟨returned, rfl⟩ := device.detach_total.exists_ok run
  have detached := detached_of_runs run
  obtain ⟨stopping, rest, device₁, split, stopped, silent⟩ := detached.split
  refine ⟨?_, fun resource => ?_, ?_, ?_⟩
  · rw [detached.wiring_eq, session.wiring_eq]
  · rw [← outstanding_eq_zero_iff, outstanding_append, session.outstanding_eq, detached.balances,
      Int.add_right_neg]
  · rintro ⟨streaming, awake⟩
    obtain ⟨notices, answer, later, rfl, quiet, unused⟩ := stopped.standby_first streaming awake
    refine ⟨notices, answer, later ++ rest, ?_, quiet, ?_⟩
    · rw [split, List.append_assoc, List.cons_append]
    · rw [transactions_append, unused, silent]
      rfl
  · intro idle
    have none := stopped.transactions_eq
    rw [if_neg idle, List.map_eq_nil_iff] at none
    rw [split, transactions_append, none, silent]
    rfl

/-- Power is requested and the stream started, on a sensor without a reset pin. -/
def requestedStream : List (FaultPlan × Operation) :=
  [({}, .setPower true), ({}, .start)]

/-- The sensor does not answer any more when its device is taken apart: standby is attempted in
vain, and both references, clock and supplies are returned. -/
theorem nothing_left_of_requested_stream :
    ∃ trace steps device final, Session {} ⟨true, false, true⟩ trace steps device ∧
      device.users = 2 ∧ final = (device.detach.run Bench.respond
        { plan := { allWrites := true } }).events ∧
      Runs device.detach final (.ok ⟨true, false, true⟩) ∧
      (∀ resource, (trace ++ final).countP (·.takes resource) =
        (trace ++ final).countP (·.returns resource)) ∧
      ∃ notices answer rest, final = notices ++ ⟨device.standbyCall, answer⟩ :: rest := by
  have seen := exists_session_of_rehearse {} ⟨true, false, true⟩ requestedStream
    (fun _ _ device => device.users = 2 && device.stream = .streaming && !device.suspended)
    (by decide +kernel)
  obtain ⟨trace, steps, device, session, shown⟩ := seen
  simp only [Bool.and_eq_true, Bool.not_eq_true', decide_eq_true_eq] at shown
  obtain ⟨⟨users, streaming⟩, awake⟩ := shown
  have run := runs_run Bench.respond device.detach { plan := { allWrites := true } }
  obtain ⟨ended, counts, standby, -⟩ := (nothing_left_behind session).2 _ _ run
  obtain ⟨notices, answer, rest, split, -⟩ := standby ⟨streaming, awake⟩
  rw [ended] at run
  exact ⟨trace, steps, device, _, session, users, rfl, run, counts, notices, answer, rest, split⟩

end Session

end ImageSensor
