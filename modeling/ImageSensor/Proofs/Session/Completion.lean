import ImageSensor.Proofs.Device.Completion
import ImageSensor.Proofs.Session.Accounting

/-!
# Sessions Go On

In every session the device is regular and its references can be counted, so whatever operation
comes next ends with a reply and continues the session.

## Main statements

- `Session.operation_total`: no operation of a session traps.
- `Session.exists_reply`: every run of an operation continues the session.
-/

namespace ImageSensor.Session

open ImageSensor.Action ImageSensor.Device

variable {configuration : Configuration} {wiring : Wiring} {trace events : List Event}
  {steps : List Step} {device : Device} {operation : Operation}

theorem regular (session : Session configuration wiring trace steps device) : device.Regular :=
  session.preserved Regular Created.regular fun regular performed => performed.regular regular

/-- At most one reference is held for the stream and one for a request. -/
theorem users_le_two (session : Session configuration wiring trace steps device) :
    device.users.toNat ≤ 2 := by
  rw [session.consistent.holds.users]
  unfold demand
  split <;> split <;> decide

theorem operation_total (session : Session configuration wiring trace steps device)
    (operation : Operation) : (device.perform operation).Total := by
  have room : device.HasRoom := by
    have few := session.users_le_two
    unfold HasRoom
    omega
  exact perform_total session.regular room operation

/-- Every run of an operation continues the session. -/
theorem exists_reply {outcome : Except Trap (Reply × Device)}
    (session : Session configuration wiring trace steps device)
    (run : Runs (device.perform operation) events outcome) :
    ∃ reply device', outcome = .ok (reply, device') ∧
      Session configuration wiring (trace ++ events)
        (steps ++ [⟨device, operation, events, reply, device'⟩]) device' := by
  obtain ⟨⟨reply, device'⟩, rfl⟩ := (session.operation_total operation).exists_ok run
  exact ⟨reply, device', rfl, session.performed run⟩

/-- However many operations follow, none of them traps. -/
theorem performAll_total (session : Session configuration wiring trace steps device)
    (operations : List Operation) : (device.performAll operations).Total := by
  induction operations generalizing trace steps device with
  | nil => exact total_done _
  | cons operation rest ih =>
    refine (session.operation_total operation).bind fun _ _ run => ?_
    exact (ih (session.performed run)).map

end ImageSensor.Session
