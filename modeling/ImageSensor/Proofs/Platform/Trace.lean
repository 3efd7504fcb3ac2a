import ImageSensor.Proofs.Platform.Completed

/-!
# What a Trace Adds Up To

A trace is the list of events so far. Two readings of it matter to power and to the sensor: how
many of each resource were taken and not returned, and which bytes the sensor has received.

## Main statements

- `outstanding_append`: what is outstanding adds up along a trace.
- `outstanding_eq_zero`: calls that touch no resource leave all of them as they are.
- `delivered_eq_nil`: a trace without register writes delivers nothing.
-/

namespace ImageSensor

deriving instance DecidableEq for Call

/-! ## §1 Success of a call -/

/-- Whether an answer reports success. Calls that cannot fail always succeed. -/
def Call.succeeded : (call : Call) → call.Answer → Bool
  | .busWrite _ _, (answer : Except Cause Unit) => answer.isOk
  | .busRead _ _ _, (answer : Except Cause (Vector UInt8 _)) => answer.isOk
  | .drive _ _, (answer : Except Cause Unit) => answer.isOk
  | .setClockRate _, (answer : Except Cause Unit) => answer.isOk
  | .enableClock, (answer : Except Cause Unit) => answer.isOk
  | .enableRegulators, (answer : Except Cause Unit) => answer.isOk
  | .selectPins _, (answer : Except Cause Unit) => answer.isOk
  | .acquire, (answer : Except Cause Unit) => answer.isOk
  | .delay _, _ | .clockRate, _ | .disableClock, _ | .disableRegulators, _ | .release, _
  | .notify _, _ => true

/-- Whether the call of an event succeeded. -/
def Event.succeeded (event : Event) : Bool :=
  event.call.succeeded event.answer

/-- An answer that reports success. -/
def Call.success : (call : Call) → call.Answer
  | .busWrite _ _ | .drive _ _ | .setClockRate _ | .enableClock | .enableRegulators
  | .selectPins _ | .acquire => (.ok () : Except Cause Unit)
  | .busRead _ _ count => (.ok (Vector.replicate count 0) : Except Cause (Vector UInt8 count))
  | .clockRate => (0 : UInt32)
  | .delay _ | .disableClock | .disableRegulators | .release | .notify _ => ()

/-! ## §2 Resources -/

/-- What is taken to use the sensor and returned afterwards. -/
inductive Resource where
  /-- A reference granted by the power manager. -/
  | reference
  | clock
  | supplies
  deriving DecidableEq, Repr

namespace Resource

/-- The call that takes a resource, if it succeeds. -/
def taking : Resource → Call
  | reference => .acquire
  | clock => .enableClock
  | supplies => .enableRegulators

/-- The call that returns a resource. -/
def returning : Resource → Call
  | reference => .release
  | clock => .disableClock
  | supplies => .disableRegulators

end Resource

/-- The event takes the resource. -/
def Event.takes (resource : Resource) (event : Event) : Bool :=
  event.call = resource.taking && event.succeeded

/-- The event returns the resource. -/
def Event.returns (resource : Resource) (event : Event) : Bool :=
  event.call = resource.returning

/-- How often a resource was taken, less how often it was returned. -/
def outstanding (resource : Resource) (trace : List Event) : Int :=
  (trace.countP (·.takes resource) : Int) - trace.countP (·.returns resource)

/-- What one event adds to the outstanding resource. -/
def Event.change (resource : Resource) (event : Event) : Int :=
  (if event.takes resource then 1 else 0) - (if event.returns resource then 1 else 0)

/-- A reference that is granted. -/
@[simp] theorem change_acquire (resource : Resource) :
    Event.change resource ⟨.acquire, Except.ok ()⟩ = if resource = .reference then 1 else 0 := by
  cases resource <;> rfl

/-- A reference that is refused. -/
@[simp] theorem change_refused (resource : Resource) (cause : Cause) :
    Event.change resource ⟨.acquire, Except.error cause⟩ = 0 := by
  cases resource <;> rfl

/-- A reference that is given back. -/
@[simp] theorem change_release (resource : Resource) :
    Event.change resource ⟨.release, ()⟩ = if resource = .reference then -1 else 0 := by
  cases resource <;> rfl

@[simp] theorem change_notify (resource : Resource) (notice : Notice) :
    Event.change resource ⟨.notify notice, ()⟩ = 0 := by
  cases resource <;> rfl

@[simp] theorem outstanding_nil (resource : Resource) : outstanding resource [] = 0 := rfl

@[simp] theorem outstanding_cons (resource : Resource) (event : Event) (trace : List Event) :
    outstanding resource (event :: trace) = event.change resource + outstanding resource trace := by
  simp only [outstanding, Event.change, List.countP_cons]
  split <;> split <;> simp <;> omega

@[simp] theorem outstanding_append (resource : Resource) (first second : List Event) :
    outstanding resource (first ++ second) =
      outstanding resource first + outstanding resource second := by
  simp only [outstanding, List.countP_append]
  omega

/-- Nothing is outstanding if it was returned as often as it was taken. -/
theorem outstanding_eq_zero_iff {resource : Resource} {trace : List Event} :
    outstanding resource trace = 0 ↔
      trace.countP (·.takes resource) = trace.countP (·.returns resource) := by
  unfold outstanding
  omega

/-- A call that neither takes nor returns any resource. -/
def Call.Idle (call : Call) : Prop :=
  ∀ resource : Resource, call ≠ resource.taking ∧ call ≠ resource.returning

theorem outstanding_eq_zero {trace : List Event} (idle : ∀ event ∈ trace, event.call.Idle)
    (resource : Resource) : outstanding resource trace = 0 := by
  induction trace with
  | nil => rfl
  | cons event trace ih =>
    obtain ⟨taking, returning⟩ := idle event List.mem_cons_self resource
    have rest := ih fun later member => idle later (List.mem_cons_of_mem _ member)
    simp [Event.change, Event.takes, Event.returns, taking, returning, rest]

/-! ## §3 Bytes received by the sensor -/

/-- The bytes of a register write that succeeded. -/
def Event.delivered? : Event → Option (List UInt8)
  | ⟨.busWrite _ bytes, (answer : Except Cause Unit)⟩ => if answer.isOk then some bytes else none
  | _ => none

/-- The bytes of the register writes that succeeded, in order. -/
def delivered (trace : List Event) : List (List UInt8) :=
  trace.filterMap Event.delivered?

@[simp] theorem delivered_append (first second : List Event) :
    delivered (first ++ second) = delivered first ++ delivered second :=
  List.filterMap_append

/-- A call that is no register write. -/
def Call.Silent (call : Call) : Prop :=
  ∀ address bytes, call ≠ .busWrite address bytes

theorem delivered_eq_nil {trace : List Event} (silent : ∀ event ∈ trace, event.call.Silent) :
    delivered trace = [] := by
  rw [delivered, List.filterMap_eq_nil_iff]
  rintro ⟨call, answer⟩ member
  have quiet := silent _ member
  cases call with
  | busWrite address bytes => exact absurd rfl (quiet address bytes)
  | _ => rfl

/-! ## §4 Calls beside the point -/

/-- A call that drives pins, waits, sets up the clock rate or writes to the log. -/
def Call.Incidental : Call → Prop
  | .drive _ _ | .delay _ | .setClockRate _ | .clockRate | .selectPins _ | .notify _ => True
  | .busWrite _ _ | .busRead _ _ _ | .enableClock | .disableClock | .enableRegulators
  | .disableRegulators | .acquire | .release => False

theorem Call.Incidental.idle {call : Call} (incidental : call.Incidental) : call.Idle := by
  intro resource
  constructor
  · rintro rfl
    cases resource <;> exact incidental
  · rintro rfl
    cases resource <;> exact incidental

/-- A call that exchanges bytes with the sensor or writes to the log. -/
def Call.Exchange : Call → Prop
  | .busWrite _ _ | .busRead _ _ _ | .notify _ => True
  | .drive _ _ | .delay _ | .setClockRate _ | .clockRate | .selectPins _ | .enableClock
  | .disableClock | .enableRegulators | .disableRegulators | .acquire | .release => False

theorem Call.Exchange.idle {call : Call} (exchange : call.Exchange) : call.Idle := by
  intro resource
  constructor
  · rintro rfl
    cases resource <;> exact exchange
  · rintro rfl
    cases resource <;> exact exchange

end ImageSensor
