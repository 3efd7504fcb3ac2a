import ImageSensor.Checked
import ImageSensor.Platform.Notice

/-!
# Actions on the Platform

The driver acts on the bus, pins, clock, supplies and power manager of a platform it knows nothing
about. An `Action` is what it does, as a tree: at each node one call, and for every possible answer
the action that follows. Nothing is assumed of the answers, so a statement about all runs of an
action covers every pattern of failing calls.

A run is the list of its events, each a call with the answer it got. `Action.run` produces one
from a platform that answers; `Action.Runs` describes them all.

## Main statements

- `runs_bind`: the runs of a sequence are the runs of its parts, one after the other.
- `runs_run`: what a platform makes of an action is one of its runs.
-/

namespace ImageSensor

/-! ## §1 Calls and answers -/

/-- A call to the platform. -/
inductive Call where
  /-- Sends bytes to a bus address. -/
  | busWrite (address : UInt8) (bytes : List UInt8)
  /-- Sends bytes to a bus address and reads `count` bytes in the same transaction. -/
  | busRead (address : UInt8) (bytes : List UInt8) (count : Nat)
  /-- Drives a control pin. -/
  | drive (pin : ControlPin) (high : Bool)
  /-- Waits, in microseconds. -/
  | delay (microseconds : UInt32)
  /-- Requests a rate of the reference clock. -/
  | setClockRate (hz : UInt32)
  /-- Asks for the rate at which the reference clock runs. -/
  | clockRate
  | enableClock
  | disableClock
  /-- Enables all supplies of the sensor. -/
  | enableRegulators
  | disableRegulators
  /-- Selects the use of the interface pins. -/
  | selectPins (profile : PinProfile)
  /-- Asks the power manager for a reference. -/
  | acquire
  /-- Gives a reference back to the power manager. -/
  | release
  /-- Writes to the log. -/
  | notify (notice : Notice)

/-- What the platform answers to a call. -/
def Call.Answer : Call → Type
  | .busWrite _ _ => Except Cause Unit
  | .busRead _ _ count => Except Cause (Vector UInt8 count)
  | .drive _ _ => Except Cause Unit
  | .delay _ => Unit
  | .setClockRate _ => Except Cause Unit
  | .clockRate => UInt32
  | .enableClock => Except Cause Unit
  | .disableClock => Unit
  | .enableRegulators => Except Cause Unit
  | .disableRegulators => Unit
  | .selectPins _ => Except Cause Unit
  | .acquire => Except Cause Unit
  | .release => Unit
  | .notify _ => Unit

/-- A call with its answer. -/
structure Event where
  call : Call
  answer : call.Answer

/-! ## §2 Actions -/

/-- A sequence of calls that depends on the answers and ends with a result or a trap. -/
inductive Action (α : Type) where
  | done (result : α)
  | trap (reason : Trap)
  | call (call : Call) (next : call.Answer → Action α)

namespace Action

variable {α β : Type}

/-- One action, then another that depends on its result. -/
protected def bind : Action α → (α → Action β) → Action β
  | done result, f => f result
  | trap reason, _ => trap reason
  | call c next, f => call c fun answer => (next answer).bind f

instance : Monad Action where
  pure := done
  bind := Action.bind

/-- A single call. -/
def ask (c : Call) : Action c.Answer :=
  call c done

/-- A checked computation, without calls. -/
def ofChecked : Checked α → Action α
  | .ok result => done result
  | .error reason => trap reason

/-- Writes a notice to the log. -/
def notify (notice : Notice) : Action Unit :=
  ask (.notify notice)

@[simp] theorem pure_eq (result : α) : (pure result : Action α) = done result := rfl

@[simp] theorem bind_done (result : α) (f : α → Action β) : (done result >>= f) = f result := rfl

@[simp] theorem bind_trap (reason : Trap) (f : α → Action β) :
    (trap reason >>= f) = trap reason := rfl

@[simp] theorem bind_call (c : Call) (next : c.Answer → Action α) (f : α → Action β) :
    (call c next >>= f) = call c fun answer => next answer >>= f := rfl

@[simp] theorem ofChecked_ok (result : α) : ofChecked (.ok result) = done result := rfl

@[simp] theorem ofChecked_error (reason : Trap) :
    (ofChecked (.error reason) : Action α) = trap reason := rfl

private theorem bind_done_self (action : Action α) : action.bind done = action := by
  induction action with
  | done => rfl
  | trap => rfl
  | call c next ih =>
    simp only [Action.bind]
    exact congrArg (call c) (funext ih)

private theorem bind_bind {γ : Type} (action : Action α) (f : α → Action β) (g : β → Action γ) :
    (action.bind f).bind g = action.bind fun result => (f result).bind g := by
  induction action with
  | done => rfl
  | trap => rfl
  | call c next ih =>
    simp only [Action.bind]
    exact congrArg (call c) (funext ih)

instance : LawfulMonad Action :=
  LawfulMonad.mk' Action bind_done_self (fun _ _ => rfl) bind_bind

/-! ## §3 Runs -/

/-- The runs of an action: its events and how it ends, whatever the platform answers. -/
inductive Runs : Action α → List Event → Except Trap α → Prop where
  | done (result : α) : Runs (done result) [] (.ok result)
  | trap (reason : Trap) : Runs (trap reason) [] (.error reason)
  | call {c : Call} {next : c.Answer → Action α} {answer : c.Answer} {events : List Event}
      {outcome : Except Trap α} (later : Runs (next answer) events outcome) :
      Runs (call c next) (⟨c, answer⟩ :: events) outcome

@[simp] theorem runs_done {result : α} {events : List Event} {outcome : Except Trap α} :
    Runs (done result) events outcome ↔ events = [] ∧ outcome = .ok result := by
  constructor
  · rintro ⟨⟩
    exact ⟨rfl, rfl⟩
  · rintro ⟨rfl, rfl⟩
    exact .done result

@[simp] theorem runs_trap {reason : Trap} {events : List Event} {outcome : Except Trap α} :
    Runs (trap reason : Action α) events outcome ↔ events = [] ∧ outcome = .error reason := by
  constructor
  · rintro ⟨⟩
    exact ⟨rfl, rfl⟩
  · rintro ⟨rfl, rfl⟩
    exact .trap reason

@[simp] theorem runs_call {c : Call} {next : c.Answer → Action α} {events : List Event}
    {outcome : Except Trap α} :
    Runs (call c next) events outcome ↔
      ∃ answer later, events = ⟨c, answer⟩ :: later ∧ Runs (next answer) later outcome := by
  constructor
  · rintro ⟨⟩
    case call later answer h => exact ⟨answer, later, rfl, h⟩
  · rintro ⟨answer, later, rfl, h⟩
    exact .call h

/-- The runs of a sequence: the first part traps, or both parts run one after the other. -/
theorem runs_bind {action : Action α} {f : α → Action β} {events : List Event}
    {outcome : Except Trap β} :
    Runs (action >>= f) events outcome ↔
      (∃ reason, Runs action events (.error reason) ∧ outcome = .error reason) ∨
      ∃ first second result, events = first ++ second ∧ Runs action first (.ok result) ∧
        Runs (f result) second outcome := by
  induction action generalizing events with
  | done result =>
    simp only [bind_done, runs_done]
    constructor
    · intro h
      exact .inr ⟨[], events, result, rfl, ⟨rfl, rfl⟩, h⟩
    · rintro (⟨_, ⟨_, h⟩, _⟩ | ⟨_, _, _, rfl, ⟨rfl, ⟨⟩⟩, h⟩)
      · cases h
      · exact h
  | trap reason =>
    simp only [bind_trap, runs_trap]
    constructor
    · intro h
      exact .inl ⟨reason, ⟨h.1, rfl⟩, h.2⟩
    · rintro (⟨_, ⟨rfl, ⟨⟩⟩, rfl⟩ | ⟨_, _, _, _, ⟨_, h⟩, _⟩)
      · exact ⟨rfl, rfl⟩
      · cases h
  | call c next ih =>
    simp only [bind_call, runs_call, ih]
    constructor
    · rintro ⟨answer, later, rfl, ⟨reason, h, rfl⟩ | ⟨first, second, result, rfl, h, h'⟩⟩
      · exact .inl ⟨reason, ⟨answer, later, rfl, h⟩, rfl⟩
      · exact .inr ⟨_, second, result, rfl, ⟨answer, first, rfl, h⟩, h'⟩
    · rintro (⟨reason, ⟨answer, later, rfl, h⟩, rfl⟩ |
        ⟨_, second, result, rfl, ⟨answer, first, rfl, h⟩, h'⟩)
      · exact ⟨answer, later, rfl, .inl ⟨reason, h, rfl⟩⟩
      · exact ⟨answer, _, rfl, .inr ⟨first, second, result, rfl, h, h'⟩⟩

/-! ## §4 Running on a platform -/

/-- What a platform in state `σ` makes of an action. -/
structure Run (σ α : Type) where
  outcome : Except Trap α
  events : List Event
  state : σ

variable {σ : Type}

/-- Runs an action on a platform that answers each call and keeps a state of its own. -/
def run (respond : σ → (c : Call) → c.Answer × σ) : Action α → σ → Run σ α
  | done result, state => ⟨.ok result, [], state⟩
  | trap reason, state => ⟨.error reason, [], state⟩
  | call c next, state =>
    let (answer, state) := respond state c
    let later := (next answer).run respond state
    { later with events := ⟨c, answer⟩ :: later.events }

/-- What a platform makes of an action is one of the runs of the action. -/
theorem runs_run (respond : σ → (c : Call) → c.Answer × σ) (action : Action α) (state : σ) :
    Runs action (action.run respond state).events (action.run respond state).outcome := by
  induction action generalizing state with
  | done result => exact .done result
  | trap reason => exact .trap reason
  | call c next ih => exact .call (ih _ _)

end Action

end ImageSensor
