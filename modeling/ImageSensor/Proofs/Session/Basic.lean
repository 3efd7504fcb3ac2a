import ImageSensor.Bench
import ImageSensor.Proofs.Device.Operations

/-!
# Sessions

A session is everything that happened to a device since it was created: the trace of all events
and, operation by operation, the steps. What holds of every session holds after any operations in
any order, whatever the platform answered.

## Main statements

- `session_iff_runs`: sessions are the runs of creating a device and performing operations.
- `Session.preserved`: a property of devices that every operation keeps holds in every session.
- `exists_session_of_rehearse`: an operation list tried on a bench is a session.
-/

namespace ImageSensor

open ImageSensor.Action ImageSensor.Device

/-! ## §1 Steps and sessions -/

/-- One operation of a session. -/
structure Step where
  before : Device
  operation : Operation
  events : List Event
  reply : Reply
  after : Device

/-- A device with the trace and the steps that led to it. -/
inductive Session (configuration : Configuration) (wiring : Wiring) :
    List Event → List Step → Device → Prop where
  | created {trace : List Event} {device : Device}
      (run : Runs (create configuration wiring) trace (.ok device)) :
      Session configuration wiring trace [] device
  | performed {trace events : List Event} {steps : List Step} {device device' : Device}
      {operation : Operation} {reply : Reply}
      (session : Session configuration wiring trace steps device)
      (run : Runs (device.perform operation) events (.ok (reply, device'))) :
      Session configuration wiring (trace ++ events)
        (steps ++ [⟨device, operation, events, reply, device'⟩]) device'

variable {configuration : Configuration} {wiring : Wiring} {trace : List Event}
  {steps : List Step} {device : Device}

/-! ## §2 Sessions as runs -/

/-- Operations in a row, with one more behind them. -/
theorem runs_performAll_concat {operations : List Operation} {operation : Operation}
    {first second : List Event} {replies : List Reply} {reply : Reply}
    {device₁ device₂ : Device}
    (all : Runs (device.performAll operations) first (.ok (replies, device₁)))
    (one : Runs (device₁.perform operation) second (.ok (reply, device₂))) :
    Runs (device.performAll (operations ++ [operation])) (first ++ second)
      (.ok (replies ++ [reply], device₂)) := by
  -- operations are carried out from the front, so the new one is pushed through all of them
  induction operations generalizing device first replies with
  | nil =>
    obtain ⟨rfl, result⟩ := runs_done.1 all
    cases result
    refine runs_bind_ok.2 ⟨_, second, [], (List.append_nil _).symm, one, ?_⟩
    exact runs_bind_done.2 ⟨([], device₂), .done _, rfl⟩
  | cons next rest ih =>
    obtain ⟨⟨answer, device₃⟩, events, _, split, here, all⟩ := runs_bind_ok.1 all
    obtain ⟨⟨answers, device₄⟩, behind, same⟩ := runs_bind_done.1 all
    cases same
    subst split
    rw [List.append_assoc]
    refine runs_bind_ok.2 ⟨_, events, _, rfl, here, ?_⟩
    exact runs_bind_done.2 ⟨(answers ++ [reply], device₂), ih behind, rfl⟩

/-- A session goes on with further operations. -/
theorem Session.performAll {operations : List Operation} {events : List Event}
    {replies : List Reply} {device' : Device}
    (session : Session configuration wiring trace steps device)
    (run : Runs (device.performAll operations) events (.ok (replies, device'))) :
    ∃ more, Session configuration wiring (trace ++ events) (steps ++ more) device' ∧
      more.map Step.operation = operations ∧ more.map Step.reply = replies := by
  induction operations generalizing trace steps device events replies with
  | nil =>
    obtain ⟨rfl, result⟩ := runs_done.1 run
    cases result
    exact ⟨[], by simpa using session, rfl, rfl⟩
  | cons operation rest ih =>
    obtain ⟨⟨reply, device₁⟩, first, second, split, here, run⟩ := runs_bind_ok.1 run
    obtain ⟨⟨answers, device₂⟩, behind, same⟩ := runs_bind_done.1 run
    cases same
    subst split
    obtain ⟨more, session', rfl, rfl⟩ := ih (session.performed here) behind
    exact ⟨_ :: more, by simpa using session', rfl, rfl⟩

/-- Sessions are the runs of creating a device and performing operations. -/
theorem session_iff_runs {operations : List Operation} {replies : List Reply} :
    (∃ steps, Session configuration wiring trace steps device ∧
        steps.map Step.operation = operations ∧ steps.map Step.reply = replies) ↔
      Runs (create configuration wiring >>= fun fresh => fresh.performAll operations) trace
        (.ok (replies, device)) := by
  constructor
  · rintro ⟨steps, session, rfl, rfl⟩
    induction session with
    | created run => exact runs_bind_ok.2 ⟨_, _, [], (List.append_nil _).symm, run, .done _⟩
    | performed _ run ih =>
      obtain ⟨fresh, first, second, split, created, all⟩ := runs_bind_ok.1 ih
      have longer := runs_performAll_concat all run
      rw [split, List.append_assoc, List.map_append, List.map_append]
      exact runs_bind_ok.2 ⟨fresh, first, _, rfl, created, longer⟩
  · intro run
    obtain ⟨fresh, first, second, rfl, created, all⟩ := runs_bind_ok.1 run
    exact (Session.created created).performAll all

/-! ## §3 Invariants -/

/-- What a new device has and every operation keeps. -/
theorem Session.preserved (invariant : Device → Prop)
    (initial : ∀ {events device}, Created configuration wiring events device → invariant device)
    (step : ∀ {device operation events reply device'}, invariant device →
      device.Performed operation events reply device' → invariant device')
    (session : Session configuration wiring trace steps device) : invariant device := by
  induction session with
  | created run => exact initial (created_of_runs run)
  | performed _ run ih => exact step ih (performed_of_runs run)

/-- A device keeps the configuration it was created with. -/
theorem Session.configuration_eq (session : Session configuration wiring trace steps device) :
    device.configuration = configuration := by
  refine session.preserved (·.configuration = configuration) ?_
    fun same performed => performed.configuration_eq.trans same
  intro _ _ created
  cases created
  rfl

/-! ## §4 What happened since -/

/-- Some step had the first property, and no step since had the second. -/
def Since (arms disarms : Step → Prop) (steps : List Step) : Prop :=
  ∃ earlier step later, steps = earlier ++ step :: later ∧ arms step ∧
    ∀ other ∈ later, ¬ disarms other

variable {arms disarms : Step → Prop}

theorem not_since_nil : ¬ Since arms disarms [] := by
  rintro ⟨earlier, step, later, split, -⟩
  cases earlier <;> cases split

/-- The last step arms, or it does not disarm what was armed before. -/
theorem since_concat {step : Step} :
    Since arms disarms (steps ++ [step]) ↔
      arms step ∨ (Since arms disarms steps ∧ ¬ disarms step) := by
  constructor
  · rintro ⟨earlier, armed, later, split, arming, kept⟩
    -- the last step is the armed one itself, or it is the last of those behind it
    rcases List.eq_nil_or_concat later with rfl | ⟨later, last, rfl⟩
    · obtain ⟨-, same⟩ := List.append_inj' split rfl
      cases same
      exact .inl arming
    · rw [List.concat_eq_append] at kept split
      rw [← List.cons_append, ← List.append_assoc] at split
      obtain ⟨rfl, same⟩ := List.append_inj' split rfl
      cases same
      refine .inr ⟨⟨earlier, armed, later, rfl, arming, fun other member => ?_⟩, ?_⟩
      · exact kept other (List.mem_append_left _ member)
      · exact kept step (List.mem_append_right _ List.mem_cons_self)
  · rintro (arming | ⟨⟨earlier, armed, later, rfl, arming, kept⟩, still⟩)
    · exact ⟨steps, step, [], rfl, arming, List.forall_mem_nil _⟩
    · have split : (earlier ++ armed :: later) ++ [step] = earlier ++ armed :: (later ++ [step]) :=
        List.append_assoc _ _ _
      refine ⟨earlier, armed, later ++ [step], split, arming, fun other member => ?_⟩
      rcases List.mem_append.1 member with member | member
      · exact kept other member
      · rwa [List.mem_singleton.1 member]

/-! ## §5 Rehearsals -/

/-- A session on a bench. -/
structure Rehearsal where
  trace : List Event
  steps : List Step
  device : Device
  bench : Bench

namespace Rehearsal

/-- Creates the device. -/
def create? (configuration : Configuration) (wiring : Wiring) : Option Rehearsal :=
  let run := (create configuration wiring).run Bench.respond {}
  match run.outcome with
  | .ok device => some ⟨run.events, [], device, run.state⟩
  | .error _ => none

/-- Performs an operation under a fault plan of its own. -/
def perform? (rehearsal : Rehearsal) (scene : FaultPlan × Operation) : Option Rehearsal :=
  let run := (rehearsal.device.perform scene.2).run Bench.respond
    (rehearsal.bench.setPlan scene.1)
  match run.outcome with
  | .ok (reply, device) =>
    some ⟨rehearsal.trace ++ run.events,
      rehearsal.steps ++ [⟨rehearsal.device, scene.2, run.events, reply, device⟩], device,
      run.state⟩
  | .error _ => none

/-- Performs operations in order, each under a fault plan of its own. -/
def performAll? (rehearsal : Rehearsal) : List (FaultPlan × Operation) → Option Rehearsal
  | [] => some rehearsal
  | scene :: rest =>
    match rehearsal.perform? scene with
    | some rehearsal => rehearsal.performAll? rest
    | none => none

/-- A rehearsal whose trace and steps are those of a session. -/
def Faithful (configuration : Configuration) (wiring : Wiring) (rehearsal : Rehearsal) : Prop :=
  Session configuration wiring rehearsal.trace rehearsal.steps rehearsal.device

theorem faithful_of_create? {rehearsal : Rehearsal}
    (result : create? configuration wiring = some rehearsal) :
    rehearsal.Faithful configuration wiring := by
  unfold create? at result
  -- what the bench makes of the action is one of its runs
  have run := runs_run Bench.respond (create configuration wiring) {}
  dsimp only at result
  split at result
  · next device ended =>
    cases result
    exact .created (ended ▸ run)
  · cases result

theorem faithful_of_perform? {rehearsal rehearsal' : Rehearsal} {scene : FaultPlan × Operation}
    (faithful : rehearsal.Faithful configuration wiring)
    (result : rehearsal.perform? scene = some rehearsal') :
    rehearsal'.Faithful configuration wiring := by
  unfold perform? at result
  have run := runs_run Bench.respond (rehearsal.device.perform scene.2)
    (rehearsal.bench.setPlan scene.1)
  dsimp only at result
  split at result
  · next reply device ended =>
    cases result
    exact .performed faithful (ended ▸ run)
  · cases result

theorem faithful_of_performAll? {script : List (FaultPlan × Operation)}
    {rehearsal rehearsal' : Rehearsal} (faithful : rehearsal.Faithful configuration wiring)
    (result : rehearsal.performAll? script = some rehearsal') :
    rehearsal'.Faithful configuration wiring := by
  induction script generalizing rehearsal with
  | nil =>
    cases result
    exact faithful
  | cons scene rest ih =>
    unfold performAll? at result
    split at result
    · next performed => exact ih (faithful_of_perform? faithful performed) result
    · cases result

end Rehearsal

/-- Tries operations on a new device, each under a fault plan of its own. -/
def rehearse? (configuration : Configuration) (wiring : Wiring)
    (script : List (FaultPlan × Operation)) : Option Rehearsal :=
  match Rehearsal.create? configuration wiring with
  | some rehearsal => rehearsal.performAll? script
  | none => none

theorem session_of_rehearse? {script : List (FaultPlan × Operation)} {rehearsal : Rehearsal}
    (result : rehearse? configuration wiring script = some rehearsal) :
    Session configuration wiring rehearsal.trace rehearsal.steps rehearsal.device := by
  unfold rehearse? at result
  split at result
  · next created =>
    exact Rehearsal.faithful_of_performAll? (Rehearsal.faithful_of_create? created) result
  · cases result

/-- What the bench answers to a write that is to fail. -/
def brokenWrite : BusError :=
  .transport ⟨"write-fault"⟩

/-- Whether a request has failed at such a write. -/
def Reply.isBroken : Reply → Bool
  | .completed (.error e) => e = .bus brokenWrite
  | _ => false

theorem Reply.eq_of_isBroken {reply : Reply} (broken : reply.isBroken = true) :
    reply = .completed (.error (.bus brokenWrite)) := by
  unfold isBroken at broken
  split at broken
  · rw [of_decide_eq_true broken]
  · cases broken

/-- What a rehearsal shows happens in a session. -/
theorem exists_session_of_rehearse (configuration : Configuration) (wiring : Wiring)
    (script : List (FaultPlan × Operation)) (shown : List Event → List Step → Device → Bool)
    (seen : (rehearse? configuration wiring script).any
      (fun rehearsal => shown rehearsal.trace rehearsal.steps rehearsal.device) = true) :
    ∃ trace steps device, Session configuration wiring trace steps device ∧
      shown trace steps device = true := by
  cases result : rehearse? configuration wiring script with
  | none => simp [result] at seen
  | some rehearsal =>
    rw [result] at seen
    exact ⟨_, _, _, session_of_rehearse? result, seen⟩

end ImageSensor
