import Mathlib.Data.List.Forall2
import ImageSensor.Proofs.Device.Negotiated
import ImageSensor.Proofs.Session.Basic

/-!
# Negotiations Are Not Noticed

Negotiating a format without using it leaves no mark on a session. With some of these operations
left out, the platform sees the same calls in the same order, every other operation has the same
reply, and the device ends up the same, but for the format of the negotiation itself. That one is
always the format the latest negotiation led to.

## Main statements

- `Session.determined`: on one platform, operations make for one session.
- `Session.exists_thinned`: leaving out negotiations leaves a session with the same trace.
- `Session.negotiations_unnoticed`: on one platform, that is the session without them.
-/

namespace ImageSensor

open ImageSensor.Action ImageSensor.Device

/-! ## §1 Steps left out -/

/-- The step only negotiates a format. -/
def Step.isTrial (step : Step) : Bool :=
  step.operation.isTrial

/-- The format that the step has negotiated. -/
def Step.negotiated? (step : Step) : Option Format :=
  step.operation.negotiated? step.reply

/-- What is retained of the steps if some of those that only negotiate a format are left out. -/
structure Thinned (steps retained : List Step) : Prop where
  part : retained.Sublist steps
  others : retained.filter (!·.isTrial) = steps.filter (!·.isTrial)

variable {steps retained : List Step} {step : Step}

/-- The last step is retained, or it is one that only negotiates. -/
theorem Thinned.of_concat (thinned : Thinned (steps ++ [step]) retained) :
    (∃ first, retained = first ++ [step] ∧ Thinned steps first) ∨
      (step.isTrial = true ∧ Thinned steps retained) := by
  obtain ⟨part, others⟩ := thinned
  obtain ⟨first, last, rfl, head, tail⟩ := List.sublist_append_iff.1 part
  rw [List.filter_append, List.filter_append] at others
  rcases List.sublist_singleton.1 tail with rfl | rfl
  · -- nothing else can be missing, so there are too few steps unless the last one negotiates
    right
    have fewer := (head.filter (!·.isTrial)).length_le
    have count := congrArg List.length others
    simp only [List.filter_nil, List.append_nil, List.length_append] at count
    have none : [step].filter (!·.isTrial) = [] := List.eq_nil_of_length_eq_zero (by omega)
    rw [none, List.filter_nil] at others
    simp only [List.append_nil] at others ⊢
    exact ⟨by simpa using none, head, others⟩
  · exact .inl ⟨first, rfl, head, List.append_cancel_right others⟩

theorem thinned_filter (steps : List Step) {kept : Step → Bool}
    (trials : ∀ step, kept step = false → step.isTrial = true) :
    Thinned steps (steps.filter kept) := by
  refine ⟨List.filter_sublist, ?_⟩
  rw [List.filter_filter]
  refine List.filter_congr fun step _ => ?_
  cases retained : kept step with
  | true => rw [Bool.and_true]
  | false => rw [trials step retained]; rfl

/-- Two steps that are the same to everyone, the format of a negotiation apart. -/
structure Step.Matches (step step' : Step) : Prop where
  operation : step'.operation = step.operation
  events : step'.events = step.events
  reply : step'.reply = step.reply
  before : step.before.Matches step'.before
  after : step.after.Matches step'.after
  answers : step'.after.answers = step.after.answers

theorem map_operation_of_matches {steps steps' : List Step}
    (same : List.Forall₂ Step.Matches steps steps') :
    steps'.map Step.operation = steps.map Step.operation := by
  induction same with
  | nil => rfl
  | cons here _ ih => rw [List.map_cons, List.map_cons, here.operation, ih]

/-! ## §2 Sessions on one platform -/

namespace Session

variable {configuration : Configuration} {wiring : Wiring} {trace trace' : List Event}
  {steps' : List Step} {device device' : Device}

/-- On one platform, the same operations make for the same session. -/
theorem determined {platform : Platform}
    (session : Session configuration wiring trace steps device)
    (session' : Session configuration wiring trace' steps' device')
    (operations : steps'.map Step.operation = steps.map Step.operation)
    (answered : AnsweredBy platform [] trace) (answered' : AnsweredBy platform [] trace') :
    trace' = trace ∧ steps' = steps ∧ device' = device := by
  -- the sessions are taken apart from the end, where one operation answers to the other
  induction session generalizing trace' steps' device' with
  | created run =>
    cases session' with
    | created run' =>
      obtain ⟨rfl, same⟩ := run.determined run' answered answered'
      cases same
      exact ⟨rfl, rfl, rfl⟩
    | performed => simp at operations
  | performed _ run ih =>
    cases session' with
    | created => simp at operations
    | performed session' run' =>
      rw [List.map_append, List.map_append] at operations
      obtain ⟨earlier, last⟩ := List.append_inj' operations rfl
      obtain ⟨answered, now⟩ := answeredBy_append.1 answered
      obtain ⟨answered', now'⟩ := answeredBy_append.1 answered'
      -- both sessions have led to the same device, which now performs the same operation
      obtain ⟨rfl, rfl, rfl⟩ := ih session' earlier answered answered'
      cases last
      obtain ⟨rfl, same⟩ := run.determined run' now now'
      cases same
      exact ⟨rfl, rfl, rfl⟩

/-! ## §3 Sessions without some negotiations -/

/-- Leaving out negotiations leaves a session with the same trace. -/
theorem exists_thinned (session : Session configuration wiring trace steps device)
    (thinned : Thinned steps retained) :
    ∃ steps' device', Session configuration wiring trace steps' device' ∧
      List.Forall₂ Step.Matches retained steps' ∧ device.Matches device' := by
  induction session generalizing retained with
  | created run =>
    rw [List.sublist_nil.1 thinned.part]
    exact ⟨[], _, .created run, .nil, .refl _⟩
  | @performed trace events steps device device₁ operation reply _ run ih =>
    rcases thinned.of_concat with ⟨first, rfl, earlier⟩ | ⟨trial, earlier⟩
    · obtain ⟨steps', twin, session', same, left⟩ := ih earlier
      obtain ⟨twin', run', left'⟩ := left.exists_performed run
      refine ⟨_, twin', .performed session' run', ?_, left'⟩
      exact List.rel_append same (.cons ⟨rfl, rfl, rfl, left, left', left'.answers_eq⟩ .nil)
    · obtain ⟨steps', twin, session', same, left⟩ := ih earlier
      -- without calls of its own, the step is missed by nobody
      obtain ⟨rfl, marked⟩ := (performed_of_runs run).of_isTrial trial
      rw [List.append_nil]
      exact ⟨steps', twin, session', same, marked.symm.trans left⟩

/-- The scratch format is the one negotiated last, at first that of the default mode. -/
theorem trialFormat_eq (session : Session configuration wiring trace steps device) :
    device.trialFormat = ((steps.filterMap Step.negotiated?).getLast?).getD
      (Catalog.defaultMode.format configuration.orientation.busCode) := by
  induction session with
  | created run =>
    cases created_of_runs run with
    | created reported derived => rfl
  | @performed trace events steps device device₁ operation reply _ run ih =>
    rw [(performed_of_runs run).trialFormat_eq, ih, List.filterMap_append, List.getLast?_append]
    cases found : operation.negotiated? reply <;> simp [Step.negotiated?, found]

/-- Some of the operations that only negotiate a format are left out of a session. There is a
session of the operations retained; and on one platform, which answers by what has happened so far,
every such session has the same trace, the same replies, and a device that is the same at every step
but for the format of the negotiation, and that is taken apart in the same way. That format is the
reply to the latest negotiation, whatever else happened since, and at first the one of the default
mode. -/
theorem negotiations_unnoticed (session : Session configuration wiring trace steps device)
    (thinned : Thinned steps retained) :
    (∃ steps' device', Session configuration wiring trace steps' device' ∧
        steps'.map Step.operation = retained.map Step.operation) ∧
      (∀ platform trace' steps' device', Session configuration wiring trace' steps' device' →
        steps'.map Step.operation = retained.map Step.operation →
        AnsweredBy platform [] trace → AnsweredBy platform [] trace' →
        trace' = trace ∧ List.Forall₂ Step.Matches retained steps' ∧ device.Matches device' ∧
          device'.answers = device.answers ∧ device'.detach = device.detach) ∧
      device.format .trial = ((steps.filterMap Step.negotiated?).getLast?).getD
        (Catalog.defaultMode.format configuration.orientation.busCode) := by
  obtain ⟨steps₁, device₁, session₁, same, left⟩ := session.exists_thinned thinned
  have operations := map_operation_of_matches same
  refine ⟨⟨steps₁, device₁, session₁, operations⟩, ?_, session.trialFormat_eq⟩
  intro platform trace' steps' device' session' operations' answered answered'
  obtain ⟨rfl, rfl, rfl⟩ :=
    session₁.determined session' (operations'.trans operations.symm) answered answered'
  exact ⟨rfl, same, left, left.answers_eq, detach_eq left⟩

/-- Formats are negotiated while the stream fails to start, is resumed in another mode, and a write
to a control is lost. -/
def haggling : List (FaultPlan × Operation) :=
  [({}, .setFormat 2104 1560 .trial), ({ writeAt := [70] }, .start), ({}, .setPower true),
    ({}, .setFormat 1 1 .trial), ({}, .start), ({}, .suspend), ({}, .setFormat 2104 1560 .active),
    ({}, .setFormat 4208 3120 .trial), ({}, .resume),
    ({ allWrites := true }, .setControl .exposure 9)]

/-- All steps but the first and the last negotiation. -/
def lessHaggling (step : Step) : Bool :=
  step.operation ≠ .setFormat 2104 1560 .trial && step.operation ≠ .setFormat 4208 3120 .trial

/-- With two of three negotiations left out, the platform is asked for the same. -/
theorem unnoticed_haggling :
    ∃ platform trace steps device steps' device',
      Session { orientation := .flipMirror } ⟨true, true, false⟩ trace steps device ∧
      Session { orientation := .flipMirror } ⟨true, true, false⟩ trace steps' device' ∧
      AnsweredBy platform [] trace ∧ steps.length = 10 ∧ steps'.length = 8 ∧
      List.Forall₂ Step.Matches (steps.filter lessHaggling) steps' ∧ device.Matches device' ∧
      device.mode = Catalog.binned ∧
      device.format .trial = Catalog.fullFrame.format device.busCode := by
  obtain ⟨trace, steps, device, session, shown⟩ := exists_session_of_rehearse
    { orientation := .flipMirror } ⟨true, true, false⟩ haggling
    (fun _ steps device => steps.length = 10 && (steps.filter lessHaggling).length = 8 &&
      device.mode = Catalog.binned && (steps.filterMap Step.negotiated?).getLast? =
        some (Catalog.fullFrame.format device.busCode))
    (by decide +kernel)
  simp only [Bool.and_eq_true, decide_eq_true_eq] at shown
  obtain ⟨⟨⟨count, fewer⟩, mode⟩, latest⟩ := shown
  have thinned : Thinned steps (steps.filter lessHaggling) := by
    refine thinned_filter steps fun step haggled => ?_
    -- the operation is one of the two, and each of them only negotiates
    have either : step.operation = .setFormat 2104 1560 .trial ∨
        step.operation = .setFormat 4208 3120 .trial := by
      simpa [lessHaggling, Decidable.imp_iff_not_or] using haggled
    rcases either with same | same <;> rw [Step.isTrial, same] <;> rfl
  obtain ⟨⟨steps', device', session', operations⟩, alike, negotiated⟩ :=
    negotiations_unnoticed session thinned
  have answered := answeredBy_replaying trace
  obtain ⟨-, same, left, -⟩ := alike _ _ _ _ session' operations answered answered
  exact ⟨_, trace, steps, device, steps', device', session, session', answered, count,
    same.length_eq ▸ fewer, same, left, mode, by rw [negotiated, latest]; rfl⟩

end Session

end ImageSensor
