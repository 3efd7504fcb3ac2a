import ImageSensor.Proofs.Control.Requests
import ImageSensor.Proofs.Session.Completion

/-!
# Batches of Controls

Setting controls in one go is setting them one by one, up to the first call that fails. The
controls in front of that one keep their new settings, and those behind it are never looked at. What
becomes of the one that fails depends on why it does: if it is refused, nothing has changed and
nothing was sent; if the bus fails it, it keeps its new setting nevertheless, and so does the
exposure that moved along with a vertical blank.

## Main statements

- `setControls_append`: a longer batch is two shorter ones, the second after a success only.
- `runs_setControls_ok_iff`, `runs_setControls_error_iff`: how a batch can succeed and fail.
- `Batch`: how a batch can go, in terms of single calls.
- `Session.batch_singly`: a batch in any session goes that way, and in no other.
-/

namespace ImageSensor

open ImageSensor.Action

/-! ## §1 Single calls -/

/-- A call of its own for each control of a batch. -/
def singles (values : List (ControlId × Int)) : List Operation :=
  values.map fun (id, v) => .setControl id v

/-- The replies to single calls that all succeed. -/
def agreed (values : List (ControlId × Int)) : List Reply :=
  values.map fun _ => .adjusted (.ok ())

/-- Every control of a batch has been set, one after the other. -/
inductive ControlBank.AllSet : ControlBank → List (ControlId × Int) → ControlBank → Prop where
  | none {bank : ControlBank} : AllSet bank [] bank
  | next {bank bank' : ControlBank} {id : ControlId} {v : Int} {rest : List (ControlId × Int)}
      {adjustment : Adjustment} (set : bank.SetTo id v adjustment)
      (later : AllSet adjustment.bank rest bank') : AllSet bank ((id, v) :: rest) bank'

namespace Device

variable {device device' : Device} {events : List Event} {values : List (ControlId × Int)}
  {outcome : Except ControlError Unit}

/-- How a batch can go, in terms of single calls. -/
inductive Batch (device : Device) :
    List (ControlId × Int) → List Event → Except ControlError Unit → Device → Prop where
  /-- Every single call succeeds. -/
  | completed {values : List (ControlId × Int)} {events : List Event} {bank : ControlBank}
      (singly : Runs (device.performAll (singles values)) events
        (.ok (agreed values, { device with controls := bank })))
      (kept : device.controls.AllSet values bank) :
      Batch device values events (.ok ()) { device with controls := bank }
  /-- A control is refused, after the ones in front of it have been set. -/
  | refused {before after : List (ControlId × Int)} {id : ControlId} {v : Int}
      {e : ControlError} {events : List Event} {bank : ControlBank}
      (singly : Runs (device.performAll (singles before)) events
        (.ok (agreed before, { device with controls := bank })))
      (kept : device.controls.AllSet before bank) (reason : bank.Refuses id v e)
      (last : Runs ({ device with controls := bank }.perform (.setControl id v)) []
        (.ok (.adjusted (.error e), { device with controls := bank }))) :
      Batch device (before ++ (id, v) :: after) events (.error e) { device with controls := bank }
  /-- A control is set like the ones in front of it, but the bus fails one of its writes. -/
  | lost {before after : List (ControlId × Int)} {id : ControlId} {v : Int} {e : BusError}
      {first second : List Event} {bank : ControlBank} {adjustment : Adjustment}
      (singly : Runs (device.performAll (singles before)) first
        (.ok (agreed before, { device with controls := bank })))
      (kept : device.controls.AllSet before bank) (set : bank.SetTo id v adjustment)
      (last : Runs ({ device with controls := bank }.perform (.setControl id v)) second
        (.ok (.adjusted (.error (.bus e)), { device with controls := adjustment.bank }))) :
      Batch device (before ++ (id, v) :: after) (first ++ second) (.error (.bus e))
        { device with controls := adjustment.bank }

/-! ## §2 Batches and single calls -/

/-- Performing an operation on controls only wraps its outcome up. -/
theorem runs_adjusted {action : Action (Except ControlError Unit × Device)} :
    Runs (action >>= fun result => done (Reply.adjusted result.1, result.2)) events
        (.ok (.adjusted outcome, device')) ↔
      Runs action events (.ok (outcome, device')) := by
  rw [runs_bind_done]
  constructor
  · rintro ⟨⟨_, _⟩, run, wrapped⟩
    cases wrapped
    exact run
  · exact fun run => ⟨_, run, rfl⟩

/-- Goes on after a success, and passes on a failure. -/
def proceed (next : Device → Action (Except ControlError Unit × Device)) :
    Except ControlError Unit × Device → Action (Except ControlError Unit × Device)
  | (.ok (), device) => next device
  | (.error e, device) => done (.error e, device)

/-- A longer batch is two shorter ones, the second after a success only. -/
theorem setControls_append (device : Device) (values more : List (ControlId × Int)) :
    device.setControls (values ++ more) =
      device.setControls values >>= proceed (·.setControls more) := by
  induction values generalizing device with
  | nil => rfl
  | cons value rest ih =>
    obtain ⟨id, v⟩ := value
    simp only [List.cons_append, setControls, bind_assoc]
    refine congrArg _ (funext fun ⟨outcome, device₁⟩ => ?_)
    cases outcome with
    | error e => rfl
    | ok _ => exact ih device₁

/-- A batch succeeds if every single call does. -/
theorem runs_setControls_ok_iff :
    Runs (device.setControls values) events (.ok (.ok (), device')) ↔
      Runs (device.performAll (singles values)) events (.ok (agreed values, device')) := by
  -- both sides are taken apart from the front, where one control answers to one operation
  induction values generalizing device events with
  | nil => simp [setControls, performAll, singles, agreed]
  | cons value rest ih =>
    obtain ⟨id, v⟩ := value
    constructor
    · intro run
      obtain ⟨⟨set, device₁⟩, first, second, split, one, run⟩ := runs_bind_ok.1 run
      cases set with
      | error e =>
        obtain ⟨-, result⟩ := runs_done.1 run
        cases result
      | ok _ =>
        refine runs_bind_ok.2 ⟨(.adjusted (.ok ()), device₁), first, second, split, ?_, ?_⟩
        · exact runs_adjusted.2 one
        · exact runs_bind_done.2 ⟨_, ih.1 run, rfl⟩
    · intro run
      obtain ⟨⟨reply, device₁⟩, first, second, split, one, run⟩ := runs_bind_ok.1 run
      obtain ⟨⟨replies, device₂⟩, later, same⟩ := runs_bind_done.1 run
      cases same
      exact runs_bind_ok.2
        ⟨(.ok (), device₁), first, second, split, runs_adjusted.1 one, ih.2 later⟩

/-- A batch fails if a control does after a batch of all controls in front of it. -/
theorem runs_setControls_error_iff {e : ControlError} :
    Runs (device.setControls values) events (.ok (.error e, device')) ↔
      ∃ before id v after first second device₁,
        values = before ++ (id, v) :: after ∧ events = first ++ second ∧
        Runs (device.setControls before) first (.ok (.ok (), device₁)) ∧
        Runs (device₁.setControl id v) second (.ok (.error e, device')) := by
  constructor
  · intro run
    induction values generalizing device events with
    | nil =>
      obtain ⟨-, result⟩ := runs_done.1 run
      cases result
    | cons value rest ih =>
      obtain ⟨id, v⟩ := value
      obtain ⟨⟨set, device₁⟩, here, _, split, one, run⟩ := runs_bind_ok.1 run
      -- either this is the control that fails, or it belongs to those in front of it
      cases set with
      | error e' =>
        obtain ⟨rfl, result⟩ := runs_done.1 run
        cases result
        exact ⟨[], id, v, rest, [], here, device, rfl, by simpa using split, .done _, one⟩
      | ok _ =>
        obtain ⟨before, id', v', after, first, second, device₂, rfl, rfl, earlier, last⟩ := ih run
        refine ⟨(id, v) :: before, id', v', after, here ++ first, second, device₂, rfl, ?_, ?_,
          last⟩
        · rw [split, List.append_assoc]
        · exact runs_bind_ok.2 ⟨(.ok (), device₁), here, first, rfl, one, earlier⟩
  · rintro ⟨before, id, v, after, first, second, device₁, rfl, rfl, earlier, last⟩
    rw [setControls_append]
    refine runs_bind_ok.2 ⟨(.ok (), device₁), first, second, rfl, earlier, ?_⟩
    exact runs_bind_ok.2 ⟨(.error e, device'), second, [], (List.append_nil _).symm, last, .done _⟩

/-! ## §3 What a batch leaves behind -/

/-- A batch that succeeds has set all its controls, and nothing else of the device. -/
theorem ControlsSet.allSet (set : device.ControlsSet values events (.ok ()) device')
    (sound : device.controls.Sound) :
    ∃ bank, device' = { device with controls := bank } ∧ bank.Sound ∧
      device.controls.AllSet values bank := by
  -- induction on the controls, not on how they were set: the outcome is fixed here
  induction values generalizing device events with
  | nil =>
    cases set
    exact ⟨_, rfl, sound, .none⟩
  | cons value rest ih =>
    cases set with
    | @next _ _ _ id v _ _ _ _ adjusted later =>
      generalize accepts : Except.ok () = outcome at adjusted
      cases adjusted with
      | rejected refused => cases accepts
      | applied accepted sent =>
        obtain ⟨bank, rfl, sound', kept⟩ := ih later (sound.of_set accepted)
        exact ⟨bank, rfl, sound', .next (sound.setTo_of_set accepted) kept⟩

theorem batch_of_runs (sound : device.controls.Sound)
    (run : Runs (device.setControls values) events (.ok (outcome, device'))) :
    device.Batch values events outcome device' := by
  cases outcome with
  | ok _ =>
    obtain ⟨bank, rfl, -, kept⟩ := (controlsSet_of_runs run).allSet sound
    exact .completed (runs_setControls_ok_iff.1 run) kept
  | error e =>
    obtain ⟨before, id, v, after, first, second, device₁, rfl, rfl, earlier, last⟩ :=
      runs_setControls_error_iff.1 run
    obtain ⟨bank, rfl, sound₁, kept⟩ := (controlsSet_of_runs earlier).allSet sound
    have singly := runs_setControls_ok_iff.1 earlier
    have adjusted := adjusted_of_runs last
    -- a refusal and a write that fails end alike, and are told apart by what became of the bank
    generalize ended : Except.error e = outcome at adjusted
    cases adjusted with
    | rejected refused =>
      cases ended
      rw [List.append_nil]
      exact .refused singly kept (sound₁.refuses_of_set refused) (runs_adjusted.2 last)
    | @applied _ _ written accepted sent =>
      cases written with
      | ok _ => cases ended
      | error e =>
        cases ended
        exact .lost singly kept (sound₁.setTo_of_set accepted) (runs_adjusted.2 last)

theorem Batch.runs (batch : device.Batch values events outcome device') :
    Runs (device.setControls values) events (.ok (outcome, device')) := by
  cases batch with
  | completed singly kept => exact runs_setControls_ok_iff.2 singly
  | refused singly kept reason last =>
    exact runs_setControls_error_iff.2 ⟨_, _, _, _, _, [], _, rfl, (List.append_nil _).symm,
      runs_setControls_ok_iff.2 singly, runs_adjusted.1 last⟩
  | lost singly kept set last =>
    exact runs_setControls_error_iff.2 ⟨_, _, _, _, _, _, _, rfl, rfl,
      runs_setControls_ok_iff.2 singly, runs_adjusted.1 last⟩

end Device

/-! ## §4 Sessions -/

namespace Session

open Device

variable {configuration : Configuration} {wiring : Wiring} {trace : List Event}
  {steps : List Step} {device : Device}

/-- In every session a batch goes as its single calls do, up to the first that fails, and in no
other way: with the same reply, the same device and the same events. What it leaves behind are the
controls in front of that one, and that one itself if it was the bus that failed. So a batch can be
cut in two anywhere, if the second part is left out after a failure of the first. -/
theorem batch_singly (session : Session configuration wiring trace steps device)
    (values : List (ControlId × Int)) :
    (∀ events ended, Runs (device.perform (.setControls values)) events ended ↔
      ∃ outcome device', ended = .ok (.adjusted outcome, device') ∧
        device.Batch values events outcome device') ∧
    ∀ more, device.setControls (values ++ more) =
      device.setControls values >>= proceed (·.setControls more) := by
  refine ⟨fun events ended => ⟨fun run => ?_, ?_⟩, device.setControls_append values⟩
  · obtain ⟨reply, device', rfl, -⟩ := session.exists_reply run
    obtain ⟨⟨outcome, device₁⟩, inner, wrapped⟩ := runs_bind_done.1 run
    cases wrapped
    exact ⟨outcome, device₁, rfl, batch_of_runs session.regular.controls inner⟩
  · rintro ⟨outcome, device', rfl, batch⟩
    exact runs_adjusted.2 batch.runs

/-- The vertical blank is set twice, with an exposure in between that fits the first one only; the
gain comes last. -/
def shrinkingBatch : List (ControlId × Int) :=
  [(.verticalBlank, 2000), (.exposure, 5000), (.verticalBlank, 1000), (.analogGain, 64)]

/-- Whether a batch has failed at a broken write. -/
def endsBroken : Reply → Bool
  | .adjusted (.error e) => e = .bus brokenWrite
  | _ => false

/-- A streaming sensor takes the exposure that goes with the shorter blank, and does not take the
blank itself. Both are kept all the same, and the gain stays as it was. -/
theorem batch_singly_shrinking :
    ∃ trace steps events device device', Session {} ⟨true, true, true⟩ trace steps device ∧
      device.stream = .streaming ∧
      Runs (device.perform (.setControls shrinkingBatch)) events
        (.ok (.adjusted (.error (.bus brokenWrite)), device')) ∧
      device.Batch shrinkingBatch events (.error (.bus brokenWrite)) device' ∧
      device'.controls.verticalBlank.value = 1000 ∧ device'.controls.exposure.value = 4116 ∧
      device'.controls.analogGain = device.controls.analogGain := by
  obtain ⟨_, _, device', session, shown⟩ := exists_session_of_rehearse {} ⟨true, true, true⟩
    [({}, .start), ({ writeAt := [3] }, .setControls shrinkingBatch)]
    (fun _ steps device => steps.getLast?.any fun step =>
      step.operation = .setControls shrinkingBatch && endsBroken step.reply &&
        step.before.stream = .streaming && device.controls.verticalBlank.value = 1000 &&
        device.controls.exposure.value = 4116 &&
        device.controls.analogGain = step.before.controls.analogGain)
    (by decide +kernel)
  cases session with
  | created run => cases shown
  | @performed trace events steps device _ operation reply session run =>
    simp only [List.getLast?_concat, Option.any_some, Bool.and_eq_true, decide_eq_true_eq] at shown
    obtain ⟨⟨⟨⟨⟨rfl, broken⟩, streaming⟩, blank⟩, exposure⟩, gain⟩ := shown
    obtain ⟨outcome, _, ended, batch⟩ :=
      ((batch_singly session shrinkingBatch).1 events _).1 run
    cases ended
    obtain rfl : outcome = .error (.bus brokenWrite) := by
      rcases outcome with e | _
      · exact congrArg Except.error (of_decide_eq_true broken)
      · cases broken
    exact ⟨trace, steps, events, device, device', session, streaming, run, batch, blank, exposure,
      gain⟩

end Session

end ImageSensor
