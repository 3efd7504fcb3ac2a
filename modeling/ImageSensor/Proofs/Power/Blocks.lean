import ImageSensor.Bench
import ImageSensor.Proofs.Device.Completion
import ImageSensor.Proofs.Device.Wiring
import Mathlib.Data.List.Chain
import Mathlib.Data.List.Forall2

/-!
# The Language of the Power Sequencer

A sequencer obeys commands to power up and down, and what a platform sees of it is made of whole
blocks: a power-up, one that broke off at the clock, one that broke off at the supplies, and a
power-down. Each block is a fixed script of calls; pins that are not wired are left out of it, and a
pin, profile or rate that cannot be set stays in its place.

## Main statements

- `Sequencer.obeyed_of_runs`: a command contributes one block or nothing, as the power state says.
- `PowerSession.obeyAll`: obeying commands in a row continues a power session.
- `spells_blocks`: the trace of any commands, with any answers, is spelled by their blocks.
-/

namespace ImageSensor

open ImageSensor.Action

/-! ## §1 Scripts -/

/-- Whether a call does something to the platform. A notice and a look at the clock rate do not. -/
def Call.acts : Call → Bool
  | .notify _ | .clockRate => false
  | .busWrite _ _ | .busRead _ _ _ | .drive _ _ | .delay _ | .setClockRate _ | .enableClock
  | .disableClock | .enableRegulators | .disableRegulators | .selectPins _ | .acquire
  | .release => true

/-- Whether a call can be made: only pins that are wired can be driven. -/
def Call.wired (wiring : Wiring) : Call → Bool
  | .drive pin _ => wiring.has pin
  | _ => true

/-- One step of a script. -/
inductive Beat where
  /-- A call, whatever the platform answers. -/
  | made (call : Call)
  /-- A call with the answer that decides how the script goes on. -/
  | answered (event : Event)

namespace Beat

/-- The call of a step. -/
def call : Beat → Call
  | made call => call
  | answered event => event.call

/-- The event is what the step asks for. -/
def Admits : Beat → Event → Prop
  | made call, event => event.call = call
  | answered expected, event => event = expected

theorem Admits.call_eq {beat : Beat} {event : Event} (admits : beat.Admits event) :
    event.call = beat.call := by
  cases beat with
  | made call => exact admits
  | answered expected => exact congrArg Event.call admits

end Beat

/-- The calls of the trace that do something are those of the script, in order, where the script
leaves out pins that are not wired. -/
def Spells (wiring : Wiring) (trace : List Event) (script : List Beat) : Prop :=
  List.Forall₂ Beat.Admits (script.filter (·.call.wired wiring)) (trace.filter (·.call.acts))

namespace Spells

variable {wiring : Wiring} {trace trace' : List Event} {script script' : List Beat}

theorem append (first : Spells wiring trace script) (second : Spells wiring trace' script') :
    Spells wiring (trace ++ trace') (script ++ script') := by
  unfold Spells
  rw [List.filter_append, List.filter_append]
  exact List.rel_append first second

theorem cons {beat : Beat} {event : Event} (admits : beat.Admits event)
    (wired : beat.call.wired wiring = true) (acts : event.call.acts = true)
    (rest : Spells wiring trace script) : Spells wiring (event :: trace) (beat :: script) := by
  unfold Spells
  rw [List.filter_cons, if_pos wired, List.filter_cons, if_pos acts]
  exact .cons admits rest

theorem made (event : Event) (wired : event.call.wired wiring = true)
    (acts : event.call.acts = true) (rest : Spells wiring trace script) :
    Spells wiring (event :: trace) (.made event.call :: script) :=
  cons rfl wired acts rest

theorem answered (event : Event) (wired : event.call.wired wiring = true)
    (acts : event.call.acts = true) (rest : Spells wiring trace script) :
    Spells wiring (event :: trace) (.answered event :: script) :=
  cons rfl wired acts rest

/-- A step that is not wired is left out. -/
theorem skip {beat : Beat} (unwired : ¬beat.call.wired wiring = true)
    (rest : Spells wiring trace script) : Spells wiring trace (beat :: script) := by
  unfold Spells
  rw [List.filter_cons, if_neg unwired]
  exact rest

/-- A script says nothing of the log. -/
theorem still (quiet : ∀ event ∈ trace, event.call.acts = false) : Spells wiring trace [] := by
  have none_acts : trace.filter (·.call.acts) = [] :=
    List.filter_eq_nil_iff.2 fun event member => by simp [quiet event member]
  unfold Spells
  rw [none_acts]
  exact .nil

theorem nil : Spells wiring [] [] :=
  still nofun

theorem notice (notice : Notice) : Spells wiring [⟨.notify notice, ()⟩] [] :=
  still fun event member => by rw [List.mem_singleton.1 member]; rfl

/-- What is read off the calls of a trace can be read off its script. -/
theorem filterMap_eq {α : Type} {reading : Call → Option α}
    (blank : ∀ call, call.acts = false → reading call = none)
    (spells : Spells wiring trace script) :
    trace.filterMap (fun event => reading event.call) =
      (script.filter (·.call.wired wiring)).filterMap (fun beat => reading beat.call) := by
  -- what the script leaves out has nothing to read, so only the calls that act have to be compared
  have acting : trace.filterMap (fun event => reading event.call) =
      (trace.filter (·.call.acts)).filterMap (fun event => reading event.call) := by
    rw [List.filterMap_filter]
    refine List.filterMap_congr fun event _ => ?_
    split
    · rfl
    · exact blank _ (Bool.eq_false_iff.2 ‹_›)
  rw [acting]
  unfold Spells at spells
  generalize trace.filter (·.call.acts) = events at spells ⊢
  generalize script.filter (·.call.wired wiring) = beats at spells ⊢
  induction spells with
  | nil => rfl
  | cons admits _ ih => rw [List.filterMap_cons, List.filterMap_cons, admits.call_eq, ih]

end Spells

/-! ## §2 Blocks -/

/-- A whole block of calls. -/
inductive Block where
  /-- The sensor is powered up. -/
  | on
  /-- Powering up ends at a clock that cannot be enabled. -/
  | clockFailed (cause : Cause)
  /-- Powering up ends at supplies that cannot be enabled, and the clock goes off again. -/
  | suppliesFailed (cause : Cause)
  /-- The sensor is powered down. -/
  | off
  deriving DecidableEq

namespace Block

/-- What every attempt to power up begins with. -/
def lead : List Beat :=
  [.made (.drive .powerEnable true), .made (.delay 1000), .made (.selectPins .active),
    .made (.setClockRate 24000000)]

/-- What powering up ends with. -/
def release : List Beat :=
  [.made (.drive .reset true), .made (.delay 500), .made (.drive .powerDown true),
    .made (.delay 342)]

/-- The calls of a block, in order. -/
def script : Block → List Beat
  | on =>
    lead ++ .answered ⟨.enableClock, Except.ok ()⟩ :: .made (.drive .reset false) ::
      .answered ⟨.enableRegulators, Except.ok ()⟩ :: release
  | clockFailed cause => lead ++ [.answered ⟨.enableClock, Except.error cause⟩]
  | suppliesFailed cause =>
    lead ++ [.answered ⟨.enableClock, Except.ok ()⟩, .made (.drive .reset false),
      .answered ⟨.enableRegulators, Except.error cause⟩, .made .disableClock]
  | off =>
    [.made (.drive .powerDown false), .made .disableClock, .made (.drive .reset false),
      .made (.selectPins .sleep), .made (.drive .powerEnable false), .made .disableRegulators]

/-- The power state that a block leads to. A power-up that broke off leads nowhere. -/
def switch : Block → Option PowerState
  | on => some .on
  | off => some .off
  | clockFailed _ | suppliesFailed _ => none

end Block

/-- A command to a sequencer. -/
inductive PowerCommand where
  | up
  | down
  deriving DecidableEq, Repr

/-- A command with the block it led to, if it led to any. -/
structure Turn where
  command : PowerCommand
  block : Option Block
  deriving DecidableEq

namespace Turn

/-- The calls of a turn. -/
def script (turn : Turn) : List Beat :=
  (turn.block.map Block.script).getD []

/-- The power state that a turn switches to, if it switches. -/
def switch (turn : Turn) : Option PowerState :=
  turn.block.bind Block.switch

/-- What the caller is told. -/
def reply (turn : Turn) : Except PowerError Unit :=
  match turn.block with
  | some (.clockFailed cause) => .error (.clock cause)
  | some (.suppliesFailed cause) => .error (.regulators cause)
  | some .on | some .off | none => .ok ()

/-- The turns a sequencer can take in a power state. -/
inductive Fits : PowerState → Turn → Prop where
  | powered : Fits .off ⟨.up, some .on⟩
  | clockFailed (cause : Cause) : Fits .off ⟨.up, some (.clockFailed cause)⟩
  | suppliesFailed (cause : Cause) : Fits .off ⟨.up, some (.suppliesFailed cause)⟩
  | alreadyOn : Fits .on ⟨.up, none⟩
  | lowered : Fits .on ⟨.down, some .off⟩
  | alreadyOff : Fits .off ⟨.down, none⟩

/-- A turn that switches leaves the state it was taken in. -/
theorem Fits.switch_ne {power power' : PowerState} {turn : Turn} (fits : Fits power turn)
    (switches : turn.switch = some power') : power ≠ power' := by
  cases fits with
  | powered | lowered =>
    cases switches
    exact nofun
  | clockFailed | suppliesFailed | alreadyOn | alreadyOff => exact nomatch switches

end Turn

/-- The power states that turns switch to, in order. -/
def switches (turns : List Turn) : List PowerState :=
  turns.filterMap Turn.switch

/-- The power state after turns that began with the sensor off. -/
def lastSwitch (turns : List Turn) : PowerState :=
  (switches turns).getLast?.getD .off

theorem switches_concat (turns : List Turn) (turn : Turn) :
    switches (turns ++ [turn]) = switches turns ++ turn.switch.toList := by
  unfold switches
  rw [List.filterMap_append]
  cases switch : turn.switch with
  | none => rw [List.filterMap_cons_none switch]; rfl
  | some power => rw [List.filterMap_cons_some switch]; rfl

/-- Of all that is read off a list, the last is read off its end, if there is anything to read. -/
theorem getLast?_filterMap_concat {α β : Type} (reading : α → Option β) (front : List α)
    (last : α) : ((front ++ [last]).filterMap reading).getLast? =
      (reading last).or (front.filterMap reading).getLast? := by
  rw [List.filterMap_append, List.getLast?_append]
  cases read : reading last with
  | none => rw [List.filterMap_cons_none read]; rfl
  | some value => rw [List.filterMap_cons_some read]; rfl

theorem lastSwitch_concat (turns : List Turn) (turn : Turn) :
    lastSwitch (turns ++ [turn]) = turn.switch.getD (lastSwitch turns) := by
  unfold lastSwitch switches
  rw [getLast?_filterMap_concat]
  cases turn.switch with
  | none => rfl
  | some power => rfl

/-! ## §3 Commands -/

namespace Sequencer

/-- Carries out a command. Powering down cannot fail. -/
def obey (sequencer : Sequencer) : PowerCommand → Action (Except PowerError Unit × Sequencer)
  | .up => sequencer.powerOn
  | .down => do
    let lowered ← sequencer.powerOff
    return (.ok (), lowered)

/-- Carries out commands in a row, whatever becomes of each. -/
def obeyAll (sequencer : Sequencer) :
    List PowerCommand → Action (List (Except PowerError Unit) × Sequencer)
  | [] => return ([], sequencer)
  | command :: rest => do
    let (reply, sequencer) ← sequencer.obey command
    let (replies, sequencer) ← sequencer.obeyAll rest
    return (reply :: replies, sequencer)

theorem obey_total (sequencer : Sequencer) (command : PowerCommand) :
    (sequencer.obey command).Total := by
  cases command with
  | up => exact sequencer.powerOn_total
  | down => exact sequencer.powerOff_total.map

theorem obeyAll_total (sequencer : Sequencer) (commands : List PowerCommand) :
    (sequencer.obeyAll commands).Total := by
  induction commands generalizing sequencer with
  | nil => exact total_done _
  | cons command rest ih =>
    exact (sequencer.obey_total command).bind fun _ next _ => (ih next.2).map

variable {sequencer sequencer' : Sequencer} {wiring : Wiring} {events : List Event}

/-! ## §4 The parts of a block -/

/-- A call whose failure is only reported makes one step of a script, whatever it is answered. -/
theorem spells_tolerated {c : Call} {report : c.Answer → Action Unit}
    (wired : c.wired wiring = true) (acts : c.acts = true)
    (quiet : ∀ answer, (report answer).Within fun call => call.acts = false)
    (run : Runs (ask c >>= report) events (.ok ())) : Spells wiring events [.made c] := by
  obtain ⟨answer, later, split, reported⟩ := runs_ask_bind.1 run
  subst split
  exact .cons rfl wired acts (.still ((quiet answer).mem reported))

theorem spells_drive {pin : ControlPin} {high : Bool}
    (run : Runs (drive wiring pin high) events (.ok ())) :
    Spells wiring events [.made (.drive pin high)] := by
  unfold drive at run
  split at run
  case isTrue wired =>
    refine spells_tolerated wired rfl (fun answer => ?_) run
    cases answer with
    | ok _ => trivial
    | error cause => exact within_notify.2 rfl
  case isFalse unwired =>
    rw [(runs_done.1 run).1]
    exact .skip unwired .nil

theorem spells_selectPins {profile : PinProfile}
    (run : Runs (selectPins profile) events (.ok ())) :
    Spells wiring events [.made (.selectPins profile)] := by
  refine spells_tolerated rfl rfl (fun answer => ?_) run
  cases answer with
  | ok _ => trivial
  | error cause => exact within_notify.2 rfl

theorem spells_requestRate (run : Runs requestRate events (.ok ())) :
    Spells wiring events [.made (.setClockRate 24000000)] := by
  refine spells_tolerated rfl rfl (fun answer => ?_) run
  cases answer with
  | ok _ => trivial
  | error cause => exact within_notify.2 rfl

theorem checkRate_still : checkRate.Within fun call => call.acts = false := by
  refine Within.bind (within_ask.2 rfl) fun hz => ?_
  split
  · trivial
  · exact within_notify.2 rfl

theorem spells_prepare (run : Runs (prepare wiring) events (.ok ())) :
    Spells wiring events Block.lead := by
  obtain ⟨_, split₁, run⟩ := runs_notify_bind.1 run
  obtain ⟨_, enabled, _, split₂, enable, run⟩ := runs_bind_ok.1 run
  obtain ⟨_, _, split₃, run⟩ := runs_ask_bind.1 run
  obtain ⟨_, selected, _, split₄, select, run⟩ := runs_bind_ok.1 run
  obtain ⟨_, requested, checked, split₅, request, check⟩ := runs_bind_ok.1 run
  subst split₅ split₄ split₃ split₂ split₁
  have rated : Spells wiring _ [_] :=
    (spells_requestRate request).append (.still (checkRate_still.mem check))
  have waited := Spells.made ⟨.delay powerEnableDelay, ()⟩ rfl rfl
    ((spells_selectPins select).append rated)
  exact (Spells.notice _).append ((spells_drive enable).append waited)

theorem spells_releaseReset (run : Runs (releaseReset wiring) events (.ok ())) :
    Spells wiring events Block.release := by
  obtain ⟨_, raised, _, split₁, raise, run⟩ := runs_bind_ok.1 run
  obtain ⟨_, _, split₂, run⟩ := runs_ask_bind.1 run
  obtain ⟨_, released, _, split₃, release, run⟩ := runs_bind_ok.1 run
  -- the last delay is computed from the clock cycles the sensor needs
  obtain ⟨settle, computed, run⟩ := runs_ofChecked_bind.1 run
  cases computed.symm.trans settleDelay_eq_ok
  obtain ⟨_, _, split₄, run⟩ := runs_call.1 run
  obtain ⟨split₅, -⟩ := runs_done.1 run
  subst split₅ split₄ split₃ split₂ split₁
  have settled : Spells wiring _ [_] := .made ⟨.delay settleTime, ()⟩ rfl rfl .nil
  have waited := Spells.made ⟨.delay resetDelay, ()⟩ rfl rfl
    ((spells_drive release).append settled)
  exact (spells_drive raise).append waited

/-! ## §5 A command obeyed -/

/-- What a sequencer does in a turn: it takes one that fits its power state, makes the calls of the
turn, and switches as the turn says. -/
structure Obeyed (sequencer : Sequencer) (turn : Turn) (events : List Event)
    (sequencer' : Sequencer) : Prop where
  fits : turn.Fits sequencer.power
  spells : Spells sequencer.wiring events turn.script
  wiring : sequencer'.wiring = sequencer.wiring
  power : sequencer'.power = turn.switch.getD sequencer.power

/-- Powering up takes the turn that its outcome names. -/
theorem PoweredUp.obeyed {reply : Except PowerError Unit}
    (up : sequencer.PoweredUp events reply sequencer') :
    ∃ block, reply = Turn.reply ⟨.up, block⟩ ∧
      sequencer.Obeyed ⟨.up, block⟩ events sequencer' := by
  have wiring := up.wiring_eq
  cases up with
  | already on =>
    refine ⟨none, rfl, ?_, .nil, wiring, rfl⟩
    rw [on]
    exact .alreadyOn
  | @clockFailed _ cause off prepared =>
    have refused : Spells sequencer.wiring _ [_] :=
      .answered ⟨.enableClock, Except.error cause⟩ rfl rfl .nil
    refine ⟨some (.clockFailed cause), rfl, ?_, (spells_prepare prepared).append refused, wiring,
      rfl⟩
    rw [off]
    exact .clockFailed cause
  | @suppliesFailed _ _ cause off prepared reset =>
    -- from the end: the clock goes off, behind supplies that failed and a clock that came on
    have undone : Spells sequencer.wiring _ [_] := .made ⟨.disableClock, ()⟩ rfl rfl .nil
    have refused := Spells.answered ⟨.enableRegulators, Except.error cause⟩ rfl rfl undone
    have clocked := Spells.answered ⟨.enableClock, Except.ok ()⟩ rfl rfl
      ((spells_drive reset).append refused)
    refine ⟨some (.suppliesFailed cause), rfl, ?_, (spells_prepare prepared).append clocked,
      wiring, rfl⟩
    rw [off]
    exact .suppliesFailed cause
  | powered off prepared reset released =>
    have supplied := Spells.answered ⟨.enableRegulators, Except.ok ()⟩ rfl rfl
      (spells_releaseReset released)
    have clocked := Spells.answered ⟨.enableClock, Except.ok ()⟩ rfl rfl
      ((spells_drive reset).append supplied)
    refine ⟨some .on, rfl, ?_, (spells_prepare prepared).append clocked, wiring, rfl⟩
    rw [off]
    exact .powered

theorem PoweredDown.obeyed (down : sequencer.PoweredDown events sequencer') :
    ∃ block, Turn.reply ⟨.down, block⟩ = .ok () ∧
      sequencer.Obeyed ⟨.down, block⟩ events sequencer' := by
  have wiring := down.wiring_eq
  cases down with
  | already off =>
    refine ⟨none, rfl, ?_, .nil, wiring, rfl⟩
    rw [off]
    exact .alreadyOff
  | lowered on stopped reset slept disabled =>
    have unsupplied : Spells sequencer.wiring _ [_] :=
      .made ⟨.disableRegulators, ()⟩ rfl rfl .nil
    have parked := (spells_selectPins slept).append ((spells_drive disabled).append unsupplied)
    have unclocked := Spells.made ⟨.disableClock, ()⟩ rfl rfl
      ((spells_drive reset).append parked)
    have lowered := (Spells.notice .poweringOff).append ((spells_drive stopped).append unclocked)
    refine ⟨some .off, rfl, ?_, lowered, wiring, rfl⟩
    rw [on]
    exact .lowered

/-- A command contributes one block or nothing, as the power state says, and the reply tells which
block it was. -/
theorem obeyed_of_runs {command : PowerCommand} {reply : Except PowerError Unit}
    (run : Runs (sequencer.obey command) events (.ok (reply, sequencer'))) :
    ∃ block, reply = Turn.reply ⟨command, block⟩ ∧
      sequencer.Obeyed ⟨command, block⟩ events sequencer' := by
  cases command with
  | up => exact (poweredUp_of_runs run).obeyed
  | down =>
    obtain ⟨lowered, run, same⟩ := runs_bind_done.1 run
    cases same
    obtain ⟨block, reply, obeyed⟩ := (poweredDown_of_runs run).obeyed
    exact ⟨block, reply.symm, obeyed⟩

/-- Creating a sequencer at most reports pins, and ends with the sensor off. -/
theorem created_of_runs {outcome : Except Trap Sequencer}
    (run : Runs (create wiring) events outcome) :
    outcome = .ok ⟨wiring, .off⟩ ∧ ∀ event ∈ events, event.call.acts = false := by
  have report_still (pin : ControlPin) :
      (reportUnwired wiring pin).Within fun call => call.acts = false := by
    unfold reportUnwired
    split
    · trivial
    · exact within_notify.2 rfl
  have still : (create wiring).Within fun call => call.acts = false := by
    refine Within.bind (report_still _) fun _ => ?_
    refine Within.bind (report_still _) fun _ => ?_
    exact Within.bind (report_still _) fun _ => trivial
  refine ⟨?_, still.mem run⟩
  obtain ⟨sequencer, rfl⟩ := (create_total wiring).exists_ok run
  obtain ⟨_, _, _, _, _, run⟩ := runs_bind_ok.1 run
  obtain ⟨_, _, _, _, _, run⟩ := runs_bind_ok.1 run
  obtain ⟨_, _, same⟩ := runs_bind_done.1 run
  rw [← same]

end Sequencer

/-! ## §6 Power sessions -/

/-- A sequencer with the trace and the turns that led to it. -/
inductive PowerSession (wiring : Wiring) : List Event → List Turn → Sequencer → Prop where
  | created {trace : List Event} (quiet : ∀ event ∈ trace, event.call.acts = false) :
      PowerSession wiring trace [] ⟨wiring, .off⟩
  | obeyed {trace events : List Event} {turns : List Turn} {turn : Turn}
      {sequencer sequencer' : Sequencer} (session : PowerSession wiring trace turns sequencer)
      (obeyed : sequencer.Obeyed turn events sequencer') :
      PowerSession wiring (trace ++ events) (turns ++ [turn]) sequencer'

namespace PowerSession

variable {wiring : Wiring} {trace events : List Event} {turns : List Turn} {sequencer : Sequencer}

theorem wiring_eq (session : PowerSession wiring trace turns sequencer) :
    sequencer.wiring = wiring := by
  induction session with
  | created quiet => rfl
  | obeyed _ obeyed ih => exact obeyed.wiring.trans ih

/-- The trace is made of the blocks of the turns. -/
theorem spells (session : PowerSession wiring trace turns sequencer) :
    Spells wiring trace (turns.flatMap Turn.script) := by
  induction session with
  | created quiet => exact .still quiet
  | obeyed session obeyed ih =>
    have more := obeyed.spells
    rw [session.wiring_eq] at more
    rw [List.flatMap_append, List.flatMap_singleton]
    exact ih.append more

/-- The sensor is in the state that was switched to last. -/
theorem power_eq (session : PowerSession wiring trace turns sequencer) :
    sequencer.power = lastSwitch turns := by
  induction session with
  | created quiet => rfl
  | obeyed _ obeyed ih => rw [obeyed.power, ih, lastSwitch_concat]

/-- Every turn fits the power state it was taken in. -/
theorem fits (session : PowerSession wiring trace turns sequencer) :
    ∀ earlier turn later, turns = earlier ++ turn :: later → turn.Fits (lastSwitch earlier) := by
  induction session with
  | created quiet => exact fun earlier turn later split => absurd split (by simp)
  | obeyed session obeyed ih =>
    intro earlier turn later split
    -- the turn is the one just taken, or it stands in the session before
    rcases List.eq_nil_or_concat later with rfl | ⟨later, last, rfl⟩
    · obtain ⟨rfl, same⟩ := List.append_inj' split rfl
      cases same
      rw [← session.power_eq]
      exact obeyed.fits
    · rw [List.concat_eq_append, ← List.cons_append, ← List.append_assoc] at split
      exact ih earlier turn later (List.append_inj' split rfl).1

/-- The states switched to alternate, and the first of them is on. -/
theorem alternates (session : PowerSession wiring trace turns sequencer) :
    (PowerState.off :: switches turns).IsChain (· ≠ ·) := by
  induction session with
  | created quiet => exact .singleton _
  | @obeyed _ _ turns turn _ _ session obeyed ih =>
    rw [switches_concat]
    cases switch : turn.switch with
    | none => rwa [Option.toList_none, List.append_nil]
    | some power =>
      -- the state switched to before is the one this turn was taken in
      rw [Option.toList_some, ← List.cons_append, List.isChain_append, List.getLast?_cons]
      refine ⟨ih, .singleton _, ?_⟩
      rintro _ ⟨⟩ _ ⟨⟩
      exact (session.power_eq ▸ obeyed.fits).switch_ne switch

/-- A power session goes on with further commands. -/
theorem obeyAll {commands : List PowerCommand} {replies : List (Except PowerError Unit)}
    {sequencer' : Sequencer} (session : PowerSession wiring trace turns sequencer)
    (run : Runs (sequencer.obeyAll commands) events (.ok (replies, sequencer'))) :
    ∃ more, more.map Turn.command = commands ∧ more.map Turn.reply = replies ∧
      PowerSession wiring (trace ++ events) (turns ++ more) sequencer' := by
  induction commands generalizing trace turns sequencer events replies with
  | nil =>
    obtain ⟨rfl, same⟩ := runs_done.1 run
    cases same
    exact ⟨[], rfl, rfl, by simpa using session⟩
  | cons command rest ih =>
    obtain ⟨⟨reply, sequencer₁⟩, here, _, split, first, run⟩ := runs_bind_ok.1 run
    obtain ⟨⟨answers, sequencer₂⟩, behind, same⟩ := runs_bind_done.1 run
    cases same
    subst split
    obtain ⟨block, rfl, obeyed⟩ := Sequencer.obeyed_of_runs first
    obtain ⟨more, rfl, rfl, longer⟩ := ih (session.obeyed obeyed) behind
    exact ⟨⟨command, block⟩ :: more, rfl, rfl, by simpa using longer⟩

/-- Every run of creating a sequencer and having it obey commands is a power session. -/
theorem of_runs {commands : List PowerCommand}
    {outcome : Except Trap (List (Except PowerError Unit) × Sequencer)}
    (run : Runs (Sequencer.create wiring >>= fun fresh => fresh.obeyAll commands) trace outcome) :
    ∃ turns sequencer, turns.map Turn.command = commands ∧
      outcome = .ok (turns.map Turn.reply, sequencer) ∧
      PowerSession wiring trace turns sequencer := by
  have total := (Sequencer.create_total wiring).bind fun _ fresh _ => fresh.obeyAll_total commands
  obtain ⟨⟨replies, sequencer⟩, rfl⟩ := total.exists_ok run
  obtain ⟨fresh, reports, _, split, created, run⟩ := runs_bind_ok.1 run
  obtain ⟨same, quiet⟩ := Sequencer.created_of_runs created
  cases same
  obtain ⟨turns, commands, rfl, session⟩ := (PowerSession.created quiet).obeyAll run
  exact ⟨turns, sequencer, commands, rfl, split ▸ session⟩

end PowerSession

/-! ## §7 The language -/

/-- Whatever commands a sequencer is given and whatever the platform answers, the trace is made of
whole blocks, at most one for each command. Power-ups and power-downs that went through alternate,
beginning with a power-up; a power-up breaks off only while the sensor is off, and that is what the
caller is told; a command that finds the sensor in the state it asks for contributes nothing; and
the sensor is on exactly if it was powered up last. -/
theorem spells_blocks {wiring : Wiring} {commands : List PowerCommand} {trace : List Event}
    {outcome : Except Trap (List (Except PowerError Unit) × Sequencer)}
    (run : Runs (Sequencer.create wiring >>= fun fresh => fresh.obeyAll commands) trace outcome) :
    ∃ turns sequencer, turns.map Turn.command = commands ∧
      outcome = .ok (turns.map Turn.reply, sequencer) ∧
      Spells wiring trace (turns.flatMap Turn.script) ∧
      (PowerState.off :: switches turns).IsChain (· ≠ ·) ∧
      (∀ earlier turn later, turns = earlier ++ turn :: later → turn.Fits (lastSwitch earlier)) ∧
      (sequencer.power = .on ↔ (switches turns).getLast? = some .on) := by
  obtain ⟨turns, sequencer, commands, outcome, session⟩ := PowerSession.of_runs run
  refine ⟨turns, sequencer, commands, outcome, session.spells, session.alternates, session.fits, ?_⟩
  rw [session.power_eq, lastSwitch]
  cases (switches turns).getLast? with
  | none => decide
  | some power => rw [Option.getD_some, Option.some_inj]

/-- A bench that starts on a new plan once the supplies have been tried. -/
def oneAttempt (bench : Bench) : (request : Call) → request.Answer × Bench
  | .enableRegulators => ((bench.respond .enableRegulators).1, bench.setPlan {})
  | request => bench.respond request

/-- Supplies that fail once: the first power-up breaks off after eight calls, the second goes
through with eleven, and powering down takes six more. -/
theorem spells_second_attempt :
    ∃ (trace : List Event) (turns : List Turn),
      Runs (Sequencer.create ⟨true, true, true⟩ >>= fun fresh => fresh.obeyAll [.up, .up, .down])
        trace (.ok (turns.map Turn.reply, ⟨⟨true, true, true⟩, .off⟩)) ∧
      turns.map Turn.reply = [.error (.regulators ⟨"regulator-fault"⟩), .ok (), .ok ()] ∧
      Spells ⟨true, true, true⟩ trace (turns.flatMap Turn.script) ∧
      (trace.filter (·.call.acts)).length = 25 := by
  let attempt := (Sequencer.create ⟨true, true, true⟩ >>= fun fresh =>
    fresh.obeyAll [.up, .up, .down]).run oneAttempt { plan := { regulators := true } }
  have run := runs_run oneAttempt (Sequencer.create ⟨true, true, true⟩ >>= fun fresh =>
    fresh.obeyAll [.up, .up, .down]) { plan := { regulators := true } }
  have ended : attempt.outcome =
      .ok ([.error (.regulators ⟨"regulator-fault"⟩), .ok (), .ok ()],
        ⟨⟨true, true, true⟩, .off⟩) := by
    decide +kernel
  have long : (attempt.events.filter (·.call.acts)).length = 25 := by decide +kernel
  obtain ⟨turns, sequencer, -, outcome, spells, -⟩ := spells_blocks run
  obtain ⟨replies, rfl⟩ := Prod.mk.inj (Except.ok.inj (outcome.symm.trans ended))
  exact ⟨attempt.events, turns, outcome ▸ run, replies, spells, long⟩

end ImageSensor
