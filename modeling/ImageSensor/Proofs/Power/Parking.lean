import ImageSensor.Proofs.Power.Blocks

/-!
# What an Unpowered Sensor Is Left With

Powering down parks the sensor: the power enable pin goes low and the interface pins get their sleep
profile. A power-up that breaks off turns back the clock and nothing else, and powering down a
sensor that is off does nothing. So the pin stays high and the profile active, until a later
power-up goes through and is taken back.

## Main statements

- `PowerSession.leaves`: pin and profile are where the last block left them.
- `PowerSession.standing`: which block that was can be told from the power state and from what the
  last power-up was answered.
- `parked_unless_broken_off`: a sensor that is off is parked, except after a power-up that failed.
-/

namespace ImageSensor

open ImageSensor.Action

/-! ## §1 Pin and profile -/

/-- The level to which a call drives the power enable pin. -/
def Call.level? : Call → Option Bool
  | .drive .powerEnable high => some high
  | _ => none

/-- The profile that a call selects. -/
def Call.profile? : Call → Option PinProfile
  | .selectPins profile => some profile
  | _ => none

/-- A call that drives a pin or selects a profile. -/
def Call.places : Call → Bool
  | .drive _ _ | .selectPins _ => true
  | _ => false

theorem Call.acts_of_places {call : Call} (places : call.places = true) : call.acts = true := by
  cases call with
  | drive | selectPins => rfl
  | _ => exact nomatch places

theorem Call.level?_eq_none {call : Call} (elsewhere : call.places = false) :
    call.level? = none := by
  cases call with
  | drive | selectPins => exact nomatch elsewhere
  | _ => rfl

theorem Call.profile?_eq_none {call : Call} (elsewhere : call.places = false) :
    call.profile? = none := by
  cases call with
  | drive | selectPins => exact nomatch elsewhere
  | _ => rfl

/-- The pins and profiles of the trace could all be set. -/
def Obliging (trace : List Event) : Prop :=
  ∀ event ∈ trace, event.call.places = true → event.succeeded = true

instance (trace : List Event) : Decidable (Obliging trace) :=
  inferInstanceAs (Decidable (∀ event ∈ trace, event.call.places = true → event.succeeded = true))

/-- What was done last, of the calls that succeeded. -/
def lastDone {α : Type} (reading : Call → Option α) (trace : List Event) : Option α :=
  (trace.filterMap fun event => if event.succeeded then reading event.call else none).getLast?

/-- The level last driven on the power enable pin. -/
def lastLevel (trace : List Event) : Option Bool :=
  lastDone Call.level? trace

/-- The profile last selected. -/
def lastProfile (trace : List Event) : Option PinProfile :=
  lastDone Call.profile? trace

/-- Nothing is left switched on: the power enable pin was driven low last and the sleep profile
selected last, as far as they were driven and selected at all. -/
structure Parked (trace : List Event) : Prop where
  level : ∀ high, lastLevel trace = some high → high = false
  profile : ∀ profile, lastProfile trace = some profile → profile = .sleep

/-- The power enable pin, if wired, was driven high last, and the active profile selected last. -/
structure Raised (wiring : Wiring) (trace : List Event) : Prop where
  level : lastLevel trace = if wiring.powerEnable then some true else none
  profile : lastProfile trace = some .active

/-! ## §2 What a block leaves behind -/

namespace Block

/-- The level at which a block leaves the power enable pin. -/
def level : Block → Bool
  | on | clockFailed _ | suppliesFailed _ => true
  | off => false

/-- The profile that a block leaves selected. -/
def profile : Block → PinProfile
  | on | clockFailed _ | suppliesFailed _ => .active
  | off => .sleep

end Block

/-- What the script asks for last. -/
def lastAsked {α : Type} (reading : Call → Option α) (wiring : Wiring) (script : List Beat) :
    Option α :=
  ((script.filter (·.call.wired wiring)).filterMap fun beat => reading beat.call).getLast?

/-- Where all pins and profiles could be set, what was done last is what was asked for last. -/
theorem Spells.lastDone_eq {α : Type} {reading : Call → Option α} {wiring : Wiring}
    {trace : List Event} {script : List Beat} (spells : Spells wiring trace script)
    (obliging : Obliging trace)
    (elsewhere : ∀ {call : Call}, call.places = false → reading call = none) :
    lastDone reading trace = lastAsked reading wiring script := by
  -- calls that count have succeeded, and the others have nothing to read
  have done : (trace.filterMap fun event => if event.succeeded then reading event.call else none) =
      trace.filterMap fun event => reading event.call := by
    refine List.filterMap_congr fun event member => ?_
    cases places : event.call.places with
    | true => rw [if_pos (obliging event member places)]
    | false => rw [elsewhere places, ite_self]
  have still : ∀ call, call.acts = false → reading call = none := fun call idle =>
    elsewhere (Bool.eq_false_iff.2 fun places => by simp [Call.acts_of_places places] at idle)
  rw [lastDone, lastAsked, done, spells.filterMap_eq still]

theorem lastAsked_append {α : Type} (reading : Call → Option α) (wiring : Wiring)
    (first second : List Beat) :
    lastAsked reading wiring (first ++ second) =
      (lastAsked reading wiring second).or (lastAsked reading wiring first) := by
  unfold lastAsked
  rw [List.filter_append, List.filterMap_append, List.getLast?_append]

theorem Block.lastAsked_level (block : Block) (wiring : Wiring) :
    lastAsked Call.level? wiring block.script =
      if wiring.powerEnable then some block.level else none := by
  -- reset and power-down stand between the calls that count, so they are told apart as well
  obtain ⟨power, reset, down⟩ := wiring
  cases block <;> cases power <;> cases reset <;> cases down <;> rfl

theorem Block.lastAsked_profile (block : Block) (wiring : Wiring) :
    lastAsked Call.profile? wiring block.script = some block.profile := by
  obtain ⟨power, reset, down⟩ := wiring
  cases block <;> cases power <;> cases reset <;> cases down <;> rfl

/-- The last block of all turns. -/
def lastBlock (turns : List Turn) : Option Block :=
  (turns.filterMap Turn.block).getLast?

theorem lastBlock_concat (turns : List Turn) (turn : Turn) :
    lastBlock (turns ++ [turn]) = turn.block.or (lastBlock turns) :=
  getLast?_filterMap_concat Turn.block turns turn

/-- Where every block asks for something, what is asked for last is up to the last block. -/
theorem lastAsked_turns {α : Type} {reading : Call → Option α} {wiring : Wiring}
    {left : Block → α} (asked : Bool)
    (blocks : ∀ block, lastAsked reading wiring block.script =
      if asked then some (left block) else none)
    (turns : List Turn) :
    lastAsked reading wiring (turns.flatMap Turn.script) =
      if asked then (lastBlock turns).map left else none := by
  induction turns using List.reverseRecOn with
  | nil => cases asked <;> rfl
  | append_singleton turns turn ih =>
    rw [List.flatMap_append, List.flatMap_singleton, lastAsked_append, ih, lastBlock_concat]
    obtain ⟨command, none | block⟩ := turn
    · rfl
    · rw [show Turn.script ⟨command, some block⟩ = block.script from rfl, blocks]
      cases asked <;> rfl

/-! ## §3 What the last power-up was answered -/

/-- The replies to power-ups. -/
def attempt? : PowerCommand × Except PowerError Unit → Option (Except PowerError Unit)
  | (.up, reply) => some reply
  | (.down, _) => none

/-- What the last power-up was answered. -/
def lastAttempt (history : List (PowerCommand × Except PowerError Unit)) :
    Option (Except PowerError Unit) :=
  (history.filterMap attempt?).getLast?

/-- A turn as the caller sees it. -/
def Turn.seen (turn : Turn) : PowerCommand × Except PowerError Unit :=
  (turn.command, turn.reply)

theorem lastAttempt_concat (history : List (PowerCommand × Except PowerError Unit))
    (last : PowerCommand × Except PowerError Unit) :
    lastAttempt (history ++ [last]) = (attempt? last).or (lastAttempt history) :=
  getLast?_filterMap_concat attempt? history last

/-- How power state, last answer to a power-up and last block go together. -/
inductive Standing : PowerState → Option (Except PowerError Unit) → Option Block → Prop where
  | fresh : Standing .off none none
  | powered : Standing .on (some (.ok ())) (some .on)
  | clockFailed (cause : Cause) :
      Standing .off (some (.error (.clock cause))) (some (.clockFailed cause))
  | suppliesFailed (cause : Cause) :
      Standing .off (some (.error (.regulators cause))) (some (.suppliesFailed cause))
  | lowered : Standing .off (some (.ok ())) (some .off)

/-- A turn that fits leads from one standing to another. -/
theorem Standing.next {power : PowerState} {attempt : Option (Except PowerError Unit)}
    {block : Option Block} {turn : Turn} (standing : Standing power attempt block)
    (fits : turn.Fits power) :
    Standing (turn.switch.getD power) ((attempt? turn.seen).or attempt) (turn.block.or block) := by
  cases fits with
  | powered => exact .powered
  | clockFailed cause => exact .clockFailed cause
  | suppliesFailed cause => exact .suppliesFailed cause
  | alreadyOn =>
    -- only one standing has the sensor on, and another success does not change it
    cases standing
    exact .powered
  | lowered =>
    cases standing
    exact .lowered
  | alreadyOff => exact standing

namespace PowerSession

variable {wiring : Wiring} {trace : List Event} {turns : List Turn} {sequencer : Sequencer}

theorem standing (session : PowerSession wiring trace turns sequencer) :
    Standing sequencer.power (lastAttempt (turns.map Turn.seen)) (lastBlock turns) := by
  induction session with
  | created quiet => exact .fresh
  | obeyed _ obeyed ih =>
    rw [obeyed.power, List.map_append, List.map_singleton, lastAttempt_concat, lastBlock_concat]
    exact ih.next obeyed.fits

/-- Pin and profile are where the last block left them. -/
theorem leaves (session : PowerSession wiring trace turns sequencer) (obliging : Obliging trace) :
    lastLevel trace = (if wiring.powerEnable then (lastBlock turns).map Block.level else none) ∧
      lastProfile trace = (lastBlock turns).map Block.profile := by
  have level := session.spells.lastDone_eq obliging Call.level?_eq_none
  have profile := session.spells.lastDone_eq obliging Call.profile?_eq_none
  rw [lastAsked_turns wiring.powerEnable fun block => block.lastAsked_level wiring] at level
  rw [lastAsked_turns true fun block => block.lastAsked_profile wiring] at profile
  exact ⟨level, profile⟩

end PowerSession

/-! ## §4 Parked or left raised -/

variable {wiring : Wiring} {commands : List PowerCommand} {trace : List Event}

/-- Where pins and profiles can be set, a sensor that is off is parked unless the last power-up
broke off. If it did, the pin is still high and the profile still active: the caller was told of the
failure, and powering down a sensor that is off does nothing. -/
theorem parked_unless_broken_off
    {outcome : Except Trap (List (Except PowerError Unit) × Sequencer)}
    (run : Runs (Sequencer.create wiring >>= fun fresh => fresh.obeyAll commands) trace outcome)
    (obliging : Obliging trace) :
    ∃ replies sequencer, outcome = .ok (replies, sequencer) ∧ (sequencer.power = .off →
      (∀ e, lastAttempt (commands.zip replies) = some (.error e) → Raised wiring trace) ∧
      ((∀ e, lastAttempt (commands.zip replies) ≠ some (.error e)) → Parked trace)) := by
  obtain ⟨turns, sequencer, rfl, outcome, session⟩ := PowerSession.of_runs run
  refine ⟨turns.map Turn.reply, sequencer, outcome, fun off => ?_⟩
  have standing := session.standing
  obtain ⟨level, profile⟩ := session.leaves obliging
  have seen : (turns.map Turn.command).zip (turns.map Turn.reply) = turns.map Turn.seen :=
    List.zip_map'
  rw [off] at standing
  rw [seen]
  generalize lastAttempt (turns.map Turn.seen) = attempt at standing ⊢
  generalize lastBlock turns = block at standing level profile
  -- a sensor that is off was never powered, broke off, or was powered down
  cases standing with
  | fresh =>
    refine ⟨nofun, fun _ => ⟨fun high driven => ?_, fun chosen selected => ?_⟩⟩
    · rw [level, Option.map_none, ite_self] at driven
      exact nomatch driven
    · exact nomatch profile.symm.trans selected
  | clockFailed | suppliesFailed =>
    exact ⟨fun _ _ => ⟨level, profile⟩, fun fine => absurd rfl (fine _)⟩
  | lowered =>
    refine ⟨nofun, fun _ => ⟨fun high driven => ?_, fun chosen selected => ?_⟩⟩
    · rw [level] at driven
      split at driven
      · cases driven
        rfl
      · exact nomatch driven
    · cases profile.symm.trans selected
      rfl

/-- A bench on which a fully wired sequencer obeys commands. -/
def tried (plan : FaultPlan) (commands : List PowerCommand) :
    Run Bench (List (Except PowerError Unit) × Sequencer) :=
  (Sequencer.create ⟨true, true, true⟩ >>= fun fresh => fresh.obeyAll commands).run
    Bench.respond { plan }

theorem runs_tried (plan : FaultPlan) (commands : List PowerCommand) :
    Runs (Sequencer.create ⟨true, true, true⟩ >>= fun fresh => fresh.obeyAll commands)
      (tried plan commands).events (tried plan commands).outcome :=
  runs_run _ _ _

/-- Supplies that fail leave the pin high and the profile active even after a power-down; where
nothing fails, powering up and down leaves both parked. -/
theorem raised_refused_supplies :
    (tried { regulators := true } [.up, .down]).outcome =
        .ok ([.error (.regulators ⟨"regulator-fault"⟩), .ok ()], ⟨⟨true, true, true⟩, .off⟩) ∧
      Raised ⟨true, true, true⟩ (tried { regulators := true } [.up, .down]).events ∧
      (tried {} [.up, .down]).outcome = .ok ([.ok (), .ok ()], ⟨⟨true, true, true⟩, .off⟩) ∧
      Parked (tried {} [.up, .down]).events := by
  have refused : (tried { regulators := true } [.up, .down]).outcome =
      .ok ([.error (.regulators ⟨"regulator-fault"⟩), .ok ()], ⟨⟨true, true, true⟩, .off⟩) := by
    decide +kernel
  have done : (tried {} [.up, .down]).outcome =
      .ok ([.ok (), .ok ()], ⟨⟨true, true, true⟩, .off⟩) := by
    decide +kernel
  refine ⟨refused, ?_, done, ?_⟩
  · obtain ⟨replies, sequencer, outcome, settled⟩ :=
      parked_unless_broken_off (runs_tried { regulators := true } [.up, .down]) (by decide +kernel)
    cases outcome.symm.trans refused
    exact (settled rfl).1 _ rfl
  · obtain ⟨replies, sequencer, outcome, settled⟩ :=
      parked_unless_broken_off (runs_tried {} [.up, .down]) (by decide +kernel)
    cases outcome.symm.trans done
    exact (settled rfl).2 nofun

/-- Pins and profiles can all be set and the sensor is off, with its power enable pin driven high
last and the active profile selected last. -/
theorem off_and_raised :
    ∃ trace replies, Runs (Sequencer.create ⟨true, true, true⟩ >>= fun fresh => fresh.obeyAll [.up])
        trace (.ok (replies, ⟨⟨true, true, true⟩, .off⟩)) ∧
      Obliging trace ∧ lastLevel trace = some true ∧ lastProfile trace = some .active := by
  have refused : (tried { regulators := true } [.up]).outcome =
      .ok ([.error (.regulators ⟨"regulator-fault"⟩)], ⟨⟨true, true, true⟩, .off⟩) := by
    decide +kernel
  have run := runs_tried { regulators := true } [.up]
  rw [refused] at run
  exact ⟨_, _, run, by decide +kernel, by decide +kernel, by decide +kernel⟩

end ImageSensor
