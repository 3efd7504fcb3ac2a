import ImageSensor.Proofs.Session.Widths

/-!
# The Closest Mode Is Negotiated

Whatever size is asked for, the answer is the size of the supported mode that is closest to it:
neither the difference in width nor the one in height nor their sum wraps around, and of two modes
that are equally close the one that is listed first is taken. Choosing a mode, listing the modes and
reporting the active one are different functions; they speak of the same mode.

## Main statements

- `Catalog.IsClosest`: a mode is the closest to a size, and the first such mode.
- `Catalog.IsClosest.unique`: there is only one.
- `Catalog.isClosest_bestFit`: that one is chosen.
- `Session.closest_negotiated`: it is what is negotiated, listed and used in any session.
-/

namespace ImageSensor

open ImageSensor.Action ImageSensor.Device

/-! ## §1 The closest mode -/

namespace Catalog

variable {width height : UInt32} {index index' : Nat} {mode mode' : Mode}

/-- How far a mode is from a size: the difference in width plus the difference in height, both
between integers. -/
def deviation (width height : UInt32) (mode : Mode) : Nat :=
  ((width.toNat : Int) - mode.width.toNat).natAbs +
    ((height.toNat : Int) - mode.height.toNat).natAbs

/-- The mode at a position is closer to a size than all modes in front of it, and no other is closer
than that. -/
structure IsClosest (width height : UInt32) (index : Nat) (mode : Mode) : Prop where
  listed : modes[index]? = some mode
  least : ∀ other ∈ modes, deviation width height mode ≤ deviation width height other
  earliest : ∀ position other, position < index → modes[position]? = some other →
    deviation width height mode < deviation width height other

theorem distance_eq_deviation (width height : UInt32) (mode : Mode) :
    distance width height mode = deviation width height mode := by
  unfold distance gap deviation
  omega

/-- Of several modes the first of the closest ones is taken. -/
theorem exists_split_closest (width height : UInt32) (best : Mode) (rest : List Mode) :
    ∃ before after, best :: rest = before ++ closest width height best rest :: after ∧
      (∀ mode ∈ before, distance width height (closest width height best rest) <
        distance width height mode) ∧
      ∀ mode ∈ best :: rest, distance width height (closest width height best rest) ≤
        distance width height mode := by
  induction rest generalizing best with
  | nil => exact ⟨[], [], rfl, nofun, by simp [closest]⟩
  | cons mode rest ih =>
    rw [closest]
    split
    case isTrue closer =>
      obtain ⟨before, after, split, farther, least⟩ := ih mode
      have lead := Nat.lt_of_le_of_lt (least mode List.mem_cons_self) closer
      refine ⟨best :: before, after, congrArg (best :: ·) split, ?_, ?_⟩
      · exact List.forall_mem_cons.2 ⟨lead, farther⟩
      · exact List.forall_mem_cons.2 ⟨Nat.le_of_lt lead, least⟩
    case isFalse behind =>
      obtain ⟨before, after, split, farther, least⟩ := ih best
      obtain ⟨first, later⟩ := List.forall_mem_cons.1 least
      have second := Nat.le_trans first (Nat.le_of_not_lt behind)
      have all : ∀ other ∈ best :: mode :: rest,
          distance width height (closest width height best rest) ≤ distance width height other :=
        List.forall_mem_cons.2 ⟨first, List.forall_mem_cons.2 ⟨second, later⟩⟩
      -- the new candidate stands behind the best one so far, wherever that one stands
      cases before with
      | nil =>
        obtain ⟨same, -⟩ := List.cons.inj split
        exact ⟨[], mode :: rest, by rw [← same]; rfl, nofun, all⟩
      | cons head before =>
        obtain ⟨rfl, others⟩ := List.cons.inj split
        obtain ⟨lead, farther⟩ := List.forall_mem_cons.1 farther
        have strict := Nat.lt_of_lt_of_le lead (Nat.le_of_not_lt behind)
        refine ⟨best :: mode :: before, after, ?_, ?_, all⟩
        · exact congrArg (fun rest => best :: mode :: rest) others
        · exact List.forall_mem_cons.2 ⟨lead, List.forall_mem_cons.2 ⟨strict, farther⟩⟩

/-- The mode that is chosen is the closest one. -/
theorem isClosest_bestFit (width height : UInt32) :
    ∃ index, IsClosest width height index (bestFit width height) := by
  obtain ⟨before, after, split, farther, least⟩ :=
    exists_split_closest width height fullFrame [binned]
  have split : modes = before ++ bestFit width height :: after := split
  simp only [distance_eq_deviation] at farther least
  refine ⟨before.length, ?_, least, ?_⟩
  · rw [split, List.getElem?_append_right (Nat.le_refl _), Nat.sub_self]
    rfl
  · intro position other earlier here
    rw [split, List.getElem?_append_left earlier] at here
    exact farther other (List.mem_of_getElem? here)

/-- No two modes are the closest to a size. -/
theorem IsClosest.unique (one : IsClosest width height index mode)
    (two : IsClosest width height index' mode') : index = index' ∧ mode = mode' := by
  have member := List.mem_of_getElem? one.listed
  have member' := List.mem_of_getElem? two.listed
  rcases Nat.lt_trichotomy index index' with earlier | rfl | later
  · exact absurd (two.earliest _ _ earlier one.listed) (Nat.not_lt.2 (one.least _ member'))
  · exact ⟨rfl, Option.some.inj (one.listed.symm.trans two.listed)⟩
  · exact absurd (one.earliest _ _ later two.listed) (Nat.not_lt.2 (two.least _ member))

/-- The supported modes have different sizes. -/
theorem eq_of_width (supported : mode ∈ modes) (supported' : mode' ∈ modes)
    (same : mode.width = mode'.width) : mode = mode' := by
  simp only [modes, List.mem_cons, List.not_mem_nil, or_false] at supported supported'
  rcases supported with rfl | rfl <;> rcases supported' with rfl | rfl <;>
    first | rfl | exact absurd same (by decide)

/-- The size of a supported mode leads back to that mode. -/
theorem bestFit_self (supported : mode ∈ modes) : bestFit mode.width mode.height = mode := by
  obtain ⟨index, closest⟩ := isClosest_bestFit mode.width mode.height
  -- nothing deviates less from a size than the mode that has it
  have least := closest.least mode supported
  have none : deviation mode.width mode.height mode = 0 := by simp [deviation]
  refine eq_of_width (bestFit_mem _ _) supported (UInt32.toNat_inj.1 ?_)
  rw [none, deviation] at least
  omega

end Catalog

/-! ## §2 What a device says about a mode -/

namespace Device

/-- The device lists the mode at a position, under this code and under no other. -/
structure Lists (device : Device) (code : BusCode) (index : Nat) (mode : Mode) : Prop where
  size : ∀ other, device.sizeAt? index other =
    if other = code then some ⟨mode.width, mode.width, mode.height, mode.height⟩ else none
  interval : ∀ other, device.intervalAt? index other =
    if other = code then some ⟨mode.width, mode.height, mode.interval⟩ else none

/-- The device streams with the mode, and says so. -/
structure Uses (device : Device) (code : BusCode) (mode : Mode) : Prop where
  selected : device.mode = mode
  format : device.format .active = ⟨mode.width, mode.height, code⟩
  interval : device.frameInterval = mode.interval
  area : ∃ area, mode.cropBounds = .ok area ∧ device.cropBounds = .ok area

variable {device : Device} {index : Nat} {mode : Mode}

theorem lists_of_listed (device : Device) (listed : Catalog.modes[index]? = some mode) :
    device.Lists device.busCode index mode := by
  have here (other : BusCode) :
      device.modeAt? index other = if other = device.busCode then some mode else none := by
    rw [modeAt?, listed]
  constructor
  · intro other
    rw [sizeAt?, here]
    split <;> rfl
  · intro other
    rw [intervalAt?, here]
    split <;> rfl

theorem uses_mode (regular : device.Regular) : device.Uses device.busCode device.mode := by
  obtain ⟨area, shown⟩ := cropBounds_ok regular
  exact ⟨rfl, rfl, rfl, area, shown, shown⟩

end Device

/-! ## §3 Sessions -/

namespace Session

variable {configuration : Configuration} {wiring : Wiring} {trace : List Event}
  {steps : List Step} {device : Device} {events : List Event}

/-- The order of the colours is the configured one. -/
theorem busCode_eq (session : Session configuration wiring trace steps device) :
    device.busCode = configuration.orientation.busCode := by
  rw [busCode, session.configuration_eq]

/-- Negotiating ends with the chosen mode, which is then used if it is to be active. -/
theorem exists_negotiated (session : Session configuration wiring trace steps device)
    {width height : UInt32} {kind : FormatKind} {ended : Except Trap (Reply × Device)}
    (run : Runs (device.perform (.setFormat width height kind)) events ended) :
    ∃ device', ended = .ok (.negotiated ((Catalog.bestFit width height).format
        configuration.orientation.busCode), device') ∧
      device'.format kind =
        (Catalog.bestFit width height).format configuration.orientation.busCode ∧
      (kind = .active → device'.mode = Catalog.bestFit width height) := by
  obtain ⟨reply, device', rfl, session'⟩ := session.exists_reply run
  rw [← session.busCode_eq]
  cases performed_of_runs run with
  | tryFormat => exact ⟨_, rfl, rfl, nofun⟩
  | useFormat selected =>
    refine ⟨device', rfl, ?_, fun _ => selected.mode_eq⟩
    rw [Device.format, selected.mode_eq, session'.busCode_eq, session.busCode_eq]

/-- In every session, asking for a size is answered with the size of the closest mode and the code
of the orientation. The device lists them at the position of the mode, and makes them its format of
the kind that was asked for. If this is the active one, the device uses the mode, whether its writes
have arrived or not. Whoever asks for the size of the mode, in any session of the configuration and
for any kind, is given the same answer again. -/
theorem closest_negotiated (session : Session configuration wiring trace steps device)
    {width height : UInt32} {kind : FormatKind} {ended : Except Trap (Reply × Device)}
    (run : Runs (device.perform (.setFormat width height kind)) events ended) :
    ∃ index mode device', Catalog.IsClosest width height index mode ∧
      ended = .ok (.negotiated ⟨mode.width, mode.height, configuration.orientation.busCode⟩,
        device') ∧
      device'.Lists configuration.orientation.busCode index mode ∧
      device'.format kind = ⟨mode.width, mode.height, configuration.orientation.busCode⟩ ∧
      (kind = .active → device'.Uses configuration.orientation.busCode mode) ∧
      ∀ {wiring' trace' steps' later}, Session configuration wiring' trace' steps' later →
        ∀ kind' events' ended',
          Runs (later.perform (.setFormat mode.width mode.height kind')) events' ended' →
          ∃ left, ended' = .ok (.negotiated
            ⟨mode.width, mode.height, configuration.orientation.busCode⟩, left) := by
  obtain ⟨index, closest⟩ := Catalog.isClosest_bestFit width height
  obtain ⟨device', rfl, format, active⟩ := session.exists_negotiated run
  have session' := session.performed run
  have self := Catalog.bestFit_self (Catalog.bestFit_mem width height)
  -- from here on it does not matter how the mode was found
  generalize Catalog.bestFit width height = mode at *
  rw [← session'.busCode_eq] at format ⊢
  have lists := device'.lists_of_listed closest.listed
  refine ⟨index, mode, device', closest, rfl, lists, format, ?_, ?_⟩
  · intro used
    have uses := uses_mode session'.regular
    rwa [active used] at uses
  · intro _ _ _ later again kind' events' ended' run'
    obtain ⟨left, rfl, -, -⟩ := again.exists_negotiated run'
    rw [self, session'.busCode_eq]
    exact ⟨left, rfl⟩

/-- A size halfway between the two modes is asked for while the binned one streams, on a bus that
takes no write: the full frame is listed first, and is negotiated. -/
theorem closest_negotiated_halfway :
    ∃ trace steps events device device' index,
      Session {} ⟨true, true, true⟩ trace steps device ∧
      device.stream = .streaming ∧ device.mode = Catalog.binned ∧
      Runs (device.perform (.setFormat 3156 2340 .active)) events
        (.ok (.negotiated ⟨4208, 3120, .sgrbg10⟩, device')) ∧
      Catalog.IsClosest 3156 2340 index Catalog.fullFrame ∧ device'.mode = Catalog.fullFrame ∧
      Catalog.deviation 3156 2340 Catalog.binned = Catalog.deviation 3156 2340 Catalog.fullFrame ∧
      delivered events = [] := by
  obtain ⟨_, _, device', session, shown⟩ := exists_session_of_rehearse {} ⟨true, true, true⟩
    [({}, .setFormat 1 1 .active), ({}, .start),
      ({ allWrites := true }, .setFormat 3156 2340 .active)]
    (fun _ steps device => steps.getLast?.any fun step =>
      step.operation = .setFormat 3156 2340 .active && step.before.stream = .streaming &&
        step.before.mode = Catalog.binned && device.mode = Catalog.fullFrame &&
        delivered step.events = [])
    (by decide +kernel)
  cases session with
  | created run => cases shown
  | @performed trace events steps device _ operation reply session run =>
    simp only [List.getLast?_concat, Option.any_some, Bool.and_eq_true, decide_eq_true_eq] at shown
    obtain ⟨⟨⟨⟨rfl, streaming⟩, binned⟩, full⟩, lost⟩ := shown
    obtain ⟨index, mode, _, closest, ended, -, -, active, -⟩ := closest_negotiated session run
    cases ended
    obtain rfl : mode = Catalog.fullFrame := (active rfl).selected.symm.trans full
    exact ⟨trace, steps, events, device, device', index, session, streaming, binned, run, closest,
      full, by decide, lost⟩

end Session

end ImageSensor
