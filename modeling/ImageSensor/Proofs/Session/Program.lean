import ImageSensor.Proofs.Session.Transactions

/-!
# The Program in the Sensor

A sensor streams what it was last programmed for. A device that streams has programmed the mode
that was active when the stream was last switched on; negotiating another active format since then
changes the mode of the device, but not the program in the sensor.

## Main statements

- `LatestProgram.mode_unique`: the latest program tells which mode it is for.
- `Performed.launches`: switching the stream on programs the active mode in full.
- `Session.latest_program`: what the sensor of a streaming device is programmed for, and when that
  is the active mode.
-/

namespace ImageSensor

open ImageSensor.Action

/-! ## §1 Programs among the frames received -/

/-- The frames that program the sensor for a mode: the orientation, then the register table. -/
def Mode.program (mode : Mode) (orientation : Orientation) : List (List UInt8) :=
  (Bus.tableWrites mode.table orientation).map RegisterWrite.frame

/-- A program begins with the orientation: a two byte write to mode select. -/
def BeginsProgram (frame : List UInt8) : Prop :=
  frame.length = 4 ∧ frame.take 2 = addressBytes Register.modeSelect

instance (frame : List UInt8) : Decidable (BeginsProgram frame) :=
  inferInstanceAs (Decidable (_ ∧ _))

/-- The frames hold the program in full, and no other program was begun behind it. -/
def LatestProgram (program received : List (List UInt8)) : Prop :=
  ∃ earlier later, received = earlier ++ program ++ later ∧ ∀ frame ∈ later, ¬ BeginsProgram frame

variable {program received : List (List UInt8)} {orientation : Orientation}

theorem LatestProgram.append {more : List (List UInt8)} (latest : LatestProgram program received)
    (other : ∀ frame ∈ more, ¬ BeginsProgram frame) : LatestProgram program (received ++ more) := by
  obtain ⟨earlier, later, rfl, quiet⟩ := latest
  refine ⟨earlier, later ++ more, List.append_assoc _ _ _, fun frame member => ?_⟩
  exact (List.mem_append.1 member).elim (quiet frame) (other frame)

theorem LatestProgram.prepend (latest : LatestProgram program received)
    (before : List (List UInt8)) : LatestProgram program (before ++ received) := by
  obtain ⟨earlier, later, rfl, quiet⟩ := latest
  exact ⟨before ++ earlier, later, by simp, quiet⟩

/-- A program that was just received is the latest. -/
theorem latestProgram_self (program : List (List UInt8)) : LatestProgram program program :=
  ⟨[], [], by simp, nofun⟩

/-- What follows the last element with a property is determined by the list. -/
theorem eq_of_last {α : Type} {special : α → Prop} {first second first' second' : List α}
    {a b : α} (same : first ++ a :: second = first' ++ b :: second') (ha : special a)
    (hb : special b) (plain : ∀ x ∈ second, ¬ special x) (plain' : ∀ x ∈ second', ¬ special x) :
    second = second' := by
  -- the two special elements are the same one: each would otherwise stand behind the other
  rcases List.append_eq_append_iff.1 same with ⟨between, rfl, split⟩ | ⟨between, rfl, split⟩
  · cases between with
    | nil => exact (List.cons.inj split).2
    | cons head tail =>
      obtain ⟨-, rfl⟩ := List.cons.inj split
      exact absurd hb (plain b (by simp))
  · cases between with
    | nil => exact (List.cons.inj split).2.symm
    | cons head tail =>
      obtain ⟨-, rfl⟩ := List.cons.inj split
      exact absurd ha (plain' a (by simp))

/-- The frames of a register table. -/
def RegisterTable.frames (table : RegisterTable) : List (List UInt8) :=
  (table.entries.map TableEntry.write).map RegisterWrite.frame

theorem beginsProgram_orientation (orientation : Orientation) :
    BeginsProgram (Bus.orientationWrite orientation).frame := by
  cases orientation <;> decide

/-- No register table of the catalog touches mode select. -/
theorem not_beginsProgram_table {mode : Mode} (supported : mode ∈ Catalog.modes) :
    ∀ frame ∈ mode.table.frames, ¬ BeginsProgram frame := by
  have all : ∀ mode ∈ Catalog.modes, ∀ frame ∈ mode.table.frames, ¬ BeginsProgram frame := by
    decide +kernel
  exact all mode supported

/-- The tables of the catalog differ in their first frame already. -/
theorem mode_eq_of_frames {mode mode' : Mode} (supported : mode ∈ Catalog.modes)
    (supported' : mode' ∈ Catalog.modes)
    (same : mode.table.frames.head? = mode'.table.frames.head?) : mode = mode' := by
  have all : ∀ mode ∈ Catalog.modes, ∀ mode' ∈ Catalog.modes,
      mode.table.frames.head? = mode'.table.frames.head? → mode = mode' := by
    decide +kernel
  exact all mode supported mode' supported' same

/-- The latest program tells which mode it is for. -/
theorem LatestProgram.mode_unique {mode mode' : Mode} (supported : mode ∈ Catalog.modes)
    (supported' : mode' ∈ Catalog.modes)
    (latest : LatestProgram (mode.program orientation) received)
    (latest' : LatestProgram (mode'.program orientation) received) : mode = mode' := by
  obtain ⟨earlier, later, rfl, quiet⟩ := latest
  obtain ⟨earlier', later', same, quiet'⟩ := latest'
  have begins := beginsProgram_orientation orientation
  have plain := not_beginsProgram_table supported
  have plain' := not_beginsProgram_table supported'
  simp only [Mode.program, Bus.tableWrites, List.map_cons, List.append_assoc, List.cons_append]
    at same
  -- behind the last orientation stands a table, and what was received after it
  have rest : mode.table.frames ++ later = mode'.table.frames ++ later' := by
    refine eq_of_last same begins begins ?_ ?_
    · intro frame member
      exact (List.mem_append.1 member).elim (plain frame) (quiet frame)
    · intro frame member
      exact (List.mem_append.1 member).elim (plain' frame) (quiet' frame)
  -- the tables differ in their first frame, so that frame tells them apart
  have nonempty : ∀ mode ∈ Catalog.modes, mode.table.frames ≠ [] := by decide +kernel
  obtain ⟨head, tail, table⟩ := List.exists_cons_of_ne_nil (nonempty mode supported)
  obtain ⟨head', tail', table'⟩ := List.exists_cons_of_ne_nil (nonempty mode' supported')
  rw [table, table'] at rest
  obtain ⟨rfl, -⟩ := List.cons.inj rest
  exact mode_eq_of_frames supported supported' (by rw [table, table']; rfl)

/-! ## §2 Frames that begin no program -/

theorem addressBytes_inj {address address' : RegisterAddress}
    (same : addressBytes address = addressBytes address') : address = address' := by
  have read (address : RegisterAddress) : ofBigEndian (addressBytes address) = address.toNat :=
    ofBigEndian_bigEndian_of_lt address.toNat_lt
  rw [← UInt16.toNat_inj, ← read address, same, read address']

/-- A control is written to a register of its own. -/
theorem RegisterWrite.ForControl.not_beginsProgram {write : RegisterWrite}
    (forControl : write.ForControl) : ¬ BeginsProgram write.frame := by
  rintro ⟨-, front⟩
  have start : write.frame.take 2 = addressBytes write.address :=
    List.take_left' (by simp [addressBytes])
  -- an orientation write has the length of a control write, but no control is at its address
  have address := addressBytes_inj (start.symm.trans front)
  rw [ForControl, address] at forControl
  exact absurd forControl (by decide)

theorem not_beginsProgram_enable :
    ∀ frame ∈ Device.enableWrites.map RegisterWrite.frame, ¬ BeginsProgram frame := by
  decide

/-! ## §3 What the parts of an operation deliver -/

namespace Device

variable {device device' : Device} {events : List Event} {outcome : Except DeviceError Unit}

theorem Acquired.delivered_eq_nil (acquired : device.Acquired events outcome device') :
    delivered events = [] :=
  delivered_eq_nil_of_transactions acquired.transactions_eq_nil

theorem Released.delivered_eq_nil (released : device.Released events device') :
    delivered events = [] :=
  delivered_eq_nil_of_transactions released.transactions_eq_nil

theorem PowerSet.delivered_eq_nil {on : Bool} (set : device.PowerSet on events outcome device') :
    delivered events = [] := by
  cases set with
  | unchanged => rfl
  | refused fresh acquired => exact acquired.delivered_eq_nil
  | requested fresh acquired => exact acquired.delivered_eq_nil
  | withdrawn requested released => exact released.delivered_eq_nil

theorem Probed.delivered_eq_nil {outcome : Except DeviceError ChipIdentity}
    (probed : device.Probed events outcome device') : delivered events = [] := by
  have reading {bus : Bus} {second : List Event} {identity}
      (identified : Runs bus.identify second identity) : delivered second = [] :=
    ImageSensor.delivered_eq_nil fun event member =>
      ((Bus.identify_within bus).mem identified event member).2
  cases probed with
  | asleep asleep => rfl
  | unpowered awake acquired => exact acquired.delivered_eq_nil
  | rejected awake acquired identified released =>
    rw [delivered_append, delivered_append, acquired.delivered_eq_nil, reading identified,
      released.delivered_eq_nil]
    rfl
  | detected awake acquired identified released =>
    rw [delivered_append, delivered_append, delivered_append, acquired.delivered_eq_nil,
      reading identified, released.delivered_eq_nil]
    rfl

/-- A sensor that is made to stream has received the program of the mode in full, and after it
only controls and what enables the stream. -/
theorem StreamedOn.latestProgram (on : device.StreamedOn events (.ok ()) device') :
    LatestProgram (device'.mode.program device'.configuration.orientation)
      (delivered events) := by
  generalize ended : Except.ok () = outcome at on
  cases on with
  | unpowered up => cases ended
  | @programmed first _ _ written up programmed =>
    rw [delivered_append, delivered_eq_nil_of_transactions up.transactions_eq_nil]
    rcases written with e | _
    · cases ended
    -- only the run in which every write succeeds ends in success
    cases programmed with
    | @enabled table second third restore _ written replay restored enable =>
      -- behind the program come the controls, then what enables the stream
      have follow : ∀ frame ∈ delivered (second ++ third), ¬ BeginsProgram frame := by
        intro frame member
        rw [delivered_append, restored.delivered_eq, enable.delivered_eq] at member
        rcases List.mem_append.1 member with member | member
        · obtain ⟨write, among, rfl⟩ := List.mem_map.1 member
          exact (ControlBank.forControl_of_replay replay write among).not_beginsProgram
        · exact not_beginsProgram_enable frame member
      have program : delivered table = device.mode.program device.configuration.orientation :=
        written.delivered_eq
      have latest := (latestProgram_self (delivered table)).append follow
      rw [program] at latest
      show LatestProgram _ (delivered (table ++ _))
      rw [delivered_append, program]
      exact latest

/-! ## §4 Switching the stream on -/

/-- The device streams and is awake, so frames are to come from the sensor. -/
def Streams (device : Device) : Prop :=
  device.stream = .streaming ∧ device.suspended = false

theorem not_streams_of_stopped (stopped : device.stream = .stopped) : ¬ device.Streams :=
  fun streams => nomatch stopped.symm.trans streams.1

theorem not_streams_of_asleep (asleep : device.suspended = true) : ¬ device.Streams :=
  fun streams => nomatch asleep.symm.trans streams.2

theorem Probed.streams_iff {outcome : Except DeviceError ChipIdentity}
    (probed : device.Probed events outcome device') : device'.Streams ↔ device.Streams := by
  cases probed with
  | asleep asleep => exact .rfl
  | unpowered awake acquired =>
    obtain ⟨_, _, rfl⟩ := acquired.frame
    exact .rfl
  | rejected awake acquired identified released | detected awake acquired identified released =>
    obtain ⟨_, _, rfl⟩ := acquired.frame
    obtain ⟨_, _, rfl⟩ := released.frame
    exact .rfl

theorem PowerSet.streams_iff {on : Bool} (set : device.PowerSet on events outcome device') :
    device'.Streams ↔ device.Streams := by
  cases set with
  | unchanged => exact .rfl
  | refused fresh acquired | requested fresh acquired =>
    obtain ⟨_, _, rfl⟩ := acquired.frame
    exact .rfl
  | withdrawn requested released =>
    obtain ⟨_, _, rfl⟩ := released.frame
    exact .rfl

theorem Tuned.streams_iff (tuned : device.Tuned events device') :
    device'.Streams ↔ device.Streams := by
  rw [Streams, Streams, tuned.stream, tuned.suspended]

/-- What an operation that leaves a device streaming has delivered: nothing that begins a program
if the device streamed already, and the program of its mode if it did not. -/
def Delivers (device : Device) (events : List Event) (device' : Device) : Prop :=
  (device.Streams → ∀ frame ∈ delivered events, ¬ BeginsProgram frame) ∧
    (¬ device.Streams →
      LatestProgram (device'.mode.program device'.configuration.orientation) (delivered events))

/-- An operation that neither switches the stream on nor programs the sensor. -/
theorem delivers_of_streams_iff (same : device'.Streams ↔ device.Streams)
    (plain : ∀ frame ∈ delivered events, ¬ BeginsProgram frame) (streams : device'.Streams) :
    device.Delivers events device' :=
  ⟨fun _ => plain, fun idle => absurd (same.1 streams) idle⟩

theorem Started.delivers (started : device.Started events outcome device')
    (streams : device'.Streams) : device.Delivers events device' := by
  cases started with
  | already streaming => exact delivers_of_streams_iff .rfl nofun streams
  | refused stopped acquired =>
    obtain ⟨_, _, rfl⟩ := acquired.frame
    exact absurd streams (not_streams_of_stopped stopped)
  | deferred stopped acquired asleep => exact absurd streams (not_streams_of_asleep asleep)
  | failed stopped acquired awake on released =>
    -- the stream flag is only set at the end, which was not reached
    obtain ⟨_, _, rfl⟩ := acquired.frame
    obtain ⟨_, rfl⟩ := on.frame
    obtain ⟨_, _, rfl⟩ := released.frame
    exact absurd streams (not_streams_of_stopped stopped)
  | @started _ first second _ _ stopped acquired awake on =>
    refine ⟨fun before => absurd before (not_streams_of_stopped stopped), fun _ => ?_⟩
    show LatestProgram _ (delivered (first ++ second))
    rw [delivered_append, acquired.delivered_eq_nil]
    exact on.latestProgram

theorem Resumed.delivers (resumed : device.Resumed events outcome device')
    (streams : device'.Streams) : device.Delivers events device' := by
  cases resumed with
  | already awake => exact delivers_of_streams_iff .rfl nofun streams
  | resumed asleep restored =>
    refine ⟨fun before => absurd before (not_streams_of_asleep asleep), fun _ => ?_⟩
    generalize ended : Except.ok () = outcome at restored
    cases restored with
    | streaming streaming on =>
      subst ended
      exact on.latestProgram
    | powered stopped used up => exact absurd streams (not_streams_of_stopped stopped)
    | idle stopped unused => exact absurd streams (not_streams_of_stopped stopped)
  | failed asleep restored stopped =>
    exact absurd streams (not_streams_of_stopped stopped.stream_eq)

theorem Tuned.plain (tuned : device.Tuned events device') :
    ∀ frame ∈ delivered events, ¬ BeginsProgram frame := by
  intro frame member
  obtain ⟨write, forControl, rfl⟩ := tuned.control frame member
  exact forControl.not_beginsProgram

/-- Only switching the stream on programs the sensor, and it programs the active mode. -/
theorem Performed.delivers {operation : Operation} {reply : Reply}
    (performed : device.Performed operation events reply device') (streams : device'.Streams) :
    device.Delivers events device' := by
  have silent (none : delivered events = []) : ∀ frame ∈ delivered events,
      ¬ BeginsProgram frame := by
    rw [none]
    exact List.forall_mem_nil _
  refine performed.elim (fun probed => ?_) (·.delivers streams) (fun stopped => ?_)
    (fun set => ?_) (fun suspended => ?_) (·.delivers streams) (fun tuned => ?_)
  · exact delivers_of_streams_iff probed.streams_iff (silent probed.delivered_eq_nil) streams
  · exact absurd streams (not_streams_of_stopped stopped.stream_eq)
  · exact delivers_of_streams_iff set.streams_iff (silent set.delivered_eq_nil) streams
  · exact absurd streams (not_streams_of_asleep suspended.asleep)
  · exact delivers_of_streams_iff tuned.streams_iff tuned.plain streams

end Device

/-- The step switches the stream on. -/
def Step.Launches (step : Step) : Prop :=
  ¬ step.before.Streams ∧ step.after.Streams

/-! ## §5 Sessions -/

namespace Session

open Device

variable {configuration : Configuration} {wiring : Wiring} {trace : List Event}
  {steps : List Step} {device : Device}

/-- The stream was switched on once, and the device has streamed since. -/
theorem launched (session : Session configuration wiring trace steps device)
    (streams : device.Streams) :
    ∃ earlier launch later, steps = earlier ++ launch :: later ∧ launch.Launches ∧
      (∀ step ∈ later, step.after.Streams) ∧ launch.after.mode ∈ Catalog.modes ∧
      LatestProgram (launch.after.mode.program configuration.orientation) (delivered trace) ∧
      device.mode = (later.map Step.operation).foldl Operation.selects launch.after.mode := by
  induction session with
  | created run =>
    cases created_of_runs run
    exact absurd streams (not_streams_of_stopped rfl)
  | @performed trace events steps device device' operation reply session run ih =>
    have performed := performed_of_runs run
    have delivers := performed.delivers streams
    by_cases before : device.Streams
    · -- the stream goes on: the step begins no program, so the latest one stays the latest
      obtain ⟨earlier, launch, later, rfl, launches, since, supported, latest, mode⟩ := ih before
      refine ⟨earlier, launch, later ++ [⟨device, operation, events, reply, device'⟩],
        List.append_assoc _ _ _, launches, ?_, supported, ?_, ?_⟩
      · intro step member
        rcases List.mem_append.1 member with member | member
        · exact since step member
        · rw [List.mem_singleton.1 member]
          exact streams
      · rw [delivered_append]
        exact latest.append (delivers.1 before)
      · rw [performed.mode_eq, List.map_append, List.foldl_append, ← mode]
        rfl
    · -- this step has switched the stream on, and delivered the program of its mode
      have supported := (session.performed run).regular.mode
      have latest := delivers.2 before
      rw [(session.performed run).configuration_eq] at latest
      refine ⟨steps, ⟨device, operation, events, reply, device'⟩, [], rfl, ⟨before, streams⟩,
        List.forall_mem_nil _, supported, ?_, rfl⟩
      rw [delivered_append]
      exact latest.prepend _

/-- What the sensor of an awake, streaming device was last programmed for is the mode that was
active when the stream was last switched on. It is the program of the mode of the device exactly if
the active formats negotiated since have led back to that mode. -/
theorem latest_program (session : Session configuration wiring trace steps device)
    (streaming : device.stream = .streaming) (awake : device.suspended = false) :
    ∃ earlier launch later, steps = earlier ++ launch :: later ∧ launch.Launches ∧
      (∀ step ∈ later, step.after.Streams) ∧
      LatestProgram (launch.after.mode.program configuration.orientation) (delivered trace) ∧
      (LatestProgram (device.mode.program configuration.orientation) (delivered trace) ↔
        (later.map Step.operation).foldl Operation.selects launch.after.mode =
          launch.after.mode) := by
  obtain ⟨earlier, launch, later, split, launches, since, supported, latest, mode⟩ :=
    session.launched ⟨streaming, awake⟩
  refine ⟨earlier, launch, later, split, launches, since, latest, ?_⟩
  rw [← mode]
  constructor
  · intro own
    exact own.mode_unique session.regular.mode supported latest
  · intro same
    rwa [same]

/-- The stream is started in full size, then binned frames are asked for. -/
def rebinnedStream : List (FaultPlan × Operation) :=
  [({}, .start), ({}, .setFormat 2104 1560 .active)]

/-- The sensor holds the program of the step that started the stream. -/
theorem program_rebinned_stream :
    ∃ trace steps device, Session {} ⟨true, true, true⟩ trace steps device ∧
      device.Streams ∧ device.mode = Catalog.binned ∧
      ∃ launch ∈ steps, launch.Launches ∧
        LatestProgram (launch.after.mode.program .normal) (delivered trace) := by
  have seen := exists_session_of_rehearse {} ⟨true, true, true⟩ rebinnedStream
    (fun _ _ device => device.stream = .streaming && !device.suspended &&
      device.mode = Catalog.binned)
    (by decide +kernel)
  obtain ⟨trace, steps, device, session, shown⟩ := seen
  simp only [Bool.and_eq_true, Bool.not_eq_true', decide_eq_true_eq] at shown
  obtain ⟨⟨streaming, awake⟩, binned⟩ := shown
  obtain ⟨earlier, launch, later, split, launches, -, latest, -⟩ :=
    latest_program session streaming awake
  exact ⟨trace, steps, device, session, ⟨streaming, awake⟩, binned, launch, by simp [split],
    launches, latest⟩

/-- The mode of the device is then not what the sensor was programmed for. -/
theorem program_behind_mode :
    ∃ trace steps device, Session {} ⟨true, true, true⟩ trace steps device ∧
      device.stream = .streaming ∧ device.suspended = false ∧
      ¬ LatestProgram (device.mode.program .normal) (delivered trace) := by
  let full := Catalog.fullFrame.program .normal
  have seen := exists_session_of_rehearse {} ⟨true, true, true⟩ rebinnedStream
    (fun trace _ device => device.stream = .streaming && !device.suspended &&
      device.mode = Catalog.binned && (delivered trace).take full.length = full &&
      ((delivered trace).drop full.length).all fun frame => !decide (BeginsProgram frame))
    (by decide +kernel)
  obtain ⟨trace, steps, device, session, shown⟩ := seen
  simp only [Bool.and_eq_true, Bool.not_eq_true', decide_eq_true_eq, List.all_eq_true,
    decide_eq_false_iff_not] at shown
  obtain ⟨⟨⟨⟨streaming, awake⟩, binned⟩, front⟩, plain⟩ := shown
  refine ⟨trace, steps, device, session, streaming, awake, fun own => ?_⟩
  have split : delivered trace = [] ++ full ++ (delivered trace).drop full.length := by
    conv => lhs; rw [← List.take_append_drop full.length (delivered trace), front]
    rfl
  -- the frames received begin with the full program, and no other program follows
  rw [binned] at own
  have same := own.mode_unique (by decide +kernel) (by decide +kernel) ⟨_, _, split, plain⟩
  exact absurd same (by decide +kernel)

end Session

end ImageSensor
