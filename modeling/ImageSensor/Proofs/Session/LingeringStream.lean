import ImageSensor.Proofs.Bus.Memory
import ImageSensor.Proofs.Session.HeldPower
import ImageSensor.Proofs.Session.Program

/-!
# Sensors That Stream on Their Own

A sensor that is on while its stream is stopped is meant to be in standby. One way leads out of
this: a start that fails behind the mode select write drops its reference and nothing else, and if
power is requested the sensor stays on and goes on streaming. It does so until it is turned off or
programmed again.

## Main statements

- `Programmed.modeByte`: what programming leaves at mode select, wherever it stops.
- `Performed.lingers_iff`: what one operation does to a stream that lingers.
- `Session.lingers_iff_since`: exactly which sessions leave a stream lingering, if no standby write
  has failed.
- `Session.streams_while_stopped`: one of them.
-/

namespace ImageSensor

open ImageSensor.Action

variable {memory : Memory} {events : List Event}

/-! ## §1 Mode select -/

/-- The write that makes the sensor stream. -/
def Device.selectWrite : RegisterWrite :=
  ⟨Register.modeSelect, 1, Register.streaming⟩

/-- The event is a standby write that fails. -/
def Event.failsStandby : Event → Bool
  | ⟨.busWrite _ bytes, (answer : Except Cause Unit)⟩ =>
    bytes = Device.standbyWrite.frame && !answer.isOk
  | _ => false

/-- The byte that is stored at mode select. -/
def Memory.modeByte (memory : Memory) : Option UInt8 :=
  memory Register.modeSelect.toNat

/-- The byte that a frame carries for mode select. -/
def modeByteOf (frame : List UInt8) : Option UInt8 :=
  byteAt? frame Register.modeSelect.toNat

theorem modeByte_store (frame : List UInt8) :
    (memory.store frame).modeByte = (modeByteOf frame).or memory.modeByte := rfl

/-- The orientation stands in the low byte, so the byte at mode select is that of standby. -/
theorem modeByteOf_orientation (orientation : Orientation) :
    modeByteOf (Bus.orientationWrite orientation).frame = some Register.standby.toUInt8 := by
  cases orientation <;> decide

theorem modeByteOf_standby :
    modeByteOf Device.standbyWrite.frame = some Register.standby.toUInt8 := by
  decide

theorem RegisterWrite.ForControl.modeByteOf {write : RegisterWrite}
    (forControl : write.ForControl) : modeByteOf write.frame = none := by
  -- all controls are behind mode select
  have behind : [Register.frameLengthLines, Register.exposure, Register.analogGain,
      Register.digitalGain, Register.testPattern].all (Register.modeSelect < ·) = true := by
    decide
  have after : Register.modeSelect < write.address := by
    simpa using List.all_eq_true.1 behind _ forControl
  exact RegisterWrite.byteAt?_eq_none (.inl (UInt16.lt_iff_toNat_lt.1 after))

/-- No register table of the catalog reaches into mode select. -/
theorem modeByteOf_table {mode : Mode} (supported : mode ∈ Catalog.modes) :
    ∀ frame ∈ mode.table.frames, modeByteOf frame = none := by
  have all : ∀ mode ∈ Catalog.modes, ∀ frame ∈ mode.table.frames, modeByteOf frame = none := by
    decide +kernel
  exact all mode supported

/-- Among frames that are of no concern to mode select, only the one that makes the sensor stream
counts. -/
theorem modeByte_storeAll {frames : List (List UInt8)}
    (plain : ∀ frame ∈ frames, modeByteOf frame = none ∨ frame = Device.selectWrite.frame) :
    (memory.storeAll frames).modeByte =
      if Device.selectWrite.frame ∈ frames then some Register.streaming.toUInt8
      else memory.modeByte := by
  induction frames generalizing memory with
  | nil => rfl
  | cons frame rest ih =>
    -- the write that makes the sensor stream hides what was there before it, the others do not
    rw [Memory.storeAll_cons, ih fun other member => plain other (List.mem_cons_of_mem _ member),
      modeByte_store]
    have selected : modeByteOf Device.selectWrite.frame = some Register.streaming.toUInt8 := by
      decide
    rcases plain frame List.mem_cons_self with none | rfl
    · have other : Device.selectWrite.frame ≠ frame := by
        rintro rfl
        exact nomatch none.symm.trans selected
      simp [none, other]
    · simp [selected]

theorem LatestProgram.begun {mode : Mode} {orientation : Orientation}
    {received : List (List UInt8)} (latest : LatestProgram (mode.program orientation) received) :
    ∃ frame ∈ received, BeginsProgram frame := by
  obtain ⟨earlier, later, rfl, -⟩ := latest
  exact ⟨_, by simp [Mode.program, Bus.tableWrites], beginsProgram_orientation orientation⟩

/-- A notice delivers nothing. -/
theorem delivered_noticed (notice : Notice) (events : List Event) :
    delivered (⟨.notify notice, ()⟩ :: events) = delivered events := rfl

namespace Device

variable {device device' : Device} {outcome : Except DeviceError Unit}

/-! ## §2 Programming and mode select -/

/-- However far programming gets, the sensor receives the first frames of the program, the controls
and what enables the stream. -/
theorem Programmed.delivered_prefix {outcome : Except BusError Unit}
    (programmed : device.Programmed events outcome) :
    ∃ restore : List RegisterWrite, (∀ write ∈ restore, write.ForControl) ∧
      delivered events <+: device.mode.program device.configuration.orientation ++
        (restore.map RegisterWrite.frame ++ enableWrites.map RegisterWrite.frame) := by
  cases programmed with
  | tableFailed table =>
    exact ⟨[], nofun, table.delivered_prefix.trans (List.prefix_append _ _)⟩
  | @restoreFailed first second restore _ table replay restored =>
    refine ⟨restore, ControlBank.forControl_of_replay replay, ?_⟩
    rw [delivered_append, table.delivered_eq]
    refine (List.prefix_append_right_inj _).2 ?_
    show delivered second <+: _
    exact restored.delivered_prefix.trans (List.prefix_append _ _)
  | @enabled first second third restore _ table replay restored enable =>
    refine ⟨restore, ControlBank.forControl_of_replay replay, ?_⟩
    rw [delivered_append, table.delivered_eq]
    refine (List.prefix_append_right_inj _).2 ?_
    show delivered (second ++ third) <+: _
    rw [delivered_append, restored.delivered_eq]
    exact (List.prefix_append_right_inj _).2 enable.delivered_prefix

/-- The sensor receives nothing, or the orientation and behind it frames that are of no concern to
mode select, but for the one that makes it stream. -/
theorem Programmed.received {outcome : Except BusError Unit}
    (programmed : device.Programmed events outcome) (supported : device.mode ∈ Catalog.modes) :
    delivered events = [] ∨
      ∃ rest, delivered events =
          (Bus.orientationWrite device.configuration.orientation).frame :: rest ∧
        ∀ frame ∈ rest, modeByteOf frame = none ∨ frame = selectWrite.frame := by
  obtain ⟨restore, forControl, part⟩ := programmed.delivered_prefix
  -- the orientation comes first, so whatever is received begins with it
  simp only [Mode.program, Bus.tableWrites, List.map_cons, List.cons_append] at part
  rcases List.prefix_cons_iff.1 part with none | ⟨rest, received, part⟩
  · exact .inl none
  refine .inr ⟨rest, received, fun frame member => ?_⟩
  rcases List.mem_append.1 (part.subset member) with member | member
  · exact .inl (modeByteOf_table supported frame member)
  rcases List.mem_append.1 member with member | member
  · obtain ⟨write, among, rfl⟩ := List.mem_map.1 member
    exact .inl (forControl write among).modeByteOf
  · have enable : ∀ frame ∈ enableWrites.map RegisterWrite.frame,
        modeByteOf frame = none ∨ frame = selectWrite.frame := by
      decide
    exact enable frame member

/-- What programming leaves at mode select, wherever it stops. -/
theorem Programmed.modeByte {outcome : Except BusError Unit}
    (programmed : device.Programmed events outcome) (supported : device.mode ∈ Catalog.modes) :
    (memoryAfter memory events).modeByte =
      if selectWrite.frame ∈ delivered events then some Register.streaming.toUInt8
      else if ∃ frame ∈ delivered events, BeginsProgram frame then some Register.standby.toUInt8
      else memory.modeByte := by
  rw [memoryAfter_exchange programmed.exchange]
  rcases programmed.received supported with none | ⟨rest, received, plain⟩
  · simp [none]
  · have begins := beginsProgram_orientation device.configuration.orientation
    have begun : ∃ frame ∈ delivered events, BeginsProgram frame :=
      ⟨_, by rw [received]; exact List.mem_cons_self, begins⟩
    -- one value byte less than the orientation has
    have other : selectWrite.frame ≠
        (Bus.orientationWrite device.configuration.orientation).frame := by
      intro same
      rw [← same] at begins
      exact absurd begins (by decide)
    rw [if_pos begun, received, Memory.storeAll_cons, modeByte_storeAll plain, modeByte_store,
      modeByteOf_orientation]
    simp [other]

/-! ## §3 Streams that linger -/

/-- The sensor is on and was told to stream last, but the stream is stopped. -/
def Lingers (device : Device) (memory : Memory) : Prop :=
  device.stream = .stopped ∧ device.sequencer.power = .on ∧
    memory.modeByte = some Register.streaming.toUInt8

/-- The sensor is off afterwards, or has been programmed anew. -/
def Resets (events : List Event) (device' : Device) : Prop :=
  device'.sequencer.power = .off ∨ ∃ frame ∈ delivered events, BeginsProgram frame

theorem not_lingers_of_off (off : device.sequencer.power = .off) : ¬ device.Lingers memory :=
  fun lingers => nomatch off.symm.trans lingers.2.1

theorem not_lingers_of_streaming (streaming : device.stream = .streaming) :
    ¬ device.Lingers memory :=
  fun lingers => nomatch streaming.symm.trans lingers.1

/-- A sensor cannot come on without supplies. -/
theorem Balanced.supplied (balanced : device.Balanced events device')
    (off : device.sequencer.power = .off) (on : device'.sequencer.power = .on) :
    Supplied events := by
  refine Classical.byContradiction fun quiet => ?_
  -- without supplies taken, no more of them can be outstanding than before
  have steady := takes_eq_false_of_not_supplied quiet
  have none : events.countP (·.takes .supplies) = 0 := by
    rw [List.countP_eq_zero]
    exact fun event member => by simp [steady event member]
  have more := balanced .supplies
  simp only [outstanding, none, held, Sequencer.held, off, on] at more
  simp at more
  omega

/-- Supplies that come on clear the memory, if nothing is written behind them. -/
theorem memoryAfter_supplied (supplied : Supplied events) (silent : delivered events = []) :
    memoryAfter memory events = .blank := by
  induction events generalizing memory with
  | nil => exact absurd supplied not_supplied_nil
  | cons event rest ih =>
    obtain ⟨here, behind⟩ : event.delivered? = none ∧ delivered rest = [] := by
      cases same : event.delivered? with
      | none => exact ⟨rfl, by rwa [delivered, List.filterMap_cons, same] at silent⟩
      | some frame => simp [delivered, same] at silent
    -- the last supplies to come on are what counts
    by_cases later : Supplied rest
    · exact ih later behind
    · have taking : event.takes .supplies = true :=
        (supplied_cons.1 supplied).resolve_right later
      rw [memoryAfter, memoryAfter_passive (takes_eq_false_of_not_supplied later) behind,
        Event.stores, if_pos taking]

/-- A sensor that has just come on has nothing stored. -/
theorem not_lingers_of_raised (balanced : device.Balanced events device')
    (off : device.sequencer.power = .off) (silent : delivered events = []) :
    ¬ device'.Lingers (memoryAfter memory events) := by
  rintro ⟨-, on, streaming⟩
  rw [memoryAfter_supplied (balanced.supplied off on) silent] at streaming
  cases streaming

/-- What neither starts nor stops the stream and writes nothing leaves a stream lingering, unless it
turns the sensor off. -/
theorem lingers_iff_of_silent (silent : delivered events = [])
    (stream : device'.stream = device.stream)
    (quiet : device.sequencer.power = .on → ¬ Supplied events)
    (balanced : device.Balanced events device') :
    device'.Lingers (memoryAfter memory events) ↔
      device.Lingers memory ∧ ¬ Resets events device' := by
  have resets : Resets events device' ↔ device'.sequencer.power = .off := by
    simp [Resets, silent]
  rw [resets]
  cases before : device.sequencer.power with
  | on =>
    rw [Lingers, Lingers, stream, before,
      memoryAfter_passive (takes_eq_false_of_not_supplied (quiet before)) silent]
    cases device'.sequencer.power <;> simp
  | off =>
    exact iff_of_false (not_lingers_of_raised balanced before silent) fun ⟨lingers, _⟩ =>
      not_lingers_of_off before lingers

/-! ## §4 One operation -/

theorem Acquired.stream_eq (acquired : device.Acquired events outcome device') :
    device'.stream = device.stream := by
  obtain ⟨_, _, rfl⟩ := acquired.frame
  rfl

theorem Released.stream_eq (released : device.Released events device') :
    device'.stream = device.stream := by
  obtain ⟨_, _, rfl⟩ := released.frame
  rfl

theorem Probed.stream_eq {outcome : Except DeviceError ChipIdentity}
    (probed : device.Probed events outcome device') : device'.stream = device.stream := by
  cases probed with
  | asleep asleep => rfl
  | unpowered awake acquired => exact acquired.stream_eq
  | rejected awake acquired identified released | detected awake acquired identified released =>
    exact released.stream_eq.trans acquired.stream_eq

theorem PowerSet.stream_eq {on : Bool} (set : device.PowerSet on events outcome device') :
    device'.stream = device.stream := by
  cases set with
  | unchanged => rfl
  | refused fresh acquired | requested fresh acquired => exact acquired.stream_eq
  | withdrawn requested released => exact released.stream_eq

theorem Probed.lingers_iff {outcome : Except DeviceError ChipIdentity}
    (probed : device.Probed events outcome device') :
    device'.Lingers (memoryAfter memory events) ↔
      device.Lingers memory ∧ ¬ Resets events device' :=
  lingers_iff_of_silent probed.delivered_eq_nil probed.stream_eq probed.not_supplied_of_on
    probed.balanced

theorem PowerSet.lingers_iff {on : Bool} (set : device.PowerSet on events outcome device') :
    device'.Lingers (memoryAfter memory events) ↔
      device.Lingers memory ∧ ¬ Resets events device' :=
  lingers_iff_of_silent set.delivered_eq_nil set.stream_eq set.not_supplied_of_on set.balanced

/-- A sensor that is on is programmed without further ado. -/
theorem StreamedOn.programmed_of_on (on : device.StreamedOn events outcome device')
    (powered : device.sequencer.power = .on) : ∃ written, device.Programmed events written := by
  cases on with
  | unpowered up => exact nomatch up.of_error.2.symm.trans powered
  | @programmed _ _ _ written up programmed =>
    rw [up.events_eq_nil powered]
    exact ⟨written, programmed⟩

/-- Taking a reference leaves the memory as it is, or clears it. -/
theorem Acquired.lingers_iff (acquired : device.Acquired events (.ok ()) device')
    (on : device'.sequencer.power = .on) :
    device'.Lingers (memoryAfter memory events) ↔ device.Lingers memory := by
  have silent := acquired.delivered_eq_nil
  rw [lingers_iff_of_silent silent acquired.stream_eq acquired.not_supplied_of_on
    acquired.balanced]
  exact and_iff_left (by simp [Resets, on, silent])

/-- A stream whose programming fails lingers if the sensor was told to stream by then, or if it was
told nothing and a stream lingered before; and only if the sensor stays on for another
reference. -/
theorem Released.lingers_iff {count : Nat} {notice : Notice} {first second : List Event}
    {outcome : Except BusError Unit} (programmed : device.Programmed first outcome)
    (released : device.Released second device') (supported : device.mode ∈ Catalog.modes)
    (holds : device.Holds (count + 1)) (on : device.sequencer.power = .on)
    (stopped : device.stream = .stopped) :
    device'.Lingers (memoryAfter memory (first ++ ⟨.notify notice, ()⟩ :: second)) ↔
      0 < count ∧ (selectWrite.frame ∈ delivered first ∨
        (device.Lingers memory ∧ ¬ ∃ frame ∈ delivered first, BeginsProgram frame)) := by
  obtain ⟨holds', kept⟩ := released.holds holds
  have stream' := released.stream_eq.trans stopped
  -- what is stored is decided by the programming alone
  have stored : (memoryAfter memory (first ++ ⟨.notify notice, ()⟩ :: second)).modeByte =
      (memoryAfter memory first).modeByte := by
    rw [memoryAfter_append, memoryAfter_noticed, memoryAfter_passive
      (takes_eq_false_of_not_supplied released.not_supplied) released.delivered_eq_nil]
  rw [Lingers, Lingers, stored, programmed.modeByte supported]
  by_cases shared : 0 < count
  · have on' : device'.sequencer.power = .on := by rw [kept shared, on]
    have different : Register.standby.toUInt8 ≠ Register.streaming.toUInt8 := by decide
    by_cases selected : selectWrite.frame ∈ delivered first
    · simp [selected, shared, on', stream']
    · by_cases begun : ∃ frame ∈ delivered first, BeginsProgram frame
      · rw [if_neg selected, if_pos begun]
        simp [selected, begun, different]
      · rw [if_neg selected, if_neg begun]
        simp [selected, begun, shared, on', on, stream', stopped]
  · refine iff_of_false (fun ⟨_, on', _⟩ => shared (holds'.powered on').1) fun other => ?_
    exact shared other.1

/-- Without a stream, references are asked for only by a request. -/
theorem demand_pos_iff (stopped : device.stream = .stopped) :
    0 < device.demand ↔ device.powerRequested = true := by
  cases requested : device.powerRequested <;> simp [demand, stopped, requested]

/-- A stream can only linger under a request, which keeps the sensor on. -/
theorem Lingers.requested (lingers : device.Lingers memory) (consistent : device.Consistent) :
    device.powerRequested = true :=
  (demand_pos_iff lingers.1).1 (consistent.holds.powered lingers.2.1).1

/-- A start that takes a reference, fails to make the sensor stream and drops the reference: the
sensor stays on for a request, and then it is left as the program has left it. -/
theorem lingers_iff_of_failed {notice : Notice} {first second third : List Event}
    {device₁ device₂ : Device} {e : DeviceError} (stopped : device.stream = .stopped)
    (acquired : device.Acquired first (.ok ()) device₁) (awake : device₁.suspended = false)
    (on : device₁.StreamedOn second (.error e) device₂)
    (released : device₂.Released third device') (consistent : device.Consistent)
    (regular : device.Regular) :
    (device.powerRequested = true → device'.sequencer.power = .on) ∧
      (device'.Lingers
          (memoryAfter memory (first ++ (second ++ ⟨.notify notice, ()⟩ :: third))) ↔
        device.powerRequested = true ∧ (selectWrite.frame ∈ delivered second ∨
          (device.Lingers memory ∧ ¬ ∃ frame ∈ delivered second, BeginsProgram frame))) := by
  obtain ⟨holds₁, powered⟩ := acquired.holds consistent.holds
  have regular₁ := regular.of_kept acquired.keeps
  have stopped₁ := acquired.stream_eq.trans stopped
  have on₁ : device₁.sequencer.power = .on := by
    obtain ⟨_, _, rfl⟩ := acquired.frame
    exact powered awake
  -- the reference has powered the sensor, so there is nothing to do but to program it
  obtain ⟨written, programmed⟩ := on.programmed_of_on on₁
  cases on.eq_of_on on₁
  rw [← demand_pos_iff stopped, memoryAfter_append,
    released.lingers_iff programmed regular₁.mode holds₁ on₁ stopped₁, acquired.lingers_iff on₁]
  exact ⟨fun request => by rw [(released.holds holds₁).2 request, on₁], .rfl⟩

/-- A start that fails leaves a stream lingering if the sensor was told to stream by then and power
is requested. Any other start leaves no stream lingering, unless the sensor is told nothing at
all. -/
theorem Started.lingers_iff (started : device.Started events outcome device')
    (consistent : device.Consistent) (regular : device.Regular) :
    device'.Lingers (memoryAfter memory events) ↔
      ((∃ e, outcome = .error e) ∧ device.powerRequested = true ∧
          selectWrite.frame ∈ delivered events) ∨
        (device.Lingers memory ∧ ¬ Resets events device') := by
  cases started with
  | already streaming =>
    refine iff_of_false (not_lingers_of_streaming streaming) ?_
    rintro (⟨⟨_, ended⟩, -⟩ | ⟨lingers, -⟩)
    · cases ended
    · exact not_lingers_of_streaming streaming lingers
  | refused stopped acquired =>
    have silent := acquired.delivered_eq_nil
    cases acquired.of_error
    rw [lingers_iff_of_silent (by rw [delivered_noticed, silent]) rfl
      (fun _ => mt supplied_noticed.1 acquired.not_supplied) acquired.balanced.noticed,
      delivered_noticed, silent]
    exact (or_iff_right fun ⟨_, _, member⟩ => nomatch member).symm
  | deferred stopped acquired asleep =>
    refine iff_of_false (not_lingers_of_streaming rfl) ?_
    obtain ⟨_, _, rfl⟩ := acquired.frame
    rintro (⟨⟨_, ended⟩, -⟩ | ⟨lingers, -⟩)
    · cases ended
    · exact not_lingers_of_off (consistent.off_of_asleep asleep) lingers
  | @failed _ first second third e _ _ _ stopped acquired awake on released =>
    obtain ⟨stays, lingers⟩ :=
      lingers_iff_of_failed stopped acquired awake on released consistent regular
    have received : delivered (first ++ (second ++ ⟨.notify (.streamFailed e), ()⟩ :: third)) =
        delivered second := by
      rw [delivered_append, delivered_append, delivered_noticed, acquired.delivered_eq_nil,
        released.delivered_eq_nil, List.nil_append, List.append_nil]
    rw [Resets, memoryAfter_noticed, delivered_noticed, received, lingers]
    constructor
    · rintro ⟨request, selected | ⟨lingers, plain⟩⟩
      · exact .inl ⟨⟨e, rfl⟩, request, selected⟩
      · exact .inr ⟨lingers, by simp [stays request, plain]⟩
    · rintro (⟨-, request, selected⟩ | ⟨lingers, kept⟩)
      · exact ⟨request, .inl selected⟩
      · exact ⟨lingers.requested consistent, .inr ⟨lingers, fun begun => kept (.inr begun)⟩⟩
  | @started _ first second _ _ stopped acquired awake on =>
    refine iff_of_false (not_lingers_of_streaming rfl) ?_
    rintro (⟨⟨_, ended⟩, -⟩ | ⟨-, kept⟩)
    · cases ended
    · -- the sensor was programmed on the way
      refine kept (.inr ?_)
      show ∃ frame ∈ delivered (first ++ second), _
      rw [delivered_append, acquired.delivered_eq_nil]
      exact on.latestProgram.begun

/-- Stopping a stream leaves none lingering if the standby write, where there is one, goes
through. -/
theorem Stopped.not_lingers (stopped : device.Stopped events device')
    (streaming : device.stream = .streaming)
    (dozing : device.suspended = true → device.sequencer.power = .off)
    (stood : ∀ event ∈ events, event.failsStandby = false) :
    ¬ device'.Lingers (memoryAfter memory events) := by
  have ended := stopped.power_eq_off
  cases stopped with
  | idle stopped => exact nomatch stopped.symm.trans streaming
  | @stopped halting dropping _ _ halted released =>
    cases halted with
    | untouched idle =>
      rcases idle with stopped | asleep
      · exact nomatch stopped.symm.trans streaming
      · exact not_lingers_of_off (ended (dozing asleep))
    | standby _ awake standing =>
      cases standing with
      | entered =>
        -- dropping the reference is silent, so the standby write is what the sensor is left with
        rintro ⟨-, -, lingering⟩
        have steady := takes_eq_false_of_not_supplied released.not_supplied
        rw [memoryAfter_noticed, memoryAfter_append,
          memoryAfter_passive steady released.delivered_eq_nil] at lingering
        change (memory.store standbyWrite.frame).modeByte = _ at lingering
        rw [modeByte_store, modeByteOf_standby] at lingering
        exact absurd (Option.some.inj lingering) (by decide)
      | failed =>
        have refused := stood _ (List.mem_cons_of_mem _ (List.mem_append_left _
          (List.mem_cons_of_mem _ List.mem_cons_self)))
        simp [Event.failsStandby, Except.isOk, Except.toBool] at refused

theorem Suspended.lingers_iff (suspended : device.Suspended events device')
    (consistent : device.Consistent) :
    device'.Lingers (memoryAfter memory events) ↔
      device.Lingers memory ∧ ¬ Resets events device' := by
  have off := (suspended.consistent consistent).off_of_asleep suspended.asleep
  exact iff_of_false (not_lingers_of_off off) fun ⟨_, kept⟩ => kept (.inl off)

theorem Resumed.lingers_iff (resumed : device.Resumed events outcome device')
    (consistent : device.Consistent) (stood : ∀ event ∈ events, event.failsStandby = false) :
    device'.Lingers (memoryAfter memory events) ↔
      device.Lingers memory ∧ ¬ Resets events device' := by
  cases resumed with
  | already awake =>
    exact lingers_iff_of_silent rfl rfl (fun _ => not_supplied_nil) (balanced_nil _)
  | resumed asleep restored =>
    have off := consistent.off_of_asleep asleep
    refine iff_of_false ?_ fun ⟨lingers, _⟩ => not_lingers_of_off off lingers
    have balanced := restored.balanced
    generalize ended : Except.ok () = outcome at restored
    cases restored with
    | streaming streaming on =>
      obtain ⟨_, rfl⟩ := on.frame
      exact not_lingers_of_streaming streaming
    | powered stopped used up =>
      rw [memoryAfter_noticed]
      exact not_lingers_of_raised balanced off
        (delivered_eq_nil_of_transactions up.transactions_eq_nil)
    | idle stopped unused => exact not_lingers_of_off off
  | @failed first second e device₁ _ asleep restored stopped =>
    have off := consistent.off_of_asleep asleep
    refine iff_of_false ?_ fun ⟨lingers, _⟩ => not_lingers_of_off off lingers
    rw [memoryAfter_noticed, memoryAfter_append, memoryAfter_noticed]
    have stood' : ∀ event ∈ second, event.failsStandby = false := fun event member =>
      stood event (by simp [member])
    generalize ended : Except.error e = outcome at restored
    cases restored with
    | streaming streaming on =>
      -- the suspension has ended, so stopping puts the sensor into standby
      obtain ⟨_, rfl⟩ := on.frame
      exact stopped.not_lingers streaming nofun stood'
    | @powered _ powering _ idle used up =>
      rcases powering with cause | _
      · obtain ⟨rfl, off'⟩ := up.of_error
        exact not_lingers_of_off (stopped.power_eq_off off')
      · cases ended
    | idle => cases ended

theorem Tuned.lingers_iff (tuned : device.Tuned events device') :
    device'.Lingers (memoryAfter memory events) ↔
      device.Lingers memory ∧ ¬ Resets events device' := by
  have untouched : (memoryAfter memory events).modeByte = memory.modeByte := by
    rw [memoryAfter_exchange tuned.exchange]
    refine Memory.storeAll_untouched fun frame member => ?_
    obtain ⟨write, forControl, rfl⟩ := tuned.control frame member
    exact forControl.modeByteOf
  rw [Lingers, Lingers, untouched, tuned.stream, tuned.sequencer]
  refine (and_iff_left_of_imp fun lingers => ?_).symm
  rintro (off | ⟨frame, member, begins⟩)
  · rw [tuned.sequencer] at off
    exact nomatch off.symm.trans lingers.2.1
  · exact tuned.plain frame member begins

end Device

namespace Step

/-- A start that fails with an explicit request for power in force, after the sensor was told to
stream. -/
def AbandonsStream (step : Step) : Prop :=
  (step.operation = .start ∨ step.operation = .setStream true) ∧
    (∃ e, step.reply = .completed (.error e)) ∧ step.before.powerRequested = true ∧
    Device.selectWrite.frame ∈ delivered step.events

/-- What ends an abandoned stream: the sensor is off afterwards, or has been programmed anew. -/
def EndsAbandoned (step : Step) : Prop :=
  Device.Resets step.events step.after

end Step

namespace Device

variable {device device' : Device}

/-- A stream lingers if it is abandoned, or if it did before and has not been ended. -/
theorem Performed.lingers_iff {operation : Operation} {reply : Reply}
    (performed : device.Performed operation events reply device')
    (consistent : device.Consistent) (regular : device.Regular)
    (stood : ∀ event ∈ events, event.failsStandby = false) :
    device'.Lingers (memoryAfter memory events) ↔
      Step.AbandonsStream ⟨device, operation, events, reply, device'⟩ ∨
        (device.Lingers memory ∧
          ¬ Step.EndsAbandoned ⟨device, operation, events, reply, device'⟩) := by
  -- only a start can abandon a stream
  have other (start : operation ≠ .start) (streamOn : operation ≠ .setStream true)
      (lingers : device'.Lingers (memoryAfter memory events) ↔
        device.Lingers memory ∧ ¬ Resets events device') :
      device'.Lingers (memoryAfter memory events) ↔
        Step.AbandonsStream ⟨device, operation, events, reply, device'⟩ ∨
          (device.Lingers memory ∧
            ¬ Step.EndsAbandoned ⟨device, operation, events, reply, device'⟩) := by
    rw [lingers, or_iff_right fun abandons => abandons.1.elim start streamOn]
    rfl
  have start {outcome : Except DeviceError Unit}
      (same : operation = .start ∨ operation = .setStream true)
      (started : device.Started events outcome device') (replied : reply = .completed outcome) :
      device'.Lingers (memoryAfter memory events) ↔
        Step.AbandonsStream ⟨device, operation, events, reply, device'⟩ ∨
          (device.Lingers memory ∧
            ¬ Step.EndsAbandoned ⟨device, operation, events, reply, device'⟩) := by
    rw [started.lingers_iff consistent regular]
    simp [Step.AbandonsStream, Step.EndsAbandoned, same, replied]
  have stop (stopped : device.Stopped events device') :
      device'.Lingers (memoryAfter memory events) ↔
        device.Lingers memory ∧ ¬ Resets events device' := by
    cases stream : device.stream with
    | streaming =>
      exact iff_of_false (stopped.not_lingers stream consistent.off_of_asleep stood)
        fun ⟨lingers, _⟩ => not_lingers_of_streaming stream lingers
    | stopped =>
      cases stopped with
      | idle _ => exact lingers_iff_of_silent rfl rfl (fun _ => not_supplied_nil) (balanced_nil _)
      | stopped streaming => exact nomatch stream.symm.trans streaming
  cases performed with
  | probe probed => exact other nofun nofun probed.lingers_iff
  | start started => exact start (.inl rfl) started rfl
  | streamOn started => exact start (.inr rfl) started rfl
  | stop stopped => exact other nofun nofun (stop stopped)
  | streamOff stopped => exact other nofun nofun (stop stopped)
  | setPower set => exact other nofun nofun set.lingers_iff
  | suspend suspended => exact other nofun nofun (suspended.lingers_iff consistent)
  | resume resumed => exact other nofun nofun (resumed.lingers_iff consistent stood)
  | tryFormat => exact other nofun nofun (tuned_trialFormat device _).lingers_iff
  | useFormat selected => exact other nofun nofun selected.tuned.lingers_iff
  | setControl adjusted => exact other nofun nofun adjusted.tuned_of_set.lingers_iff
  | setControlRaw adjusted => exact other nofun nofun adjusted.tuned_of_setRaw.lingers_iff
  | setControls set => exact other nofun nofun set.tuned.lingers_iff

end Device

/-! ## §5 Sessions -/

namespace Session

open Device

variable {configuration : Configuration} {wiring : Wiring} {trace : List Event}
  {steps : List Step} {device : Device}

/-- As long as no standby write fails, a sensor that is on while its stream is stopped was not told
to stream last, except after a start that failed behind mode select while power was requested, for
as long as nothing has ended that stream. -/
theorem lingers_iff_since (session : Session configuration wiring trace steps device)
    (stood : ∀ event ∈ trace, event.failsStandby = false) :
    (device.stream = .stopped ∧ device.sequencer.power = .on ∧
        memoryAfter .blank trace Register.modeSelect.toNat =
          some Register.streaming.toUInt8) ↔
      Since Step.AbandonsStream Step.EndsAbandoned steps := by
  -- induction on the session: both sides change with a step as `Performed.lingers_iff` says
  induction session with
  | created run =>
    cases created_of_runs run
    exact iff_of_false (fun ⟨_, on, _⟩ => nomatch on) not_since_nil
  | performed session run ih =>
    obtain ⟨before, here⟩ := List.forall_mem_append.1 stood
    rw [since_concat, ← ih before, memoryAfter_append]
    exact (performed_of_runs run).lingers_iff session.consistent session.regular here

/-- Power is requested, and the very last write of a start fails. -/
def lateFault : List (FaultPlan × Operation) :=
  [({}, .setPower true), ({ writeAt := [134] }, .start)]

theorem lingers_lateFault :
    ∃ trace steps device, Session {} ⟨true, true, true⟩ trace steps device ∧
      steps.map Step.operation = [.setPower true, .start] ∧
      (∀ event ∈ trace, event.failsStandby = false) ∧
      device.Lingers (memoryAfter .blank trace) := by
  have seen := exists_session_of_rehearse {} ⟨true, true, true⟩ lateFault
    (fun trace steps device => steps.map Step.operation = [.setPower true, .start] &&
      trace.all (! ·.failsStandby) && device.stream = .stopped && device.sequencer.power = .on &&
      (memoryAfter .blank trace).modeByte = some Register.streaming.toUInt8)
    (by decide +kernel)
  obtain ⟨trace, steps, device, session, shown⟩ := seen
  simp only [Bool.and_eq_true, Bool.not_eq_true', decide_eq_true_eq, List.all_eq_true] at shown
  obtain ⟨⟨⟨⟨operations, stood⟩, stopped⟩, on⟩, streaming⟩ := shown
  exact ⟨trace, steps, device, session, operations, stood, stopped, on, streaming⟩

/-- The abandoned stream is there to be found in the steps. -/
theorem abandons_late_fault :
    ∃ trace steps device, Session {} ⟨true, true, true⟩ trace steps device ∧
      (∀ event ∈ trace, event.failsStandby = false) ∧
      Since Step.AbandonsStream Step.EndsAbandoned steps := by
  obtain ⟨trace, steps, device, session, -, stood, lingers⟩ := lingers_lateFault
  exact ⟨trace, steps, device, session, stood, (lingers_iff_since session stood).1 lingers⟩

/-- The sensor is on and streams, while the stream of its device is stopped. -/
theorem streams_while_stopped :
    ∃ trace steps device, Session {} ⟨true, true, true⟩ trace steps device ∧
      steps.map Step.operation = [.setPower true, .start] ∧
      (∀ event ∈ trace, event.failsStandby = false) ∧
      device.stream = .stopped ∧ device.sequencer.power = .on ∧
      memoryAfter .blank trace Register.modeSelect.toNat = some Register.streaming.toUInt8 := by
  obtain ⟨trace, steps, device, session, operations, stood, stopped, on, streaming⟩ :=
    lingers_lateFault
  exact ⟨trace, steps, device, session, operations, stood, stopped, on, streaming⟩

end Session

end ImageSensor
