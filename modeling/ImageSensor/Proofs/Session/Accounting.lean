import ImageSensor.Proofs.Session.Basic

/-!
# Power Accounting

A device asks for one reference while it streams and for one while power is requested. After
every operation it holds exactly these, the power manager has granted exactly these, and clock and
supplies are on exactly while the sensor is.

## Main statements

- `Performed.balanced`: every operation changes what is outstanding at the platform by what it
  changes in the device.
- `Performed.consistent`: every operation keeps references, power, stream and suspension in
  agreement.
- `Session.power_accounts`: the accounts of every session balance.
-/

namespace ImageSensor

open ImageSensor.Action

namespace Device

variable {device device' : Device} {events : List Event} {outcome : Except DeviceError Unit}

/-! ## §1 What an operation leaves outstanding -/

theorem Programmed.exchange {outcome : Except BusError Unit}
    (programmed : device.Programmed events outcome) :
    ∀ event ∈ events, event.call.Exchange := by
  cases programmed with
  | tableFailed table => exact table.exchange
  | restoreFailed table replay restored =>
    have first := table.exchange
    have second := restored.exchange
    simp only [List.mem_append, List.mem_cons]
    rintro event (member | rfl | member)
    · exact first event member
    · trivial
    · exact second event member
  | enabled table replay restored enable =>
    have first := table.exchange
    have second := restored.exchange
    have third := enable.exchange
    simp only [List.mem_append, List.mem_cons]
    rintro event (member | rfl | member | member)
    · exact first event member
    · trivial
    · exact second event member
    · exact third event member

theorem StreamedOn.balanced (on : device.StreamedOn events outcome device') :
    device.Balanced events device' := by
  cases on with
  | unpowered up => exact balanced_poweredUp up
  | programmed up programmed =>
    exact (balanced_poweredUp up).trans (balanced_exchange _ programmed.exchange)

theorem Halted.exchange (halted : device.Halted events) :
    ∀ event ∈ events, event.call.Exchange := by
  cases halted with
  | untouched idle => simp
  | standby streaming awake stood => cases stood <;> simp [Call.Exchange]

theorem Stopped.balanced (stopped : device.Stopped events device') :
    device.Balanced events device' := by
  cases stopped with
  | idle stopped => exact balanced_nil device
  | stopped streaming halted released =>
    exact ((balanced_exchange device halted.exchange).trans released.balanced).noticed

theorem Started.balanced (started : device.Started events outcome device') :
    device.Balanced events device' := by
  cases started with
  | already streaming => exact balanced_nil device
  | refused stopped acquired => exact acquired.balanced.noticed
  | deferred stopped acquired asleep =>
    exact (acquired.balanced.trans (balanced_nil _).noticed).noticed
  | failed stopped acquired awake on released =>
    -- the reference that was taken is given back
    exact (acquired.balanced.trans (on.balanced.trans released.balanced.noticed)).noticed
  | started stopped acquired awake on => exact (acquired.balanced.trans on.balanced).noticed

theorem Suspended.balanced (suspended : device.Suspended events device') :
    device.Balanced events device' := by
  cases suspended with
  | already asleep => exact balanced_nil device
  | suspended awake halted down =>
    exact ((balanced_exchange device halted.exchange).trans (balanced_poweredDown down)).noticed

theorem Restored.balanced (restored : device.Restored events outcome device') :
    device.Balanced events device' := by
  cases restored with
  | streaming streaming on => exact on.balanced
  | powered stopped used up => exact balanced_poweredUp up
  | idle stopped unused => exact balanced_nil device

theorem Resumed.balanced (resumed : device.Resumed events outcome device') :
    device.Balanced events device' := by
  cases resumed with
  | already awake => exact balanced_nil device
  | resumed asleep restored => exact restored.balanced.noticed
  | failed asleep restored stopped =>
    exact (restored.balanced.trans stopped.balanced.noticed).noticed

theorem Probed.balanced {outcome : Except DeviceError ChipIdentity}
    (probed : device.Probed events outcome device') : device.Balanced events device' := by
  have reading {device : Device} {events : List Event} {identity}
      (identified : Runs device.bus.identify events identity) : device.Balanced events device :=
    balanced_exchange device fun event member =>
      ((Bus.identify_within device.bus).mem identified event member).1
  cases probed with
  | asleep asleep => exact balanced_nil device
  | unpowered awake acquired => exact acquired.balanced
  | rejected awake acquired identified released =>
    exact acquired.balanced.trans ((reading identified).trans released.balanced)
  | detected awake acquired identified released =>
    exact acquired.balanced.trans
      ((reading identified).trans (released.balanced.trans (balanced_nil device').noticed))

theorem Tuned.balanced (tuned : device.Tuned events device') : device.Balanced events device' := by
  intro resource
  have still := balanced_exchange device tuned.exchange resource
  cases resource <;> simpa [held, tuned.users, tuned.sequencer] using still

/-- Every operation changes what is outstanding at the platform by what it changes in the
device. -/
theorem Performed.balanced {operation : Operation} {reply : Reply}
    (performed : device.Performed operation events reply device') :
    device.Balanced events device' :=
  performed.elim Probed.balanced Started.balanced Stopped.balanced PowerSet.balanced
    Suspended.balanced Resumed.balanced Tuned.balanced

/-! ## §2 Agreement of the parts of the state -/

/-- References that the device asks for: one for the stream, one for an explicit request. -/
def demand (device : Device) : Nat :=
  (if device.stream = .streaming then 1 else 0) + if device.powerRequested then 1 else 0

/-- What is asked for once the stream is stopped. -/
theorem demand_of_streaming (streaming : device.stream = .streaming) :
    device.demand = { device with stream := .stopped }.demand + 1 := by
  simp [demand, streaming]
  omega

theorem demand_pos (streaming : device.stream = .streaming) : 0 < device.demand := by
  rw [demand_of_streaming streaming]
  exact Nat.succ_pos _

/-- A device that holds `count` references, and none while it is powered for nothing. -/
structure Holds (device : Device) (count : Nat) : Prop where
  users : device.users.toNat = count
  powered : device.sequencer.power = .on → 0 < count ∧ device.suspended = false

/-- References, power, stream and suspension agree. -/
structure Consistent (device : Device) : Prop where
  holds : device.Holds device.demand
  streams : device.stream = .streaming → device.suspended = false → device.sequencer.power = .on

/-- One reference more; an awake sensor is powered with it. -/
theorem Acquired.holds {count : Nat} (acquired : device.Acquired events (.ok ()) device')
    (holds : device.Holds count) :
    device'.Holds (count + 1) ∧ (device.suspended = false → device'.sequencer.power = .on) := by
  obtain ⟨users, powered⟩ := holds
  -- the outcome is made a variable, so that the cases can be told apart
  generalize ended : Except.ok () = outcome at acquired
  cases acquired with
  | refused => cases ended
  | unpowered awake up => cases ended
  | deferred asleep counted =>
    have counted := Checked.add_eq_ok_iff.1 counted
    refine ⟨⟨?_, fun on => ⟨Nat.succ_pos _, (powered on).2⟩⟩, fun awake => ?_⟩
    · rw [← counted, users]
      rfl
    · exact nomatch asleep.symm.trans awake
  | powered awake up counted =>
    have counted := Checked.add_eq_ok_iff.1 counted
    refine ⟨⟨?_, fun _ => ⟨Nat.succ_pos _, awake⟩⟩, fun _ => up.power_eq_on⟩
    rw [← counted, users]
    rfl

/-- One reference less; the sensor stays powered if another one is left. -/
theorem Released.holds {count : Nat} (released : device.Released events device')
    (holds : device.Holds (count + 1)) :
    device'.Holds count ∧ (0 < count → device'.sequencer = device.sequencer) := by
  obtain ⟨users, powered⟩ := holds
  -- which case it is follows from the count: the last reference takes the power with it
  cases released with
  | none unused => simp [unused] at users
  | kept used shared =>
    have fewer := toNat_pred used
    have left : count = (device.users - 1).toNat := by omega
    have positive : 0 < count := by
      rw [left]
      exact Nat.pos_of_ne_zero fun zero => shared (UInt32.toNat_inj.1 zero)
    exact ⟨⟨left.symm, fun on => ⟨positive, (powered on).2⟩⟩, fun _ => rfl⟩
  | last one down =>
    have last : count = 0 := by simpa [one] using users.symm
    subst last
    refine ⟨⟨rfl, fun on => ?_⟩, fun positive => absurd positive (by decide)⟩
    exact nomatch down.power_eq_off.symm.trans on

/-- Bringing back a sensor takes no reference. -/
theorem Restored.holds {count : Nat} (restored : device.Restored events outcome device')
    (holds : device.Holds count) (awake : device.suspended = false)
    (used : device.stream = .streaming → 0 < count) : device'.Holds count := by
  obtain ⟨users, powered⟩ := holds
  cases restored with
  | streaming streaming on =>
    obtain ⟨sequencer, rfl⟩ := on.frame
    exact ⟨users, fun _ => ⟨used streaming, awake⟩⟩
  | powered stopped referenced up =>
    refine ⟨users, fun _ => ⟨?_, awake⟩⟩
    rw [← users]
    exact UInt32.lt_iff_toNat_lt.1 referenced
  | idle stopped unused => exact ⟨users, powered⟩

/-- A suspended sensor is off. -/
theorem Consistent.off_of_asleep (consistent : device.Consistent)
    (asleep : device.suspended = true) : device.sequencer.power = .off := by
  cases power : device.sequencer.power with
  | off => rfl
  | on => exact nomatch asleep.symm.trans (consistent.holds.powered power).2

/-- Ending a suspension leaves the accounts in order. -/
theorem Consistent.awoken (consistent : device.Consistent) (asleep : device.suspended = true) :
    { device with suspended := false }.Holds device.demand := by
  refine ⟨consistent.holds.users, fun on => ?_⟩
  exact nomatch (consistent.off_of_asleep asleep).symm.trans on

/-! ## §3 Every operation keeps the agreement -/

theorem Probed.consistent {outcome : Except DeviceError ChipIdentity}
    (probed : device.Probed events outcome device') (consistent : device.Consistent) :
    device'.Consistent := by
  -- the reference of the probe comes on top of those held, and only it is dropped
  have shared {first third : List Event} {device₁ : Device}
      (acquired : device.Acquired first (.ok ()) device₁)
      (released : device₁.Released third device') : device'.Consistent := by
    obtain ⟨holds₁, powered⟩ := acquired.holds consistent.holds
    obtain ⟨holds', kept⟩ := released.holds holds₁
    obtain ⟨_, _, rfl⟩ := acquired.frame
    obtain ⟨_, _, rfl⟩ := released.frame
    refine ⟨holds', fun streaming awake => ?_⟩
    exact (congrArg Sequencer.power (kept (demand_pos streaming))).trans (powered awake)
  cases probed with
  | asleep asleep => exact consistent
  | unpowered awake acquired => exact acquired.of_error ▸ consistent
  | rejected awake acquired identified released => exact shared acquired released
  | detected awake acquired identified released => exact shared acquired released

theorem Started.consistent (started : device.Started events outcome device')
    (consistent : device.Consistent) : device'.Consistent := by
  have asking : device.stream = .stopped →
      { device with stream := .streaming }.demand = device.demand + 1 := by
    intro stopped
    simp [demand, stopped]
    omega
  cases started with
  | already streaming => exact consistent
  | refused stopped acquired => exact acquired.of_error ▸ consistent
  | deferred stopped acquired asleep =>
    obtain ⟨holds₁, -⟩ := acquired.holds consistent.holds
    obtain ⟨_, _, rfl⟩ := acquired.frame
    refine ⟨?_, fun _ awake => nomatch asleep.symm.trans awake⟩
    rw [← asking stopped] at holds₁
    exact ⟨holds₁.users, holds₁.powered⟩
  | failed stopped acquired awake on released =>
    obtain ⟨holds₁, powered⟩ := acquired.holds consistent.holds
    obtain ⟨_, _, rfl⟩ := acquired.frame
    -- the reference has powered the sensor, so switching the stream on changes nothing
    cases on.eq_of_on (powered awake)
    obtain ⟨holds', -⟩ := released.holds holds₁
    obtain ⟨_, _, rfl⟩ := released.frame
    refine ⟨holds', fun streaming => ?_⟩
    exact nomatch stopped.symm.trans streaming
  | started stopped acquired awake on =>
    obtain ⟨holds₁, powered⟩ := acquired.holds consistent.holds
    obtain ⟨_, _, rfl⟩ := acquired.frame
    cases on.eq_of_on (powered awake)
    rw [← asking stopped] at holds₁
    exact ⟨⟨holds₁.users, holds₁.powered⟩, fun _ => powered⟩

theorem Stopped.holds (stopped : device.Stopped events device')
    (holds : device.Holds device.demand) :
    device'.Holds device'.demand ∧ device'.stream = .stopped := by
  cases stopped with
  | idle stopped => exact ⟨holds, stopped⟩
  | stopped streaming halted released =>
    rw [demand_of_streaming streaming] at holds
    obtain ⟨holds', -⟩ := released.holds holds
    obtain ⟨_, _, rfl⟩ := released.frame
    exact ⟨⟨holds'.users, holds'.powered⟩, rfl⟩

theorem Stopped.consistent (stopped : device.Stopped events device')
    (consistent : device.Consistent) : device'.Consistent := by
  obtain ⟨holds', idle⟩ := stopped.holds consistent.holds
  exact ⟨holds', fun streaming => nomatch idle.symm.trans streaming⟩

theorem PowerSet.consistent {on : Bool} (set : device.PowerSet on events outcome device')
    (consistent : device.Consistent) : device'.Consistent := by
  cases set with
  | unchanged => exact consistent
  | refused fresh acquired => exact acquired.of_error ▸ consistent
  | requested fresh acquired =>
    obtain ⟨holds₁, powered⟩ := acquired.holds consistent.holds
    obtain ⟨_, _, rfl⟩ := acquired.frame
    have asking : { device with powerRequested := true }.demand = device.demand + 1 := by
      simp [demand, fresh]
    rw [← asking] at holds₁
    exact ⟨⟨holds₁.users, holds₁.powered⟩, fun _ => powered⟩
  | withdrawn requested released =>
    have asking : device.demand = { device with powerRequested := false }.demand + 1 := by
      simp [demand, requested]
    have holds := consistent.holds
    rw [asking] at holds
    obtain ⟨holds', kept⟩ := released.holds holds
    obtain ⟨_, _, rfl⟩ := released.frame
    refine ⟨⟨holds'.users, holds'.powered⟩, fun streaming awake => ?_⟩
    -- a stream has a reference of its own, which keeps the sensor on
    have positive : 0 < { device with powerRequested := false }.demand := demand_pos streaming
    exact (congrArg Sequencer.power (kept positive)).trans (consistent.streams streaming awake)

theorem Suspended.consistent (suspended : device.Suspended events device')
    (consistent : device.Consistent) : device'.Consistent := by
  cases suspended with
  | already asleep => exact consistent
  | suspended awake halted down =>
    refine ⟨⟨consistent.holds.users, fun on => ?_⟩, fun _ => nofun⟩
    exact nomatch down.power_eq_off.symm.trans on

theorem Resumed.consistent (resumed : device.Resumed events outcome device')
    (consistent : device.Consistent) : device'.Consistent := by
  cases resumed with
  | already awake => exact consistent
  | resumed asleep restored =>
    have holds := restored.holds (consistent.awoken asleep) rfl demand_pos
    generalize ended : Except.ok () = outcome at restored
    cases restored with
    | streaming streaming on =>
      subst ended
      obtain ⟨_, rfl⟩ := on.frame
      exact ⟨holds, fun _ _ => on.power_eq_on⟩
    | powered stopped referenced up =>
      exact ⟨holds, fun streaming => nomatch stopped.symm.trans streaming⟩
    | idle stopped unused =>
      exact ⟨holds, fun streaming => nomatch stopped.symm.trans streaming⟩
  | failed asleep restored stopped =>
    -- whether the sensor has power by now or not, stopping drops the reference of the stream
    have holds := restored.holds (consistent.awoken asleep) rfl demand_pos
    obtain ⟨_, rfl⟩ := restored.frame
    obtain ⟨holds', idle⟩ := stopped.holds holds
    exact ⟨holds', fun streaming => nomatch idle.symm.trans streaming⟩

theorem Tuned.consistent (tuned : device.Tuned events device') (consistent : device.Consistent) :
    device'.Consistent := by
  have asking : device'.demand = device.demand := by
    simp only [demand, tuned.stream, tuned.powerRequested]
  obtain ⟨⟨users, powered⟩, streams⟩ := consistent
  constructor
  · rw [asking]
    exact ⟨by rw [tuned.users, users], by rwa [tuned.sequencer, tuned.suspended]⟩
  · rwa [tuned.stream, tuned.suspended, tuned.sequencer]

/-- Every operation keeps references, power, stream and suspension in agreement. -/
theorem Performed.consistent {operation : Operation} {reply : Reply}
    (performed : device.Performed operation events reply device')
    (consistent : device.Consistent) : device'.Consistent :=
  performed.elim (·.consistent consistent) (·.consistent consistent) (·.consistent consistent)
    (·.consistent consistent) (·.consistent consistent) (·.consistent consistent)
    (·.consistent consistent)

end Device

/-! ## §4 The accounts of a session -/

namespace Session

open Device

variable {configuration : Configuration} {wiring : Wiring} {trace : List Event}
  {steps : List Step} {device : Device}

theorem consistent (session : Session configuration wiring trace steps device) :
    device.Consistent := by
  refine session.preserved Consistent ?_ fun consistent performed =>
    performed.consistent consistent
  intro _ _ created
  cases created with
  | created reported derived => exact ⟨⟨rfl, nofun⟩, nofun⟩

/-- What is outstanding at the platform is what the device holds. -/
theorem outstanding_eq (session : Session configuration wiring trace steps device)
    (resource : Resource) : outstanding resource trace = device.held resource := by
  -- induction on the session: trace and device start at zero and change by the same amount
  induction session with
  | created run =>
    cases created_of_runs run with
    | created reported derived =>
      rw [outstanding_eq_zero fun event member => (reported event member).idle]
      cases resource <;> rfl
  | performed session run ih =>
    have balanced := (performed_of_runs run).balanced resource
    rw [outstanding_append, ih, balanced]
    omega

/-- After every operation the references held are those that stream and request ask for, the power
manager has granted just as many, clock and supplies are on exactly while the sensor is, a sensor
that is on is referenced and awake, and an awake stream has a sensor that is on. -/
theorem power_accounts (session : Session configuration wiring trace steps device) :
    device.users.toNat = (if device.stream = .streaming then 1 else 0) +
        (if device.powerRequested then 1 else 0) ∧
      outstanding .reference trace = device.users.toNat ∧
      outstanding .clock trace = outstanding .supplies trace ∧
      outstanding .supplies trace = (if device.sequencer.power = .on then 1 else 0) ∧
      (device.sequencer.power = .on → 0 < device.users ∧ device.suspended = false) ∧
      (device.stream = .streaming → device.suspended = false →
        device.sequencer.power = .on) := by
  obtain ⟨⟨users, powered⟩, streams⟩ := session.consistent
  refine ⟨users, session.outstanding_eq _, ?_, session.outstanding_eq _, fun on => ?_, streams⟩
  · rw [session.outstanding_eq, session.outstanding_eq]
    rfl
  · obtain ⟨positive, awake⟩ := powered on
    refine ⟨UInt32.lt_iff_toNat_lt.2 ?_, awake⟩
    rwa [users]

/-- Power is requested and the stream started, the sensor sleeps, and the supplies cannot be enabled
when it is to wake up. -/
def unsuppliedResume : List (FaultPlan × Operation) :=
  [({}, .setPower true), ({}, .start), ({}, .suspend), ({ regulators := true }, .resume)]

/-- After the failed resume one reference is left, and clock and supplies are back. -/
theorem accounts_unsupplied_resume :
    ∃ trace steps device, Session {} ⟨true, true, true⟩ trace steps device ∧
      device.users = 1 ∧ device.sequencer.power = .off ∧ outstanding .reference trace = 1 ∧
      outstanding .clock trace = 0 ∧ outstanding .supplies trace = 0 := by
  have seen := exists_session_of_rehearse {} ⟨true, true, true⟩ unsuppliedResume
    (fun _ _ device => device.users = 1 && device.sequencer.power = .off) (by decide +kernel)
  obtain ⟨trace, steps, device, session, shown⟩ := seen
  simp only [Bool.and_eq_true, decide_eq_true_eq] at shown
  obtain ⟨users, off⟩ := shown
  obtain ⟨-, references, clock, supplies, -⟩ := power_accounts session
  rw [off] at supplies
  exact ⟨trace, steps, device, session, users, off, by rw [references, users]; rfl,
    clock.trans supplies, supplies⟩

end Session

end ImageSensor
