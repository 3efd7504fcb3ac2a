import ImageSensor.Proofs.Session.Completion

/-!
# Power Only Under a Granted Reference

Clock and supplies belong to a platform that other devices use as well, and its power manager speaks
for them: they may be on only while a reference is out. Between operations this is read off the
accounts. What an operation does on its way is a matter of order: power comes after the reference
and goes before it, and a clock without supplies is turned off before the reference goes back.

The accounts are followed call by call. They are good at a point if neither clock nor supplies have
been returned too often, and if either of them is out, a reference is.

## Main statements

- `BackedAlong.append`: accounts that are good along two traces are good along both in a row.
- `Performed.backed`, `Detached.backed`: they are good along every operation and the end.
- `Session.granted_while_powered`: no point of a session has clock or supplies on without a
  reference.
-/

namespace ImageSensor

open ImageSensor.Action

/-! ## §1 Points of a trace -/

/-- A resource that was taken and has not been returned since. -/
def InUse (resource : Resource) (trace : List Event) : Prop :=
  ∃ earlier event later, trace = earlier ++ event :: later ∧ event.takes resource = true ∧
    ∀ other ∈ later, other.returns resource = false

/-- At every point of the trace at which clock or supplies are in use, the power manager has granted
more references than it has got back. -/
def Covered (trace : List Event) : Prop :=
  ∀ point rest, trace = point ++ rest → InUse .clock point ∨ InUse .supplies point →
    0 < outstanding .reference point

/-! ## §2 Accounts along a trace -/

/-- Accounts after a trace. -/
def accountsAfter (accounts : Resource → Int) (trace : List Event) : Resource → Int :=
  fun resource => accounts resource + outstanding resource trace

/-- Accounts in which clock and supplies have not been returned too often, and neither is out
without a reference. -/
structure Backed (accounts : Resource → Int) : Prop where
  clock : 0 ≤ accounts .clock
  supplies : 0 ≤ accounts .supplies
  granted : 0 < accounts .clock ∨ 0 < accounts .supplies → 0 < accounts .reference

/-- Accounts that are good at every point of a trace. -/
def BackedAlong (accounts : Resource → Int) (trace : List Event) : Prop :=
  ∀ point rest, trace = point ++ rest → Backed (accountsAfter accounts point)

variable {accounts : Resource → Int} {events first second : List Event}

@[simp] theorem accountsAfter_nil : accountsAfter accounts [] = accounts :=
  funext fun _ => Int.add_zero _

@[simp] theorem accountsAfter_append :
    accountsAfter accounts (first ++ second) =
      accountsAfter (accountsAfter accounts first) second := by
  funext resource
  simp only [accountsAfter, outstanding_append]
  omega

theorem accountsAfter_of_idle (idle : ∀ event ∈ events, event.call.Idle) :
    accountsAfter accounts events = accounts := by
  funext resource
  rw [accountsAfter, outstanding_eq_zero idle, Int.add_zero]

theorem Backed.along_nil (backed : Backed accounts) : BackedAlong accounts [] := by
  intro point rest split
  rw [(List.append_eq_nil_iff.1 split.symm).1, accountsAfter_nil]
  exact backed

namespace BackedAlong

theorem backed (along : BackedAlong accounts events) : Backed accounts := by
  simpa using along [] events rfl

theorem append (one : BackedAlong accounts first)
    (two : BackedAlong (accountsAfter accounts first) second) :
    BackedAlong accounts (first ++ second) := by
  intro point rest split
  -- the point lies some way into the second trace, or within the first one
  rcases List.append_eq_append_iff.1 split with ⟨way, rfl, behind⟩ | ⟨way, rfl, -⟩
  · rw [accountsAfter_append]
    exact two way rest behind
  · exact one point way rfl

/-- One event in front. -/
theorem cons {event : Event} (backed : Backed accounts)
    (later : BackedAlong (accountsAfter accounts [event]) events) :
    BackedAlong accounts (event :: events) := by
  intro point rest split
  cases point with
  | nil =>
    rw [accountsAfter_nil]
    exact backed
  | cons head point =>
    cases split
    rw [← List.singleton_append, accountsAfter_append]
    exact later point rest rfl

/-- One event behind. -/
theorem concat {event : Event} (along : BackedAlong accounts events)
    (backed : Backed (accountsAfter accounts (events ++ [event]))) :
    BackedAlong accounts (events ++ [event]) := by
  rw [accountsAfter_append] at backed
  exact along.append (.cons (along events [] (List.append_nil _).symm) backed.along_nil)

/-- Calls that touch no resource leave good accounts good. -/
theorem of_idle (idle : ∀ event ∈ events, event.call.Idle) (backed : Backed accounts) :
    BackedAlong accounts events := by
  rintro point rest rfl
  rwa [accountsAfter_of_idle fun event member => idle event (List.mem_append_left _ member)]

/-- Calls in front that touch no resource. -/
theorem idle_append (idle : ∀ event ∈ first, event.call.Idle)
    (later : BackedAlong accounts second) : BackedAlong accounts (first ++ second) := by
  refine (of_idle idle later.backed).append ?_
  rwa [accountsAfter_of_idle idle]

theorem noticed {notice : Notice} (later : BackedAlong accounts events) :
    BackedAlong accounts (⟨.notify notice, ()⟩ :: events) := by
  have idle : ∀ event ∈ [(⟨.notify notice, ()⟩ : Event)], event.call.Idle := by
    intro event member
    rw [List.mem_singleton.1 member]
    exact Call.Exchange.idle trivial
  exact idle_append idle later

end BackedAlong

/-- An event that takes a resource returns nothing. -/
theorem change_of_takes {resource : Resource} {event : Event}
    (takes : event.takes resource = true) : event.change resource = 1 := by
  have stays : event.returns resource = false := by
    simp only [Event.takes, Bool.and_eq_true, decide_eq_true_eq] at takes
    rw [Event.returns, takes.1]
    cases resource <;> rfl
  simp [Event.change, takes, stays]

/-- What is in use is outstanding, if it was not overdrawn before. -/
theorem outstanding_pos_of_inUse {resource : Resource} {trace : List Event}
    (used : InUse resource trace)
    (solvent : ∀ earlier later, trace = earlier ++ later → 0 ≤ outstanding resource earlier) :
    0 < outstanding resource trace := by
  obtain ⟨earlier, event, later, rfl, takes, kept⟩ := used
  have before := solvent earlier (event :: later) rfl
  -- what comes behind the event returns nothing
  have behind : 0 ≤ outstanding resource later := by
    have none : later.countP (·.returns resource) = 0 := by simpa using kept
    simp [outstanding, none]
  rw [outstanding_append, outstanding_cons, change_of_takes takes]
  omega

theorem BackedAlong.covered {trace : List Event} (along : BackedAlong (fun _ => 0) trace) :
    Covered trace := by
  rintro point rest rfl used
  have balance (resource : Resource) (point : List Event) :
      accountsAfter (fun _ => 0) point resource = outstanding resource point := Int.zero_add _
  have here := (along point rest rfl).granted
  rw [balance, balance, balance] at here
  refine here (used.imp (outstanding_pos_of_inUse · ?_) (outstanding_pos_of_inUse · ?_))
  · rintro earlier later rfl
    have before := (along earlier (later ++ rest) (List.append_assoc _ _ _)).clock
    rwa [balance] at before
  · rintro earlier later rfl
    have before := (along earlier (later ++ rest) (List.append_assoc _ _ _)).supplies
    rwa [balance] at before

/-! ## §3 Powering up and down -/

@[simp] theorem change_enableClock (resource : Resource) :
    Event.change resource ⟨.enableClock, Except.ok ()⟩ = if resource = .clock then 1 else 0 := by
  cases resource <;> rfl

@[simp] theorem change_clockRefused (resource : Resource) (cause : Cause) :
    Event.change resource ⟨.enableClock, Except.error cause⟩ = 0 := by
  cases resource <;> rfl

@[simp] theorem change_disableClock (resource : Resource) :
    Event.change resource ⟨.disableClock, ()⟩ = if resource = .clock then -1 else 0 := by
  cases resource <;> rfl

@[simp] theorem change_enableRegulators (resource : Resource) :
    Event.change resource ⟨.enableRegulators, Except.ok ()⟩ =
      if resource = .supplies then 1 else 0 := by
  cases resource <;> rfl

@[simp] theorem change_suppliesRefused (resource : Resource) (cause : Cause) :
    Event.change resource ⟨.enableRegulators, Except.error cause⟩ = 0 := by
  cases resource <;> rfl

@[simp] theorem change_disableRegulators (resource : Resource) :
    Event.change resource ⟨.disableRegulators, ()⟩ = if resource = .supplies then -1 else 0 := by
  cases resource <;> rfl

namespace Sequencer

variable {sequencer sequencer' : Sequencer}

/-- Accounts that say of clock and supplies what the sequencer says. -/
structure Reflected (sequencer : Sequencer) (accounts : Resource → Int) : Prop where
  clock : accounts .clock = sequencer.held .clock
  supplies : accounts .supplies = sequencer.held .supplies

/-- A part of the power sequence leaves good accounts good. -/
theorem idle_part {action : Action Unit} {outcome : Except Trap Unit}
    (limited : action.Within Call.Incidental) (run : Runs action events outcome) :
    ∀ event ∈ events, event.call.Idle :=
  fun event member => (limited.mem run event member).idle

/-- Under a granted reference the sensor can be powered up. -/
theorem PoweredUp.backed {outcome : Except PowerError Unit}
    (up : sequencer.PoweredUp events outcome sequencer')
    (reflected : sequencer.Reflected accounts) (granted : 0 < accounts .reference) :
    BackedAlong accounts events := by
  obtain ⟨clock, supplies⟩ := reflected
  cases up with
  | already on =>
    refine Backed.along_nil ?_
    constructor <;> simp [clock, supplies, held, on, granted]
  | clockFailed off prepared =>
    refine .idle_append (idle_part (prepare_within _) prepared) (.cons ?_ (Backed.along_nil ?_))
    all_goals constructor <;> simp [accountsAfter, clock, supplies, held, off, granted]
  | suppliesFailed off prepared reset =>
    refine .idle_append (idle_part (prepare_within _) prepared) (.cons ?_
      (.idle_append (idle_part (drive_within _ _ _) reset) (.cons ?_ (.cons ?_
        (Backed.along_nil ?_)))))
    all_goals constructor <;> simp [accountsAfter, clock, supplies, held, off, granted]
  | powered off prepared reset released =>
    refine .idle_append (idle_part (prepare_within _) prepared) (.cons ?_
      (.idle_append (idle_part (drive_within _ _ _) reset) (.cons ?_
        (.of_idle (idle_part (releaseReset_within _) released) ?_))))
    all_goals constructor <;> simp [accountsAfter, clock, supplies, held, off, granted]

/-- Accounts that are good let the sensor be powered down. -/
theorem PoweredDown.backed (down : sequencer.PoweredDown events sequencer')
    (reflected : sequencer.Reflected accounts) (good : Backed accounts) :
    BackedAlong accounts events := by
  obtain ⟨clock, supplies⟩ := reflected
  cases down with
  | already off => exact good.along_nil
  | lowered on stopped reset slept disabled =>
    have granted : 0 < accounts .reference := good.granted (.inl (by simp [clock, held, on]))
    refine .noticed (.idle_append (idle_part (drive_within _ _ _) stopped) (.cons good
      (.idle_append (idle_part (drive_within _ _ _) reset)
        (.idle_append (idle_part (selectPins_within _) slept)
          (.idle_append (idle_part (drive_within _ _ _) disabled)
            (.cons ?_ (Backed.along_nil ?_)))))))
    all_goals constructor <;> simp [accountsAfter, clock, supplies, held, on, granted]

end Sequencer

/-! ## §4 One operation -/

/-- A reference more does no harm. -/
theorem Backed.granted_more (good : Backed accounts) :
    Backed (accountsAfter accounts [⟨.acquire, Except.ok ()⟩]) := by
  obtain ⟨clock, supplies, granted⟩ := good
  constructor <;> simp [accountsAfter] <;> omega

namespace Device

variable {device device₁ device' : Device} {outcome : Except DeviceError Unit}

/-- What the trace of an operation leaves is what the device holds afterwards. -/
theorem Balanced.accountsAfter_held (balanced : device.Balanced events device') :
    accountsAfter device.held events = device'.held := by
  funext resource
  rw [accountsAfter, balanced resource]
  omega

/-- One part of an operation, then another. -/
theorem Balanced.backed (balanced : device.Balanced first device₁)
    (one : BackedAlong device.held first) (two : BackedAlong device₁.held second) :
    BackedAlong device.held (first ++ second) := by
  rw [← balanced.accountsAfter_held] at two
  exact one.append two

theorem reflected_held (device : Device) : device.sequencer.Reflected device.held :=
  ⟨rfl, rfl⟩

/-- What a device holds is good if its sensor is only on while it is referenced. -/
theorem backed_held (referenced : device.sequencer.power = .on → device.users ≠ 0) :
    Backed device.held := by
  cases power : device.sequencer.power with
  | off => constructor <;> simp [held, Sequencer.held, power]
  | on =>
    have used : 0 < device.users.toNat :=
      Nat.pos_of_ne_zero fun zero => referenced power (UInt32.toNat_inj.1 zero)
    constructor <;> simp [held, Sequencer.held, power, used]

theorem Acquired.backed (acquired : device.Acquired events outcome device')
    (good : Backed device.held) : BackedAlong device.held events := by
  have balanced := acquired.balanced
  -- with the new reference granted, powering up is in order whatever comes of it
  have powering {raised : List Event} {outcome : Except PowerError Unit} {sequencer : Sequencer}
      (up : device.sequencer.PoweredUp raised outcome sequencer) :
      BackedAlong device.held (⟨.acquire, Except.ok ()⟩ :: raised) := by
    refine .cons good (up.backed ⟨?_, ?_⟩ ?_)
    all_goals simp [accountsAfter, held]
  cases acquired with
  | refused => exact .cons good (Backed.along_nil (by rwa [balanced.accountsAfter_held]))
  | unpowered awake up =>
    rw [← List.cons_append] at balanced ⊢
    exact (powering up).concat (by rwa [balanced.accountsAfter_held])
  | deferred asleep counted => exact .cons good good.granted_more.along_nil
  | powered awake up counted => exact powering up

theorem Released.backed (released : device.Released events device')
    (good : Backed device.held) : BackedAlong device.held events := by
  have balanced := released.balanced
  cases released with
  | none unused => exact good.along_nil
  | kept used shared =>
    refine .cons good (Backed.along_nil ?_)
    rw [balanced.accountsAfter_held]
    exact backed_held fun _ => shared
  | last one down =>
    -- the power goes first, so nothing is on any more when the reference is given back
    refine (down.backed device.reflected_held good).concat ?_
    rw [balanced.accountsAfter_held]
    exact backed_held fun on => nomatch down.power_eq_off.symm.trans on

theorem PowerSet.backed {on : Bool} (set : device.PowerSet on events outcome device')
    (good : Backed device.held) : BackedAlong device.held events := by
  cases set with
  | unchanged => exact good.along_nil
  | refused fresh acquired | requested fresh acquired => exact acquired.backed good
  | withdrawn requested released => exact released.backed good

/-- Bus traffic and notices touch no account. -/
theorem backed_exchange (exchange : ∀ event ∈ events, event.call.Exchange)
    (good : Backed device.held) : BackedAlong device.held events :=
  .of_idle (fun event member => (exchange event member).idle) good

/-- What is good along an operation is good behind it. -/
theorem Balanced.good (balanced : device.Balanced events device')
    (along : BackedAlong device.held events) : Backed device'.held := by
  rw [← balanced.accountsAfter_held]
  exact along events [] (List.append_nil _).symm

theorem users_pos (used : device.users ≠ 0) : 0 < device.held .reference := by
  have positive : device.users.toNat ≠ 0 := fun zero => used (UInt32.toNat_inj.1 zero)
  simp only [held]
  omega

/-- A sensor that is referenced can be made to stream. -/
theorem StreamedOn.backed (on : device.StreamedOn events outcome device')
    (used : device.users ≠ 0) : BackedAlong device.held events := by
  cases on with
  | unpowered up => exact up.backed device.reflected_held (users_pos used)
  | programmed up programmed =>
    have balanced := balanced_poweredUp up
    have along := up.backed device.reflected_held (users_pos used)
    exact balanced.backed along (backed_exchange programmed.exchange (balanced.good along))

theorem Stopped.backed (stopped : device.Stopped events device')
    (good : Backed device.held) : BackedAlong device.held events := by
  cases stopped with
  | idle stopped => exact good.along_nil
  | stopped streaming halted released =>
    exact .noticed ((balanced_exchange device halted.exchange).backed
      (backed_exchange halted.exchange good) (released.backed good))

/-- Whoever has taken a reference holds one. -/
theorem Acquired.users_ne_zero (acquired : device.Acquired events (.ok ()) device') :
    device'.users ≠ 0 := by
  have more {users : UInt32} (counted : Checked.add device.users 1 = .ok users) : users ≠ 0 := by
    rintro rfl
    exact absurd (Checked.add_eq_ok_iff.1 counted) (by simp)
  cases acquired with
  | deferred asleep counted => exact more counted
  | powered awake up counted => exact more counted

theorem Started.backed (started : device.Started events outcome device')
    (good : Backed device.held) : BackedAlong device.held events := by
  cases started with
  | already streaming => exact good.along_nil
  | refused stopped acquired => exact (acquired.backed good).noticed
  | deferred stopped acquired asleep =>
    have along := acquired.backed good
    exact .noticed (acquired.balanced.backed along
      (acquired.balanced.good along).along_nil.noticed)
  | failed stopped acquired awake on released =>
    have along := acquired.backed good
    have streaming := on.backed acquired.users_ne_zero
    exact .noticed (acquired.balanced.backed along (on.balanced.backed streaming
      (released.backed (on.balanced.good streaming)).noticed))
  | started stopped acquired awake on =>
    exact .noticed (acquired.balanced.backed (acquired.backed good)
      (on.backed acquired.users_ne_zero))

theorem Suspended.backed (suspended : device.Suspended events device')
    (good : Backed device.held) : BackedAlong device.held events := by
  cases suspended with
  | already asleep => exact good.along_nil
  | suspended awake halted down =>
    exact .noticed ((balanced_exchange device halted.exchange).backed
      (backed_exchange halted.exchange good) (down.backed device.reflected_held good))

/-- A stream is only brought back if it is referenced. -/
theorem Restored.backed (restored : device.Restored events outcome device')
    (good : Backed device.held) (used : device.stream = .streaming → device.users ≠ 0) :
    BackedAlong device.held events := by
  cases restored with
  | streaming streaming on => exact on.backed (used streaming)
  | powered stopped referenced up =>
    exact up.backed device.reflected_held (users_pos (by grind))
  | idle stopped unused => exact good.along_nil

theorem Resumed.backed (resumed : device.Resumed events outcome device')
    (good : Backed device.held) (used : device.stream = .streaming → device.users ≠ 0) :
    BackedAlong device.held events := by
  cases resumed with
  | already awake => exact good.along_nil
  | resumed asleep restored => exact (restored.backed good used).noticed
  | failed asleep restored stopped =>
    have along := restored.backed good used
    exact .noticed (restored.balanced.backed along
      (stopped.backed (restored.balanced.good along)).noticed)

theorem Probed.backed {outcome : Except DeviceError ChipIdentity}
    (probed : device.Probed events outcome device') (good : Backed device.held) :
    BackedAlong device.held events := by
  -- while the chip is read, the reference of the probe is held
  have reading {first second third : List Event} {device₁ : Device} {identity}
      (acquired : device.Acquired first (.ok ()) device₁)
      (identified : Runs device₁.bus.identify second identity)
      (later : Backed device₁.held → BackedAlong device₁.held third) :
      BackedAlong device.held (first ++ (second ++ third)) := by
    have along := acquired.backed good
    have good₁ := acquired.balanced.good along
    have exchange : ∀ event ∈ second, event.call.Exchange := fun event member =>
      ((Bus.identify_within device₁.bus).mem identified event member).1
    exact acquired.balanced.backed along
      ((balanced_exchange device₁ exchange).backed (backed_exchange exchange good₁) (later good₁))
  cases probed with
  | asleep asleep => exact good.along_nil
  | unpowered awake acquired => exact acquired.backed good
  | rejected awake acquired identified released =>
    exact reading acquired identified fun good₁ => released.backed good₁
  | detected awake acquired identified released =>
    refine reading acquired identified fun good₁ => ?_
    have along := released.backed good₁
    exact released.balanced.backed along (released.balanced.good along).along_nil.noticed

/-- Clock and supplies are out only under a reference, all along every operation. -/
theorem Performed.backed {operation : Operation} {reply : Reply}
    (performed : device.Performed operation events reply device')
    (consistent : device.Consistent) : BackedAlong device.held events := by
  have used : 0 < device.demand → device.users ≠ 0 := by
    rintro asked zero
    have users := consistent.holds.users
    rw [zero] at users
    exact Nat.ne_of_gt asked users.symm
  have good : Backed device.held :=
    backed_held fun on => used (consistent.holds.powered on).1
  exact performed.elim (·.backed good) (·.backed good) (·.backed good) (·.backed good)
    (·.backed good) (·.backed good fun streaming => used (demand_pos streaming))
    fun tuned => backed_exchange tuned.exchange good

/-! ## §5 The end of a session -/

theorem Dropped.balanced {count : Nat} (dropped : Dropped count device events device') :
    device.Balanced events device' := by
  induction dropped with
  | none => exact balanced_nil _
  | next released _ ih => exact released.balanced.trans ih

theorem Dropped.backed {count : Nat} (dropped : Dropped count device events device')
    (good : Backed device.held) : BackedAlong device.held events := by
  induction dropped with
  | none => exact good.along_nil
  | next released _ ih =>
    have along := released.backed good
    exact released.balanced.backed along (ih (released.balanced.good along))

/-- Taking a device apart keeps to the order as well. -/
theorem Detached.backed {wiring : Wiring} (detached : device.Detached events wiring)
    (good : Backed device.held) : BackedAlong device.held events := by
  cases detached with
  | @detached _ _ _ device₁ device₂ _ stopped dropped down =>
    have stopping := stopped.backed good
    have good₁ := stopped.balanced.good stopping
    have dropping := dropped.backed good₁
    exact stopped.balanced.backed stopping (dropped.balanced.backed dropping
      (down.backed device₂.reflected_held (dropped.balanced.good dropping)))

end Device

namespace Session

open Device

variable {configuration : Configuration} {wiring : Wiring} {trace : List Event}
  {steps : List Step} {device : Device}

/-- The accounts that a trace has left are those of the device. -/
theorem accountsAfter_eq (session : Session configuration wiring trace steps device) :
    accountsAfter (fun _ => 0) trace = device.held := by
  funext resource
  rw [accountsAfter, session.outstanding_eq, Int.zero_add]

theorem backed (session : Session configuration wiring trace steps device) :
    BackedAlong (fun _ => 0) trace := by
  induction session with
  | created run =>
    cases created_of_runs run with
    | created reported derived =>
      exact .of_idle (fun event member => (reported event member).idle) (by constructor <;> simp)
  | performed session run ih =>
    refine ih.append ?_
    rw [session.accountsAfter_eq]
    exact (performed_of_runs run).backed session.consistent

/-- At every point of a session, in the middle of an operation as well as between two, at which
clock or supplies have been enabled and not been disabled since, the power manager has granted more
references than it has got back. The same holds along whatever operation comes next, and while the
device is taken apart. -/
theorem granted_while_powered (session : Session configuration wiring trace steps device) :
    Covered trace ∧
      (∀ operation events outcome, Runs (device.perform operation) events outcome →
        Covered (trace ++ events)) ∧
      ∀ final outcome, Runs device.detach final outcome → Covered (trace ++ final) := by
  refine ⟨session.backed.covered, ?_, ?_⟩
  · intro operation events outcome run
    obtain ⟨reply, device', -, longer⟩ := session.exists_reply run
    exact longer.backed.covered
  · intro final outcome run
    obtain ⟨back, rfl⟩ := device.detach_total.exists_ok run
    have along := session.backed
    refine (along.append ?_).covered
    have good := along trace [] (List.append_nil _).symm
    rw [session.accountsAfter_eq] at good ⊢
    exact (detached_of_runs run).backed good

/-- Power is requested on a platform that refuses the supplies. -/
def refusedSupplies : List (FaultPlan × Operation) :=
  [({ regulators := true }, .setPower true)]

/-- In the middle of that request the clock runs, and the reference that was granted is out; in the
end neither of them is. -/
theorem granted_refused_supplies :
    ∃ trace steps device, Session {} ⟨true, true, true⟩ trace steps device ∧
      ∃ point rest, trace = point ++ rest ∧ InUse .clock point ∧ 0 < outstanding .reference point ∧
        outstanding .clock trace = 0 ∧ outstanding .reference trace = 0 := by
  -- the clock is the eighth call of the request
  have seen := exists_session_of_rehearse {} ⟨true, true, true⟩ refusedSupplies
    (fun trace _ device => (trace.take 8).getLast?.any (·.takes .clock) &&
      device.sequencer.power = .off && device.users = 0) (by decide +kernel)
  obtain ⟨trace, steps, device, session, shown⟩ := seen
  simp only [Bool.and_eq_true, decide_eq_true_eq, Option.any_eq_true] at shown
  obtain ⟨⟨⟨event, last, takes⟩, off⟩, users⟩ := shown
  obtain ⟨before, split⟩ := List.getLast?_eq_some_iff.1 last
  have used : InUse .clock (trace.take 8) := ⟨before, event, [], split, takes, nofun⟩
  refine ⟨trace, steps, device, session, trace.take 8, trace.drop 8, ?_, used, ?_, ?_, ?_⟩
  · exact (List.take_append_drop 8 trace).symm
  · exact (granted_while_powered session).1 _ _ (List.take_append_drop 8 trace).symm (.inl used)
  · rw [session.outstanding_eq, held, Sequencer.held, if_neg (by simp [off])]
  · rw [session.outstanding_eq, held, users]
    rfl

end Session

end ImageSensor
