import ImageSensor.Platform.Action
import ImageSensor.Register.Bytes

/-!
# Test Bench

A platform made of plain data, on which the driver can be run: a sensor whose registers are set by
hand, a reference clock that remembers its rate, and a plan of the calls that are to fail. The
power manager may be missing, in which case every reference is granted.
-/

namespace ImageSensor

/-! ## §1 Faults -/

/-- Which calls fail. -/
structure FaultPlan where
  /-- Bus writes by position, counted from the start of the plan. -/
  writeAt : List Nat := []
  /-- Bus writes by register. -/
  writesTo : List UInt16 := []
  allWrites : Bool := false
  /-- Bus reads by register. -/
  readsOf : List UInt16 := []
  allReads : Bool := false
  pins : List ControlPin := []
  profiles : List PinProfile := []
  setRate : Bool := false
  clock : Bool := false
  regulators : Bool := false
  acquire : Bool := false
  /-- Rate at which the reference clock claims to run. -/
  claimedRate : Option UInt32 := none
  deriving DecidableEq, Repr

/-! ## §2 The bench -/

/-- State of the bench. -/
structure Bench where
  plan : FaultPlan := {}
  /-- Bus writes attempted since the plan was made. -/
  writes : Nat := 0
  /-- Register values set by hand, the latest first. -/
  registers : List (UInt16 × UInt32) := []
  /-- Rate that was set last. -/
  rate : UInt32 := 0
  /-- Whether there is a power manager. -/
  managed : Bool := true
  deriving DecidableEq, Repr

namespace Bench

/-- Makes a new plan; writes are counted anew. -/
def setPlan (bench : Bench) (plan : FaultPlan) : Bench :=
  { bench with plan, writes := 0 }

/-- Sets a register of the sensor. -/
def setRegister (bench : Bench) (address : UInt16) (v : UInt32) : Bench :=
  { bench with registers := (address, v) :: bench.registers }

/-- Value of a register, zero if it was never set. -/
def register (bench : Bench) (address : UInt16) : UInt32 :=
  (bench.registers.lookup address).getD 0

/-- The register address at the front of the bytes sent. -/
def addressed (bytes : List UInt8) : UInt16 :=
  UInt16.ofNat (ofBigEndian (bytes.take 2))

/-- Whether a write fails. -/
def writeFails (bench : Bench) (bytes : List UInt8) : Bool :=
  bench.plan.allWrites || bench.plan.writeAt.contains bench.writes ||
    bench.plan.writesTo.contains (addressed bytes)

/-- Whether a read fails. -/
def readFails (bench : Bench) (bytes : List UInt8) : Bool :=
  bench.plan.allReads || bench.plan.readsOf.contains (addressed bytes)

/-- The low bytes of a register. -/
def lowBytes (bench : Bench) (bytes : List UInt8) (count : Nat) : Vector UInt8 count :=
  ⟨(bigEndian count (bench.register (addressed bytes)).toNat).toArray, by simp⟩

/-- Success, or failure for a reason. -/
def outcome (fails : Bool) (reason : String) : Except Cause Unit :=
  if fails then .error ⟨reason⟩ else .ok ()

/-- Answers a call. -/
def respond (bench : Bench) : (call : Call) → call.Answer × Bench
  | .busWrite _ bytes =>
    (outcome (bench.writeFails bytes) "write-fault", { bench with writes := bench.writes + 1 })
  | .busRead _ bytes count =>
    let answer : Except Cause (Vector UInt8 count) :=
      if bench.readFails bytes then .error ⟨"read-fault"⟩ else .ok (bench.lowBytes bytes count)
    (answer, bench)
  | .drive pin _ => (outcome (bench.plan.pins.contains pin) "pin-fault", bench)
  | .delay _ => ((), bench)
  | .setClockRate hz =>
    (outcome bench.plan.setRate "rate-fault",
      if bench.plan.setRate then bench else { bench with rate := hz })
  | .clockRate => (bench.plan.claimedRate.getD bench.rate, bench)
  | .enableClock => (outcome bench.plan.clock "clock-fault", bench)
  | .disableClock => ((), bench)
  | .enableRegulators => (outcome bench.plan.regulators "regulator-fault", bench)
  | .disableRegulators => ((), bench)
  | .selectPins profile => (outcome (bench.plan.profiles.contains profile) "mux-fault", bench)
  | .acquire => (outcome (bench.managed && bench.plan.acquire) "acquire-fault", bench)
  | .release => ((), bench)
  | .notify _ => ((), bench)

end Bench

end ImageSensor
