import ImageSensor.Proofs.Bus.Transfer

/-!
# What the Sensor Has Stored

A register write puts its value bytes at consecutive addresses, most significant byte first. The
last write to an address counts, and a sensor that was just supplied has stored nothing yet. What
is stored is read off the trace, byte by byte, so that writes of different widths and to
neighbouring registers are told apart.

## Main statements

- `memoryAfter_exchange`: bus traffic stores the frames that are delivered.
- `memoryAfter_passive`: other events change nothing, unless they turn the supplies on.
- `Bus.Wrote.ok_of_unbroken`: writes none of which fails are all delivered.
- `Memory.holds_store`, `Memory.Holds.store`: a write is stored, and stays stored under writes to
  registers apart from it.
-/

namespace ImageSensor

/-! ## §1 Bytes of a frame -/

/-- The byte that a frame carries for an address. Its first value byte is for the register address,
the others are for the addresses behind it. -/
def byteAt? (frame : List UInt8) (address : Nat) : Option UInt8 :=
  if ofBigEndian (frame.take 2) ≤ address then
    (frame.drop 2)[address - ofBigEndian (frame.take 2)]?
  else none

namespace RegisterWrite

theorem drop_frame (write : RegisterWrite) :
    write.frame.drop 2 = bigEndian write.width.toNat write.value.toNat :=
  List.drop_left' (by simp [addressBytes])

theorem byteAt?_frame (write : RegisterWrite) (i : Nat) :
    byteAt? write.frame (write.address.toNat + i) =
      (bigEndian write.width.toNat write.value.toNat)[i]? := by
  rw [byteAt?, ofBigEndian_take_frame, if_pos (Nat.le_add_right _ _), Nat.add_sub_cancel_left,
    drop_frame]

/-- A write reaches no further than its width. -/
theorem byteAt?_eq_none {write : RegisterWrite} {address : Nat}
    (outside : address < write.address.toNat ∨
      write.address.toNat + write.width.toNat ≤ address) : byteAt? write.frame address = none := by
  rw [byteAt?, ofBigEndian_take_frame, drop_frame]
  split
  · rw [List.getElem?_eq_none_iff, length_bigEndian]
    omega
  · rfl

end RegisterWrite

/-! ## §2 Memory -/

/-- The bytes that a sensor has stored, by address. -/
def Memory : Type := Nat → Option UInt8

namespace Memory

/-- Nothing is stored. -/
def blank : Memory := fun _ => none

/-- The memory after a frame: its bytes replace those at their addresses. -/
def store (memory : Memory) (frame : List UInt8) : Memory :=
  fun address => (byteAt? frame address).or (memory address)

/-- The memory after several frames, in order. -/
def storeAll (memory : Memory) (frames : List (List UInt8)) : Memory :=
  frames.foldl store memory

variable {memory : Memory}

@[simp] theorem storeAll_nil : memory.storeAll [] = memory := rfl

@[simp] theorem storeAll_cons (frame : List UInt8) (frames : List (List UInt8)) :
    memory.storeAll (frame :: frames) = (memory.store frame).storeAll frames := rfl

theorem storeAll_append (first second : List (List UInt8)) :
    memory.storeAll (first ++ second) = (memory.storeAll first).storeAll second :=
  List.foldl_append

/-- Frames that carry nothing for an address leave it as it is. -/
theorem storeAll_untouched {frames : List (List UInt8)} {address : Nat}
    (untouched : ∀ frame ∈ frames, byteAt? frame address = none) :
    memory.storeAll frames address = memory address := by
  induction frames generalizing memory with
  | nil => rfl
  | cons frame rest ih =>
    have here : memory.store frame address = memory address := by
      rw [store, untouched frame List.mem_cons_self, Option.none_or]
    rw [storeAll_cons, ih fun other member => untouched other (List.mem_cons_of_mem _ member), here]

/-- The memory holds the value of a write: every byte of it stands at its address. -/
def Holds (memory : Memory) (write : RegisterWrite) : Prop :=
  ∀ i < write.width.toNat,
    memory (write.address.toNat + i) = (bigEndian write.width.toNat write.value.toNat)[i]?

/-- A write that was just received is held. -/
theorem holds_store (memory : Memory) (write : RegisterWrite) :
    (memory.store write.frame).Holds write := by
  intro i within
  have present : i < (bigEndian write.width.toNat write.value.toNat).length := by
    rwa [length_bigEndian]
  rw [store, write.byteAt?_frame, List.getElem?_eq_getElem present, Option.some_or]

end Memory

/-- Two writes share no address. -/
def RegisterWrite.Apart (write other : RegisterWrite) : Prop :=
  write.address.toNat + write.width.toNat ≤ other.address.toNat ∨
    other.address.toNat + other.width.toNat ≤ write.address.toNat

namespace Memory

variable {memory : Memory} {write other : RegisterWrite}

/-- What is held stays held under a write that is apart from it. -/
theorem Holds.store (holds : memory.Holds write) (apart : write.Apart other) :
    (memory.store other.frame).Holds write := by
  intro i within
  have outside : byteAt? other.frame (write.address.toNat + i) = none := by
    apply RegisterWrite.byteAt?_eq_none
    unfold RegisterWrite.Apart at apart
    omega
  rw [Memory.store, outside, Option.none_or]
  exact holds i within

theorem Holds.storeAll {writes : List RegisterWrite} (holds : memory.Holds write)
    (apart : ∀ other ∈ writes, write.Apart other) :
    (memory.storeAll (writes.map RegisterWrite.frame)).Holds write := by
  induction writes generalizing memory with
  | nil => exact holds
  | cons other rest ih =>
    have here := holds.store (apart other List.mem_cons_self)
    exact ih here fun later member => apart later (List.mem_cons_of_mem _ member)

/-- The number in the two bytes from an address on, if both are stored. -/
def word? (memory : Memory) (address : RegisterAddress) : Option Nat :=
  match memory address.toNat, memory (address.toNat + 1) with
  | some high, some low => some (ofBigEndian [high, low])
  | _, _ => none

/-- A two byte write that is held reads back as its value. -/
theorem Holds.word? {address : RegisterAddress} {v : UInt32}
    (holds : memory.Holds ⟨address, 2, v⟩) (fits : v.toNat < byteRange 2) :
    memory.word? address = some v.toNat := by
  have bytes : bigEndian 2 v.toNat =
      [UInt8.ofNat (v.toNat / 256 % 256), UInt8.ofNat (v.toNat % 256)] := rfl
  have high := holds 0 (show 0 < (2 : UInt8).toNat by decide)
  have low := holds 1 (show 1 < (2 : UInt8).toNat by decide)
  change memory address.toNat = (bigEndian 2 v.toNat)[0]? at high
  change memory (address.toNat + 1) = (bigEndian 2 v.toNat)[1]? at low
  rw [bytes] at high low
  rw [Memory.word?, high, low]
  show some (ofBigEndian _) = _
  rw [← bytes, ofBigEndian_bigEndian_of_lt fits]

end Memory

/-! ## §3 Memory, as read off a trace -/

/-- What an event does to the memory of a sensor: supplies that come on clear it, and a register
write that succeeds is stored. -/
def Event.stores (event : Event) (memory : Memory) : Memory :=
  if event.takes .supplies then .blank
  else
    match event.delivered? with
    | some frame => memory.store frame
    | none => memory

/-- Memory after a trace. -/
def memoryAfter : Memory → List Event → Memory
  | memory, [] => memory
  | memory, event :: later => memoryAfter (event.stores memory) later

variable {memory : Memory} {events : List Event}

theorem memoryAfter_append (first second : List Event) :
    memoryAfter memory (first ++ second) = memoryAfter (memoryAfter memory first) second := by
  induction first generalizing memory with
  | nil => rfl
  | cons event rest ih => exact ih

/-- A notice in front stores nothing. -/
theorem memoryAfter_noticed (notice : Notice) :
    memoryAfter memory (⟨.notify notice, ()⟩ :: events) = memoryAfter memory events := rfl

/-- Without supplies coming on, the memory is what was delivered on top of what it was. -/
theorem memoryAfter_unsupplied (steady : ∀ event ∈ events, event.takes .supplies = false) :
    memoryAfter memory events = memory.storeAll (delivered events) := by
  induction events generalizing memory with
  | nil => rfl
  | cons event rest ih =>
    have here := steady event List.mem_cons_self
    have later := fun memory =>
      @ih memory fun other member => steady other (List.mem_cons_of_mem _ member)
    rw [memoryAfter, later, Event.stores, here, if_neg Bool.false_ne_true, delivered, delivered,
      List.filterMap_cons]
    cases event.delivered? <;> rfl

theorem Call.Idle.not_takes {event : Event} (idle : event.call.Idle) (resource : Resource) :
    event.takes resource = false := by
  simp [Event.takes, (idle resource).1]

/-- Bus traffic stores the frames that are delivered. -/
theorem memoryAfter_exchange (exchange : ∀ event ∈ events, event.call.Exchange) :
    memoryAfter memory events = memory.storeAll (delivered events) :=
  memoryAfter_unsupplied fun event member => (exchange event member).idle.not_takes _

/-- Events that deliver nothing change nothing, unless they turn the supplies on. -/
theorem memoryAfter_passive (steady : ∀ event ∈ events, event.takes .supplies = false)
    (silent : delivered events = []) : memoryAfter memory events = memory := by
  rw [memoryAfter_unsupplied steady, silent, Memory.storeAll_nil]

/-! ## §4 Writes that fail -/

/-- The event is a register write that fails. -/
def Event.failsWrite : Event → Bool
  | ⟨.busWrite _ _, (answer : Except Cause Unit)⟩ => !answer.isOk
  | _ => false

/-- No register write of the trace fails. -/
def Unbroken (events : List Event) : Prop :=
  ∀ event ∈ events, event.failsWrite = false

theorem unbroken_append {first second : List Event} :
    Unbroken (first ++ second) ↔ Unbroken first ∧ Unbroken second :=
  List.forall_mem_append

namespace Bus

variable {bus : Bus} {writes : List RegisterWrite} {outcome : Except BusError Unit}

/-- Writes of valid widths end in success if none of them fails. -/
theorem Wrote.ok_of_unbroken (wrote : bus.Wrote writes events outcome) (unbroken : Unbroken events)
    (valid : ∀ write ∈ writes, validWidth write.width = true) : outcome = .ok () := by
  induction wrote with
  | done => rfl
  | refused invalid => exact nomatch invalid.symm.trans (valid _ List.mem_cons_self)
  | failed _ => exact nomatch unbroken _ (List.mem_cons_of_mem _ List.mem_cons_self)
  | sent _ _ ih =>
    refine ih (fun event member => unbroken event ?_) fun write member =>
      valid write (List.mem_cons_of_mem _ member)
    exact List.mem_cons_of_mem _ (List.mem_cons_of_mem _ member)

theorem Wrote.unbroken (wrote : bus.Wrote writes events (.ok ())) : Unbroken events := by
  induction writes generalizing events with
  | nil =>
    cases wrote
    exact nofun
  | cons write rest ih =>
    cases wrote with
    | sent valid later =>
      have behind := ih later
      simp only [Unbroken, List.forall_mem_cons]
      exact ⟨rfl, rfl, behind⟩

/-- At any point of the writes the sensor has received the frames of the first of them. -/
theorem Wrote.delivered_of_prefix {done : List Event} (wrote : bus.Wrote writes events outcome)
    (part : done <+: events) :
    ∃ sent, sent <+: writes ∧ delivered done = sent.map RegisterWrite.frame := by
  have received := (part.filterMap Event.delivered?).trans wrote.delivered_prefix
  refine ⟨writes.take (delivered done).length, List.take_prefix _ _, ?_⟩
  rw [List.map_take]
  exact List.prefix_iff_eq_take.1 received

end Bus

end ImageSensor
