import Mathlib.Data.List.TakeWhile
import ImageSensor.Proofs.Device.Smooth
import ImageSensor.Proofs.Session.Transactions

/-!
# Register Tables on the Bus

A register table counts up to its first reserved entry, wherever that stands and however many there
are. Applying a table sends the orientation word and then what counts of it, one write after the
other, up to the first that fails. Nothing behind the first reserved entry makes a difference.

## Main statements

- `RegisterTable.isFront_entries`: what counts of a table is the longest such part of it.
- `RegisterTable.entries_append_reserved`: what stands behind a reserved entry does not count.
- `Bus.Attempted.eq_ok_iff`: writes in order succeed if as many as there are have succeeded.
- `Bus.exists_run_of_attempted`: every way in which writes in order can be attempted occurs.
- `Bus.table_applied`: what applying a table does on the bus.
-/

namespace ImageSensor

open ImageSensor.Action

/-! ## §1 What counts of a table -/

namespace RegisterTable

/-- The longest part of a table, from its front on, that has no reserved address. -/
structure IsFront (table : RegisterTable) (front : List TableEntry) : Prop where
  start : front <+: table.rows
  free : ∀ entry ∈ front, entry.address ≠ 0xFFFF
  longest : ∀ other, other <+: table.rows → (∀ entry ∈ other, entry.address ≠ 0xFFFF) →
    other <+: front

theorem isFront_entries (table : RegisterTable) : table.IsFront table.entries where
  start := List.takeWhile_prefix _
  free _ := address_ne_reserved
  longest := by
    rintro other ⟨rest, split⟩ free
    -- scanning the rows gets past all of the other part before it can stop
    rw [entries, ← split, List.takeWhile_append_of_pos fun entry member => ?_]
    · exact List.prefix_append _ _
    · exact bne_iff_ne.2 (free entry member)

/-- What stands behind a reserved entry does not count. -/
theorem entries_append_reserved (before after : List TableEntry) {sentinel : TableEntry}
    (ends : sentinel.address = reserved) :
    entries ⟨before ++ sentinel :: after⟩ = entries ⟨before⟩ := by
  have stop : (sentinel.address != reserved) = false := by simp [ends]
  rw [entries, entries, List.takeWhile_append]
  split
  case isTrue all =>
    -- all rows in front of the reserved one count, and the scan stops at that one
    rw [List.takeWhile_cons_of_neg (by simp [stop]), List.append_nil]
    exact ((List.takeWhile_prefix _).eq_of_length all).symm
  case isFalse => rfl

theorem isEmpty_iff {table : RegisterTable} : table.isEmpty = true ↔ table.entries = [] := by
  rw [isEmpty, size, beq_iff_eq, List.length_eq_zero_iff]

end RegisterTable

/-! ## §2 Writes in order -/

namespace Bus

variable {bus : Bus} {writes : List RegisterWrite} {attempts : List Event}
  {outcome : Except BusError Unit}

namespace Attempted

/-- The writes have succeeded if as many were attempted as there are, and none has failed. -/
theorem eq_ok_iff (attempted : bus.Attempted writes attempts outcome) :
    outcome = .ok () ↔
      attempts.length = writes.length ∧ ∀ event ∈ attempts, event.succeeded = true := by
  cases attempted with
  | all =>
    refine ⟨fun _ => ⟨List.length_map .., ?_⟩, fun _ => rfl⟩
    intro event member
    obtain ⟨write, -, rfl⟩ := List.mem_map.1 member
    rfl
  | @cut sent rest failing cause split =>
    refine ⟨nofun, fun ⟨_, succeeded⟩ => ?_⟩
    exact nomatch succeeded (bus.rejected failing cause) (by simp)

/-- Only the writes themselves are attempted. -/
theorem exists_write (attempted : bus.Attempted writes attempts outcome) :
    ∀ event ∈ attempts, ∃ write ∈ writes, event.call = .busWrite bus.address write.frame := by
  intro event member
  cases attempted with
  | all =>
    obtain ⟨write, listed, rfl⟩ := List.mem_map.1 member
    exact ⟨write, listed, rfl⟩
  | @cut sent rest failing cause split =>
    rcases List.mem_append.1 member with member | member
    · obtain ⟨write, listed, rfl⟩ := List.mem_map.1 member
      exact ⟨write, by simp [split, listed], rfl⟩
    · obtain rfl := List.mem_singleton.1 member
      exact ⟨failing, by simp [split], rfl⟩

end Attempted

/-- Every way in which writing registers can go is a run. -/
theorem Wrote.runs {events : List Event} (wrote : bus.Wrote writes events outcome) :
    Runs (bus.writeAll writes) events (.ok outcome) := by
  induction wrote with
  | done => exact .done _
  | refused invalid =>
    rw [writeAll, Bus.write, invalid]
    exact .done _
  | failed valid =>
    rw [writeAll, Bus.write, valid]
    exact .call (.call (.done _))
  | sent valid _ ih =>
    rw [writeAll, Bus.write, valid]
    exact .call (.call ih)

/-- Writes that succeed can be put in front of others. -/
theorem Wrote.exists_prepend {events : List Event} (wrote : bus.Wrote writes events outcome)
    {before : List RegisterWrite} (valid : ∀ write ∈ before, validWidth write.width = true) :
    ∃ events', bus.Wrote (before ++ writes) events' outcome ∧
      transactions events' = before.map bus.accepted ++ transactions events := by
  induction before with
  | nil => exact ⟨events, wrote, rfl⟩
  | cons write before ih =>
    obtain ⟨events', behind, attempts⟩ := ih fun other member => valid other (.tail _ member)
    refine ⟨_, .sent (valid write List.mem_cons_self) behind, ?_⟩
    exact congrArg (bus.accepted write :: ·) attempts

/-- Every way in which writes in order can be attempted occurs. -/
theorem exists_run_of_attempted (attempted : bus.Attempted writes attempts outcome)
    (valid : ∀ write ∈ writes, validWidth write.width = true) :
    ∃ events, Runs (bus.writeAll writes) events (.ok outcome) ∧ transactions events = attempts := by
  cases attempted with
  | all =>
    have nothing : bus.Wrote [] [] (.ok ()) := .done
    obtain ⟨events, wrote, attempts⟩ := nothing.exists_prepend valid
    rw [List.append_nil] at wrote
    exact ⟨events, wrote.runs, attempts.trans (List.append_nil _)⟩
  | @cut sent rest failing cause split =>
    subst split
    have last : bus.Wrote (failing :: rest) _ (.error (.transport cause)) :=
      .failed (valid failing (by simp))
    obtain ⟨events, wrote, attempts⟩ :=
      last.exists_prepend fun write member => valid write (List.mem_append_left _ member)
    exact ⟨events, wrote.runs, attempts⟩

/-! ## §3 Applying a table -/

variable {table : RegisterTable} {orientation : Orientation}

/-- On the bus, applying a table is writing its writes in order. -/
theorem exists_writeAll_of_applyTable {events : List Event}
    (run : Runs (bus.applyTable table orientation) events (.ok outcome)) :
    ∃ sent, Runs (bus.writeAll (tableWrites table orientation)) sent (.ok outcome) ∧
      transactions sent = transactions events := by
  obtain ⟨written, sent, _, split₁, inner, rest⟩ := runs_bind_ok.1 run
  cases written with
  | error e =>
    obtain ⟨split₂, result⟩ := runs_done.1 rest
    cases result
    rw [split₁, split₂, List.append_nil]
    exact ⟨sent, inner, rfl⟩
  | ok _ =>
    obtain ⟨_, split₂, rest⟩ := runs_notify_bind.1 rest
    obtain ⟨split₃, result⟩ := runs_done.1 rest
    cases result
    -- the report that follows a success is no transaction
    rw [split₁, split₂, split₃, transactions_append, transactions_notice, transactions_nil,
      List.append_nil]
    exact ⟨sent, inner, rfl⟩

theorem exists_applyTable_of_writeAll {sent : List Event}
    (run : Runs (bus.writeAll (tableWrites table orientation)) sent (.ok outcome)) :
    ∃ events, Runs (bus.applyTable table orientation) events (.ok outcome) ∧
      transactions events = transactions sent := by
  cases outcome with
  | error e =>
    refine ⟨sent, runs_bind_ok.2 ⟨_, sent, [], ?_, run, .done _⟩, rfl⟩
    exact (List.append_nil _).symm
  | ok _ =>
    refine ⟨_, runs_bind_ok.2 ⟨_, sent, _, rfl, run, runs_notify_bind.2 ⟨[], rfl, .done _⟩⟩, ?_⟩
    rw [transactions_append, transactions_notice, transactions_nil, List.append_nil]

/-- No write of a table goes to the reserved address. -/
theorem address_ne_of_mem_tableWrites {write : RegisterWrite}
    (member : write ∈ tableWrites table orientation) :
    write.width = 2 ∧ write.address ≠ 0xFFFF := by
  rcases List.mem_cons.1 member with rfl | member
  · have other : Register.modeSelect ≠ 0xFFFF := by decide
    exact ⟨rfl, other⟩
  · obtain ⟨entry, listed, rfl⟩ := List.mem_map.1 member
    exact ⟨rfl, RegisterTable.address_ne_reserved listed⟩

/-- What counts of a table is the longest part from its front on that has no reserved address.
Applying it attempts the orientation word and then a write of two bytes for each of these entries,
in order and up to the first that fails, whose error it returns; and every way to do so occurs. It
succeeds exactly if one write more than the table has entries has succeeded. The reserved address
never gets on the bus, and neither does anything behind it: whatever stands there, the same is
done. -/
theorem table_applied (bus : Bus) (table : RegisterTable) (orientation : Orientation) :
    table.IsFront table.entries ∧ table.size = table.entries.length ∧
    (table.isEmpty = true ↔ table.entries = []) ∧
    (∃ writes : List RegisterWrite,
      writes = ⟨0x0100, 2, orientation.registerValue⟩ ::
        table.entries.map (fun entry => ⟨entry.address, 2, entry.value.toUInt32⟩) ∧
      (∀ events ended, Runs (bus.applyTable table orientation) events ended →
        ∃ outcome, ended = .ok outcome ∧ bus.Attempted writes (transactions events) outcome ∧
          (outcome = .ok () ↔ (transactions events).length = 1 + table.size ∧
            ∀ event ∈ transactions events, event.succeeded = true) ∧
          ∀ event ∈ transactions events, ∃ frame, event.call = .busWrite bus.address frame ∧
            frame.length = 4 ∧ ofBigEndian (frame.take 2) ≠ 0xFFFF) ∧
      ∀ attempts outcome, bus.Attempted writes attempts outcome →
        ∃ events, Runs (bus.applyTable table orientation) events (.ok outcome) ∧
          transactions events = attempts) ∧
    ∀ before sentinel after, table.rows = before ++ sentinel :: after →
      sentinel.address = 0xFFFF →
      bus.applyTable table orientation = bus.applyTable ⟨before⟩ orientation := by
  have valid := Device.validWidth_table table orientation
  refine ⟨table.isFront_entries, rfl, RegisterTable.isEmpty_iff,
    ⟨tableWrites table orientation, rfl, ?_, ?_⟩, ?_⟩
  · intro events ended run
    obtain ⟨outcome, rfl⟩ := (bus.applyTable_total table orientation).exists_ok run
    obtain ⟨sent, written, same⟩ := exists_writeAll_of_applyTable run
    have attempted := (wrote_of_runs written).attempted valid
    rw [same] at attempted
    refine ⟨outcome, rfl, attempted, ?_, ?_⟩
    · have count : (tableWrites table orientation).length = 1 + table.size := by
        rw [tableWrites, List.length_cons, List.length_map, Nat.add_comm, RegisterTable.size]
      rw [attempted.eq_ok_iff, count]
    · intro event member
      obtain ⟨write, listed, call⟩ := attempted.exists_write event member
      obtain ⟨two, other⟩ := address_ne_of_mem_tableWrites listed
      refine ⟨write.frame, call, by rw [write.length_frame, two]; rfl, ?_⟩
      rw [write.ofBigEndian_take_frame]
      exact fun same => other (UInt16.toNat_inj.1 same)
  · intro attempts outcome attempted
    obtain ⟨sent, written, rfl⟩ := exists_run_of_attempted attempted valid
    exact exists_applyTable_of_writeAll written
  · intro before sentinel after split ends
    obtain ⟨rows⟩ := table
    subst split
    -- the table shows in the writes and in the number that is reported, both by its entries
    have same := RegisterTable.entries_append_reserved before after ends
    rw [applyTable, applyTable, tableWrites, tableWrites, RegisterTable.size, RegisterTable.size,
      same]

/-- A table with rows behind its first reserved one, and another reserved one among them. -/
def interruptedTable : RegisterTable :=
  .ofPairs [(0x3000, 0x0001), (0x3002, 0x0002), (0xFFFF, 0x0000), (0x3004, 0x0003),
    (0xFFFF, 0x0001), (0x3006, 0x0004)]

/-- The second entry is lost on the bus. -/
theorem table_applied_interrupted :
    ∃ events, Runs (Bus.applyTable ⟨0x2D⟩ interruptedTable .mirror) events
        (.ok (.error (.transport ⟨"lost"⟩))) ∧
      transactions events =
        [Bus.accepted ⟨0x2D⟩ ⟨0x0100, 2, 0x0001⟩, Bus.accepted ⟨0x2D⟩ ⟨0x3000, 2, 0x0001⟩,
          Bus.rejected ⟨0x2D⟩ ⟨0x3002, 2, 0x0002⟩ ⟨"lost"⟩] ∧
      Bus.applyTable ⟨0x2D⟩ interruptedTable .mirror =
        Bus.applyTable ⟨0x2D⟩ (.ofPairs [(0x3000, 0x0001), (0x3002, 0x0002)]) .mirror := by
  obtain ⟨-, -, -, ⟨_, rfl, -, occurs⟩, behind⟩ := table_applied ⟨0x2D⟩ interruptedTable .mirror
  have lost : Bus.Attempted ⟨0x2D⟩
      [⟨0x0100, 2, 0x0001⟩, ⟨0x3000, 2, 0x0001⟩, ⟨0x3002, 2, 0x0002⟩]
      ([⟨0x0100, 2, 0x0001⟩, ⟨0x3000, 2, 0x0001⟩].map (Bus.accepted ⟨0x2D⟩) ++
        [Bus.rejected ⟨0x2D⟩ ⟨0x3002, 2, 0x0002⟩ ⟨"lost"⟩])
      (.error (.transport ⟨"lost"⟩)) := .cut rfl
  obtain ⟨events, run, attempts⟩ := occurs _ _ lost
  exact ⟨events, run, attempts, behind _ ⟨0xFFFF, 0x0000⟩ _ rfl rfl⟩

end Bus

end ImageSensor
