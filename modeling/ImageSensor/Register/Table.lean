import ImageSensor.Register

/-!
# Register Tables

A register table lists two byte register values and ends at the first entry with the reserved
address `0xFFFF`, or at its last entry if there is none. Applying a table puts the sensor into one
of its modes.

## Main statements

- `address_ne_reserved`: the reserved address is no entry of a table.
-/

namespace ImageSensor

/-- One entry of a table, always written as two bytes. -/
structure TableEntry where
  address : RegisterAddress
  value : UInt16
  deriving DecidableEq, Repr

/-- A list of register values, as it is stored. -/
structure RegisterTable where
  rows : List TableEntry
  deriving DecidableEq, Repr

namespace RegisterTable

/-- The address that ends a table. -/
def reserved : RegisterAddress := 0xFFFF

/-- A table from pairs of address and value. -/
def ofPairs (pairs : List (UInt16 × UInt16)) : RegisterTable :=
  ⟨pairs.map fun pair => ⟨pair.1, pair.2⟩⟩

/-- The entries in front of the first reserved address. -/
def entries (table : RegisterTable) : List TableEntry :=
  table.rows.takeWhile (·.address != reserved)

/-- Number of entries. -/
def size (table : RegisterTable) : Nat :=
  table.entries.length

/-- A table without entries. -/
def isEmpty (table : RegisterTable) : Bool :=
  table.size == 0

theorem address_ne_reserved {table : RegisterTable} {entry : TableEntry}
    (h : entry ∈ table.entries) : entry.address ≠ reserved := by
  have all := List.all_takeWhile (p := (·.address != reserved)) (l := table.rows)
  simpa using List.all_eq_true.1 all entry h

end RegisterTable

/-- The write an entry stands for. -/
def TableEntry.write (entry : TableEntry) : RegisterWrite :=
  ⟨entry.address, 2, entry.value.toUInt32⟩

end ImageSensor
