import ImageSensor.Mode
import ImageSensor.Catalog.FullFrame
import ImageSensor.Catalog.Binned

/-!
# Mode Catalog

The modes the sensor supports, and the choice of the mode closest to a requested frame size.
-/

namespace ImageSensor.Catalog

/-! ## §1 Supported modes -/

/-- Every pixel, 30 frames per second. -/
def fullFrame : Mode where
  width := 4208
  height := 3120
  interval := ⟨10000, 300000⟩
  horizontalTotal := 0x1320
  verticalTotal := 0x0cbc
  exposure := 0x0cb0
  linkFrequencyIndex := 0
  bitsPerPixel := 10
  cropWidth := 4208
  cropHeight := 3120
  table := fullFrameTable

/-- Two by two pixels binned into one, 30 frames per second. -/
def binned : Mode where
  width := 2104
  height := 1560
  interval := ⟨10000, 300000⟩
  horizontalTotal := 0x1320
  verticalTotal := 0x0cbc
  exposure := 0x0cb0
  linkFrequencyIndex := 1
  bitsPerPixel := 10
  cropWidth := 2096
  cropHeight := 1560
  table := binnedTable

/-- The supported modes in catalog order. -/
def modes : List Mode := [fullFrame, binned]

/-- The mode a sensor starts in. -/
def defaultMode : Mode := fullFrame

/-! ## §2 Negotiation -/

/-- Distance between two lengths. -/
def gap (a b : UInt32) : Nat :=
  (a.toNat - b.toNat) + (b.toNat - a.toNat)

/-- Distance of a mode from a requested size: sum of the differences in width and height. -/
def distance (width height : UInt32) (mode : Mode) : Nat :=
  gap mode.width width + gap mode.height height

/-- The closest of several modes; on a tie the one that comes first. -/
def closest (width height : UInt32) : Mode → List Mode → Mode
  | best, [] => best
  | best, mode :: rest =>
    if distance width height mode < distance width height best then
      closest width height mode rest
    else
      closest width height best rest

/-- The supported mode closest to a requested size. -/
def bestFit (width height : UInt32) : Mode :=
  closest width height fullFrame [binned]

/-- The choice is one of the candidates. -/
theorem closest_mem (width height : UInt32) (best : Mode) (rest : List Mode) :
    closest width height best rest ∈ best :: rest := by
  induction rest generalizing best with
  | nil => simp [closest]
  | cons mode rest ih =>
    rw [closest]
    split
    · exact List.mem_cons_of_mem _ (ih mode)
    · rcases List.mem_cons.1 (ih best) with h | h
      · rw [h]
        exact List.mem_cons_self
      · exact List.mem_cons_of_mem _ (List.mem_cons_of_mem _ h)

/-- Negotiation always ends in the catalog. -/
theorem bestFit_mem (width height : UInt32) : bestFit width height ∈ modes :=
  closest_mem width height fullFrame [binned]

end ImageSensor.Catalog
