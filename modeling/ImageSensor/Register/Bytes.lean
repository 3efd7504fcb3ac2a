/-!
# Big-Endian Bytes

Register addresses and register values travel most significant byte first.

## Main statements

- `ofBigEndian_bigEndian`: `count` bytes of `n` read back as `n` modulo `byteRange count`.
- `ofBigEndian_lt`: what is read from a list of bytes fits into them.
-/

namespace ImageSensor

/-- How many numbers fit into `count` bytes. -/
def byteRange : Nat → Nat
  | 0 => 1
  | count + 1 => 256 * byteRange count

/-- The low `count` bytes of `n`, most significant first. -/
def bigEndian : Nat → Nat → List UInt8
  | 0, _ => []
  | count + 1, n => bigEndian count (n / 256) ++ [UInt8.ofNat (n % 256)]

/-- The number whose bytes are given, most significant first. -/
def ofBigEndian (bytes : List UInt8) : Nat :=
  bytes.foldl (fun n byte => n * 256 + byte.toNat) 0

@[simp] theorem length_bigEndian (count n : Nat) : (bigEndian count n).length = count := by
  induction count generalizing n with
  | zero => rfl
  | succ count ih => simp [bigEndian, ih]

@[simp] theorem ofBigEndian_append (bytes : List UInt8) (byte : UInt8) :
    ofBigEndian (bytes ++ [byte]) = ofBigEndian bytes * 256 + byte.toNat := by
  simp [ofBigEndian]

theorem ofBigEndian_bigEndian (count n : Nat) :
    ofBigEndian (bigEndian count n) = n % byteRange count := by
  induction count generalizing n with
  | zero => simp [bigEndian, ofBigEndian, byteRange, Nat.mod_one]
  | succ count ih =>
    have split : n % byteRange (count + 1) = n / 256 % byteRange count * 256 + n % 256 := by
      rw [byteRange, Nat.mod_mul]
      omega
    rw [bigEndian, ofBigEndian_append, ih, split]
    simp

theorem ofBigEndian_bigEndian_of_lt {count n : Nat} (h : n < byteRange count) :
    ofBigEndian (bigEndian count n) = n := by
  rw [ofBigEndian_bigEndian, Nat.mod_eq_of_lt h]

/-- Bytes read behind a number stay below the next number moved up by as many bytes. -/
theorem foldl_byte_lt (bytes : List UInt8) (n : Nat) :
    bytes.foldl (fun n byte => n * 256 + byte.toNat) n < (n + 1) * byteRange bytes.length := by
  induction bytes generalizing n with
  | nil => simp [byteRange]
  | cons byte rest ih =>
    have bound := byte.toNat_lt
    calc rest.foldl (fun n byte => n * 256 + byte.toNat) (n * 256 + byte.toNat)
        < (n * 256 + byte.toNat + 1) * byteRange rest.length := ih _
      _ ≤ ((n + 1) * 256) * byteRange rest.length := Nat.mul_le_mul_right _ (by omega)
      _ = (n + 1) * byteRange (rest.length + 1) := by rw [byteRange, Nat.mul_assoc]

theorem ofBigEndian_lt (bytes : List UInt8) : ofBigEndian bytes < byteRange bytes.length := by
  simpa [ofBigEndian] using foldl_byte_lt bytes 0

end ImageSensor
