import FramedVideo.Bytes

/-!
# Big-endian numbers

A number of fixed width on the wire is its base-256 digits, most significant first. `decode` and
`encode` are inverse to each other on strings of the width and on numbers that fit it.

## Main definitions

- `BigEndian.decode` — the number that a string of bytes spells
- `BigEndian.encode` — the low-order bytes of a number
-/

namespace FramedVideo.BigEndian

/-- The number that the bytes spell, most significant first. -/
def decode (bytes : Bytes) : Nat :=
  bytes.foldl (fun value byte => value * 256 + byte.toNat) 0

/-- The `width` low-order bytes of `value`, most significant first. -/
def encode : Nat → Nat → Bytes
  | 0, _ => []
  | width + 1, value => encode width (value / 256) ++ [UInt8.ofNat value]

/-- How many numbers fit a width. -/
def capacity : Nat → Nat
  | 0 => 1
  | width + 1 => 256 * capacity width

@[simp]
theorem length_encode (width value : Nat) : (encode width value).length = width := by
  induction width generalizing value with
  | zero => rfl
  | succ width ih => simp [encode, ih]

@[simp]
theorem decode_nil : decode [] = 0 := rfl

@[simp]
theorem decode_concat (bytes : Bytes) (byte : UInt8) :
    decode (bytes ++ [byte]) = decode bytes * 256 + byte.toNat := by
  simp [decode]

/-- Writing keeps the part of the number that fits the width. -/
theorem decode_encode (width value : Nat) : decode (encode width value) = value % capacity width := by
  induction width generalizing value with
  | zero => simp [encode, capacity, Nat.mod_one]
  | succ width ih =>
    simp only [encode, decode_concat, ih, UInt8.toNat_ofNat', capacity, Nat.mod_mul]
    omega

/-- Induction from the front: a string grows by a last byte. -/
private theorem concat_induction {motive : Bytes → Prop} (nil : motive [])
    (concat : ∀ bytes byte, motive bytes → motive (bytes ++ [byte])) (bytes : Bytes) :
    motive bytes := by
  rw [← bytes.reverse_reverse]
  induction bytes.reverse with
  | nil => exact nil
  | cons byte rest ih => simpa using concat _ byte ih

theorem decode_lt (bytes : Bytes) : decode bytes < capacity bytes.length := by
  induction bytes using concat_induction with
  | nil => simp [capacity]
  | concat bytes byte ih =>
    have hbyte := byte.toNat_lt
    simp only [decode_concat, List.length_append, List.length_singleton, capacity]
    omega

/-- Every string of bytes is the writing of the number it spells. -/
theorem encode_decode (bytes : Bytes) : encode bytes.length (decode bytes) = bytes := by
  induction bytes using concat_induction with
  | nil => rfl
  | concat bytes byte ih =>
    have hbyte := byte.toNat_lt
    have hquot : (decode bytes * 256 + byte.toNat) / 256 = decode bytes := by omega
    have hlast : UInt8.ofNat (decode bytes * 256 + byte.toNat) = byte := by
      apply UInt8.toNat_inj.mp
      simp only [UInt8.toNat_ofNat']
      omega
    simp [encode, hquot, hlast, ih]

end FramedVideo.BigEndian
