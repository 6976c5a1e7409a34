import FramedVideo.Proofs.Frame.Codec
import Mathlib.Data.Fintype.Basic
import Mathlib.Data.List.Induction
import Mathlib.Data.Nat.Digits.Defs

/-!
# The layout of a header

The nine numbers of a header stand one behind the other in its 28 bytes, each in bytes of its own, in
base 256 with the most significant byte first. What is read from any bytes is the header that these ranges
spell, and it is written as the bytes that it was read from.

## Main definitions

- `Header.Field` — the nine numbers, with their offsets, widths and values
- `Header.Field.slice` — the bytes of a number
- `BigEndian.value` — the number that some bytes spell, as a sum of digits

Main statements: `Header.Field.existsUnique_covers`, `Header.value_of_ofBytes`, `Header.layout_law`.
-/

namespace FramedVideo

/-- The number whose digits in base 256 are the bytes, the most significant first. -/
def BigEndian.value (bytes : Bytes) : Nat := Nat.ofDigits 256 (bytes.reverse.map (·.toNat))

theorem BigEndian.decode_eq_value (bytes : Bytes) : decode bytes = value bytes := by
  induction bytes using List.reverseRecOn with
  | nil => rfl
  | append_singleton bytes byte ih =>
    rw [decode_concat, ih, value, value, List.reverse_append, List.reverse_singleton,
      List.singleton_append, List.map_cons, Nat.ofDigits_cons]
    omega

theorem BigEndian.value_inj {bytes other : Bytes} (hlength : bytes.length = other.length)
    (h : value bytes = value other) : bytes = other := by
  rw [← decode_eq_value, ← decode_eq_value] at h
  rw [← encode_decode bytes, ← encode_decode other, hlength, h]

namespace Header

/-- The nine numbers of a header. -/
inductive Field where
  | magic
  | version
  | codec
  | flags
  | sourceId
  | reserved
  | frameId
  | timestamp
  | payloadSize
  deriving DecidableEq

namespace Field

instance : Fintype Field where
  elems :=
    {.magic, .version, .codec, .flags, .sourceId, .reserved, .frameId, .timestamp, .payloadSize}
  complete field := by cases field <;> decide

/-- The number of bytes in front of a number. -/
def offset : Field → Nat
  | magic => 0
  | version => 4
  | codec => 5
  | flags => 6
  | sourceId => 8
  | reserved => 10
  | frameId => 12
  | timestamp => 16
  | payloadSize => 24

/-- The number of bytes of a number. -/
def width : Field → Nat
  | magic => 4
  | version => 1
  | codec => 1
  | flags => 2
  | sourceId => 2
  | reserved => 2
  | frameId => 4
  | timestamp => 8
  | payloadSize => 4

/-- The number that stands in a header. -/
def value (header : Header) : Field → Nat
  | magic => header.magic.toNat
  | version => header.version.toNat
  | codec => header.codec.toNat
  | flags => header.flags.toNat
  | sourceId => header.sourceId.toNat
  | reserved => header.reserved.toNat
  | frameId => header.frameId.toNat
  | timestamp => header.timestamp.toNat
  | payloadSize => header.payloadSize.toNat

/-- The bytes of a number, in bytes that start with a header. -/
def slice (bytes : Bytes) (field : Field) : Bytes := (bytes.drop field.offset).take field.width

/-- An index lies in the bytes of a number. -/
def Covers (field : Field) (index : Nat) : Prop :=
  field.offset ≤ index ∧ index < field.offset + field.width

instance (field : Field) (index : Nat) : Decidable (field.Covers index) :=
  inferInstanceAs (Decidable (_ ∧ _))

/-- Every byte of a header belongs to one number. -/
theorem existsUnique_covers : ∀ index < size, ∃! field : Field, field.Covers index := by
  show ∀ index < size, ∃ field : Field, field.Covers index ∧
    ∀ other : Field, other.Covers index → other = field
  decide

theorem getElem?_slice {bytes : Bytes} {field : Field} {index : Nat} (h : field.Covers index) :
    (field.slice bytes)[index - field.offset]? = bytes[index]? := by
  obtain ⟨hle, hlt⟩ := h
  rw [slice, List.getElem?_take_of_lt (by omega), List.getElem?_drop, Nat.add_sub_cancel' hle]

end Field

variable {bytes : Bytes} {header : Header}

/-- Each number of a header that was read is the one that its bytes spell. -/
theorem value_of_ofBytes (h : ofBytes bytes = .ok header) (field : Field) :
    field.value header = BigEndian.value (field.slice bytes) := by
  have hlong := size_le_of_ofBytes h
  have hsize : (bytes.take size).length = 28 := by rw [List.length_take, Nat.min_eq_left hlong]; rfl
  have hnumber (offset width bits : Nat) (hle : offset + width ≤ 28)
      (hbits : BigEndian.capacity width = 2 ^ bits) :
      number (bytes.take size) offset width % 2 ^ bits =
        BigEndian.value ((bytes.drop offset).take width) := by
    have hlt := number_lt (hsize.symm ▸ hle)
    have hslice : ((bytes.take size).drop offset).take width = (bytes.drop offset).take width := by
      rw [List.drop_take, List.take_take, Nat.min_eq_left (by rw [size]; omega)]
    rw [← hbits, Nat.mod_eq_of_lt hlt, number, hslice, BigEndian.decode_eq_value]
  unfold ofBytes at h
  dsimp only at h
  rw [if_neg (by rw [hsize]; decide)] at h
  cases h
  cases field with
  | magic => exact hnumber 0 4 32 (by decide) rfl
  | version => exact hnumber 4 1 8 (by decide) rfl
  | codec => exact hnumber 5 1 8 (by decide) rfl
  | flags => exact hnumber 6 2 16 (by decide) rfl
  | sourceId => exact hnumber 8 2 16 (by decide) rfl
  | reserved => exact hnumber 10 2 16 (by decide) rfl
  | frameId => exact hnumber 12 4 32 (by decide) rfl
  | timestamp => exact hnumber 16 8 64 (by decide) rfl
  | payloadSize => exact hnumber 24 4 32 (by decide) rfl

theorem value_toBytes (header : Header) (field : Field) :
    field.value header = BigEndian.value (field.slice header.toBytes) := by
  have hread := header.ofBytes_toBytes []
  rw [List.append_nil] at hread
  exact value_of_ofBytes hread field

theorem slice_toBytes_congr {other : Header} {field : Field}
    (h : field.value header = field.value other) :
    field.slice header.toBytes = field.slice other.toBytes := by
  apply BigEndian.value_inj
  · simp only [Field.slice, List.length_take, List.length_drop, length_toBytes]
  · rw [← value_toBytes, ← value_toBytes, h]

theorem value_withFlags (flags : UInt16) {field : Field} (hne : field ≠ .flags) :
    field.value (header.withFlags flags) = field.value header := by
  cases field with
  | flags => contradiction
  | _ => rfl

/-- Other flags change no bytes but their own. -/
theorem getElem?_withFlags (header : Header) (flags : UInt16) {index : Nat}
    (h : ¬Field.flags.Covers index) :
    (header.withFlags flags).toBytes[index]? = header.toBytes[index]? := by
  by_cases hlt : index < size
  · obtain ⟨field, hcovers, -⟩ := Field.existsUnique_covers index hlt
    have hne : field ≠ .flags := by
      rintro rfl
      exact h hcovers
    rw [← Field.getElem?_slice hcovers, slice_toBytes_congr (value_withFlags flags hne),
      Field.getElem?_slice hcovers]
  · have hnone (header : Header) : header.toBytes[index]? = none :=
      List.getElem?_eq_none (by rw [length_toBytes]; omega)
    rw [hnone, hnone]

/-- A header is read from any bytes that are long enough, from the first 28 of them only, and is written
as these. Each of its numbers is the one that its own bytes spell, and each of the 28 bytes belongs to one
of them. A header that is written for a frame is read back as it was, and other flags change two bytes at
most. -/
theorem layout_law :
    (∀ bytes : Bytes,
      (size ≤ bytes.length → ∃ header, ofBytes bytes = .ok header ∧
        header.toBytes = bytes.take 28 ∧
        ∀ field : Field, field.value header = BigEndian.value (field.slice bytes)) ∧
      (bytes.length < size → ofBytes bytes = .error (.tooShort 28 bytes.length))) ∧
    (∀ bytes other : Bytes, bytes.take 28 = other.take 28 → ofBytes bytes = ofBytes other) ∧
    (∀ (protocol : Protocol) (sourceId : UInt16) (frameId : UInt32) (timestamp : UInt64)
        (payloadSize : UInt32) (flags : UInt16),
      let written := (stamp protocol sourceId frameId timestamp payloadSize).withFlags flags
      ofBytes written.toBytes = .ok {
        magic := protocol.magic
        version := protocol.version
        codec := protocol.codec
        flags := flags
        sourceId := sourceId
        reserved := 0
        frameId := frameId
        timestamp := timestamp
        payloadSize := payloadSize } ∧
      written.toBytes.length = 28 ∧
      ∀ field : Field, field.value written = BigEndian.value (field.slice written.toBytes)) ∧
    (∀ index < 28, ∃! field : Field, field.Covers index) ∧
    ∀ (header : Header) (flags : UInt16) (index : Nat),
      (header.withFlags flags).toBytes[index]? ≠ header.toBytes[index]? → index = 6 ∨ index = 7 := by
  refine ⟨fun bytes => ⟨fun hlong => ?_, fun hshort => ?_⟩, fun bytes other h => ofBytes_congr h, ?_,
    Field.existsUnique_covers, ?_⟩
  · obtain ⟨header, hread⟩ := ofBytes_of_le hlong
    exact ⟨header, hread, toBytes_of_ofBytes hread, value_of_ofBytes hread⟩
  · have hfront : (bytes.take size).length < size := by
      rw [List.length_take]
      omega
    exact if_pos hfront
  · intro protocol sourceId frameId timestamp payloadSize flags written
    have hread := written.ofBytes_toBytes []
    rw [List.append_nil] at hread
    exact ⟨hread, written.length_toBytes, written.value_toBytes⟩
  · intro header flags index hchanged
    have hcovers : Field.flags.Covers index :=
      Decidable.not_imp_comm.1 (getElem?_withFlags header flags) hchanged
    obtain ⟨hle, hlt⟩ := hcovers
    simp only [Field.offset, Field.width] at hle hlt
    omega

/-- The bytes 0 to 29 hold a header with a time of eight bytes from 16 on; 27 of them hold none. -/
theorem layout_law_of_thirty :
    let bytes : Bytes := (List.range 30).map .ofNat
    ∃ header, ofBytes bytes = .ok header ∧ header.toBytes = bytes.take 28 ∧
      header.timestamp.toNat = 0x1011121314151617 ∧
      ofBytes (bytes.take 27) = .error (.tooShort 28 27) := by
  intro bytes
  obtain ⟨hread, -⟩ := layout_law
  obtain ⟨header, hheader, hwritten, hvalues⟩ := (hread bytes).1 (by decide)
  exact ⟨header, hheader, hwritten, (hvalues .timestamp).trans (by decide),
    (hread (bytes.take 27)).2 (by decide)⟩

end Header

end FramedVideo
