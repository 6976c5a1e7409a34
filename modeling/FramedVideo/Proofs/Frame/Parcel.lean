import FramedVideo.Proofs.Frame.Codec

/-!
# Headers with their payloads

What a decoder accepts is a header that keeps to the protocol and as many bytes as the header declares.
A frame is all of it but the reserved number, which a frame does not have.

## Main definitions

- `Parcel` — a header and the bytes after it
- `Parcel.Regular` — the header keeps to the protocol and declares these bytes
- `Frame.WrittenAs` — the bytes are the wire form of the frame, up to the two reserved bytes

Main statements: `Parcel.Regular.append_inj`, `Parcel.exists_of_accept`, `Frame.writtenAs_iff`.
-/

namespace FramedVideo

/-- The header with another reserved number. -/
def Header.withReserved (header : Header) (reserved : UInt16) : Header :=
  { header with reserved := reserved }

/-- The reserved number stands in two bytes of the header. -/
theorem Header.toBytes_withReserved (header : Header) (reserved : UInt16) :
    (header.withReserved reserved).toBytes =
      header.toBytes.take 10 ++ BigEndian.encode 2 reserved.toNat ++ header.toBytes.drop 12 := by
  let front : Bytes :=
    BigEndian.encode 4 header.magic.toNat ++ (BigEndian.encode 1 header.version.toNat ++
      (BigEndian.encode 1 header.codec.toNat ++ (BigEndian.encode 2 header.flags.toNat ++
        BigEndian.encode 2 header.sourceId.toNat)))
  let back : Bytes :=
    BigEndian.encode 4 header.frameId.toNat ++ (BigEndian.encode 8 header.timestamp.toNat ++
      BigEndian.encode 4 header.payloadSize.toNat)
  have hfront : front.length = 10 := by simp [front]
  have hparts (reserved : UInt16) : (header.withReserved reserved).toBytes =
      front ++ (BigEndian.encode 2 reserved.toNat ++ back) := by
    simp only [toBytes, withReserved, front, back, List.append_assoc]
  have hheader : header.toBytes = front ++ (BigEndian.encode 2 header.reserved.toNat ++ back) :=
    hparts header.reserved
  have hdrop : header.toBytes.drop 12 = back := by
    rw [hheader, ← List.append_assoc]
    exact List.drop_left' (by rw [List.length_append, hfront, BigEndian.length_encode])
  have htake : header.toBytes.take 10 = front := by rw [hheader, List.take_left' hfront]
  rw [hparts, hdrop, htake, List.append_assoc front]

/-- A header and the bytes after it. -/
@[ext]
structure Parcel where
  header : Header
  payload : Bytes
  deriving DecidableEq, Repr

namespace Parcel

variable {protocol : Protocol}

/-- The header and the payload on the wire. -/
def bytes (parcel : Parcel) : Bytes := parcel.header.toBytes ++ parcel.payload

/-- The frame that the header and the payload make. -/
def frame (parcel : Parcel) : Frame := .ofParts parcel.header parcel.payload

/-- The header keeps to the protocol and declares the payload. -/
structure Regular (parcel : Parcel) (protocol : Protocol) : Prop where
  magic_eq : parcel.header.magic = protocol.magic
  version_eq : parcel.header.version = protocol.version
  codec_eq : parcel.header.codec = protocol.codec
  size_eq : parcel.header.payloadSize.toNat = parcel.payload.length
  size_le : parcel.header.payloadSize ≤ protocol.maxPayload

@[simp]
theorem length_bytes (parcel : Parcel) :
    parcel.bytes.length = Header.size + parcel.payload.length := by
  rw [bytes, List.length_append, Header.length_toBytes]

theorem bytes_withReserved (parcel : Parcel) (reserved : UInt16) :
    (parcel.header.withReserved reserved).toBytes ++ parcel.payload =
      parcel.bytes.take 10 ++ BigEndian.encode 2 reserved.toNat ++ parcel.bytes.drop 12 := by
  have hlength := parcel.header.length_toBytes
  rw [bytes, Header.toBytes_withReserved,
    List.take_append_of_le_length (by rw [hlength]; decide),
    List.drop_append_of_le_length (by rw [hlength]; decide)]
  simp only [List.append_assoc]

theorem size_le_length (parcel : Parcel) (rest : Bytes) :
    Header.size ≤ (parcel.bytes ++ rest).length := by
  rw [List.length_append, length_bytes, Nat.add_assoc]
  exact Nat.le_add_right _ _

namespace Regular

variable {parcel other : Parcel}

theorem accept_header (h : parcel.Regular protocol) (rest : Bytes) :
    Header.accept protocol (parcel.header.toBytes ++ rest) = .ok parcel.header :=
  (Header.accept_eq_ok_iff protocol _ _).2 ⟨parcel.header.ofBytes_toBytes rest,
    (Header.check_eq_ok_iff _ _).2 ⟨h.magic_eq, h.version_eq, h.codec_eq, h.size_le⟩⟩

theorem accept (h : parcel.Regular protocol) (rest : Bytes) :
    Header.accept protocol (parcel.bytes ++ rest) = .ok parcel.header := by
  rw [bytes, List.append_assoc]
  exact h.accept_header _

/-- A front of a parcel with all of its header in it is accepted, too. -/
theorem accept_take (h : parcel.Regular protocol) {length : Nat} (hlong : Header.size ≤ length) :
    Header.accept protocol (parcel.bytes.take length) = .ok parcel.header := by
  rw [bytes, List.take_append, List.take_of_length_le (parcel.header.length_toBytes.symm ▸ hlong)]
  exact h.accept_header _

/-- What starts with a regular parcel does so with no other, and goes on in one way. -/
theorem append_inj (h : parcel.Regular protocol) (hother : other.Regular protocol)
    {rest rest' : Bytes} (heq : parcel.bytes ++ rest = other.bytes ++ rest') :
    parcel = other ∧ rest = rest' := by
  have hheader : parcel.header = other.header := by
    have haccept := h.accept rest
    rw [heq, hother.accept rest'] at haccept
    exact (Except.ok.inj haccept).symm
  have hlength : parcel.payload.length = other.payload.length := by
    rw [← h.size_eq, ← hother.size_eq, hheader]
  rw [bytes, bytes, hheader, List.append_assoc, List.append_assoc] at heq
  obtain ⟨hpayload, hrest⟩ := List.append_inj (List.append_cancel_left heq) hlength
  exact ⟨Parcel.ext hheader hpayload, hrest⟩

theorem frame_fits (h : parcel.Regular protocol) : parcel.frame.Fits protocol := by
  show parcel.payload.length ≤ protocol.maxPayload.toNat
  rw [← h.size_eq]
  exact h.size_le

/-- The wire form of the frame differs from the parcel in the reserved number only. -/
theorem onWire_frame (h : parcel.Regular protocol) :
    parcel.frame.onWire protocol =
      (parcel.header.withReserved 0).toBytes ++ parcel.payload := by
  have hsize : UInt32.ofNat parcel.payload.length = parcel.header.payloadSize := by
    rw [← h.size_eq, UInt32.ofNat_toNat]
  have hheader : parcel.frame.header protocol = .ok (parcel.header.withReserved 0) := by
    refine (if_pos h.frame_fits).trans ?_
    simp only [frame, Frame.ofParts, Header.stamp, Header.withFlags, Header.withReserved, hsize,
      h.magic_eq, h.version_eq, h.codec_eq]
  rw [Frame.onWire, Frame.encode, hheader]
  rfl

end Regular

/-- Behind a header that is accepted, and with enough bytes after it, stands a regular parcel. -/
theorem exists_of_accept {bytes : Bytes} {header : Header}
    (haccept : Header.accept protocol bytes = .ok header)
    (hlong : Header.size + header.payloadSize.toNat ≤ bytes.length) :
    let payload := (bytes.drop Header.size).take header.payloadSize.toNat
    Regular ⟨header, payload⟩ protocol ∧
      bytes = Parcel.bytes ⟨header, payload⟩ ++ bytes.drop (Header.size + header.payloadSize.toNat) := by
  obtain ⟨hread, hcheck⟩ := (Header.accept_eq_ok_iff protocol bytes header).1 haccept
  obtain ⟨hmagic, hversion, hcodec, hsize⟩ := (Header.check_eq_ok_iff header protocol).1 hcheck
  intro payload
  constructor
  · refine ⟨hmagic, hversion, hcodec, ?_, hsize⟩
    rw [List.length_take, List.length_drop, Nat.min_eq_left (by omega)]
  · rw [Parcel.bytes, Header.toBytes_of_ofBytes hread, List.append_assoc, ← List.drop_drop,
      List.take_append_drop, List.take_append_drop]

end Parcel

-- ════════════════════════════════════════════════════════════════════════
-- Frames and the reserved bytes
-- ════════════════════════════════════════════════════════════════════════

namespace Frame

variable {protocol : Protocol}

/-- The bytes are the wire form of the frame, except that the reserved bytes of the header, the ones
at 10 and 11, may be any. -/
structure WrittenAs (frame : Frame) (protocol : Protocol) (bytes : Bytes) : Prop where
  fits : frame.Fits protocol
  length_eq : bytes.length = (frame.onWire protocol).length
  take_eq : bytes.take 10 = (frame.onWire protocol).take 10
  drop_eq : bytes.drop 12 = (frame.onWire protocol).drop 12

/-- A frame that fits is a regular parcel, with nothing in the reserved number. -/
theorem exists_parcel {frame : Frame} (hfits : frame.Fits protocol) :
    ∃ parcel : Parcel, parcel.Regular protocol ∧ parcel.bytes = frame.onWire protocol ∧
      parcel.frame = frame := by
  obtain ⟨header, -, honWire, haccept, hsize, hparts⟩ := onWire_of_fits hfits
  obtain ⟨-, hcheck⟩ := (Header.accept_eq_ok_iff protocol _ _).1 haccept
  obtain ⟨hmagic, hversion, hcodec, hle⟩ := (Header.check_eq_ok_iff header protocol).1 hcheck
  exact ⟨⟨header, frame.payload⟩, ⟨hmagic, hversion, hcodec, hsize, hle⟩, honWire.symm, hparts⟩

/-- What is written as a frame is a regular parcel that makes the frame. -/
theorem writtenAs_iff {frame : Frame} {bytes : Bytes} :
    frame.WrittenAs protocol bytes ↔
      ∃ parcel : Parcel, parcel.Regular protocol ∧ parcel.frame = frame ∧ parcel.bytes = bytes := by
  constructor
  · rintro ⟨hfits, hlength, htake, hdrop⟩
    obtain ⟨parcel, hregular, honWire, rfl⟩ := exists_parcel hfits
    rw [← honWire] at hlength htake hdrop
    let reserved : UInt16 := .ofNat (BigEndian.decode ((bytes.drop 10).take 2))
    let other : Parcel := ⟨parcel.header.withReserved reserved, parcel.payload⟩
    have hmiddle : BigEndian.encode 2 reserved.toNat = (bytes.drop 10).take 2 := by
      have hlong : 10 + 2 ≤ bytes.length := by
        rw [hlength, Parcel.length_bytes, Header.size]
        omega
      have hlt : BigEndian.decode ((bytes.drop 10).take 2) < 2 ^ 16 := Header.number_lt hlong
      rw [UInt16.toNat_ofNat', Nat.mod_eq_of_lt hlt]
      exact Header.encode_number hlong
    refine ⟨other, ⟨hregular.magic_eq, hregular.version_eq, hregular.codec_eq, hregular.size_eq,
      hregular.size_le⟩, rfl, ?_⟩
    have hother : other.bytes = _ := parcel.bytes_withReserved reserved
    rw [hother, hmiddle, ← htake, ← hdrop, ← List.take_add,
      List.take_append_drop]
  · rintro ⟨parcel, hregular, rfl, rfl⟩
    have honWire := (hregular.onWire_frame).trans (parcel.bytes_withReserved 0)
    refine ⟨hregular.frame_fits, ?_, ?_, ?_⟩
    · rw [hregular.onWire_frame, Parcel.length_bytes, List.length_append, Header.length_toBytes]
    · rw [honWire, List.append_assoc, List.take_append_of_le_length, List.take_take, Nat.min_self]
      rw [List.length_take, Parcel.length_bytes, Header.size]
      omega
    · rw [honWire]
      refine (List.drop_left' ?_).symm
      rw [List.length_append, List.length_take, BigEndian.length_encode, Parcel.length_bytes,
        Header.size]
      omega

end Frame

end FramedVideo
