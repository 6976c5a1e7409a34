import FramedVideo.Decode.Window
import FramedVideo.Frame

/-!
# Headers and frames on the wire

Reading a header back from its bytes gives the header, whatever follows it, and writing a header that
was read gives its bytes. Every header that is accepted opens with the magic number of the protocol. A
frame whose payload is not too long has a wire form, and its header and its payload make it again.

## Main definitions

- `Protocol.magicBytes` — the four bytes that open a header
- `Frame.Fits` — the payload is not too long for the protocol
- `Frame.onWire` — the wire form of a frame that fits

Main statements: `Header.ofBytes_toBytes`, `Header.toBytes_of_ofBytes`, `Header.accept_eq_ok_iff`,
`Header.magicBytes_of_accept`, `Frame.encode_eq_ok_iff`.
-/

namespace FramedVideo

/-- The four bytes that open a header. -/
def Protocol.magicBytes (protocol : Protocol) : Bytes := BigEndian.encode 4 protocol.magic.toNat

namespace Header

theorem number_encode (width value : Nat) (rest : Bytes) :
    number (BigEndian.encode width value ++ rest) 0 width = value % BigEndian.capacity width := by
  have hfront : (BigEndian.encode width value ++ rest).take width = BigEndian.encode width value :=
    List.take_left' (BigEndian.length_encode width value)
  rw [number, List.drop_zero, hfront, BigEndian.decode_encode]

theorem number_encode_append {skip offset : Nat} (value width : Nat) (rest : Bytes)
    (hle : skip ≤ offset) :
    number (BigEndian.encode skip value ++ rest) offset width =
      number rest (offset - skip) width := by
  have hdrop : (BigEndian.encode skip value ++ rest).drop offset = rest.drop (offset - skip) := by
    rw [List.drop_append, List.drop_of_length_le (by simpa using hle), List.nil_append,
      BigEndian.length_encode]
  rw [number, hdrop, number]

/-- Reading gives back the header that was written, whatever follows it. -/
theorem ofBytes_toBytes (header : Header) (rest : Bytes) :
    ofBytes (header.toBytes ++ rest) = .ok header := by
  have hfront : (header.toBytes ++ rest).take size = header.toBytes :=
    List.take_left' header.length_toBytes
  have hlong : ¬header.toBytes.length < size := by
    rw [length_toBytes]
    exact Nat.lt_irrefl size
  have hlast := number_encode 4 header.payloadSize.toNat []
  rw [List.append_nil] at hlast
  rw [ofBytes, hfront, if_neg hlong]
  simp [toBytes, number_encode, number_encode_append, BigEndian.capacity, hlast]

theorem encode_number {bytes : Bytes} {offset width : Nat} (hlong : offset + width ≤ bytes.length) :
    BigEndian.encode width (number bytes offset width) = (bytes.drop offset).take width := by
  have hwidth : ((bytes.drop offset).take width).length = width := by
    rw [List.length_take, List.length_drop, Nat.min_eq_left (by omega)]
  have hback := BigEndian.encode_decode ((bytes.drop offset).take width)
  rwa [hwidth] at hback

theorem number_lt {bytes : Bytes} {offset width : Nat} (hlong : offset + width ≤ bytes.length) :
    number bytes offset width < BigEndian.capacity width := by
  have hlt := BigEndian.decode_lt ((bytes.drop offset).take width)
  rwa [List.length_take, List.length_drop, Nat.min_eq_left (by omega)] at hlt

theorem ofBytes_of_le {bytes : Bytes} (hlong : size ≤ bytes.length) :
    ∃ header, ofBytes bytes = .ok header := by
  have hfront : ¬(bytes.take size).length < size := by
    rw [List.length_take, Nat.min_eq_left hlong]
    exact Nat.lt_irrefl size
  exact ⟨_, if_neg hfront⟩

theorem size_le_of_ofBytes {bytes : Bytes} {header : Header} (h : ofBytes bytes = .ok header) :
    size ≤ bytes.length := by
  unfold ofBytes at h
  dsimp only at h
  split at h <;> rename_i hlength
  · cases h
  · rw [List.length_take] at hlength
    omega

/-- Writing gives back the bytes that were read. -/
theorem toBytes_of_ofBytes {bytes : Bytes} {header : Header} (h : ofBytes bytes = .ok header) :
    header.toBytes = bytes.take size := by
  have hlong := size_le_of_ofBytes h
  have hsize : (bytes.take size).length = 28 := by rw [List.length_take, Nat.min_eq_left hlong]; rfl
  unfold ofBytes at h
  dsimp only at h
  rw [if_neg (by rw [hsize]; decide)] at h
  generalize bytes.take size = front at h hsize
  cases h
  have hfield (offset width bits : Nat) (hle : offset + width ≤ 28)
      (hbits : BigEndian.capacity width = 2 ^ bits) :
      BigEndian.encode width (number front offset width % 2 ^ bits) =
        (front.drop offset).take width := by
    have hlt := number_lt (hsize ▸ hle)
    rw [← hbits, Nat.mod_eq_of_lt hlt, encode_number (hsize ▸ hle)]
  have hwhole : front.take 28 = front := List.take_of_length_le (Nat.le_of_eq hsize)
  simp only [toBytes, UInt32.toNat_ofNat', UInt8.toNat_ofNat', UInt16.toNat_ofNat',
    UInt64.toNat_ofNat']
  rw [hfield 0 4 32 (by decide) rfl, hfield 4 1 8 (by decide) rfl, hfield 5 1 8 (by decide) rfl,
    hfield 6 2 16 (by decide) rfl, hfield 8 2 16 (by decide) rfl, hfield 10 2 16 (by decide) rfl,
    hfield 12 4 32 (by decide) rfl, hfield 16 8 64 (by decide) rfl, hfield 24 4 32 (by decide) rfl]
  -- neighbouring fields join to one front, up to the whole
  simp only [List.drop_zero, ← List.take_add, Nat.reduceAdd, hwhole]

/-- What is read opens with the bytes of its magic number. -/
theorem take_of_ofBytes {bytes : Bytes} {header : Header} (h : ofBytes bytes = .ok header) :
    bytes.take 4 = BigEndian.encode 4 header.magic.toNat := by
  have hfront : header.toBytes.take 4 = bytes.take 4 := by
    rw [toBytes_of_ofBytes h, List.take_take]
    rfl
  rw [← hfront]
  simp only [toBytes, List.append_assoc]
  exact List.take_left' (BigEndian.length_encode 4 _)

theorem check_eq_ok_iff (header : Header) (protocol : Protocol) :
    header.check protocol = .ok () ↔
      header.magic = protocol.magic ∧ header.version = protocol.version ∧
        header.codec = protocol.codec ∧ header.payloadSize ≤ protocol.maxPayload := by
  unfold check
  by_cases hmagic : header.magic = protocol.magic
  · by_cases hversion : header.version = protocol.version
    · by_cases hcodec : header.codec = protocol.codec
      · simp [hmagic, hversion, hcodec]
      · simp [hmagic, hversion, hcodec]
    · simp [hmagic, hversion]
  · simp [hmagic]

theorem accept_eq_ok_iff (protocol : Protocol) (bytes : Bytes) (header : Header) :
    accept protocol bytes = .ok header ↔
      ofBytes bytes = .ok header ∧ header.check protocol = .ok () := by
  unfold accept
  cases ofBytes bytes with
  | error fault => simp
  | ok found =>
    constructor
    · intro h
      dsimp only at h
      split at h <;> rename_i hcheck
      · cases h
      · cases h
        exact ⟨rfl, hcheck⟩
    · rintro ⟨hfound, hcheck⟩
      cases hfound
      dsimp only
      rw [hcheck]

/-- What is read depends on the bytes of a header only. -/
theorem ofBytes_congr {bytes other : Bytes} (h : bytes.take size = other.take size) :
    ofBytes bytes = ofBytes other := by
  unfold ofBytes
  rw [h]
  by_cases hlong : (other.take size).length < size
  · -- there is no header, and nothing is behind the bytes that were looked at
    have hwhole {short : Bytes} (hshort : (short.take size).length < size) :
        short.take size = short := by
      rw [List.length_take] at hshort
      exact List.take_of_length_le (by omega)
    have heq : bytes = other := (hwhole (h ▸ hlong)).symm.trans (h.trans (hwhole hlong))
    rw [heq]
  · rw [if_neg hlong, if_neg hlong]

theorem accept_take (protocol : Protocol) (bytes : Bytes) :
    accept protocol (bytes.take size) = accept protocol bytes := by
  have hfront : (bytes.take size).take size = bytes.take size := by
    rw [List.take_take, Nat.min_self]
  rw [accept, ofBytes_congr hfront, accept]

/-- A header that is accepted opens with the magic number of the protocol. -/
theorem magicBytes_of_accept {protocol : Protocol} {bytes : Bytes} {header : Header}
    (h : accept protocol bytes = .ok header) : bytes.take 4 = protocol.magicBytes := by
  obtain ⟨hread, hcheck⟩ := (accept_eq_ok_iff protocol bytes header).1 h
  obtain ⟨hmagic, -⟩ := (check_eq_ok_iff header protocol).1 hcheck
  rw [take_of_ofBytes hread, hmagic, Protocol.magicBytes]

end Header

/-- The look at the magic number saves work and changes nothing. -/
theorem Window.candidate?_eq_some_iff (window : Window) (protocol : Protocol) (header : Header) :
    window.candidate? protocol = some header ↔
      Header.accept protocol window.bytes = .ok header := by
  unfold candidate?
  constructor
  · intro h
    split at h
    · split at h <;> rename_i haccept
      · cases h
        exact haccept
      · cases h
    · cases h
  · intro h
    have hmagic : window.bytes.take 4 = BigEndian.encode 4 protocol.magic.toNat :=
      Header.magicBytes_of_accept h
    rw [if_pos hmagic, h]

namespace Frame

/-- The payload is not too long for the protocol. -/
def Fits (frame : Frame) (protocol : Protocol) : Prop :=
  frame.payload.length ≤ protocol.maxPayload.toNat

instance (frame : Frame) (protocol : Protocol) : Decidable (frame.Fits protocol) :=
  inferInstanceAs (Decidable (_ ≤ _))

/-- The wire form of a frame, if it fits the protocol. A frame that does not fit has no bytes. -/
def onWire (frame : Frame) (protocol : Protocol) : Bytes :=
  match frame.encode protocol with
  | .ok bytes => bytes
  | .error _ => []

theorem encode_of_header {frame : Frame} {protocol : Protocol} {header : Header}
    (h : frame.header protocol = .ok header) :
    frame.encode protocol = .ok (header.toBytes ++ frame.payload) := by
  rw [encode, h]

theorem onWire_of_header {frame : Frame} {protocol : Protocol} {header : Header}
    (h : frame.header protocol = .ok header) :
    frame.onWire protocol = header.toBytes ++ frame.payload := by
  rw [onWire, encode_of_header h]

theorem header_of_fits {frame : Frame} {protocol : Protocol} (h : frame.Fits protocol) :
    ∃ header, frame.header protocol = .ok header ∧ header.check protocol = .ok () ∧
      header.payloadSize.toNat = frame.payload.length ∧ ofParts header frame.payload = frame := by
  have hsize : (UInt32.ofNat frame.payload.length).toNat = frame.payload.length := by
    rw [UInt32.toNat_ofNat']
    exact Nat.mod_eq_of_lt (Nat.lt_of_le_of_lt h protocol.maxPayload.toNat_lt)
  have hle : UInt32.ofNat frame.payload.length ≤ protocol.maxPayload := by
    rw [UInt32.le_iff_toNat_le, hsize]
    exact h
  exact ⟨_, if_pos h, (Header.check_eq_ok_iff _ protocol).2 ⟨rfl, rfl, rfl, hle⟩, hsize, rfl⟩

theorem header_of_not_fits {frame : Frame} {protocol : Protocol} (h : ¬frame.Fits protocol) :
    frame.header protocol =
      .error (.payloadTooLarge frame.payload.length protocol.maxPayload) :=
  if_neg h

theorem fits_of_header {frame : Frame} {protocol : Protocol} {header : Header}
    (h : frame.header protocol = .ok header) : frame.Fits protocol := by
  refine Classical.byContradiction fun hfits => ?_
  rw [header_of_not_fits hfits] at h
  cases h

theorem not_fits_of_header {frame : Frame} {protocol : Protocol} {fault : Fault}
    (h : frame.header protocol = .error fault) : ¬frame.Fits protocol := by
  intro hfits
  obtain ⟨header, hheader, -⟩ := header_of_fits hfits
  rw [h] at hheader
  cases hheader

/-- A frame that fits is its header and its payload on the wire, and both are read back. -/
theorem onWire_of_fits {frame : Frame} {protocol : Protocol} (h : frame.Fits protocol) :
    ∃ header, frame.header protocol = .ok header ∧
      frame.onWire protocol = header.toBytes ++ frame.payload ∧
      Header.accept protocol header.toBytes = .ok header ∧
      header.payloadSize.toNat = frame.payload.length ∧ ofParts header frame.payload = frame := by
  obtain ⟨header, hheader, hcheck, hsize, hparts⟩ := header_of_fits h
  refine ⟨header, hheader, onWire_of_header hheader, ?_, hsize, hparts⟩
  · have hread := Header.ofBytes_toBytes header []
    rw [List.append_nil] at hread
    exact (Header.accept_eq_ok_iff protocol header.toBytes header).2 ⟨hread, hcheck⟩

/-- A frame has a wire form just when it fits. -/
theorem encode_eq_ok_iff (frame : Frame) (protocol : Protocol) (bytes : Bytes) :
    frame.encode protocol = .ok bytes ↔ frame.Fits protocol ∧ bytes = frame.onWire protocol := by
  by_cases hfits : frame.Fits protocol
  · obtain ⟨header, hheader, -⟩ := header_of_fits hfits
    simp [onWire, encode, hheader, hfits, eq_comm]
  · simp [encode, header_of_not_fits hfits, hfits]

end Frame

end FramedVideo
