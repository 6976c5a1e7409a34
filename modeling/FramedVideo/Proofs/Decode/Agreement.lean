import FramedVideo.Proofs.Decode.Consumption
import FramedVideo.Proofs.Decode.Resync
import FramedVideo.Proofs.Frame.Stream
import FramedVideo.Proofs.Transport.Chunks

/-!
# Two ends with protocols of their own

One end writes under its protocol and the other reads under another one. A frame that fits the first
protocol gets through just when both agree on the format and it fits the second protocol, too. If it
does not get through, the reader has looked at the header only, and names the first respect in which
the two protocols are at odds.

## Main definitions

- `Protocol.conflicts` — the respects in which two protocols are at odds over a frame

Main statements: `Header.check_of_check`, `Decoder.next_of_conflicts`, `Decoder.reads_of_conflicts`.
-/

namespace FramedVideo

open Transport (Source Carries CarriesPolled Chunked Meter Wire)

-- ════════════════════════════════════════════════════════════════════════
-- Conflicts
-- ════════════════════════════════════════════════════════════════════════

namespace Protocol

/-- The respects in which a frame that is written under one protocol departs from another, in the order
in which a reader looks at them. Each carries what the writer's protocol puts there. -/
def conflicts (mine theirs : Protocol) (size : Nat) : List Fault :=
  (if mine.magic = theirs.magic then [] else [.badMagic mine.magic]) ++
  (if mine.version = theirs.version then [] else [.unsupportedVersion mine.version]) ++
  (if mine.codec = theirs.codec then [] else [.unsupportedCodec mine.codec]) ++
  (if size ≤ theirs.maxPayload.toNat then [] else [.payloadTooLarge size theirs.maxPayload])

theorem conflicts_eq_nil_iff (mine theirs : Protocol) (size : Nat) :
    mine.conflicts theirs size = [] ↔
      mine.magic = theirs.magic ∧ mine.version = theirs.version ∧ mine.codec = theirs.codec ∧
        size ≤ theirs.maxPayload.toNat := by
  simp only [conflicts, List.append_eq_nil_iff, ite_eq_left_iff, List.cons_ne_nil, imp_false,
    Classical.not_not, and_assoc]

end Protocol

/-- A header that passes the check of one protocol meets the first conflict in the check of another. -/
theorem Header.check_of_check {header : Header} {mine : Protocol} (h : header.check mine = .ok ())
    (theirs : Protocol) :
    header.check theirs =
      match mine.conflicts theirs header.payloadSize.toNat with
      | [] => .ok ()
      | fault :: _ => .error fault := by
  obtain ⟨hmagic, hversion, hcodec, -⟩ := (check_eq_ok_iff header mine).1 h
  unfold check Protocol.conflicts
  rw [← hmagic, ← hversion, ← hcodec]
  by_cases hmagic : header.magic = theirs.magic
  · by_cases hversion : header.version = theirs.version
    · by_cases hcodec : header.codec = theirs.codec
      · by_cases hsize : header.payloadSize ≤ theirs.maxPayload
        · have hfits : header.payloadSize.toNat ≤ theirs.maxPayload.toNat := hsize
          simp [hmagic, hversion, hcodec, hsize, hfits]
        · have hlarge : ¬header.payloadSize.toNat ≤ theirs.maxPayload.toNat := hsize
          simp [hmagic, hversion, hcodec, UInt32.not_le.1 hsize, hlarge]
      · simp [hmagic, hversion, hcodec]
    · simp [hmagic, hversion]
  · simp [hmagic]

-- ════════════════════════════════════════════════════════════════════════
-- Reading
-- ════════════════════════════════════════════════════════════════════════

namespace Decoder

/-- A frame that was written under another protocol is read if there is no conflict. Otherwise the first
one is reported, and the stream stands behind the header. -/
theorem next_of_conflicts {frame : Frame} {mine : Protocol} (hfits : frame.Fits mine) (after : Wire)
    (decoder : Decoder Wire) (hrecovery : decoder.recovery = .disabled)
    (hsource : decoder.source = Wire.ofBytes (frame.onWire mine) ++ after) :
    decoder.next =
      match mine.conflicts decoder.protocol frame.payload.length with
      | [] => (.ok frame, { decoder with source := after })
      | fault :: _ =>
        (.error (.fault fault),
          { decoder with
            source := Wire.ofBytes ((frame.onWire mine).drop Header.size) ++ after }) := by
  obtain ⟨header, hheader, hmine, hsize, hparts⟩ := Frame.header_of_fits hfits
  have hcheck := Header.check_of_check hmine decoder.protocol
  have honWire := Frame.onWire_of_header hheader
  have hpayload : (frame.onWire mine).drop Header.size = frame.payload := by
    rw [honWire]
    exact List.drop_left' header.length_toBytes
  rw [honWire] at hsource
  rw [hpayload, ← hsize]
  cases hconflicts : mine.conflicts decoder.protocol header.payloadSize.toNat with
  | nil =>
    rw [hconflicts] at hcheck
    rw [next_of_check header frame.payload after decoder hcheck hsize hsource, hparts]
  | cons fault others =>
    rw [hconflicts] at hcheck
    rw [Wire.ofBytes_append, List.append_assoc] at hsource
    rw [next_eq, nextHeader_toBytes header _ decoder hsource, hcheck]
    dsimp only
    rw [recover_disabled]
    · rfl
    · exact hrecovery

/-- How far a call without a search gets, by its answer. -/
theorem bytesLeft_next_of_disabled {σ : Type} [Source σ] {bytesLeft : σ → Nat}
    (decoder : Decoder σ) (hmeter : Meter bytesLeft) (hrecovery : decoder.recovery = .disabled) :
    (∀ frame, decoder.next.1 = .ok frame →
      frame.encodedSize + bytesLeft decoder.next.2.source = bytesLeft decoder.source) ∧
    ∀ fault, decoder.next.1 = .error (.fault fault) →
      Header.size + bytesLeft decoder.next.2.source = bytesLeft decoder.source := by
  obtain ⟨slid, payload?, taken, hconsumes⟩ := exists_consumes hmeter decoder
  have hlimit : decoder.recovery.limit = 0 := by rw [hrecovery]; rfl
  have hslid := hconsumes.slid_le
  rw [← hconsumes.taken_add]
  refine ⟨fun frame hframe => ?_, fun fault hfault => ?_⟩
  · obtain ⟨-, -, htaken⟩ := hconsumes.of_frame frame hframe
    rw [htaken, Frame.encodedSize]
    omega
  · obtain ⟨-, -, htaken⟩ := hconsumes.of_fault fault hfault
    rw [htaken, hlimit]
    rfl

/-- A frame has a wire form under a protocol just when its payload is not too long for that protocol;
without one a buffer stays as it is, and with one it grows by just that. One who reads the wire form
under another protocol, and does not search, gets the frame just when the two agree on the magic number,
the version and the codec and the payload is not too long for the second protocol either. Otherwise the
answer is the first conflict, and no more than the header has been read. -/
theorem reads_of_conflicts {σ : Type} [Source σ] (frame : Frame) (mine theirs : Protocol)
    (buffer : Bytes) (source : σ) (after : Wire) :
    let size := frame.payload.length
    let decoder : Decoder σ := { source, protocol := theirs, recovery := .disabled }
    let called := decoder.next
    let awaited := decoder.finish .start
    ((∃ wire, frame.encode mine = .ok wire) ↔ size ≤ mine.maxPayload.toNat) ∧
    (∀ fault, frame.encode mine = .error fault →
      frame.encodeInto mine buffer = (.error fault, buffer)) ∧
    ∀ wire, frame.encode mine = .ok wire →
      let answer : Except DecodeFailure Frame :=
        match mine.conflicts theirs size with
        | [] => .ok frame
        | fault :: _ => .error (.fault fault)
      let rest : Wire :=
        match mine.conflicts theirs size with
        | [] => after
        | _ :: _ => Wire.ofBytes (wire.drop Header.size) ++ after
      frame.encodeInto mine buffer = (.ok (), buffer ++ wire) ∧ wire.length = frame.encodedSize ∧
      (answer = .ok frame ↔ mine.magic = theirs.magic ∧ mine.version = theirs.version ∧
        mine.codec = theirs.codec ∧ size ≤ theirs.maxPayload.toNat) ∧
      (Carries source (Wire.ofBytes wire ++ after) →
        called.1 = answer ∧ Carries called.2.source rest ∧ called.2.skipped = 0 ∧
        ∀ bytesLeft : σ → Nat, Meter bytesLeft →
          (if answer = .ok frame then frame.encodedSize else Header.size) +
            bytesLeft called.2.source = bytesLeft source) ∧
      (CarriesPolled source (Wire.ofBytes wire ++ after) →
        awaited.answer = some answer ∧ CarriesPolled awaited.decoder.source rest ∧
          awaited.decoder.skipped = 0) := by
  intro size decoder called awaited
  have hencode (wire : Bytes) := Frame.encode_eq_ok_iff frame mine wire
  refine ⟨⟨?_, fun hfits => ⟨_, (hencode _).2 ⟨hfits, rfl⟩⟩⟩, fun fault hfault => ?_,
    fun wire hwire => ?_⟩
  · rintro ⟨wire, hwire⟩
    exact ((hencode wire).1 hwire).1
  · have hlarge : ¬frame.Fits mine := by
      intro hfits
      cases hfault.symm.trans ((hencode _).2 ⟨hfits, rfl⟩)
    rw [Frame.encode, Frame.header_of_not_fits hlarge] at hfault
    cases hfault
    exact Frame.encodeInto_of_not_fits hlarge buffer
  · obtain ⟨hfits, rfl⟩ := (hencode wire).1 hwire
    intro answer rest
    have hrun : (decoder.onto (Wire.ofBytes (frame.onWire mine) ++ after)).next =
        (answer, decoder.onto rest) := by
      rw [next_of_conflicts hfits after _ rfl rfl]
      dsimp only [answer, rest, decoder, onto, size]
      cases mine.conflicts theirs frame.payload.length <;> rfl
    have hagree : answer = .ok frame ↔ mine.conflicts theirs size = [] := by
      dsimp only [answer]
      cases mine.conflicts theirs size <;> simp
    refine ⟨Frame.encodeInto_of_fits hfits buffer, Frame.length_onWire hfits,
      hagree.trans (mine.conflicts_eq_nil_iff theirs size), fun hsource => ?_,
      fun hsource => finish_of_carries hsource hrun⟩
    obtain ⟨hcalled, hleft, hskipped⟩ :=
      next_of_carries (show Carries decoder.source _ from hsource) hrun
    refine ⟨hcalled, hleft, hskipped, fun bytesLeft hmeter => ?_⟩
    obtain ⟨hframe, hfault⟩ := decoder.bytesLeft_next_of_disabled hmeter rfl
    split <;> rename_i hanswer
    · exact hframe frame (hcalled.trans hanswer)
    · cases hconflicts : mine.conflicts theirs size with
      | nil => exact absurd (hagree.2 hconflicts) hanswer
      | cons fault others =>
        refine hfault fault (hcalled.trans ?_)
        dsimp only [answer]
        rw [hconflicts]

/-- A frame of three bytes that is written under a second version is refused for its version by one who
knows the first version and two bytes only; four bytes are still to come then. Its own protocol reads
it. -/
theorem reads_of_second_version :
    let frame : Frame := { sourceId := 3, frameId := 7, timestamp := 9, flags := 1, payload := [1, 2, 3] }
    let mine : Protocol := { version := 2, maxPayload := 3 }
    let source : Chunked := { rest := frame.onWire mine ++ [5], plan := .fixed 6 }
    let refusing : Decoder Chunked := { source, protocol := { maxPayload := 2 } }
    let reading : Decoder Chunked := { source, protocol := mine }
    frame.encode mine = .ok (frame.onWire mine) ∧
      refusing.next.1 = .error (.fault (.unsupportedVersion 2)) ∧
      refusing.next.2.source.remaining = 4 ∧ reading.next.1 = .ok frame := by
  intro frame mine source refusing reading
  have hwire : frame.encode mine = .ok (frame.onWire mine) :=
    (Frame.encode_eq_ok_iff frame mine _).2 ⟨by decide, rfl⟩
  have hrest : Wire.ofBytes source.rest = Wire.ofBytes (frame.onWire mine) ++ [.byte 5] :=
    Wire.ofBytes_append _ _
  have hsource : Carries source (Wire.ofBytes (frame.onWire mine) ++ [.byte 5]) :=
    hrest ▸ source.carries rfl
  have hconflicts : mine.conflicts { maxPayload := 2 } frame.payload.length =
      [.unsupportedVersion 2, .payloadTooLarge 3 2] := by decide
  have hremaining : source.remaining = 32 := by decide
  clear_value source
  obtain ⟨-, -, hrefuses⟩ := reads_of_conflicts frame mine { maxPayload := 2 } [] source [.byte 5]
  obtain ⟨-, -, -, hrefused, -⟩ := hrefuses _ hwire
  obtain ⟨hanswer, -, -, hleft⟩ := hrefused hsource
  have hlength := hleft _ Chunked.meter
  rw [hconflicts] at hanswer hlength
  obtain ⟨-, -, hreads⟩ := reads_of_conflicts frame mine mine [] source [.byte 5]
  obtain ⟨-, -, -, hread, -⟩ := hreads _ hwire
  obtain ⟨hframe, -⟩ := hread hsource
  refine ⟨hwire, hanswer, ?_, hframe⟩
  rw [hremaining] at hlength
  exact Nat.add_left_cancel (n := 28) hlength

end Decoder

end FramedVideo
