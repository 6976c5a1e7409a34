import FramedVideo.Proofs.Decode.Alike
import FramedVideo.Proofs.Frame.Stream
import FramedVideo.Proofs.Transport.Stops

/-!
# Calls on a source that stops

All that a decoder can meet on a source that brings some bytes and then stops: too few bytes for a
header, a faulty header, a header with too few bytes after it, or a parcel.

Main statements: `Decoder.next_of_short`, `Decoder.next_of_fault`, `Decoder.next_of_cut`,
`Decoder.next_of_parcel`, `Decoder.nextMany_of_stops`.
-/

namespace FramedVideo.Decoder

open Transport (Source Stop Stops readExact)

variable {σ : Type} [Source σ] {decoder : Decoder σ} {bytes : Bytes} {stop : Stop}

/-- Too few bytes for a header are reported with their number. -/
theorem next_of_short (h : Stops decoder.source bytes stop) (hshort : bytes.length < Header.size) :
    decoder.next.1 = .error (.ofRead .header (stop.failure bytes.length Header.size)) := by
  obtain ⟨left, hread⟩ := h.readExact_of_lt hshort
  rw [next_eq, nextHeader_eq, hread]
  rfl

theorem nextHeader_of_stops (h : Stops decoder.source bytes stop)
    (hlong : Header.size ≤ bytes.length) :
    ∃ left, Stops left (bytes.drop Header.size) stop ∧
      decoder.nextHeader = headerRead (.ok (bytes.take Header.size), left) decoder := by
  obtain ⟨left, hread, hleft⟩ := h.readExact_of_le hlong
  exact ⟨left, hleft, by rw [nextHeader_eq, hread]⟩

/-- A faulty header is reported, if the decoder does not search for another one. -/
theorem next_of_fault (hrecovery : decoder.recovery = .disabled)
    (h : Stops decoder.source bytes stop) (hlong : Header.size ≤ bytes.length) {fault : Fault}
    (hfault : Header.accept decoder.protocol bytes = .error fault) :
    decoder.next.1 = .error (.fault fault) := by
  obtain ⟨left, -, hheader⟩ := nextHeader_of_stops h hlong
  rw [next_eq, hheader]
  simp only [headerRead, Header.accept_take, hfault]
  rw [recover_disabled]
  · rfl
  · exact hrecovery

theorem next_of_accept (h : Stops decoder.source bytes stop) {header : Header}
    (haccept : Header.accept decoder.protocol bytes = .ok header) :
    ∃ left, Stops left (bytes.drop Header.size) stop ∧
      decoder.next = framePayload header { decoder with source := left } := by
  obtain ⟨hread, -⟩ := (Header.accept_eq_ok_iff decoder.protocol bytes header).1 haccept
  have hlong := Header.size_le_of_ofBytes hread
  obtain ⟨left, hleft, hheader⟩ := nextHeader_of_stops h hlong
  refine ⟨left, hleft, ?_⟩
  rw [next_eq, hheader]
  simp only [headerRead, Header.accept_take, haccept]
  rfl

/-- Too few bytes after a header are reported with their number. -/
theorem next_of_cut (h : Stops decoder.source bytes stop) {header : Header}
    (haccept : Header.accept decoder.protocol bytes = .ok header)
    (hshort : (bytes.drop Header.size).length < header.payloadSize.toNat) :
    decoder.next.1 = .error (.ofRead .payload
      (stop.failure (bytes.drop Header.size).length header.payloadSize.toNat)) := by
  obtain ⟨left, hleft, hnext⟩ := next_of_accept h haccept
  obtain ⟨last, hread⟩ := hleft.readExact_of_lt hshort
  rw [hnext, framePayload_eq, hread]
  rfl

/-- A parcel that comes next is taken for its frame, and what comes after it is left. -/
theorem next_of_parcel {parcel : Parcel} {rest : Bytes} (hparcel : parcel.Regular decoder.protocol)
    (h : Stops decoder.source (parcel.bytes ++ rest) stop) :
    ∃ left, Stops left rest stop ∧
      decoder.next = (.ok parcel.frame, { decoder with source := left }) := by
  obtain ⟨left, hleft, hnext⟩ := next_of_accept h (hparcel.accept rest)
  have hpayload : (parcel.bytes ++ rest).drop Header.size = parcel.payload ++ rest := by
    rw [Parcel.bytes, List.append_assoc]
    exact List.drop_left' parcel.header.length_toBytes
  have henough : parcel.header.payloadSize.toNat ≤ (parcel.payload ++ rest).length := by
    rw [hparcel.size_eq, List.length_append]
    exact Nat.le_add_right _ _
  rw [hpayload] at hleft
  obtain ⟨last, hread, hlast⟩ := hleft.readExact_of_le henough
  rw [hparcel.size_eq, List.drop_left] at hlast
  rw [hparcel.size_eq, List.take_left, ← hparcel.size_eq] at hread
  refine ⟨last, hlast, ?_⟩
  rw [hnext, framePayload_eq, hread]
  rfl

/-- Frames in front of anything else are read back, and what comes after them is left. -/
theorem nextMany_of_stops (frames : List Frame) (behind : Bytes) (decoder : Decoder σ)
    (hfits : ∀ frame ∈ frames, frame.Fits decoder.protocol)
    (h : Stops decoder.source (frames.flatMap (·.onWire decoder.protocol) ++ behind) stop) :
    ∃ left, Stops left behind stop ∧
      decoder.nextMany frames.length = (frames.map .ok, { decoder with source := left }) := by
  induction frames generalizing decoder with
  | nil => exact ⟨decoder.source, h, rfl⟩
  | cons frame frames ih =>
    obtain ⟨parcel, hparcel, honWire, rfl⟩ := Frame.exists_parcel (hfits frame List.mem_cons_self)
    rw [List.flatMap_cons, List.append_assoc, ← honWire] at h
    obtain ⟨left, hleft, hnext⟩ := next_of_parcel hparcel h
    obtain ⟨last, hlast, hrest⟩ := ih { decoder with source := left }
      (fun other hother => hfits other (List.mem_cons_of_mem _ hother)) hleft
    refine ⟨last, hlast, ?_⟩
    rw [List.length_cons, nextMany, hnext]
    simp only [hrest, List.map_cons]

end FramedVideo.Decoder
