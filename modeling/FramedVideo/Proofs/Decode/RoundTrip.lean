import FramedVideo.Proofs.Decode.Resync
import FramedVideo.Proofs.Frame.Stream

/-!
# Streams of frames are read back

A decoder over a stream that holds frames and nothing else gives back these frames in their order. It
stands at the next header after each of them, and at the end it reports a clean close. What it would do
after a faulty header makes no difference, not even where a payload holds the wire forms of frames.

Main statements: `Decoder.nextMany_frames`, `Decoder.round_trip`.
-/

namespace FramedVideo.Decoder

open Transport (Source Carries CarriesPolled Script Wire)

/-- Frames in front of anything else are read back, and what comes after them is left. -/
theorem nextMany_frames (frames : List Frame) (after : Wire) (decoder : Decoder Wire)
    (hfits : ∀ frame ∈ frames, frame.Fits decoder.protocol)
    (hsource : decoder.source =
      Wire.ofBytes (frames.flatMap (·.onWire decoder.protocol)) ++ after) :
    decoder.nextMany frames.length = (frames.map .ok, { decoder with source := after }) := by
  induction frames generalizing decoder with
  | nil =>
    obtain ⟨source, protocol, recovery, skipped⟩ := decoder
    cases hsource
    rfl
  | cons frame frames ih =>
    rw [List.flatMap_cons, Wire.ofBytes_append, List.append_assoc] at hsource
    have hnext := next_onWire frame _ decoder (hfits frame List.mem_cons_self) hsource
    have hrest := ih
      { decoder with source := Wire.ofBytes (frames.flatMap (·.onWire decoder.protocol)) ++ after }
      (fun other hother => hfits other (List.mem_cons_of_mem frame hother)) rfl
    rw [List.length_cons, nextMany, hnext]
    simp only [hrest, List.map_cons]

/-- The call after the last frame reports a clean close. -/
theorem nextMany_frames_close (frames : List Frame) (decoder : Decoder Wire)
    (hfits : ∀ frame ∈ frames, frame.Fits decoder.protocol)
    (hsource : decoder.source = Wire.ofBytes (frames.flatMap (·.onWire decoder.protocol))) :
    decoder.nextMany (frames.length + 1) =
      (frames.map .ok ++ [.error (.closed .header 0 Header.size)], { decoder with source := [] }) := by
  rw [nextMany_succ, nextMany_frames frames [] decoder hfits (hsource.trans (List.append_nil _).symm),
    next_nil _ rfl]

/-- The frames of a stream are read back in their order, however the stream is cut into pieces and
interrupted, by a decoder that waits and by one that is polled; the decoder stands at the next header
after each of them, reports a clean close after the last, and skips nothing. So no two lists of frames
have the same stream, and no frame's wire form is the beginning of another's. -/
theorem round_trip {σ : Type} [Source σ] (protocol : Protocol) (recovery : Recovery)
    (frames : List Frame) (source : σ)
    (hfits : ∀ frame ∈ frames, frame.payload.length ≤ protocol.maxPayload.toNat) :
    let stream (frames : List Frame) : Bytes := frames.flatMap (·.onWire protocol)
    let decoder : Decoder σ := { source := source, protocol := protocol, recovery := recovery }
    let closed : Except DecodeFailure Frame := .error (.closed .header 0 Header.size)
    (∀ frame ∈ frames, frame.encode protocol = .ok (frame.onWire protocol)) ∧
    Frame.encodeAll frames protocol = .ok (stream frames) ∧
    (Carries source (Wire.ofBytes (stream frames)) →
      (∀ front back, frames = front ++ back →
        let run := decoder.nextMany front.length
        run.1 = front.map .ok ∧ Carries run.2.source (Wire.ofBytes (stream back)) ∧
          run.2.skipped = 0) ∧
      let run := decoder.nextMany (frames.length + 1)
      run.1 = frames.map .ok ++ [closed] ∧ Carries run.2.source [] ∧ run.2.skipped = 0) ∧
    (CarriesPolled source (Wire.ofBytes (stream frames)) →
      (∀ front back, frames = front ++ back →
        let run := decoder.finishMany front.length
        run.1 = front.map (some <| .ok ·) ∧
          CarriesPolled run.2.source (Wire.ofBytes (stream back)) ∧ run.2.skipped = 0) ∧
      let run := decoder.finishMany (frames.length + 1)
      run.1 = frames.map (some <| .ok ·) ++ [some closed] ∧ CarriesPolled run.2.source [] ∧
        run.2.skipped = 0) ∧
    (∀ others bytes, Frame.encodeAll frames protocol = .ok bytes →
      Frame.encodeAll others protocol = .ok bytes → others = frames) ∧
    ∀ (frame other : Frame) (bytes bytes' : Bytes), frame.encode protocol = .ok bytes →
      other.encode protocol = .ok bytes' → bytes <+: bytes' → bytes = bytes' := by
  intro stream decoder closed
  have hfront (front back : List Frame) (hsplit : frames = front ++ back) :
      (decoder.onto (Wire.ofBytes (stream frames))).nextMany front.length =
        (front.map .ok, decoder.onto (Wire.ofBytes (stream back))) := by
    refine nextMany_frames front _ (decoder.onto _) ?_ ?_
    · intro frame hframe
      exact hfits frame (hsplit ▸ List.mem_append_left back hframe)
    · simp only [stream, hsplit, List.flatMap_append, Wire.ofBytes_append]
      rfl
  have hclose : (decoder.onto (Wire.ofBytes (stream frames))).nextMany (frames.length + 1) =
      (frames.map .ok ++ [closed], decoder.onto ([] : Wire)) :=
    nextMany_frames_close frames (decoder.onto _) hfits rfl
  refine ⟨?_, ?_, ?_, ?_, ?_, ?_⟩
  · intro frame hframe
    exact (Frame.encode_eq_ok_iff frame protocol _).2 ⟨hfits frame hframe, rfl⟩
  · exact (Frame.encodeAll_eq_ok_iff frames protocol _).2 ⟨hfits, rfl⟩
  · intro hsource
    exact ⟨fun front back hsplit => nextMany_of_carries hsource (hfront front back hsplit),
      nextMany_of_carries hsource hclose⟩
  · intro hsource
    refine ⟨fun front back hsplit => ?_, ?_⟩
    · have hrun := finishMany_of_carries hsource (hfront front back hsplit)
      rwa [List.map_map] at hrun
    · have hrun := finishMany_of_carries hsource hclose
      rwa [List.map_append, List.map_map] at hrun
  · intro others bytes hframes hothers
    obtain ⟨-, rfl⟩ := (Frame.encodeAll_eq_ok_iff frames protocol bytes).1 hframes
    obtain ⟨hall, hsame⟩ := (Frame.encodeAll_eq_ok_iff others protocol _).1 hothers
    exact Frame.stream_inj hall hfits hsame.symm
  · intro frame other bytes bytes' hframe hother hbegins
    obtain ⟨hfirst, rfl⟩ := (Frame.encode_eq_ok_iff frame protocol bytes).1 hframe
    obtain ⟨hsecond, rfl⟩ := (Frame.encode_eq_ok_iff other protocol bytes').1 hother
    obtain ⟨rest, hrest⟩ := hbegins
    have hsame := Frame.onWire_append_inj hfirst hsecond (hrest.trans (List.append_nil _).symm)
    rw [hsame.1]

/-- A frame that has the wire form of another frame for a payload is not taken for that one, and a frame
without payload follows it. -/
theorem round_trip_nested :
    let inner : Frame := { sourceId := 9, frameId := 8, timestamp := 7, payload := [1, 2] }
    let outer : Frame :=
      { sourceId := 0, frameId := 1, timestamp := 10, flags := 3, payload := inner.onWire {} }
    let empty : Frame := { sourceId := 1, frameId := 2, timestamp := 20, payload := [] }
    let frames : List Frame := [outer, empty]
    let bytes : Bytes := frames.flatMap (·.onWire {})
    let script : Script := { events := [.data (bytes.take 29), .fail ⟨.interrupted, none⟩,
      .notReady, .data (bytes.drop 29)] }
    let decoder : Decoder Script := { source := script, recovery := .scan 100 }
    let answers : List (Except DecodeFailure Frame) :=
      [.ok outer, .ok empty, .error (.closed .header 0 28)]
    (∀ frame ∈ frames, frame.payload.length ≤ ({} : Protocol).maxPayload.toNat) ∧
      (decoder.nextMany 3).1 = answers ∧ (decoder.nextMany 3).2.skipped = 0 ∧
      (decoder.finishMany 3).1 = answers.map some ∧ (decoder.finishMany 3).2.skipped = 0 := by
  intro inner outer empty frames bytes script decoder answers
  have hfits : ∀ frame ∈ frames, frame.payload.length ≤ ({} : Protocol).maxPayload.toNat := by decide
  have hcarried : Script.wire script.events = Wire.ofBytes bytes := by decide
  obtain ⟨-, -, hwaiting, hpolled, -, -⟩ := round_trip {} (.scan 100) frames script hfits
  obtain ⟨-, hanswers, -, hskipped⟩ := hwaiting (hcarried ▸ script.carries)
  obtain ⟨-, hanswers', -, hskipped'⟩ := hpolled (hcarried ▸ script.carriesPolled)
  exact ⟨hfits, hanswers, hskipped, hanswers', hskipped'⟩

end FramedVideo.Decoder
