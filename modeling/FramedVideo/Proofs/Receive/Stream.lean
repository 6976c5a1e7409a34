import FramedVideo.Proofs.Decode.RoundTrip
import FramedVideo.Proofs.Receive.Stopping

/-!
# Receiving a stream of frames

A receiver whose stream holds frames and nothing else hands each of them to its consumer, in order,
and ends well when the peer closes, whatever it would do after a faulty header, as long as the
consumer wants more and no shutdown comes.

## Main definitions

- `Willing` — the consumer always wants more

Main statement: `Receiver.run_frames`.
-/

namespace FramedVideo

open Transport (Source Wire CarriesPolled)

/-- The consumer always wants more. -/
def Willing {κ : Type} [Consumer κ] (consumer : κ) : Prop :=
  ∃ P : κ → Prop, P consumer ∧ ∀ consumer, P consumer → ∀ frame,
    (Consumer.handle frame consumer).verdict = .goOn ∧ P (Consumer.handle frame consumer).consumer

theorem Willing.wantsMore {κ : Type} [Consumer κ] {consumer : κ} (h : Willing consumer)
    (frames : List Frame) : Consumer.wantsMore consumer frames = true := by
  obtain ⟨P, hconsumer, hP⟩ := h
  induction frames generalizing consumer with
  | nil => rfl
  | cons frame frames ih =>
    obtain ⟨hverdict, hleft⟩ := hP consumer hconsumer frame
    rw [Consumer.wantsMore, hverdict, ih hleft]
    rfl

theorem PictureLog.willing (consumer : PictureLog) : Willing consumer := by
  refine ⟨fun _ => True, trivial, fun consumer _ frame => ⟨?_, trivial⟩⟩
  show (PictureLog.handle frame consumer).verdict = .goOn
  unfold PictureLog.handle
  split <;> rfl

/-- A receiver hands on all the frames that its stream holds, and ends well. -/
theorem Receiver.run_frames {σ κ : Type} [Source σ] [Consumer κ] (config : ReceiverConfig)
    (frames : List Frame) (source : σ) (consumer : κ) (hconsumer : Willing consumer)
    (hfits : ∀ frame ∈ frames, frame.Fits config.protocol)
    (hsource : CarriesPolled source (Wire.ofBytes (frames.flatMap (·.onWire config.protocol)))) :
    let run := (config.receiver source).run none consumer
    run.handed = frames ∧
      run.result = .ok {
        reason := .peerClosed
        frames := frames.length
        payloadBytes := (frames.flatMap (·.payload)).length
        skippedBytes := 0 } := by
  intro run
  let decoder := (config.receiver source).decoder
  let wire := Wire.ofBytes (frames.flatMap (·.onWire config.protocol))
  have hnext := Decoder.nextMany_frames_close frames (decoder.onto wire) hfits rfl
  obtain ⟨-, -, hskipped⟩ := Decoder.finishMany_of_carries hsource hnext
  have hcourse := run_course none consumer
    (Decoder.endsWith_of_carries hsource (congrArg Prod.fst hnext))
  have hwants := hconsumer.wantsMore run.handed
  obtain ⟨hhanded, hreceiver⟩ := hcourse.ended hwants rfl
  refine ⟨hhanded, hcourse.result.trans ?_⟩
  rw [hwants, hreceiver, hhanded, hskipped, List.length_flatMap, Nat.zero_add, Nat.zero_add]
  rfl

end FramedVideo
