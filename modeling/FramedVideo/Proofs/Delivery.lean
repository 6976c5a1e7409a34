import FramedVideo.Proofs.Receive.Stream
import FramedVideo.Proofs.Send.Fates
import FramedVideo.Proofs.Transport.Chunks

/-!
# From the sources to the consumer

A sender and a receiver that agree on the format, with a transport between them that loses nothing,
cuts the bytes as it likes on both sides, and lasts until the sender is stopped: the consumer is
handed the frames that were written, no others, in order, and both ends count the same.

Main statements: `Service.delivery`.
-/

namespace FramedVideo.Service

open Transport (Sink Source Wire Recorded Reliable CarriesPolled Gauge Chunked)

/-- What the consumer is handed is what was written. Those are the frames of some pushes, none of
them twice, those of one source in the order of the pushes; and there is a reason for every push that
is not among them. -/
theorem delivery {ω σ κ : Type} [Sink ω] [Source σ] [Consumer κ] (sender : SenderConfig)
    (receiver : ReceiverConfig) (hprotocol : receiver.protocol = sender.protocol) (sink : ω)
    (hsink : Reliable sink) (acts : List Act) (source : σ) (consumer : κ)
    (hconsumer : Willing consumer) :
    let first := sender.service (⟨sink, []⟩ : Recorded ω)
    let last := first.after acts
    let run := (receiver.receiver source).run none consumer
    last.session.phase = .ended none →
    CarriesPolled source (Wire.ofBytes last.session.writer.sink.bytes) →
      run.result = .ok {
        reason := .peerClosed
        frames := last.session.stats.sent
        payloadBytes := last.session.stats.payloadBytes
        skippedBytes := 0 } ∧
      run.handed = first.writes acts ∧
      ∃ arrived : List Push, arrived.map (·.frame) = run.handed ∧ arrived.Nodup ∧
        (∀ sourceId,
          (Push.ofSource sourceId arrived).Sublist (Push.ofSource sourceId (pushes acts))) ∧
        ∀ push ∈ pushes acts, push ∈ arrived ∨ Lost sender first acts push := by
  intro first last run hended hsource
  have hwrote : last.session.Wrote sender.protocol (first.writes acts) :=
    wrote_after sender sink hsink acts
  obtain ⟨arrived, harrived, hnodup, hordered, hfates⟩ :=
    writes_of_ended sender sink hsink acts hended
  rw [hwrote.bytes, ← hprotocol] at hsource
  have hfits : ∀ frame ∈ first.writes acts, frame.Fits receiver.protocol :=
    hprotocol ▸ hwrote.fits
  obtain ⟨hhanded, hresult⟩ :=
    Receiver.run_frames receiver (first.writes acts) source consumer hconsumer hfits hsource
  refine ⟨?_, hhanded, arrived, harrived.trans hhanded.symm, hnodup, hordered, hfates⟩
  rw [hwrote.sent, hwrote.payloadBytes]
  exact hresult

/-- One of six pushes arrives, written three bytes at a time and read five at a time. The others are
replaced, too large, of an unknown source, waiting at the stop, and too late. -/
theorem delivery_of_one :
    let protocol : Protocol := { maxPayload := 2 }
    let sender : SenderConfig := { sourceCount := 2, protocol := protocol }
    let receiver : ReceiverConfig := { protocol := protocol, recovery := .scan 100 }
    let older : Frame := { sourceId := 0, frameId := 1, timestamp := 10, payload := [1] }
    let newer : Frame :=
      { sourceId := 0, frameId := 2, timestamp := 20, flags := 9, payload := [2, 3] }
    let large : Frame := { sourceId := 1, frameId := 3, timestamp := 30, payload := [4, 5, 6] }
    let stray : Frame := { sourceId := 2, frameId := 4, timestamp := 40, payload := [] }
    let acts : List Act := [.offer older, .offer large, .offer newer, .offer stray, .step 0, .step 1,
      .offer older, .step 2, .stop, .offer newer, .step 3]
    let gauge : Gauge := { settings := { chunk := some 3 } }
    let last := (sender.service (⟨gauge, []⟩ : Recorded Gauge)).after acts
    let source : Chunked := { rest := last.session.writer.sink.bytes, plan := .fixed 5 }
    let run := (receiver.receiver source).run none ({} : PictureLog)
    last.session.phase = .ended none ∧ run.result = .ok ⟨.peerClosed, 1, 2, 0⟩ ∧
      run.handed = [newer] := by
  intro protocol sender receiver older newer large stray acts gauge last source run
  have hsink : Reliable gauge := gauge.reliable nofun rfl rfl
  have hended : last.session.phase = .ended none := by decide +kernel
  have hlast : last = (sender.service (⟨gauge, []⟩ : Recorded Gauge)).after acts := rfl
  have hrest : source.rest = last.session.writer.sink.bytes := by simp only [source]
  have hsource : CarriesPolled source (Wire.ofBytes source.rest) := source.carriesPolled rfl
  have hsent : last.session.stats.sent = 1 := by decide +kernel
  have hpayload : last.session.stats.payloadBytes = 2 := by decide +kernel
  have hwrites : (sender.service (⟨gauge, []⟩ : Recorded Gauge)).writes acts = [newer] := by decide +kernel
  rw [hrest, hlast] at hsource
  rw [hlast] at hsent hpayload
  obtain ⟨hresult, hhanded, -⟩ := delivery sender receiver rfl gauge hsink acts source
    ({} : PictureLog) (PictureLog.willing {}) hended hsource
  rw [hsent, hpayload] at hresult
  exact ⟨hended, hresult, hhanded.trans hwrites⟩

end FramedVideo.Service
