import FramedVideo.Frame
import FramedVideo.Decode.Failure
import FramedVideo.Decode.Window

/-!
# Decoding frames

A decoder reads a header, checks it, and reads as many bytes as it declares. After a frame the
stream stands where the next one starts. After a faulty header the decoder searches for another
one, if it was told to.

A search that finds a header, and one that reaches its limit, add to the count of skipped bytes. A
search that is cut off by the end of the stream or by its failure does not.

## Main definitions

- `Decoder` — a source with the rules for reading it
- `Decoder.next` — the next frame, or why there is none
- `Frames` — the frames up to the first failure
-/

namespace FramedVideo

open Transport (Source ReadFailure readExact)

/-- A source of bytes with the rules for reading frames from it. -/
structure Decoder (σ : Type) where
  source : σ
  protocol : Protocol := {}
  recovery : Recovery := .disabled
  /-- Bytes discarded in searches for a header. -/
  skipped : Nat := 0

namespace Decoder

variable {σ : Type} [Source σ]

/-- Goes on with the search for a header after `fault`. -/
def search (fault : Fault) (window : Window) (decoder : Decoder σ) :
    Except DecodeFailure Header × Decoder σ :=
  if window.exhausted then
    (.error (.fault fault), { decoder with skipped := decoder.skipped + window.skipped })
  else
    match readExact 1 decoder.source with
    | (.error failure, left) => (.error (.ofRead .resync failure), { decoder with source := left })
    | (.ok bytes, left) =>
      let moved := window.push (bytes.headD 0)
      match moved.candidate? decoder.protocol with
      | some header =>
        (.ok header, { decoder with source := left, skipped := decoder.skipped + moved.skipped })
      | none => search fault moved { decoder with source := left }
termination_by window.limit - window.skipped
decreasing_by
  rename_i hmore
  have hroom := Window.exhausted_eq_false.1 (Bool.eq_false_iff.2 hmore)
  simp only [Window.limit_push, Window.skipped_push]
  omega

/-- The header to go on with after a faulty one. -/
def recover (fault : Fault) (rejected : Bytes) (decoder : Decoder σ) :
    Except DecodeFailure Header × Decoder σ :=
  match decoder.recovery with
  | .disabled => (.error (.fault fault), decoder)
  | .scan limit => search fault (.start rejected limit) decoder

/-- The next header that keeps to the protocol. -/
def nextHeader (decoder : Decoder σ) : Except DecodeFailure Header × Decoder σ :=
  match readExact Header.size decoder.source with
  | (.error failure, left) => (.error (.ofRead .header failure), { decoder with source := left })
  | (.ok bytes, left) =>
    match Header.accept decoder.protocol bytes with
    | .ok header => (.ok header, { decoder with source := left })
    | .error fault => recover fault bytes { decoder with source := left }

/-- The frame that a header announces. -/
def framePayload (header : Header) (decoder : Decoder σ) :
    Except DecodeFailure Frame × Decoder σ :=
  match readExact header.payloadSize.toNat decoder.source with
  | (.error failure, left) => (.error (.ofRead .payload failure), { decoder with source := left })
  | (.ok payload, left) => (.ok (.ofParts header payload), { decoder with source := left })

/-- The next frame of the stream. -/
def next (decoder : Decoder σ) : Except DecodeFailure Frame × Decoder σ :=
  match decoder.nextHeader with
  | (.error failure, left) => (.error failure, left)
  | (.ok header, left) => left.framePayload header

end Decoder

-- ════════════════════════════════════════════════════════════════════════
-- The frames of a stream
-- ════════════════════════════════════════════════════════════════════════

/-- The frames of a decoder up to the first failure. -/
structure Frames (σ : Type) where
  decoder : Decoder σ
  /-- A failure was met. -/
  done : Bool := false

/-- The next frame. The first failure is handed out once, unless it is a clean close, and the
decoder is not asked again after it. -/
def Frames.next? {σ : Type} [Source σ] (frames : Frames σ) :
    Option (Except DecodeFailure Frame) × Frames σ :=
  if frames.done then
    (none, frames)
  else
    match frames.decoder.next with
    | (.ok frame, left) => (some (.ok frame), { frames with decoder := left })
    | (.error failure, left) =>
      (if failure.isCleanClose then none else some (.error failure), { decoder := left, done := true })

/-- The answers to a number of requests for the next frame. -/
def Frames.nextMany {σ : Type} [Source σ] (frames : Frames σ) :
    Nat → List (Option (Except DecodeFailure Frame)) × Frames σ
  | 0 => ([], frames)
  | count + 1 =>
    let (answer, left) := frames.next?
    let (answers, last) := left.nextMany count
    (answer :: answers, last)

end FramedVideo
