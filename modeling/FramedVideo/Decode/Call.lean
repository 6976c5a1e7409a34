import FramedVideo.Decode.Decoder
import FramedVideo.Transport.PartialRead
import FramedVideo.Log

/-!
# Decoding without waiting

Where a reader cannot wait, the decoding of one frame is a value: a call, which is polled until it
is over. A call knows how far it got. To drop it is to lose the bytes that it read, and nothing
else: the decoder itself only changes when a search for a header ends.

## Main definitions

- `Call` — the decoding of one frame in progress
- `Decoder.poll` — goes on with a call as far as the source lets it
-/

namespace FramedVideo

open Transport (Source ReadFailure PartialRead)

/-- The decoding of one frame in progress. -/
inductive Call where
  /-- Reading the header. -/
  | header (reading : PartialRead)
  /-- Reading the next byte of a search that `fault` set off. -/
  | search (fault : Fault) (window : Window) (reading : PartialRead)
  /-- Reading the payload that a header announced. -/
  | payload (header : Header) (reading : PartialRead)
  deriving DecidableEq, Repr

namespace Call

/-- A call that has not read anything. -/
def start : Call := header (.start Header.size)

/-- The read that a call is at. -/
def reading : Call → PartialRead
  | header reading => reading
  | search _ _ reading => reading
  | payload _ reading => reading

end Call

/-- The report of a frame that was decoded. -/
def Log.decodedFrame (header : Header) : Log.Line where
  level := .trace
  message := "decoded frame"
  fields := [
    ("source_id", toString header.sourceId.toNat),
    ("frame_id", toString header.frameId.toNat),
    ("payload_size", toString header.payloadSize.toNat)]

/-- The report of a search that found a header. -/
def Log.resynchronized (fault : Fault) (skipped : Nat) : Log.Line where
  level := .warn
  message := "resynchronized after protocol error"
  fields := [("skipped", toString skipped), ("err", fault.message)]

/-- What a poll of a call leaves: how the call ended, if it did, the call, the decoder, and what
was reported. -/
structure Polled (σ : Type) where
  ended : Option (Except DecodeFailure Frame)
  call : Call
  decoder : Decoder σ
  log : List Log.Line := []

namespace Decoder

variable {σ : Type} [Source σ]

/-- Goes on with the payload. -/
def pollPayload (header : Header) (reading : PartialRead) (decoder : Decoder σ) : Polled σ :=
  match reading.poll decoder.source with
  | ⟨none, reading', left⟩ => ⟨none, .payload header reading', { decoder with source := left }, []⟩
  | ⟨some (.error failure), reading', left⟩ =>
    ⟨some (.error (.ofRead .payload failure)), .payload header reading',
      { decoder with source := left }, []⟩
  | ⟨some (.ok ()), reading', left⟩ =>
    ⟨some (.ok (.ofParts header reading'.bytes)), .payload header reading',
      { decoder with source := left }, [Log.decodedFrame header]⟩

/-- Goes on with the search for a header. -/
def pollSearch (fault : Fault) (window : Window) (reading : PartialRead) (decoder : Decoder σ) :
    Polled σ :=
  match reading.poll decoder.source with
  | ⟨none, reading', left⟩ =>
    ⟨none, .search fault window reading', { decoder with source := left }, []⟩
  | ⟨some (.error failure), reading', left⟩ =>
    ⟨some (.error (.ofRead .resync failure)), .search fault window reading',
      { decoder with source := left }, []⟩
  | ⟨some (.ok ()), reading', left⟩ =>
    let moved := window.push (reading'.bytes.headD 0)
    match moved.candidate? decoder.protocol with
    | some header =>
      let polled := pollPayload header (.start header.payloadSize.toNat)
        { decoder with source := left, skipped := decoder.skipped + moved.skipped }
      { polled with log := Log.resynchronized fault moved.skipped :: polled.log }
    | none =>
      if moved.exhausted then
        ⟨some (.error (.fault fault)), .search fault moved reading',
          { decoder with source := left, skipped := decoder.skipped + moved.skipped }, []⟩
      else
        pollSearch fault moved (.start 1) { decoder with source := left }
termination_by window.limit - window.skipped
decreasing_by
  rename_i hmore
  have hroom := Window.exhausted_eq_false.1 (Bool.eq_false_iff.2 hmore)
  simp only [moved, Window.limit_push, Window.skipped_push] at hroom ⊢
  omega

/-- Goes on after a faulty header. -/
def pollRecover (fault : Fault) (rejected : Bytes) (reading : PartialRead) (decoder : Decoder σ) :
    Polled σ :=
  match decoder.recovery with
  | .disabled => ⟨some (.error (.fault fault)), .header reading, decoder, []⟩
  | .scan limit =>
    let window := Window.start rejected limit
    if window.exhausted then
      ⟨some (.error (.fault fault)), .header reading, decoder, []⟩
    else
      pollSearch fault window (.start 1) decoder

/-- Goes on with the header. -/
def pollHeader (reading : PartialRead) (decoder : Decoder σ) : Polled σ :=
  match reading.poll decoder.source with
  | ⟨none, reading', left⟩ => ⟨none, .header reading', { decoder with source := left }, []⟩
  | ⟨some (.error failure), reading', left⟩ =>
    ⟨some (.error (.ofRead .header failure)), .header reading', { decoder with source := left }, []⟩
  | ⟨some (.ok ()), reading', left⟩ =>
    match Header.accept decoder.protocol reading'.bytes with
    | .ok header => pollPayload header (.start header.payloadSize.toNat) { decoder with source := left }
    | .error fault => pollRecover fault reading'.bytes reading' { decoder with source := left }

/-- Goes on with a call until the source is not ready or the call is over. -/
def poll (call : Call) (decoder : Decoder σ) : Polled σ :=
  match call with
  | .header reading => decoder.pollHeader reading
  | .search fault window reading => decoder.pollSearch fault window reading
  | .payload header reading => decoder.pollPayload header reading

end Decoder

end FramedVideo
