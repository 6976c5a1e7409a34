import FramedVideo.Frame.Header

/-!
# Frames

A frame is one picture of one source, with the number and the time of its capture. On the wire it
is a header and then the payload. A payload longer than the protocol allows has no wire form.

## Main definitions

- `Frame` — a picture with its origin
- `Frame.header` — the header under a protocol
- `Frame.encode` — the wire form under a protocol
- `Frame.ofParts` — the frame that a header and a payload make
-/

namespace FramedVideo

/-- One picture of one source. -/
structure Frame where
  sourceId : UInt16
  frameId : UInt32
  /-- Microseconds since the epoch at capture. -/
  timestamp : UInt64
  flags : UInt16 := 0
  payload : Bytes
  deriving DecidableEq, Repr, Inhabited

namespace Frame

/-- The frame that a header and the payload after it make. What the header says about the format
itself is dropped. -/
def ofParts (header : Header) (payload : Bytes) : Frame where
  sourceId := header.sourceId
  frameId := header.frameId
  timestamp := header.timestamp
  flags := header.flags
  payload := payload

/-- The length of the wire form. -/
def encodedSize (frame : Frame) : Nat := Header.size + frame.payload.length

/-- The header of a frame under a protocol. A payload that is too long has none. -/
def header (frame : Frame) (protocol : Protocol) : Except Fault Header :=
  if frame.payload.length ≤ protocol.maxPayload.toNat then
    .ok <|
      (Header.stamp protocol frame.sourceId frame.frameId frame.timestamp
        (.ofNat frame.payload.length)).withFlags frame.flags
  else
    .error (.payloadTooLarge frame.payload.length protocol.maxPayload)

/-- The wire form of a frame under a protocol: its header and its payload. -/
def encode (frame : Frame) (protocol : Protocol) : Except Fault Bytes :=
  match frame.header protocol with
  | .error fault => .error fault
  | .ok header => .ok (header.toBytes ++ frame.payload)

/-- Puts the wire form of a frame behind what a buffer holds. A frame that has none leaves the
buffer as it was. -/
def encodeInto (frame : Frame) (protocol : Protocol) (buffer : Bytes) :
    Except Fault Unit × Bytes :=
  match frame.header protocol with
  | .error fault => (.error fault, buffer)
  | .ok header => (.ok (), buffer ++ (header.toBytes ++ frame.payload))

/-- The wire forms of several frames, one after the other, up to the first that has none. -/
def encodeAll (frames : List Frame) (protocol : Protocol) : Except Fault Bytes :=
  frames.foldl
    (fun (written : Except Fault Bytes) frame =>
      match written with
      | .error fault => .error fault
      | .ok bytes =>
        match frame.encodeInto protocol bytes with
        | (.ok (), longer) => .ok longer
        | (.error fault, _) => .error fault)
    (.ok [])

end Frame

end FramedVideo
