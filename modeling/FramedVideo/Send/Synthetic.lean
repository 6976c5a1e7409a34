import FramedVideo.Frame.Picture

/-!
# Synthetic sources

A synthetic source stands in for a camera. Its frames are numbered from zero, and shaped like
pictures; the byte inside comes from the frame and the source.

## Main definitions

- `SyntheticSource` — a source and the number of its next frame
- `SyntheticSource.capture` — its next frame
-/

namespace FramedVideo

/-- A source and the number of its next frame. -/
structure SyntheticSource where
  sourceId : UInt16
  payloadSize : Nat
  nextId : UInt32 := 0
  deriving DecidableEq, Repr

namespace SyntheticSource

/-- The payload of a frame: as much of a picture as has room. -/
def payload (frameId : UInt32) (source : SyntheticSource) : Bytes :=
  Picture.startMarker.take source.payloadSize ++
    Picture.afterStart source.payloadSize (frameId.toUInt8 ^^^ source.sourceId.toUInt8)

/-- The next frame, captured at a given time. The numbers of frames start over after the largest. -/
def capture (timestamp : UInt64) (source : SyntheticSource) : Frame × SyntheticSource :=
  ({ sourceId := source.sourceId
     frameId := source.nextId
     timestamp := timestamp
     payload := source.payload source.nextId },
    { source with nextId := source.nextId + 1 })

end SyntheticSource

end FramedVideo
