import FramedVideo.Frame

/-!
# Payloads shaped like pictures

A picture starts with the two bytes `ff d8` and ends with `ff d9`. Frames made for trials have such
payloads, filled with one byte in between.

## Main definitions

- `Picture.startMarker`, `Picture.endMarker` — the two ends of a picture
- `Picture.opens` — whether a payload starts as a picture does
- `Picture.blank` — a picture of a given size, all one byte inside
- `Picture.sample` — a frame that is a function of its source, number and size
-/

namespace FramedVideo.Picture

/-- The two bytes that open a picture. -/
def startMarker : Bytes := [0xff, 0xd8]

/-- The two bytes that end a picture. -/
def endMarker : Bytes := [0xff, 0xd9]

/-- A payload starts as a picture does. -/
def opens (payload : Bytes) : Bool := startMarker.isPrefixOf payload

/-- What follows the start marker in a picture of `size` bytes: `fill`, and the end marker where
both markers have room. -/
def afterStart (size : Nat) (fill : UInt8) : Bytes :=
  if 4 ≤ size then List.replicate (size - 4) fill ++ endMarker else List.replicate (size - 2) fill

/-- A payload of `size` bytes: the start marker where it has room, the end marker where both have,
and `fill` elsewhere. -/
def blank (size : Nat) (fill : UInt8) : Bytes :=
  if 2 ≤ size then startMarker ++ afterStart size fill else List.replicate size fill

/-- A frame made from three numbers: the time grows by a thirtieth of a second per frame, and the
payload is filled with the sum of source and frame number. -/
def sample (sourceId : UInt16) (frameId : UInt32) (size : Nat) : Frame where
  sourceId := sourceId
  frameId := frameId
  timestamp := 1700000000000000 + frameId.toUInt64 * 33333
  payload := blank size (frameId.toUInt8 + sourceId.toUInt8)

end FramedVideo.Picture
