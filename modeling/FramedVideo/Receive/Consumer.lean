import FramedVideo.Frame.Picture
import FramedVideo.Log

/-!
# Consumers of frames

A consumer is handed every frame that is received, in the order of the stream, and says after each
whether more are wanted.

## Main definitions

- `Consumer` — types whose values are handed frames
- `PictureLog` — reports each frame, and counts those that look like pictures
- `Channel` — passes frames on to somebody who may go away
- `Quota` — wants a number of frames
-/

namespace FramedVideo

/-- Whether more frames are wanted. -/
inductive Verdict where
  | goOn
  | stop
  deriving DecidableEq, Repr

/-- What the handling of a frame leaves. -/
structure Handled (κ : Type) where
  verdict : Verdict
  log : List Log.Line
  consumer : κ

/-- A type whose values are handed frames. -/
class Consumer (κ : Type) where
  handle : Frame → κ → Handled κ

-- ════════════════════════════════════════════════════════════════════════
-- Reporting
-- ════════════════════════════════════════════════════════════════════════

/-- Reports each frame, and counts those that start as a picture does. -/
structure PictureLog where
  accepted : Nat := 0
  rejected : Nat := 0
  deriving DecidableEq, Repr

/-- The report of a frame that starts as a picture does. -/
def Log.receivedFrame (frame : Frame) : Log.Line where
  level := .debug
  message := "frame"
  fields := [
    ("source_id", toString frame.sourceId.toNat),
    ("frame_id", toString frame.frameId.toNat),
    ("timestamp_us", toString frame.timestamp.toNat),
    ("bytes", toString frame.payload.length)]

/-- The report of a frame that does not. -/
def Log.notAPicture (frame : Frame) : Log.Line where
  level := .warn
  message := "failed to decode JPEG"
  fields := [
    ("source_id", toString frame.sourceId.toNat),
    ("frame_id", toString frame.frameId.toNat)]

/-- Counts and reports a frame, and always wants more. -/
def PictureLog.handle (frame : Frame) (consumer : PictureLog) : Handled PictureLog :=
  if Picture.opens frame.payload then
    ⟨.goOn, [Log.receivedFrame frame], { consumer with accepted := consumer.accepted + 1 }⟩
  else
    ⟨.goOn, [Log.notAPicture frame], { consumer with rejected := consumer.rejected + 1 }⟩

instance : Consumer PictureLog where
  handle := PictureLog.handle

-- ════════════════════════════════════════════════════════════════════════
-- Passing on
-- ════════════════════════════════════════════════════════════════════════

/-- Passes frames on to a listener, who may go away after some of them. -/
structure Channel where
  /-- The frames after which the listener goes away; none if it stays. -/
  hangUpAfter : Option Nat := none
  /-- Frames passed on. -/
  passed : Nat := 0
  /-- Frames that wait for the listener, the newest first. -/
  behind : List Frame := []
  deriving DecidableEq, Repr

/-- The listener has gone away. -/
def Channel.hungUp (channel : Channel) : Bool :=
  match channel.hangUpAfter with
  | some count => count ≤ channel.passed
  | none => false

/-- The frames that wait for the listener, the oldest first. One who goes away leaves none. -/
def Channel.queued (channel : Channel) : List Frame :=
  if channel.hungUp then [] else channel.behind.reverse

/-- Passes a frame on, and wants no more when nobody listens. -/
def Channel.handle (frame : Frame) (channel : Channel) : Handled Channel :=
  if channel.hungUp then
    ⟨.stop, [], channel⟩
  else
    ⟨.goOn, [], { channel with passed := channel.passed + 1, behind := frame :: channel.behind }⟩

instance : Consumer Channel where
  handle := Channel.handle

-- ════════════════════════════════════════════════════════════════════════
-- A number of frames
-- ════════════════════════════════════════════════════════════════════════

/-- Wants a number of frames, and at least one. -/
structure Quota where
  wanted : Nat
  seen : Nat := 0
  deriving DecidableEq, Repr

/-- Counts a frame, and wants no more when there are enough. -/
def Quota.handle (frame : Frame) (quota : Quota) : Handled Quota :=
  let _ := frame
  let seen := quota.seen + 1
  ⟨if quota.wanted ≤ seen then .stop else .goOn, [], { quota with seen := seen }⟩

instance : Consumer Quota where
  handle := Quota.handle

end FramedVideo
