import FramedVideo.Frame

/-!
# The newest frame of each source

A mailbox stands between sources, which offer frames as fast as they capture them, and a sender,
which takes them as fast as its client lets it. It keeps one frame for each source, the newest that
was not taken. Sources are served in the order in which they came to have a frame waiting, so a
fast source cannot keep out a slow one.

A mailbox that is stopped takes no more frames and gives out none.

## Main definitions

- `Mailbox` — one slot for each source, and the queue of sources that wait
- `Mailbox.offer` — puts a frame into the slot of its source
- `Mailbox.take` — takes the frame of the source that has waited longest
- `Mailbox.stop` — ends the traffic
-/

namespace FramedVideo

/-- The place for the frames of one source. -/
structure Mailbox.Slot where
  /-- The newest frame that was not taken. -/
  latest : Option Frame := none
  /-- Frames that a newer one replaced. -/
  dropped : Nat := 0
  deriving DecidableEq, Repr, Inhabited

/-- One slot for each source, and the sources that wait. -/
structure Mailbox where
  slots : Array Mailbox.Slot
  /-- The sources that have a frame waiting, the longest wait first. -/
  pending : List UInt16 := []
  /-- Frames accepted from all sources. -/
  pushed : Nat := 0
  /-- Frames of all sources that a newer one replaced. -/
  dropped : Nat := 0
  stopped : Bool := false
  deriving DecidableEq, Repr

namespace Mailbox

/-- The mailbox of the sources below `sourceCount`. -/
def empty (sourceCount : UInt16) : Mailbox where
  slots := Array.replicate sourceCount.toNat {}

/-- What became of an offered frame. -/
inductive Outcome where
  /-- Its source had no frame waiting, and now waits last. -/
  | queued
  /-- It replaced a frame of its source, which keeps its place. -/
  | replaced
  /-- The source is unknown or the mailbox is stopped; the frame is gone. -/
  | ignored
  deriving DecidableEq, Repr

/-- The name of an outcome. -/
def Outcome.name : Outcome → String
  | queued => "Queued"
  | replaced => "Replaced"
  | ignored => "Ignored"

/-- Puts a frame into the slot of its source. -/
def offer (frame : Frame) (mailbox : Mailbox) : Outcome × Mailbox :=
  if mailbox.stopped then
    (.ignored, mailbox)
  else
    match mailbox.slots[frame.sourceId.toNat]? with
    | none => (.ignored, mailbox)
    | some slot =>
      match slot.latest with
      | some _ =>
        (.replaced,
          { mailbox with
            slots := mailbox.slots.setIfInBounds frame.sourceId.toNat ⟨some frame, slot.dropped + 1⟩
            pushed := mailbox.pushed + 1
            dropped := mailbox.dropped + 1 })
      | none =>
        (.queued,
          { mailbox with
            slots := mailbox.slots.setIfInBounds frame.sourceId.toNat { slot with latest := some frame }
            pending := mailbox.pending ++ [frame.sourceId]
            pushed := mailbox.pushed + 1 })

/-- What a mailbox has for its taker. -/
inductive Delivery where
  /-- The frame of the source that has waited longest. -/
  | frame (frame : Frame)
  /-- No source has a frame waiting. -/
  | nothingYet
  /-- There will be no more frames. -/
  | ended
  deriving DecidableEq, Repr

/-- Takes the frame of the source that has waited longest. -/
def take (mailbox : Mailbox) : Delivery × Mailbox :=
  if mailbox.stopped then
    (.ended, mailbox)
  else
    match mailbox.pending with
    | [] => (.nothingYet, mailbox)
    | sourceId :: waiting =>
      let left := { mailbox with pending := waiting }
      match mailbox.slots[sourceId.toNat]? with
      | none => (.ended, left)
      | some slot =>
        let emptied :=
          { left with slots := left.slots.setIfInBounds sourceId.toNat { slot with latest := none } }
        match slot.latest with
        | some frame => (.frame frame, emptied)
        | none => (.ended, emptied)

/-- The frame that is there to be taken now. -/
def takeNow (mailbox : Mailbox) : Option Frame × Mailbox :=
  match mailbox.take with
  | (.frame frame, left) => (some frame, left)
  | (_, left) => (none, left)

/-- Ends the traffic. -/
def stop (mailbox : Mailbox) : Mailbox := { mailbox with stopped := true }

/-- Frames of one source that a newer one replaced. -/
def droppedFor (mailbox : Mailbox) (sourceId : UInt16) : Nat :=
  (mailbox.slots[sourceId.toNat]?).elim 0 (·.dropped)

/-- Taking a frame shortens the queue. -/
theorem length_pending_take {mailbox left : Mailbox} {frame : Frame}
    (h : mailbox.take = (.frame frame, left)) :
    left.pending.length < mailbox.pending.length := by
  unfold take at h
  split at h
  · simp at h
  · split at h
    · simp at h
    · rename_i sourceId waiting hpending
      dsimp only at h
      split at h
      · simp at h
      · split at h
        · simp only [Prod.mk.injEq] at h
          obtain ⟨-, rfl⟩ := h
          simp [hpending]
        · simp at h

end Mailbox

end FramedVideo
