import FramedVideo.Mailbox
import Mathlib.Data.List.Nodup

/-!
# The queue in a mailbox

The slots and the queue of sources of a mailbox are together one queue of frames, with at most one
frame of each source. An offer puts a frame at its end, or in the place of the frame of the same
source; a take removes the first.

## Main definitions

- `Mailbox.waiting?` — the frame that waits in the slot of a source
- `Mailbox.Holds` — the frames that wait, the longest wait first

Main statements: `Mailbox.holds_empty`, `Mailbox.Holds.offer_cases`, `Mailbox.Holds.take_cases`.
-/

namespace FramedVideo.Mailbox

/-- The frame that waits in the slot of a source. -/
def waiting? (mailbox : Mailbox) (sourceId : UInt16) : Option Frame :=
  mailbox.slots[sourceId.toNat]?.bind (·.latest)

/-- The frames that wait, the longest wait first, at most one of each source. -/
structure Holds (mailbox : Mailbox) (queue : List Frame) : Prop where
  pending : mailbox.pending = queue.map (·.sourceId)
  nodup : (queue.map (·.sourceId)).Nodup
  waiting : ∀ sourceId frame,
    mailbox.waiting? sourceId = some frame ↔ frame ∈ queue ∧ frame.sourceId = sourceId

theorem holds_empty (sourceCount : UInt16) : (empty sourceCount).Holds [] := by
  refine ⟨rfl, List.nodup_nil, fun sourceId frame => ?_⟩
  simp only [waiting?, empty, List.not_mem_nil, false_and, iff_false]
  by_cases hknown : sourceId.toNat < sourceCount.toNat
  · simp [hknown]
  · simp [hknown]

theorem waiting?_set (mailbox : Mailbox) (sourceId other : UInt16) (slot : Slot)
    (hknown : sourceId.toNat < mailbox.slots.size) :
    { mailbox with slots := mailbox.slots.setIfInBounds sourceId.toNat slot }.waiting? other =
      if sourceId = other then slot.latest else mailbox.waiting? other := by
  by_cases hsame : sourceId = other
  · subst hsame
    simp [waiting?, hknown]
  · have hne : sourceId.toNat ≠ other.toNat := fun h => hsame (UInt16.toNat_inj.1 h)
    simp [waiting?, hsame, hne]

namespace Holds

variable {mailbox left : Mailbox} {queue : List Frame} {frame : Frame}

theorem source_ne_of_waiting?_eq_none (h : mailbox.Holds queue) {other : Frame}
    (hnone : mailbox.waiting? frame.sourceId = none) (hother : other ∈ queue) :
    other.sourceId ≠ frame.sourceId := by
  intro hsame
  have hsome := (h.waiting frame.sourceId other).2 ⟨hother, hsame⟩
  rw [hnone] at hsome
  cases hsome

theorem append (h : mailbox.Holds queue) (hnone : mailbox.waiting? frame.sourceId = none)
    (hpending : left.pending = mailbox.pending ++ [frame.sourceId])
    (hwaiting : ∀ other, left.waiting? other =
      if frame.sourceId = other then some frame else mailbox.waiting? other) :
    left.Holds (queue ++ [frame]) := by
  refine ⟨?_, ?_, fun sourceId other => ?_⟩
  · rw [hpending, h.pending, List.map_append, List.map_singleton]
  · rw [List.map_append, List.map_singleton, List.nodup_append]
    refine ⟨h.nodup, List.nodup_singleton _, ?_⟩
    rintro _ hmem _ hlast rfl
    obtain ⟨other, hother, hsame⟩ := List.mem_map.1 hmem
    exact h.source_ne_of_waiting?_eq_none hnone hother (hsame.trans (List.mem_singleton.1 hlast))
  · rw [hwaiting, List.mem_append, List.mem_singleton]
    by_cases hsame : frame.sourceId = sourceId
    · subst hsame
      simp only [if_true, Option.some.injEq]
      constructor
      · rintro rfl
        exact ⟨.inr rfl, rfl⟩
      · rintro ⟨hqueued | rfl, hsource⟩
        · exact absurd hsource (h.source_ne_of_waiting?_eq_none hnone hqueued)
        · rfl
    · rw [if_neg hsame, h.waiting]
      constructor
      · rintro ⟨hqueued, hsource⟩
        exact ⟨.inl hqueued, hsource⟩
      · rintro ⟨hqueued | rfl, hsource⟩
        · exact ⟨hqueued, hsource⟩
        · exact absurd hsource hsame

theorem source_ne_of_split {before after : List Frame} {old other : Frame}
    (hnodup : ((before ++ old :: after).map (·.sourceId)).Nodup)
    (hother : other ∈ before ∨ other ∈ after) : other.sourceId ≠ old.sourceId := by
  rw [List.map_append, List.map_cons, List.nodup_middle, List.nodup_cons, ← List.map_append] at hnodup
  intro hsame
  exact hnodup.1 (hsame ▸ List.mem_map_of_mem (List.mem_append.2 hother))

theorem replace {before after : List Frame} {old : Frame}
    (h : mailbox.Holds (before ++ old :: after)) (hsource : old.sourceId = frame.sourceId)
    (hpending : left.pending = mailbox.pending)
    (hwaiting : ∀ other, left.waiting? other =
      if frame.sourceId = other then some frame else mailbox.waiting? other) :
    left.Holds (before ++ frame :: after) := by
  have hsources : (before ++ frame :: after).map (·.sourceId) =
      (before ++ old :: after).map (·.sourceId) := by
    simp only [List.map_append, List.map_cons, hsource]
  refine ⟨?_, hsources ▸ h.nodup, fun sourceId other => ?_⟩
  · rw [hpending, h.pending, hsources]
  · have hsides (hside : other ∈ before ∨ other ∈ after) : other.sourceId ≠ frame.sourceId :=
      source_ne_of_split (hsources ▸ h.nodup) hside
    rw [hwaiting]
    by_cases hsame : frame.sourceId = sourceId
    · subst hsame
      simp only [if_true, Option.some.injEq, List.mem_append, List.mem_cons]
      constructor
      · rintro rfl
        exact ⟨.inr (.inl rfl), rfl⟩
      · rintro ⟨hbefore | rfl | hafter, hother⟩
        · exact absurd hother (hsides (.inl hbefore))
        · rfl
        · exact absurd hother (hsides (.inr hafter))
    · rw [if_neg hsame, h.waiting]
      simp only [List.mem_append, List.mem_cons]
      constructor
      · rintro ⟨hbefore | rfl | hafter, hother⟩
        · exact ⟨.inl hbefore, hother⟩
        · exact absurd (hsource.symm.trans hother) hsame
        · exact ⟨.inr (.inr hafter), hother⟩
      · rintro ⟨hbefore | rfl | hafter, hother⟩
        · exact ⟨.inl hbefore, hother⟩
        · exact absurd hother hsame
        · exact ⟨.inr (.inr hafter), hother⟩

theorem tail (h : mailbox.Holds (frame :: queue))
    (hpending : left.pending = queue.map (·.sourceId))
    (hwaiting : ∀ other, left.waiting? other =
      if frame.sourceId = other then none else mailbox.waiting? other) :
    left.Holds queue := by
  obtain ⟨hfirst, hnodup⟩ := List.nodup_cons.1 h.nodup
  refine ⟨hpending, hnodup, fun sourceId other => ?_⟩
  rw [hwaiting]
  by_cases hsame : frame.sourceId = sourceId
  · subst hsame
    simp only [if_true, reduceCtorEq, false_iff]
    rintro ⟨hother, hsource⟩
    exact hfirst (List.mem_map.2 ⟨other, hother, hsource⟩)
  · rw [if_neg hsame, h.waiting, List.mem_cons]
    constructor
    · rintro ⟨rfl | hother, hsource⟩
      · exact absurd hsource hsame
      · exact ⟨hother, hsource⟩
    · rintro ⟨hother, hsource⟩
      exact ⟨.inr hother, hsource⟩

end Holds

/-- What an offer does to a mailbox that holds a queue. -/
inductive Offered (mailbox : Mailbox) (queue : List Frame) (frame : Frame) :
    Outcome × Mailbox → Prop where
  | ignored (hreason : mailbox.stopped = true ∨ mailbox.slots.size ≤ frame.sourceId.toNat) :
    Offered mailbox queue frame (.ignored, mailbox)
  | queued {left} (hholds : left.Holds (queue ++ [frame])) :
    Offered mailbox queue frame (.queued, left)
  | replaced {left before old after} (hqueue : queue = before ++ old :: after)
    (hsource : old.sourceId = frame.sourceId) (hholds : left.Holds (before ++ frame :: after)) :
    Offered mailbox queue frame (.replaced, left)

theorem Holds.offer_cases {mailbox : Mailbox} {queue : List Frame} (h : mailbox.Holds queue)
    (frame : Frame) : Offered mailbox queue frame (mailbox.offer frame) := by
  unfold offer
  split <;> rename_i hstopped
  · exact .ignored (.inl hstopped)
  · split <;> rename_i hslot
    · exact .ignored (.inr (Array.getElem?_eq_none_iff.1 hslot))
    · rename_i slot
      obtain ⟨hknown, -⟩ := Array.getElem?_eq_some_iff.1 hslot
      have hwaiting : mailbox.waiting? frame.sourceId = slot.latest := by
        rw [waiting?, hslot]
        rfl
      split <;> rename_i hlatest
      · rename_i old
        obtain ⟨hqueued, hsource⟩ := (h.waiting frame.sourceId old).1 (hwaiting.trans hlatest)
        obtain ⟨before, after, rfl⟩ := List.append_of_mem hqueued
        refine .replaced rfl hsource (h.replace hsource rfl fun other => ?_)
        exact waiting?_set mailbox frame.sourceId other ⟨some frame, slot.dropped + 1⟩ hknown
      · refine .queued (h.append (hwaiting.trans hlatest) rfl fun other => ?_)
        exact waiting?_set mailbox frame.sourceId other ⟨some frame, slot.dropped⟩ hknown

/-- What a take does to a mailbox that holds a queue. -/
inductive Taken (mailbox : Mailbox) : List Frame → Delivery × Mailbox → Prop where
  | ended {queue} (hstopped : mailbox.stopped = true) : Taken mailbox queue (.ended, mailbox)
  | nothingYet (hrunning : mailbox.stopped = false) : Taken mailbox [] (.nothingYet, mailbox)
  | frame {frame queue left} (hrunning : mailbox.stopped = false) (hholds : left.Holds queue) :
    Taken mailbox (frame :: queue) (.frame frame, left)

theorem Holds.take_cases {mailbox : Mailbox} {queue : List Frame} (h : mailbox.Holds queue) :
    Taken mailbox queue mailbox.take := by
  unfold take
  split <;> rename_i hstopped
  · exact .ended hstopped
  · rw [Bool.not_eq_true] at hstopped
    cases queue with
    | nil =>
      simp only [h.pending, List.map_nil]
      exact .nothingYet hstopped
    | cons frame queue =>
      -- the frame is in its slot, so the slot is there and is not empty
      have hwaiting := (h.waiting frame.sourceId frame).2 ⟨List.mem_cons_self, rfl⟩
      obtain ⟨slot, hslot, hlatest⟩ := Option.bind_eq_some_iff.1 hwaiting
      obtain ⟨hknown, -⟩ := Array.getElem?_eq_some_iff.1 hslot
      simp only [h.pending, List.map_cons, hslot, hlatest]
      refine .frame hstopped (h.tail rfl fun other => ?_)
      exact waiting?_set mailbox frame.sourceId other ⟨none, slot.dropped⟩ hknown

theorem offer_keeps (mailbox : Mailbox) (frame : Frame) :
    (mailbox.offer frame).2.stopped = mailbox.stopped ∧
      (mailbox.offer frame).2.slots.size = mailbox.slots.size := by
  unfold offer
  split
  · exact ⟨rfl, rfl⟩
  · split
    · exact ⟨rfl, rfl⟩
    · split
      · exact ⟨rfl, Array.size_setIfInBounds⟩
      · exact ⟨rfl, Array.size_setIfInBounds⟩

theorem take_keeps (mailbox : Mailbox) :
    mailbox.take.2.stopped = mailbox.stopped ∧
      mailbox.take.2.slots.size = mailbox.slots.size := by
  unfold take
  split
  · exact ⟨rfl, rfl⟩
  · split
    · exact ⟨rfl, rfl⟩
    · dsimp only
      split
      · exact ⟨rfl, rfl⟩
      · split
        · exact ⟨rfl, Array.size_setIfInBounds⟩
        · exact ⟨rfl, Array.size_setIfInBounds⟩

end FramedVideo.Mailbox
