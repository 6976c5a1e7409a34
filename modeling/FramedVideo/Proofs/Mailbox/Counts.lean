import FramedVideo.Proofs.Mailbox.Turns
import Mathlib.Algebra.GroupWithZero.Nat

/-!
# The counts of a mailbox

The slots, the queue and the counters of a mailbox say the same in different ways. A source is in the
queue if and only if its slot has a frame. Every frame that was accepted was replaced, was taken, or
waits. A take therefore never finds the slot empty of a source that waits, so it ends the traffic only
if the mailbox was stopped.

## Main definitions

- `Mailbox.Counts` — the counters agree with the slots, with the queue and with the frames taken

Main statements: `Mailbox.Counts.act`, `Mailbox.counts_after`, `Mailbox.consistent_after`.
-/

namespace FramedVideo.Mailbox

/-- The counters agree with the slots, with the queue, and with the number of frames taken. -/
structure Counts (mailbox : Mailbox) (takenCount : Nat) : Prop where
  replaced : mailbox.dropped = (mailbox.slots.toList.map (·.dropped)).sum
  accepted : mailbox.pushed = mailbox.dropped + takenCount + mailbox.pending.length

theorem counts_empty (sourceCount : UInt16) : (empty sourceCount).Counts 0 :=
  ⟨by simp [empty], rfl⟩

theorem sum_map_set {α : Type} (values : List α) (size : α → Nat) {place : Nat} {old : α} (new : α)
    (hold : values[place]? = some old) :
    ((values.set place new).map size).sum + size old = (values.map size).sum + size new := by
  induction values generalizing place with
  | nil => cases hold
  | cons value values ih =>
    cases place with
    | zero =>
      cases hold
      simp only [List.set_cons_zero, List.map_cons, List.sum_cons]
      omega
    | succ place =>
      have hrest := ih hold
      simp only [List.set_cons_succ, List.map_cons, List.sum_cons]
      omega

namespace Counts

variable {mailbox : Mailbox} {takenCount : Nat} {queue : List Frame}

theorem offer (h : mailbox.Counts takenCount) (frame : Frame) :
    (mailbox.offer frame).2.Counts takenCount := by
  obtain ⟨hreplaced, haccepted⟩ := h
  unfold Mailbox.offer
  split
  · exact ⟨hreplaced, haccepted⟩
  · split
    · exact ⟨hreplaced, haccepted⟩
    · rename_i slot hslot
      rw [← Array.getElem?_toList] at hslot
      split
      · have hsum := sum_map_set _ (·.dropped) ⟨some frame, slot.dropped + 1⟩ hslot
        refine ⟨?_, ?_⟩
        · simp only [Array.toList_setIfInBounds] at hsum ⊢
          omega
        · simp only
          omega
      · have hsum := sum_map_set _ (·.dropped) ⟨some frame, slot.dropped⟩ hslot
        refine ⟨?_, ?_⟩
        · simp only [Array.toList_setIfInBounds] at hsum ⊢
          omega
        · simp only [List.length_append, List.length_singleton]
          omega

theorem take_keeps_counts (mailbox : Mailbox) :
    mailbox.take.2.pushed = mailbox.pushed ∧ mailbox.take.2.dropped = mailbox.dropped ∧
      (mailbox.take.2.slots.toList.map (·.dropped)).sum =
        (mailbox.slots.toList.map (·.dropped)).sum := by
  unfold Mailbox.take
  split
  · exact ⟨rfl, rfl, rfl⟩
  · split
    · exact ⟨rfl, rfl, rfl⟩
    · dsimp only
      split
      · exact ⟨rfl, rfl, rfl⟩
      · rename_i slot hslot
        rw [← Array.getElem?_toList] at hslot
        have hsum := sum_map_set mailbox.slots.toList Slot.dropped ⟨none, slot.dropped⟩ hslot
        have hsame := Nat.add_right_cancel hsum
        split
        · exact ⟨rfl, rfl, by rw [Array.toList_setIfInBounds]; exact hsame⟩
        · exact ⟨rfl, rfl, by rw [Array.toList_setIfInBounds]; exact hsame⟩

theorem take (h : mailbox.Counts takenCount) (hholds : mailbox.Holds queue) :
    mailbox.take.2.Counts (takenCount + (taken [.took mailbox.take.1]).length) := by
  obtain ⟨hpushed, hdropped, hsum⟩ := take_keeps_counts mailbox
  have htaken := hholds.take_cases
  have hpending : mailbox.pending.length =
      (taken [.took mailbox.take.1]).length + mailbox.take.2.pending.length := by
    generalize mailbox.take = answered at htaken
    cases htaken with
    | ended hstopped => exact (Nat.zero_add _).symm
    | nothingYet hrunning => exact (Nat.zero_add _).symm
    | frame hrunning hleft =>
      simp only [hholds.pending, hleft.pending, List.map_cons, List.length_cons]
      exact Nat.add_comm _ _
  obtain ⟨hreplaced, haccepted⟩ := h
  exact ⟨by omega, by omega⟩

theorem act (h : mailbox.Counts takenCount) (hholds : mailbox.Holds queue) (next : Act) :
    (mailbox.act next).2.Counts (takenCount + (taken [(mailbox.act next).1]).length) := by
  cases next with
  | offer frame =>
    have hnone : taken [Event.offered frame (mailbox.offer frame).1] = [] := rfl
    simp only [Mailbox.act, hnone]
    exact h.offer frame
  | take => exact h.take hholds
  | stop => exact ⟨h.replaced, h.accepted⟩

end Counts

theorem taken_append (front back : List Event) : taken (front ++ back) = taken front ++ taken back :=
  List.filterMap_append

theorem counts_after (sourceCount : UInt16) (acts : List Act) :
    ((empty sourceCount).after acts).Counts (taken ((empty sourceCount).history acts)).length := by
  induction acts using List.reverseRecOn with
  | nil => exact counts_empty sourceCount
  | append_singleton acts last ih =>
    obtain ⟨queue, hholds, -⟩ := (holds_empty sourceCount).after acts
    rw [after_append, history_append, taken_append, List.length_append]
    exact ih.act hholds last

/-- Each act accepts one frame at most, so no counter runs ahead of the number of acts. -/
theorem pushed_after_le (mailbox : Mailbox) (acts : List Act) :
    (mailbox.after acts).pushed ≤ mailbox.pushed + acts.length := by
  induction acts generalizing mailbox with
  | nil => exact Nat.le_refl _
  | cons next acts ih =>
    have hnext : (mailbox.act next).2.pushed ≤ mailbox.pushed + 1 := by
      cases next with
      | offer frame =>
        simp only [act]
        unfold offer
        split
        · exact Nat.le_succ _
        · split
          · exact Nat.le_succ _
          · split
            · exact Nat.le_refl _
            · exact Nat.le_refl _
      | take => exact (Counts.take_keeps_counts mailbox).1 ▸ Nat.le_succ _
      | stop => exact Nat.le_succ _
    have hrest := ih (mailbox.act next).2
    rw [after_cons, List.length_cons]
    omega

-- ════════════════════════════════════════════════════════════════════════
-- What takes answer
-- ════════════════════════════════════════════════════════════════════════

theorem no_frame_iff (mailbox : Mailbox) (hsize : mailbox.slots.size ≤ UInt16.size) :
    (∀ sourceId, mailbox.waiting? sourceId = none) ↔ ∀ slot ∈ mailbox.slots, slot.latest = none := by
  constructor
  · intro h slot hslot
    obtain ⟨place, hlt, rfl⟩ := Array.mem_iff_getElem.1 hslot
    have hplace : (UInt16.ofNat place).toNat = place :=
      UInt16.toNat_ofNat_of_lt (Nat.lt_of_lt_of_le hlt hsize)
    have hnone := h (.ofNat place)
    rwa [waiting?, hplace, Array.getElem?_eq_getElem hlt] at hnone
  · intro h sourceId
    rw [waiting?, Option.bind_eq_none_iff]
    intro slot hslot
    exact h slot (Array.mem_of_getElem? hslot)

namespace Holds

variable {mailbox : Mailbox} {queue : List Frame}

theorem mem_pending_iff (h : mailbox.Holds queue) (sourceId : UInt16) :
    sourceId ∈ mailbox.pending ↔ (mailbox.waiting? sourceId).isSome = true := by
  rw [h.pending, List.mem_map, Option.isSome_iff_exists]
  exact exists_congr fun frame => (h.waiting sourceId frame).symm

theorem lt_size_of_mem_pending (h : mailbox.Holds queue) {sourceId : UInt16}
    (hpending : sourceId ∈ mailbox.pending) : sourceId.toNat < mailbox.slots.size := by
  obtain ⟨frame, hwaiting⟩ := Option.isSome_iff_exists.1 ((h.mem_pending_iff sourceId).1 hpending)
  obtain ⟨slot, hslot, -⟩ := Option.bind_eq_some_iff.1 hwaiting
  exact (Array.getElem?_eq_some_iff.1 hslot).1

theorem take_eq_ended_iff (h : mailbox.Holds queue) :
    mailbox.take.1 = .ended ↔ mailbox.stopped = true := by
  have htaken := h.take_cases
  generalize mailbox.take = answered at htaken
  cases htaken with
  | ended hstopped => simp [hstopped]
  | nothingYet hrunning => simp [hrunning]
  | frame hrunning hholds => simp [hrunning]

theorem take_eq_nothingYet_iff (h : mailbox.Holds queue) :
    mailbox.take.1 = .nothingYet ↔
      mailbox.stopped = false ∧ ∀ sourceId, mailbox.waiting? sourceId = none := by
  have htaken := h.take_cases
  have hwaiting := h.waiting
  generalize mailbox.take = answered at htaken
  cases htaken with
  | ended hstopped => simp [hstopped]
  | nothingYet hrunning =>
    have hnone (sourceId : UInt16) : mailbox.waiting? sourceId = none :=
      Option.eq_none_iff_forall_ne_some.2 fun frame hframe =>
        List.not_mem_nil ((hwaiting sourceId frame).1 hframe).1
    exact iff_of_true rfl ⟨hrunning, hnone⟩
  | @frame frame _ _ hrunning hholds =>
    have hfront := (hwaiting frame.sourceId frame).2 ⟨List.mem_cons_self, rfl⟩
    refine iff_of_false nofun fun hnone => ?_
    rw [hnone.2 frame.sourceId] at hfront
    cases hfront

end Holds

theorem act_of_stopped {mailbox : Mailbox} (hstopped : mailbox.stopped = true) (next : Act) :
    (mailbox.act next).2 = mailbox ∧ taken [(mailbox.act next).1] = [] := by
  cases next with
  | offer frame => simp [act, offer, hstopped, taken, Event.taken?]
  | take => simp [act, take, hstopped, taken, Event.taken?]
  | stop =>
    obtain ⟨slots, pending, pushed, dropped, stopped⟩ := mailbox
    cases hstopped
    exact ⟨rfl, rfl⟩

theorem after_of_stopped {mailbox : Mailbox} (hstopped : mailbox.stopped = true) (acts : List Act) :
    mailbox.after acts = mailbox ∧ taken (mailbox.history acts) = [] := by
  induction acts with
  | nil => exact ⟨rfl, rfl⟩
  | cons next acts ih =>
    obtain ⟨hsame, hnone⟩ := act_of_stopped hstopped next
    refine ⟨?_, ?_⟩
    · rw [after_cons, hsame, ih.1]
    · rw [history, ← List.singleton_append, taken_append, hnone, hsame, ih.2]
      rfl

/-- After any acts, the queue, the slots and the counters agree, a take answers by the slots, and a stop
is the end: nothing changes after it, and no frame is taken. -/
theorem consistent_after (sourceCount : UInt16) (acts : List Act) :
    let mailbox := (empty sourceCount).after acts
    let past := (empty sourceCount).history acts
    mailbox.pending.Nodup ∧ (∀ sourceId ∈ mailbox.pending, sourceId < sourceCount) ∧
    (∀ sourceId, sourceId ∈ mailbox.pending ↔ (mailbox.waiting? sourceId).isSome = true) ∧
    mailbox.dropped = (mailbox.slots.toList.map (·.dropped)).sum ∧
    mailbox.pushed = mailbox.dropped + (taken past).length + mailbox.pending.length ∧
    mailbox.pushed ≤ acts.length ∧
    (mailbox.stopped = true ↔ .stop ∈ acts) ∧
    (mailbox.take.1 = .ended ↔ mailbox.stopped = true) ∧
    (mailbox.take.1 = .nothingYet ↔
      mailbox.stopped = false ∧ ∀ slot ∈ mailbox.slots, slot.latest = none) ∧
    ∀ later, mailbox.stop.after later = mailbox.stop ∧ taken (mailbox.stop.history later) = [] := by
  intro mailbox past
  obtain ⟨queue, hholds, -⟩ := (holds_empty sourceCount).after acts
  obtain ⟨hreplaced, haccepted⟩ := counts_after sourceCount acts
  have hsize : mailbox.slots.size = sourceCount.toNat := size_after_empty sourceCount acts
  refine ⟨hholds.nodup_pending, fun sourceId hpending => ?_, hholds.mem_pending_iff, hreplaced,
    haccepted, ?_, stopped_after_empty sourceCount acts, hholds.take_eq_ended_iff, ?_,
    after_of_stopped rfl⟩
  · rw [UInt16.lt_iff_toNat_lt, ← hsize]
    exact hholds.lt_size_of_mem_pending hpending
  · have hle := (empty sourceCount).pushed_after_le acts
    rwa [show (empty sourceCount).pushed = 0 from rfl, Nat.zero_add] at hle
  · rw [hholds.take_eq_nothingYet_iff, mailbox.no_frame_iff]
    exact hsize ▸ Nat.le_of_lt sourceCount.toNat_lt_size

/-- A frame was replaced, one of an unknown source ignored, one taken, and two wait when the mailbox is
stopped, and for ever after. -/
theorem consistent_after_stray :
    let frame (sourceId : UInt16) (frameId : UInt32) : Frame :=
      { sourceId := sourceId, frameId := frameId, timestamp := 0, payload := [] }
    let acts : List Act := [.offer (frame 0 1), .offer (frame 0 2), .offer (frame 1 3),
      .offer (frame 2 4), .take, .offer (frame 0 5)]
    let mailbox := (empty 2).after acts
    1 ∈ mailbox.pending ∧ (1 : UInt16) < 2 ∧ mailbox.dropped = 1 ∧ mailbox.pushed = 4 ∧
      mailbox.take.1 ≠ .ended ∧ mailbox.stop.after [.take, .offer (frame 0 6)] = mailbox.stop := by
  intro frame acts mailbox
  have hpending : 1 ∈ mailbox.pending := by decide
  obtain ⟨-, hknown, -, -, hpushed, -, -, hended, -, hstop⟩ := consistent_after 2 acts
  refine ⟨hpending, hknown 1 hpending, by decide, hpushed.trans (by decide), ?_, (hstop _).1⟩
  exact fun h => absurd (hended.1 h) (by decide)

end FramedVideo.Mailbox
