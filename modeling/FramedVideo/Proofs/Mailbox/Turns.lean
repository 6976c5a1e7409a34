import FramedVideo.Proofs.Mailbox.History
import Mathlib.Data.List.TakeWhile

/-!
# Turns

Sources are served in the order in which they came to wait. Over any acts, those that waited before
and then those that came to wait are those that were served and then those that wait afterwards. So
the place of a source in the queue says how many others are served before it, whatever is offered in
the meantime, and no source is served again before those that waited with it.

## Main definitions

- `Mailbox.HoldsOnly` — every frame that waits has a property

Main statements: `Mailbox.Holds.after`, `Mailbox.Holds.served_between`, `Mailbox.serves_in_turn`.
-/

namespace FramedVideo.Mailbox

/-- The frame that was delivered. -/
def Delivery.frame? : Delivery → Option Frame
  | .frame delivered => some delivered
  | _ => none

theorem takeNow_eq (mailbox : Mailbox) :
    mailbox.takeNow = (mailbox.take.1.frame?, mailbox.take.2) := by
  unfold takeNow
  cases mailbox.take with
  | mk delivery left => cases delivery <;> rfl

-- ════════════════════════════════════════════════════════════════════════
-- What does not change
-- ════════════════════════════════════════════════════════════════════════

/-- A stop stops the mailbox for ever, nothing else does, and nothing adds a slot. -/
theorem act_keeps (mailbox : Mailbox) (next : Act) :
    ((mailbox.act next).2.stopped = true ↔ mailbox.stopped = true ∨ next = .stop) ∧
      (mailbox.act next).2.slots.size = mailbox.slots.size := by
  cases next with
  | offer frame =>
    obtain ⟨hstopped, hsize⟩ := mailbox.offer_keeps frame
    simp only [act, hstopped, hsize, reduceCtorEq, or_false, and_self]
  | take =>
    obtain ⟨hstopped, hsize⟩ := mailbox.take_keeps
    simp only [act, hstopped, hsize, reduceCtorEq, or_false, and_self]
  | stop => simp [act, stop]

theorem after_keeps (mailbox : Mailbox) (acts : List Act) :
    ((mailbox.after acts).stopped = true ↔ mailbox.stopped = true ∨ .stop ∈ acts) ∧
      (mailbox.after acts).slots.size = mailbox.slots.size := by
  induction acts generalizing mailbox with
  | nil => simp
  | cons next acts ih =>
    obtain ⟨hstopped, hsize⟩ := ih (mailbox.act next).2
    rw [after_cons, hstopped, hsize, (mailbox.act_keeps next).1, (mailbox.act_keeps next).2,
      List.mem_cons, or_assoc, eq_comm (a := Act.stop)]
    exact ⟨Iff.rfl, rfl⟩

theorem stopped_after_empty (sourceCount : UInt16) (acts : List Act) :
    ((empty sourceCount).after acts).stopped = true ↔ .stop ∈ acts := by
  rw [((empty sourceCount).after_keeps acts).1]
  exact or_iff_right Bool.false_ne_true

theorem size_after_empty (sourceCount : UInt16) (acts : List Act) :
    ((empty sourceCount).after acts).slots.size = sourceCount.toNat := by
  rw [((empty sourceCount).after_keeps acts).2]
  exact Array.size_replicate

theorem offer_fst (mailbox : Mailbox) (frame : Frame) :
    (mailbox.offer frame).1 =
      if mailbox.stopped = true ∨ mailbox.slots.size ≤ frame.sourceId.toNat then .ignored
      else if mailbox.waiting? frame.sourceId = none then .queued
      else .replaced := by
  unfold offer waiting?
  by_cases hstopped : mailbox.stopped = true
  · simp [hstopped]
  · by_cases hknown : mailbox.slots.size ≤ frame.sourceId.toNat
    · simp [hstopped, hknown]
    · have hlt : frame.sourceId.toNat < mailbox.slots.size := Nat.lt_of_not_le hknown
      simp only [hstopped, hknown, Array.getElem?_eq_getElem hlt, Option.bind_some]
      cases (mailbox.slots[frame.sourceId.toNat]).latest with
      | none => rfl
      | some old => rfl

theorem offer_of_ignored {mailbox : Mailbox} {frame : Frame}
    (h : (mailbox.offer frame).1 = .ignored) : (mailbox.offer frame).2 = mailbox := by
  unfold offer at h ⊢
  split
  · rfl
  · rename_i hstopped
    simp only [if_neg hstopped] at h
    split at h
    · rfl
    · split at h <;> cases h

-- ════════════════════════════════════════════════════════════════════════
-- What waits
-- ════════════════════════════════════════════════════════════════════════

/-- Every frame that waits has a property. -/
def HoldsOnly (P : Frame → Prop) (mailbox : Mailbox) : Prop :=
  ∃ queue, mailbox.Holds queue ∧ ∀ frame ∈ queue, P frame

theorem holdsOnly_empty (P : Frame → Prop) (sourceCount : UInt16) : (empty sourceCount).HoldsOnly P :=
  ⟨[], holds_empty sourceCount, by simp⟩

namespace HoldsOnly

variable {P : Frame → Prop} {mailbox : Mailbox}

theorem offer (h : mailbox.HoldsOnly P) {frame : Frame} (hframe : P frame) :
    (mailbox.offer frame).2.HoldsOnly P := by
  obtain ⟨queue, hholds, hqueue⟩ := h
  have hoffered := hholds.offer_cases frame
  generalize mailbox.offer frame = offered at hoffered ⊢
  cases hoffered with
  | ignored hreason => exact ⟨queue, hholds, hqueue⟩
  | queued hleft =>
    exact ⟨_, hleft, List.forall_mem_append.2 ⟨hqueue, List.forall_mem_singleton.2 hframe⟩⟩
  | replaced hsplit hsource hleft =>
    subst hsplit
    obtain ⟨hbefore, hrest⟩ := List.forall_mem_append.1 hqueue
    obtain ⟨-, hafter⟩ := List.forall_mem_cons.1 hrest
    exact ⟨_, hleft, List.forall_mem_append.2 ⟨hbefore, List.forall_mem_cons.2 ⟨hframe, hafter⟩⟩⟩

theorem take (h : mailbox.HoldsOnly P) :
    mailbox.take.2.HoldsOnly P ∧ ∀ frame, mailbox.take.1.frame? = some frame → P frame := by
  obtain ⟨queue, hholds, hqueue⟩ := h
  have htaken := hholds.take_cases
  generalize mailbox.take = taken at htaken ⊢
  cases htaken with
  | ended hstopped => exact ⟨⟨queue, hholds, hqueue⟩, nofun⟩
  | nothingYet hrunning => exact ⟨⟨[], hholds, hqueue⟩, nofun⟩
  | frame hrunning hleft =>
    obtain ⟨hfirst, hrest⟩ := List.forall_mem_cons.1 hqueue
    refine ⟨⟨_, hleft, hrest⟩, ?_⟩
    rintro frame ⟨⟩
    exact hfirst

theorem stop (h : mailbox.HoldsOnly P) : mailbox.stop.HoldsOnly P := by
  obtain ⟨queue, hholds, hqueue⟩ := h
  exact ⟨queue, ⟨hholds.pending, hholds.nodup, hholds.waiting⟩, hqueue⟩

theorem after (h : mailbox.HoldsOnly P) {acts : List Act}
    (hacts : ∀ frame, .offer frame ∈ acts → P frame) : (mailbox.after acts).HoldsOnly P := by
  induction acts generalizing mailbox with
  | nil => exact h
  | cons next acts ih =>
    refine ih ?_ fun frame hmem => hacts frame (List.mem_cons_of_mem next hmem)
    cases next with
    | offer frame => exact h.offer (hacts frame List.mem_cons_self)
    | take => exact h.take.1
    | stop => exact h.stop

end HoldsOnly

-- ════════════════════════════════════════════════════════════════════════
-- The order of the queue
-- ════════════════════════════════════════════════════════════════════════

namespace Holds

variable {mailbox : Mailbox} {queue : List Frame}

theorem act (h : mailbox.Holds queue) (next : Act) :
    ∃ queue', (mailbox.act next).2.Holds queue' ∧
      mailbox.pending ++ joined [(mailbox.act next).1] =
        served [(mailbox.act next).1] ++ (mailbox.act next).2.pending := by
  cases next with
  | offer frame =>
    have hoffered := h.offer_cases frame
    simp only [Mailbox.act]
    generalize mailbox.offer frame = offered at hoffered
    cases hoffered with
    | ignored hreason => exact ⟨queue, h, List.append_nil _⟩
    | queued hholds =>
      refine ⟨_, hholds, ?_⟩
      rw [h.pending, hholds.pending, List.map_append]
      rfl
    | replaced hqueue hsource hholds =>
      refine ⟨_, hholds, ?_⟩
      rw [h.pending, hholds.pending, hqueue]
      simp only [List.map_append, List.map_cons, hsource]
      exact List.append_nil _
  | take =>
    have htaken := h.take_cases
    simp only [Mailbox.act]
    generalize mailbox.take = answered at htaken
    cases htaken with
    | ended hstopped => exact ⟨queue, h, List.append_nil _⟩
    | nothingYet hrunning => exact ⟨[], h, List.append_nil _⟩
    | frame hrunning hholds =>
      refine ⟨_, hholds, ?_⟩
      rw [h.pending, hholds.pending]
      exact List.append_nil _
  | stop =>
    exact ⟨queue, ⟨h.pending, h.nodup, h.waiting⟩, List.append_nil _⟩

/-- Those that waited, and then those that came to wait, are those that were served, and then those
that wait now. -/
theorem after (h : mailbox.Holds queue) (acts : List Act) :
    ∃ queue', (mailbox.after acts).Holds queue' ∧
      mailbox.pending ++ joined (mailbox.history acts) =
        served (mailbox.history acts) ++ (mailbox.after acts).pending := by
  induction acts generalizing mailbox queue with
  | nil => exact ⟨queue, h, List.append_nil _⟩
  | cons next acts ih =>
    obtain ⟨queue', hnext, hfirst⟩ := h.act next
    obtain ⟨queue'', hlast, hrest⟩ := ih hnext
    refine ⟨queue'', hlast, ?_⟩
    have hjoined : joined (mailbox.history (next :: acts)) =
        joined [(mailbox.act next).1] ++ joined ((mailbox.act next).2.history acts) :=
      List.filterMap_append (l := [_])
    have hserved : served (mailbox.history (next :: acts)) =
        served [(mailbox.act next).1] ++ served ((mailbox.act next).2.history acts) := by
      rw [served, served, served, ← List.map_append]
      exact congrArg _ (List.filterMap_append (l := [_]))
    rw [hjoined, hserved, ← List.append_assoc, hfirst, List.append_assoc, hrest, List.append_assoc,
      after_cons]

theorem nodup_pending (h : mailbox.Holds queue) : mailbox.pending.Nodup := h.pending ▸ h.nodup

/-- As many takes as there are sources that wait, or fewer, all bring frames, if nobody stops the
mailbox. -/
theorem le_length_served (h : mailbox.Holds queue) (hrunning : mailbox.stopped = false)
    (acts : List Act) (hnostop : .stop ∉ acts) :
    min (acts.count .take) mailbox.pending.length ≤ (served (mailbox.history acts)).length := by
  induction acts using List.reverseRecOn with
  | nil => exact Nat.min_le_left _ _
  | append_singleton acts last ih =>
    rw [List.mem_append, not_or, List.mem_singleton] at hnostop
    have hbefore := ih hnostop.1
    obtain ⟨queue', hafter, hlaw⟩ := h.after acts
    rw [history_append, served, taken, List.filterMap_append, List.map_append, List.length_append,
      ← taken, ← served, List.count_append]
    cases last with
    | offer frame =>
      rw [List.count_singleton, if_neg (by simp), Nat.add_zero]
      exact Nat.le_trans hbefore (Nat.le_add_right _ _)
    | stop => exact absurd rfl hnostop.2
    | take =>
      have hlast : (mailbox.after acts).stopped = false := by
        rw [← Bool.not_eq_true, (mailbox.after_keeps acts).1, not_or, Bool.not_eq_true]
        exact ⟨hrunning, hnostop.1⟩
      have htaken := hafter.take_cases
      have hlength := congrArg List.length hlaw
      rw [List.length_append, List.length_append] at hlength
      simp only [history, Mailbox.act]
      generalize (mailbox.after acts).take = answered at htaken
      cases htaken with
      | ended hstopped => rw [hlast] at hstopped; cases hstopped
      | nothingYet _ =>
        -- the queue is empty, so all that waited have been served
        have hnone : (mailbox.after acts).pending.length = 0 := by rw [hafter.pending]; rfl
        omega
      | frame hrunning' hholds =>
        simp only [List.count_singleton_self, List.filterMap_cons, List.filterMap_nil, Event.taken?,
          List.map_cons, List.map_nil, List.length_singleton]
        omega

/-- The source at a place of the queue is served when as many others have been, and not before. -/
theorem served_at_place (h : mailbox.Holds queue) {place : Nat} {sourceId : UInt16}
    (hplace : mailbox.pending[place]? = some sourceId) (acts : List Act) :
    sourceId ∉ (served (mailbox.history acts)).take place ∧
      (place < (served (mailbox.history acts)).length →
        (served (mailbox.history acts))[place]? = some sourceId) := by
  obtain ⟨queue', -, hlaw⟩ := h.after acts
  obtain ⟨hlt, hget⟩ := List.getElem?_eq_some_iff.1 hplace
  have hserved (earlier : Nat) (hle : earlier ≤ place)
      (hdone : earlier < (served (mailbox.history acts)).length) :
      (served (mailbox.history acts))[earlier]? = mailbox.pending[earlier]? := by
    rw [← List.getElem?_append_left hdone, ← hlaw, List.getElem?_append_left (by omega)]
  constructor
  · intro hmem
    obtain ⟨earlier, hearlier, hsame⟩ := List.mem_take_iff_getElem.1 hmem
    have hpending : mailbox.pending[earlier]? = some sourceId := by
      rw [← hserved earlier (by omega) (by omega), List.getElem?_eq_getElem (by omega), hsame]
    obtain ⟨hlt', hget'⟩ := List.getElem?_eq_some_iff.1 hpending
    have heq := (h.nodup_pending.getElem_inj_iff).1 (hget'.trans hget.symm)
    omega
  · intro hdone
    rw [hserved place (Nat.le_refl place) hdone, hplace]

/-- Before a source that does not wait is served, those that wait are served, and then those that
come to wait before it does. -/
theorem served_between (h : mailbox.Holds queue) {sourceId : UInt16}
    (habsent : sourceId ∉ mailbox.pending) (acts : List Act)
    (hunserved : sourceId ∉ served (mailbox.history acts))
    (hnext : (mailbox.after acts).pending.head? = some sourceId) :
    served (mailbox.history acts) =
      mailbox.pending ++ (joined (mailbox.history acts)).takeWhile (· ≠ sourceId) := by
  obtain ⟨queue', -, hlaw⟩ := h.after acts
  obtain ⟨waiting, hwaiting⟩ := List.head?_eq_some_iff.1 hnext
  have hother {sources : List UInt16} (hnot : sourceId ∉ sources) :
      ∀ other ∈ sources, decide (other ≠ sourceId) = true := by
    intro other hmem
    exact decide_eq_true fun hsame => hnot (hsame ▸ hmem)
  have hcut := congrArg (List.takeWhile (· ≠ sourceId)) hlaw
  rw [List.takeWhile_append_of_pos (hother habsent),
    List.takeWhile_append_of_pos (hother hunserved), hwaiting] at hcut
  rw [hcut]
  simp

theorem of_take (h : mailbox.Holds queue) {frame : Frame} {left : Mailbox}
    (htake : mailbox.take = (.frame frame, left)) :
    ∃ rest, queue = frame :: rest ∧ left.Holds rest := by
  have htaken := h.take_cases
  rw [htake] at htaken
  cases htaken with
  | frame hrunning hholds => exact ⟨_, rfl, hholds⟩

/-- Between two turns of a source, those that waited at the first have a turn each, and so has, once
more, every source that came to wait before that source did. -/
theorem served_between_turns (h : mailbox.Holds queue) {frame again : Frame} {left : Mailbox}
    (htake : mailbox.take = (.frame frame, left)) (acts : List Act)
    (hunserved : frame.sourceId ∉ served (left.history acts))
    (hagain : (left.after acts).take.1 = .frame again) (hsource : again.sourceId = frame.sourceId) :
    served (left.history acts) =
        left.pending ++ (joined (left.history acts)).takeWhile (· ≠ frame.sourceId) ∧
      ∀ other ∈ left.pending, (served (left.history acts)).count other =
        1 + ((joined (left.history acts)).takeWhile (· ≠ frame.sourceId)).count other := by
  obtain ⟨rest, rfl, hleft⟩ := h.of_take htake
  have habsent : frame.sourceId ∉ left.pending := by
    rw [hleft.pending]
    exact (List.nodup_cons.1 h.nodup).1
  obtain ⟨last, hlast, -⟩ := hleft.after acts
  obtain ⟨behind, rfl, -⟩ := hlast.of_take (Prod.ext hagain rfl)
  have hnext : (left.after acts).pending.head? = some frame.sourceId := by
    rw [hlast.pending, ← hsource]
    rfl
  have hserved := hleft.served_between habsent acts hunserved hnext
  refine ⟨hserved, fun other hother => ?_⟩
  rw [hserved, List.count_append, List.count_eq_one_of_mem hleft.nodup_pending hother]

end Holds

-- ════════════════════════════════════════════════════════════════════════
-- Offers
-- ════════════════════════════════════════════════════════════════════════

theorem Follows.offer_fst_iff {mailbox : Mailbox} {past : List Event} {entries : List Entry}
    (h : mailbox.Follows past entries) (frame : Frame) :
    ((mailbox.offer frame).1 = .queued ↔ (mailbox.offer frame).1 ≠ .ignored ∧
      ¬∃ position push, Untaken past position push ∧ push.sourceId = frame.sourceId) ∧
    ((mailbox.offer frame).1 = .replaced ↔ (mailbox.offer frame).1 ≠ .ignored ∧
      ∃ position push, Untaken past position push ∧ push.sourceId = frame.sourceId) := by
  rw [h.untaken_iff, mailbox.offer_fst]
  split
  · simp
  · split <;> simp_all

theorem offer_fst_eq_ignored_iff (mailbox : Mailbox) (frame : Frame) :
    (mailbox.offer frame).1 = .ignored ↔
      mailbox.stopped = true ∨ mailbox.slots.size ≤ frame.sourceId.toNat := by
  rw [mailbox.offer_fst]
  split
  · simp_all
  · split <;> simp_all

-- ════════════════════════════════════════════════════════════════════════
-- The mailbox as its history tells
-- ════════════════════════════════════════════════════════════════════════

/-- What a mailbox does, told by its history. A take brings the newest frame of the source whose wait
began first. A source is served after those in front of it in the queue and no others, as soon as
there were enough takes. Between two turns of a source every source that waited at the first has a
turn, and another one for each time that it came to wait before the source did. An offer is ignored
for an unknown source or by a stopped mailbox, and then nothing changes; otherwise it depends on the
untaken frames of its source. -/
theorem serves_in_turn (sourceCount : UInt16) (acts : List Act) :
    let mailbox := (empty sourceCount).after acts
    let past := (empty sourceCount).history acts
    (∀ frame, mailbox.take.1 = .frame frame ↔ .stop ∉ acts ∧ Next past frame) ∧
    mailbox.takeNow = (mailbox.take.1.frame?, mailbox.take.2) ∧
    (∀ place sourceId, mailbox.pending[place]? = some sourceId → ∀ later : List Act,
      let turns := served (mailbox.history later)
      sourceId ∉ turns.take place ∧ (place < turns.length → turns[place]? = some sourceId) ∧
      (.stop ∉ acts ++ later → place < later.count .take → place < turns.length)) ∧
    (∀ frame left, mailbox.take = (.frame frame, left) → ∀ (between : List Act) (again : Frame),
      let turns := served (left.history between)
      let earlier := (joined (left.history between)).takeWhile (· ≠ frame.sourceId)
      frame.sourceId ∉ turns → (left.after between).take.1 = .frame again →
      again.sourceId = frame.sourceId →
      turns = left.pending ++ earlier ∧
        ∀ other ∈ left.pending, turns.count other = 1 + earlier.count other) ∧
    ∀ frame,
      let answer := mailbox.offer frame
      let waits := ∃ position push, Untaken past position push ∧ push.sourceId = frame.sourceId
      (answer.1 = .ignored ↔ .stop ∈ acts ∨ sourceCount ≤ frame.sourceId) ∧
      (answer.1 = .queued ↔ answer.1 ≠ .ignored ∧ ¬waits) ∧
      (answer.1 = .replaced ↔ answer.1 ≠ .ignored ∧ waits) ∧
      (answer.1 = .ignored → answer.2 = mailbox) := by
  intro mailbox past
  obtain ⟨entries, h⟩ : ∃ entries, mailbox.Follows past entries := follows_after sourceCount acts
  have hstopped : mailbox.stopped = true ↔ .stop ∈ acts := stopped_after_empty sourceCount acts
  have hsize : mailbox.slots.size = sourceCount.toNat := size_after_empty sourceCount acts
  have hrunning : mailbox.stopped = false ↔ .stop ∉ acts := by
    rw [← hstopped, Bool.not_eq_true]
  refine ⟨fun frame => ?_, mailbox.takeNow_eq, ?_, ?_, fun frame => ?_⟩
  · rw [h.take_eq_frame_iff, hrunning]
  · intro place sourceId hplace later turns
    obtain ⟨hnotBefore, hserved⟩ := h.holds.served_at_place hplace later
    refine ⟨hnotBefore, hserved, fun hnostop htakes => ?_⟩
    rw [List.mem_append, not_or] at hnostop
    have henough := h.holds.le_length_served (hrunning.2 hnostop.1) later hnostop.2
    have hlt := (List.getElem?_eq_some_iff.1 hplace).1
    exact Nat.lt_of_lt_of_le (Nat.lt_min.2 ⟨htakes, hlt⟩) henough
  · intro frame left htake between again turns earlier hunserved hagain hsource
    exact h.holds.served_between_turns htake between hunserved hagain hsource
  · obtain ⟨hqueued, hreplaced⟩ := h.offer_fst_iff frame
    refine ⟨?_, hqueued, hreplaced, offer_of_ignored⟩
    rw [offer_fst_eq_ignored_iff, hstopped, hsize, UInt16.le_iff_toNat_le]

/-- Three sources wait, the first with its second frame. The second source comes to wait again before
the first does, and has two turns between two turns of the first; the third has one. -/
theorem serves_in_turn_of_three :
    let frame (sourceId : UInt16) (frameId : UInt32) : Frame :=
      { sourceId := sourceId, frameId := frameId, timestamp := 0, payload := [] }
    let acts : List Act := [.offer (frame 0 1), .offer (frame 1 2), .offer (frame 0 3),
      .offer (frame 2 4)]
    let mailbox := (empty 3).after acts
    let left := mailbox.take.2
    let between : List Act := [.take, .offer (frame 1 5), .take, .take, .offer (frame 0 6)]
    mailbox.take.1 = .frame (frame 0 3) ∧ Next ((empty 3).history acts) (frame 0 3) ∧
      mailbox.pending[2]? = some 2 ∧ (served (mailbox.history (.take :: between)))[2]? = some 2 ∧
      (left.after between).take.1 = .frame (frame 0 6) ∧ left.pending = [1, 2] ∧
      (served (left.history between)).count 1 = 2 ∧ (served (left.history between)).count 2 = 1 := by
  intro frame acts mailbox left between
  have htake : mailbox.take.1 = .frame (frame 0 3) := by decide
  have hplace : mailbox.pending[2]? = some 2 := by decide
  have hagain : (left.after between).take.1 = .frame (frame 0 6) := by decide
  have hpending : left.pending = [1, 2] := by decide
  have hfirst : mailbox.take = (.frame (frame 0 3), left) := by rw [← htake]
  obtain ⟨hnext, -, hturn, hbetween, -⟩ := serves_in_turn 3 acts
  obtain ⟨-, hserved, henough⟩ := hturn 2 2 hplace (.take :: between)
  obtain ⟨-, hcount⟩ := hbetween (frame 0 3) left hfirst between (frame 0 6) (by decide)
    hagain rfl
  refine ⟨htake, ((hnext (frame 0 3)).1 htake).2, hplace, hserved (henough (by decide) (by decide)),
    hagain, hpending, ?_, ?_⟩
  · exact (hcount 1 (by decide)).trans (by decide)
  · exact (hcount 2 (by decide)).trans (by decide)

/-- A source that waited at the first of two turns of another source can have two turns in between: it
comes to wait again before the other one does. -/
theorem two_turns_between_turns :
    let frame (sourceId : UInt16) (frameId : UInt32) : Frame :=
      { sourceId := sourceId, frameId := frameId, timestamp := 0, payload := [] }
    let mailbox := (empty 2).after [.offer (frame 0 1), .offer (frame 1 2)]
    let left := mailbox.take.2
    let between : List Act := [.take, .offer (frame 1 3), .take, .offer (frame 0 4)]
    mailbox.take.1 = .frame (frame 0 1) ∧ (left.after between).take.1 = .frame (frame 0 4) ∧
      0 ∉ served (left.history between) ∧ 1 ∈ left.pending ∧
      (served (left.history between)).count 1 = 2 := by
  decide

end FramedVideo.Mailbox
