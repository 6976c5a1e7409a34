import FramedVideo.Proofs.Mailbox.Queue
import Mathlib.Data.List.Induction

/-!
# The history of a mailbox

What happens to a mailbox is a history of events: offers with their outcomes, takes with what they
brought, stops. What a take or an offer answers next can be told from the history alone. A source
waits if one of its frames was accepted since a frame of it was last taken; the source whose wait
began first is served first, and with the newest of its frames.

## Main definitions

- `Mailbox.Act`, `Mailbox.Event` — what can be done to a mailbox, and what came of it
- `Mailbox.after`, `Mailbox.history` — the mailbox after some acts, and what came of them
- `Mailbox.Accepted`, `Mailbox.Untaken` — a frame was accepted, and its source not served since
- `Mailbox.Next` — the frame that is to be taken next
- `Mailbox.Follows` — the queue of a mailbox is the one that its history tells of

Main statements: `Mailbox.Follows.act`, `Mailbox.follows_after`, `Mailbox.Follows.take_eq_frame_iff`,
`Mailbox.Follows.untaken_iff`.
-/

namespace FramedVideo.Mailbox

-- ════════════════════════════════════════════════════════════════════════
-- Acts and events
-- ════════════════════════════════════════════════════════════════════════

/-- What can be done to a mailbox. -/
inductive Act where
  | offer (frame : Frame)
  | take
  | stop
  deriving DecidableEq, Repr

/-- What was done to a mailbox, and what came of it. -/
inductive Event where
  | offered (frame : Frame) (outcome : Outcome)
  | took (delivery : Delivery)
  | stopped
  deriving DecidableEq, Repr

namespace Event

/-- The frame that was accepted. -/
def accepted? : Event → Option Frame
  | offered frame .queued => some frame
  | offered frame .replaced => some frame
  | _ => none

/-- The frame that was taken. -/
def taken? : Event → Option Frame
  | took (.frame frame) => some frame
  | _ => none

/-- The source that came to wait, at the end of the queue. -/
def joined? : Event → Option UInt16
  | offered frame .queued => some frame.sourceId
  | _ => none

end Event

/-- What comes of an act, and the mailbox after it. -/
def act (mailbox : Mailbox) : Act → Event × Mailbox
  | .offer frame => (.offered frame (mailbox.offer frame).1, (mailbox.offer frame).2)
  | .take => (.took mailbox.take.1, mailbox.take.2)
  | .stop => (.stopped, mailbox.stop)

/-- The mailbox after several acts. -/
def after (mailbox : Mailbox) (acts : List Act) : Mailbox :=
  acts.foldl (fun mailbox next => (mailbox.act next).2) mailbox

/-- What came of several acts, in order. -/
def history (mailbox : Mailbox) : List Act → List Event
  | [] => []
  | next :: acts => (mailbox.act next).1 :: (mailbox.act next).2.history acts

@[simp]
theorem after_nil (mailbox : Mailbox) : mailbox.after [] = mailbox := rfl

theorem after_cons (mailbox : Mailbox) (next : Act) (acts : List Act) :
    mailbox.after (next :: acts) = (mailbox.act next).2.after acts := rfl

theorem after_append (mailbox : Mailbox) (front back : List Act) :
    mailbox.after (front ++ back) = (mailbox.after front).after back := List.foldl_append

theorem history_append (mailbox : Mailbox) (front back : List Act) :
    mailbox.history (front ++ back) =
      mailbox.history front ++ (mailbox.after front).history back := by
  induction front generalizing mailbox with
  | nil => rfl
  | cons next front ih =>
    rw [List.cons_append, history, history, ih, after_cons]
    rfl

/-- The frames that were taken, in order. -/
def taken (history : List Event) : List Frame := history.filterMap Event.taken?

/-- The sources that were served, in order. -/
def served (history : List Event) : List UInt16 := (taken history).map (·.sourceId)

/-- The sources that came to wait, in order. -/
def joined (history : List Event) : List UInt16 := history.filterMap Event.joined?

-- ════════════════════════════════════════════════════════════════════════
-- What a history tells
-- ════════════════════════════════════════════════════════════════════════

section Tells

variable {history : List Event} {event : Event} {position : Nat} {frame : Frame}

/-- A frame was accepted at a position of the history. -/
def Accepted (history : List Event) (position : Nat) (frame : Frame) : Prop :=
  history[position]?.bind Event.accepted? = some frame

/-- A frame was accepted at a position, and no frame of its source was taken since. -/
def Untaken (history : List Event) (position : Nat) (frame : Frame) : Prop :=
  Accepted history position frame ∧
    ∀ later taken, position < later → history[later]?.bind Event.taken? = some taken →
      taken.sourceId ≠ frame.sourceId

/-- The frame that is to be taken next: its source has waited longest, and it is the newest of its
source. -/
structure Next (history : List Event) (frame : Frame) : Prop where
  oldest : ∃ position first, Untaken history position first ∧ first.sourceId = frame.sourceId ∧
    ∀ other push, Untaken history other push → position ≤ other
  newest : ∃ position, Accepted history position frame ∧
    ∀ other push, Accepted history other push → push.sourceId = frame.sourceId → other ≤ position

theorem bind_getElem?_concat {α : Type} (read : Event → Option α) (value : α) :
    (history ++ [event])[position]?.bind read = some value ↔
      history[position]?.bind read = some value ∨
        position = history.length ∧ read event = some value := by
  by_cases hlt : position < history.length
  · simp [List.getElem?_append_left hlt, Nat.ne_of_lt hlt]
  · rw [List.getElem?_eq_none (Nat.le_of_not_lt hlt), List.getElem?_append_right
      (Nat.le_of_not_lt hlt)]
    by_cases heq : position = history.length
    · simp [heq]
    · rw [List.getElem?_eq_none (by simp only [List.length_singleton]; omega)]
      simp [heq]

theorem Accepted.lt_length (h : Accepted history position frame) : position < history.length := by
  obtain ⟨event, hevent, -⟩ := Option.bind_eq_some_iff.1 h
  exact (List.getElem?_eq_some_iff.1 hevent).1

theorem accepted_concat :
    Accepted (history ++ [event]) position frame ↔
      Accepted history position frame ∨
        position = history.length ∧ event.accepted? = some frame :=
  bind_getElem?_concat Event.accepted? frame

/-- What is untaken after an event was so before and is not of the source that was served, or it
was accepted just then. -/
theorem untaken_concat :
    Untaken (history ++ [event]) position frame ↔
      (Untaken history position frame ∧
        ∀ taken, event.taken? = some taken → taken.sourceId ≠ frame.sourceId) ∨
      position = history.length ∧ event.accepted? = some frame := by
  simp only [Untaken, accepted_concat, bind_getElem?_concat]
  constructor
  · rintro ⟨haccepted | hnew, hlater⟩
    · refine .inl ⟨⟨haccepted, fun later taken hlt htaken => ?_⟩, fun taken htaken => ?_⟩
      · exact hlater later taken hlt (.inl htaken)
      · exact hlater history.length taken haccepted.lt_length (.inr ⟨rfl, htaken⟩)
    · exact .inr hnew
  · rintro (⟨⟨haccepted, hlater⟩, hevent⟩ | ⟨rfl, hnew⟩)
    · refine ⟨.inl haccepted, ?_⟩
      rintro later taken hlt (htaken | ⟨-, htaken⟩)
      · exact hlater later taken hlt htaken
      · exact hevent taken htaken
    · refine ⟨.inr ⟨rfl, hnew⟩, ?_⟩
      rintro later taken hlt (htaken | ⟨rfl, -⟩)
      · rw [List.getElem?_eq_none (Nat.le_of_lt hlt)] at htaken
        cases htaken
      · exact absurd hlt (Nat.lt_irrefl _)

theorem Untaken.lt_length (h : Untaken history position frame) : position < history.length :=
  h.1.lt_length

theorem Next.unique {other : Frame} (h : Next history frame) (hother : Next history other) :
    frame = other := by
  obtain ⟨position, first, huntaken, hsource, hleast⟩ := h.oldest
  obtain ⟨position', first', huntaken', hsource', hleast'⟩ := hother.oldest
  have hposition : position = position' :=
    Nat.le_antisymm (hleast position' first' huntaken') (hleast' position first huntaken)
  subst hposition
  have hfirst : first = first' := Option.some.inj (huntaken.1.symm.trans huntaken'.1)
  subst hfirst
  obtain ⟨newest, haccepted, hgreatest⟩ := h.newest
  obtain ⟨newest', haccepted', hgreatest'⟩ := hother.newest
  have hsame : frame.sourceId = other.sourceId := hsource.symm.trans hsource'
  have hnewest : newest = newest' :=
    Nat.le_antisymm (hgreatest' newest frame haccepted hsame)
      (hgreatest newest' other haccepted' hsame.symm)
  subst hnewest
  exact Option.some.inj (haccepted.symm.trans haccepted')

end Tells

-- ════════════════════════════════════════════════════════════════════════
-- The queue of a history
-- ════════════════════════════════════════════════════════════════════════

/-- A frame that waits, with the position at which its source came to wait and the position at which
the frame itself was accepted. -/
structure Entry where
  first : Nat
  newest : Nat
  frame : Frame

/-- The history tells of an entry: its source waits since the first position, and its frame is the
newest of the source. -/
structure Entry.Recalled (history : List Event) (entry : Entry) : Prop where
  first : ∃ frame, Untaken history entry.first frame ∧ frame.sourceId = entry.frame.sourceId
  first_le : ∀ position frame, Untaken history position frame →
    frame.sourceId = entry.frame.sourceId → entry.first ≤ position
  newest : Untaken history entry.newest entry.frame
  le_newest : ∀ position frame, Accepted history position frame →
    frame.sourceId = entry.frame.sourceId → position ≤ entry.newest

/-- The queue of a mailbox is the one that its history tells of. -/
structure Follows (mailbox : Mailbox) (history : List Event) (entries : List Entry) : Prop where
  holds : mailbox.Holds (entries.map (·.frame))
  recalled : ∀ entry ∈ entries, entry.Recalled history
  sorted : entries.Pairwise (·.first < ·.first)
  complete : ∀ position frame, Untaken history position frame →
    ∃ entry ∈ entries, entry.frame.sourceId = frame.sourceId

theorem follows_empty (sourceCount : UInt16) : (empty sourceCount).Follows [] [] :=
  ⟨holds_empty sourceCount, nofun, .nil, fun _ _ huntaken => absurd huntaken.lt_length (by simp)⟩

theorem Entry.Recalled.concat {history : List Event} {event : Event} {entry : Entry}
    (h : entry.Recalled history)
    (haccepted : ∀ frame, event.accepted? = some frame → frame.sourceId ≠ entry.frame.sourceId)
    (htaken : ∀ frame, event.taken? = some frame → frame.sourceId ≠ entry.frame.sourceId) :
    entry.Recalled (history ++ [event]) := by
  obtain ⟨first, huntaken, hsource⟩ := h.first
  refine ⟨⟨first, untaken_concat.2 (.inl ⟨huntaken, hsource ▸ htaken⟩), hsource⟩, ?_,
    untaken_concat.2 (.inl ⟨h.newest, htaken⟩), ?_⟩
  · intro position frame huntaken' hsource'
    obtain ⟨hbefore, -⟩ | ⟨-, hnew⟩ := untaken_concat.1 huntaken'
    · exact h.first_le position frame hbefore hsource'
    · exact absurd hsource' (haccepted frame hnew)
  · intro position frame haccepted' hsource'
    obtain hbefore | ⟨-, hnew⟩ := accepted_concat.1 haccepted'
    · exact h.le_newest position frame hbefore hsource'
    · exact absurd hsource' (haccepted frame hnew)

/-- What a take does to a mailbox that follows its history. -/
inductive Took (mailbox : Mailbox) (history : List Event) : List Entry → Delivery × Mailbox → Prop
  | ended {entries} (hstopped : mailbox.stopped = true) :
    Took mailbox history entries (.ended, mailbox)
  | nothingYet (hrunning : mailbox.stopped = false) : Took mailbox history [] (.nothingYet, mailbox)
  | frame {entry entries left} (hrunning : mailbox.stopped = false)
    (hleft : left.Follows (history ++ [.took (.frame entry.frame)]) entries) :
    Took mailbox history (entry :: entries) (.frame entry.frame, left)

namespace Follows

variable {mailbox left : Mailbox} {history : List Event} {event : Event} {entries : List Entry}
  {frame : Frame}

theorem concat_quiet (h : mailbox.Follows history entries) (haccepted : event.accepted? = none)
    (htaken : event.taken? = none) (hholds : left.Holds (entries.map (·.frame))) :
    left.Follows (history ++ [event]) entries := by
  refine ⟨hholds, fun entry hentry => ?_, h.sorted, fun position frame huntaken => ?_⟩
  · exact (h.recalled entry hentry).concat (haccepted ▸ nofun) (htaken ▸ nofun)
  · obtain ⟨hbefore, -⟩ | ⟨-, hnew⟩ := untaken_concat.1 huntaken
    · exact h.complete position frame hbefore
    · rw [haccepted] at hnew
      cases hnew

theorem concat_queued (h : mailbox.Follows history entries)
    (hholds : left.Holds (entries.map (·.frame) ++ [frame])) :
    left.Follows (history ++ [.offered frame .queued])
      (entries ++ [⟨history.length, history.length, frame⟩]) := by
  have hfresh : ∀ entry ∈ entries, entry.frame.sourceId ≠ frame.sourceId := by
    have hnodup : ((entries.map (·.frame) ++ frame :: []).map (·.sourceId)).Nodup := hholds.nodup
    intro entry hentry
    exact Holds.source_ne_of_split hnodup (.inl (List.mem_map_of_mem hentry))
  have huntaken (position : Nat) (other : Frame) (hother : Untaken history position other) :
      other.sourceId ≠ frame.sourceId := by
    obtain ⟨entry, hentry, hsource⟩ := h.complete position other hother
    exact hsource ▸ hfresh entry hentry
  have hnew : Untaken (history ++ [.offered frame .queued]) history.length frame :=
    untaken_concat.2 (.inr ⟨rfl, rfl⟩)
  refine ⟨?_, ?_, ?_, ?_⟩
  · rw [List.map_append]
    exact hholds
  · intro entry hentry
    obtain hbefore | hlast := List.mem_append.1 hentry
    · refine (h.recalled entry hbefore).concat ?_ nofun
      rintro _ ⟨⟩
      exact (hfresh entry hbefore).symm
    · rw [List.mem_singleton.1 hlast]
      refine ⟨⟨frame, hnew, rfl⟩, ?_, hnew, ?_⟩
      · intro position other hother hsource
        obtain ⟨hbefore, -⟩ | ⟨hposition, -⟩ := untaken_concat.1 hother
        · exact absurd hsource (huntaken position other hbefore)
        · exact Nat.le_of_eq hposition.symm
      · intro position other hother _
        obtain hbefore | ⟨hposition, -⟩ := accepted_concat.1 hother
        · exact Nat.le_of_lt hbefore.lt_length
        · exact Nat.le_of_eq hposition
  · rw [List.pairwise_append]
    refine ⟨h.sorted, List.pairwise_singleton _ _, fun entry hentry last hlast => ?_⟩
    obtain ⟨first, hfirst, -⟩ := (h.recalled entry hentry).first
    rw [List.mem_singleton.1 hlast]
    exact hfirst.lt_length
  · intro position other hother
    obtain ⟨hbefore, -⟩ | ⟨-, haccepted⟩ := untaken_concat.1 hother
    · obtain ⟨entry, hentry, hsource⟩ := h.complete position other hbefore
      exact ⟨entry, List.mem_append_left _ hentry, hsource⟩
    · cases haccepted
      exact ⟨_, List.mem_append_right _ List.mem_cons_self, rfl⟩

theorem concat_replaced {before after : List Entry} {old : Entry}
    (h : mailbox.Follows history (before ++ old :: after))
    (hsource : old.frame.sourceId = frame.sourceId)
    (hholds : left.Holds (before.map (·.frame) ++ frame :: after.map (·.frame))) :
    left.Follows (history ++ [.offered frame .replaced])
      (before ++ ⟨old.first, history.length, frame⟩ :: after) := by
  have hsides (entry : Entry) (hentry : entry ∈ before ∨ entry ∈ after) :
      entry.frame.sourceId ≠ frame.sourceId :=
    Holds.source_ne_of_split hholds.nodup
      (hentry.imp List.mem_map_of_mem List.mem_map_of_mem)
  have hside (entry : Entry) (hentry : entry ∈ before ∨ entry ∈ after) :
      entry.Recalled (history ++ [.offered frame .replaced]) := by
    refine (h.recalled entry ?_).concat ?_ nofun
    · rw [List.mem_append, List.mem_cons]
      exact hentry.imp_right .inr
    · rintro _ ⟨⟩
      exact (hsides entry hentry).symm
  refine ⟨?_, ?_, ?_, ?_⟩
  · rw [List.map_append, List.map_cons]
    exact hholds
  · intro entry hentry
    rw [List.mem_append, List.mem_cons] at hentry
    obtain hbefore | rfl | hafter := hentry
    · exact hside entry (.inl hbefore)
    · have hold := h.recalled old (by simp)
      obtain ⟨first, hfirst, hfirstSource⟩ := hold.first
      refine ⟨⟨first, untaken_concat.2 (.inl ⟨hfirst, nofun⟩), hfirstSource.trans hsource⟩, ?_,
        untaken_concat.2 (.inr ⟨rfl, rfl⟩), ?_⟩
      · intro position other hother hother'
        obtain ⟨hbefore, -⟩ | ⟨hposition, -⟩ := untaken_concat.1 hother
        · exact hold.first_le position other hbefore (hother'.trans hsource.symm)
        · rw [hposition]
          exact Nat.le_of_lt hfirst.lt_length
      · intro position other hother _
        obtain hbefore | ⟨hposition, -⟩ := accepted_concat.1 hother
        · exact Nat.le_of_lt hbefore.lt_length
        · exact Nat.le_of_eq hposition
    · exact hside entry (.inr hafter)
  · have hsorted := h.sorted
    simp only [List.pairwise_append, List.pairwise_cons, List.mem_cons] at hsorted ⊢
    obtain ⟨hbefore, ⟨hold, hafter⟩, hacross⟩ := hsorted
    refine ⟨hbefore, ⟨hold, hafter⟩, fun entry hentry other hother => ?_⟩
    obtain rfl | hother := hother
    · exact hacross entry hentry old (.inl rfl)
    · exact hacross entry hentry other (.inr hother)
  · intro position other hother
    obtain ⟨huntaken, -⟩ | ⟨-, haccepted⟩ := untaken_concat.1 hother
    · obtain ⟨entry, hentry, hentrySource⟩ := h.complete position other huntaken
      simp only [List.mem_append, List.mem_cons] at hentry ⊢
      obtain hbefore | rfl | hafter := hentry
      · exact ⟨entry, .inl hbefore, hentrySource⟩
      · exact ⟨⟨entry.first, history.length, frame⟩, .inr (.inl rfl),
          hsource.symm.trans hentrySource⟩
      · exact ⟨entry, .inr (.inr hafter), hentrySource⟩
    · cases haccepted
      exact ⟨_, List.mem_append_right _ List.mem_cons_self, rfl⟩

theorem concat_took {entry : Entry} (h : mailbox.Follows history (entry :: entries))
    (hholds : left.Holds (entries.map (·.frame))) :
    left.Follows (history ++ [.took (.frame entry.frame)]) entries := by
  have hothers : ∀ other ∈ entries, entry.frame.sourceId ≠ other.frame.sourceId := by
    intro other hother hsame
    have hnodup := h.holds.nodup
    rw [List.map_cons, List.map_cons, List.nodup_cons] at hnodup
    exact hnodup.1 (hsame ▸ List.mem_map_of_mem (List.mem_map_of_mem hother))
  refine ⟨hholds, ?_, h.sorted.of_cons, ?_⟩
  · intro other hother
    refine (h.recalled other (List.mem_cons_of_mem _ hother)).concat nofun ?_
    rintro _ ⟨⟩
    exact hothers other hother
  · intro position other huntaken
    obtain ⟨hbefore, hserved⟩ | ⟨-, hnew⟩ := untaken_concat.1 huntaken
    · obtain ⟨waiting, hwaiting, hsource⟩ := h.complete position other hbefore
      obtain rfl | hwaiting := List.mem_cons.1 hwaiting
      · exact absurd hsource (hserved waiting.frame rfl)
      · exact ⟨waiting, hwaiting, hsource⟩
    · cases hnew

theorem offer (h : mailbox.Follows history entries) (frame : Frame) :
    ∃ entries', (mailbox.offer frame).2.Follows
      (history ++ [.offered frame (mailbox.offer frame).1]) entries' := by
  have hoffered := h.holds.offer_cases frame
  generalize mailbox.offer frame = offered at hoffered
  generalize hframes : entries.map (·.frame) = frames at hoffered
  cases hoffered with
  | ignored hreason => exact ⟨entries, h.concat_quiet rfl rfl h.holds⟩
  | queued hholds => exact ⟨_, h.concat_queued (hframes ▸ hholds)⟩
  | replaced hqueue hsource hholds =>
    obtain ⟨before, rest, rfl, rfl, hrest⟩ := List.map_eq_append_iff.1 (hframes.trans hqueue)
    obtain ⟨old, after, rfl, rfl, rfl⟩ := List.map_eq_cons_iff.1 hrest
    exact ⟨_, h.concat_replaced hsource hholds⟩

theorem take_cases (h : mailbox.Follows history entries) :
    Took mailbox history entries mailbox.take := by
  have htaken := h.holds.take_cases
  generalize mailbox.take = answered at htaken
  generalize hframes : entries.map (·.frame) = frames at htaken
  cases htaken with
  | ended hstopped => exact .ended hstopped
  | nothingYet hrunning =>
    rw [List.map_eq_nil_iff.1 hframes]
    exact .nothingYet hrunning
  | frame hrunning hholds =>
    obtain ⟨entry, rest, rfl, rfl, rfl⟩ := List.map_eq_cons_iff.1 hframes
    exact .frame hrunning (h.concat_took hholds)

theorem take (h : mailbox.Follows history entries) :
    ∃ entries', mailbox.take.2.Follows (history ++ [.took mailbox.take.1]) entries' := by
  have htook := h.take_cases
  generalize mailbox.take = answered at htook
  cases htook with
  | ended hstopped => exact ⟨entries, h.concat_quiet rfl rfl h.holds⟩
  | nothingYet hrunning => exact ⟨[], h.concat_quiet rfl rfl h.holds⟩
  | frame hrunning hleft => exact ⟨_, hleft⟩

theorem stop (h : mailbox.Follows history entries) :
    mailbox.stop.Follows (history ++ [.stopped]) entries :=
  h.concat_quiet rfl rfl ⟨h.holds.pending, h.holds.nodup, h.holds.waiting⟩

theorem act (h : mailbox.Follows history entries) (next : Act) :
    ∃ entries', (mailbox.act next).2.Follows (history ++ [(mailbox.act next).1]) entries' := by
  cases next with
  | offer frame => exact h.offer frame
  | take => exact h.take
  | stop => exact ⟨entries, h.stop⟩

end Follows

/-- After any acts the queue is the one that the history tells of. -/
theorem follows_after (sourceCount : UInt16) (acts : List Act) :
    ∃ entries, ((empty sourceCount).after acts).Follows ((empty sourceCount).history acts) entries := by
  induction acts using List.reverseRecOn with
  | nil => exact ⟨[], follows_empty sourceCount⟩
  | append_singleton acts last ih =>
    obtain ⟨entries, h⟩ := ih
    rw [after_append, history_append]
    exact h.act last

namespace Follows

variable {mailbox : Mailbox} {history : List Event} {entries : List Entry}

theorem next {entry : Entry} (h : mailbox.Follows history (entry :: entries)) :
    Next history entry.frame := by
  have hfront := h.recalled entry List.mem_cons_self
  obtain ⟨first, hfirst, hsource⟩ := hfront.first
  refine ⟨⟨entry.first, first, hfirst, hsource, ?_⟩, entry.newest, hfront.newest.1, hfront.le_newest⟩
  intro position push huntaken
  obtain ⟨waiting, hwaiting, hwaitingSource⟩ := h.complete position push huntaken
  have hle : waiting.first ≤ position :=
    (h.recalled waiting hwaiting).first_le position push huntaken hwaitingSource.symm
  obtain rfl | hlater := List.mem_cons.1 hwaiting
  · exact hle
  · exact Nat.le_trans (Nat.le_of_lt (List.rel_of_pairwise_cons h.sorted hlater)) hle

/-- A take brings a frame if the mailbox is not stopped and the history tells of a next frame, and
it brings that one. -/
theorem take_eq_frame_iff (h : mailbox.Follows history entries) (frame : Frame) :
    mailbox.take.1 = .frame frame ↔ mailbox.stopped = false ∧ Next history frame := by
  have htook := h.take_cases
  generalize mailbox.take = answered at htook
  cases htook with
  | ended hstopped => simp [hstopped]
  | nothingYet hrunning =>
    refine ⟨nofun, fun hnext => ?_⟩
    obtain ⟨position, first, huntaken, -⟩ := hnext.2.oldest
    obtain ⟨entry, hentry, -⟩ := h.complete position first huntaken
    cases hentry
  | @frame entry entries left hrunning hleft =>
    constructor
    · rintro ⟨⟩
      exact ⟨hrunning, h.next⟩
    · rintro ⟨-, hnext⟩
      rw [h.next.unique hnext]

/-- The history tells of an untaken frame of a source if the source has a frame in its slot. -/
theorem untaken_iff (h : mailbox.Follows history entries) (sourceId : UInt16) :
    (∃ position frame, Untaken history position frame ∧ frame.sourceId = sourceId) ↔
      mailbox.waiting? sourceId ≠ none := by
  rw [Option.ne_none_iff_exists']
  constructor
  · rintro ⟨position, frame, huntaken, rfl⟩
    obtain ⟨entry, hentry, hsource⟩ := h.complete position frame huntaken
    exact ⟨entry.frame, (h.holds.waiting _ _).2 ⟨List.mem_map_of_mem hentry, hsource⟩⟩
  · rintro ⟨frame, hwaiting⟩
    obtain ⟨hmem, hsource⟩ := (h.holds.waiting _ _).1 hwaiting
    obtain ⟨entry, hentry, rfl⟩ := List.mem_map.1 hmem
    exact ⟨entry.newest, entry.frame, (h.recalled entry hentry).newest, hsource⟩

end Follows

end FramedVideo.Mailbox
