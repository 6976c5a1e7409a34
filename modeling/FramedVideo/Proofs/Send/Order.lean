import FramedVideo.Proofs.Mailbox.History
import FramedVideo.Proofs.Send.Pushes

/-!
# The order of the frames that are taken

A frame is taken once, and not after a newer one of its source. So the frames that were taken from a
mailbox are those of different pushes, and those of one source come in the order of their pushes.

## Main definitions

- `Mailbox.Handed` — the pushes whose frames were taken

Main statements: `Mailbox.handed_history`.
-/

namespace FramedVideo.Mailbox

/-- The pushes whose frames were taken, in the order of the takes. Those of one source were accepted in
this order, and before all that their source still has in the mailbox. -/
structure Handed (history : List Event) (handed : List Push) : Prop where
  frames : handed.map (·.frame) = taken history
  accepted : ∀ push ∈ handed, Accepted history push.position push.frame
  ordered : handed.Pairwise fun earlier later =>
    earlier.frame.sourceId = later.frame.sourceId → earlier.position < later.position
  before : ∀ push ∈ handed, ∀ position frame, Untaken history position frame →
    push.frame.sourceId = frame.sourceId → push.position < position

namespace Handed

variable {history : List Event} {handed : List Push}

theorem concat_quiet (h : Handed history handed) {event : Event} (hquiet : event.taken? = none) :
    Handed (history ++ [event]) handed := by
  refine ⟨?_, ?_, h.ordered, ?_⟩
  · rw [h.frames, taken, taken, List.filterMap_append]
    simp [hquiet]
  · intro push hpush
    exact accepted_concat.2 (.inl (h.accepted push hpush))
  · intro push hpush position frame huntaken hsource
    obtain ⟨hbefore, -⟩ | ⟨rfl, -⟩ := untaken_concat.1 huntaken
    · exact h.before push hpush position frame hbefore hsource
    · exact (h.accepted push hpush).lt_length

/-- A frame that is taken is newer than all that were taken of its source. -/
theorem concat_took (h : Handed history handed) {position : Nat} {frame : Frame}
    (huntaken : Untaken history position frame) :
    Handed (history ++ [.took (.frame frame)]) (handed ++ [⟨position, frame⟩]) := by
  refine ⟨?_, ?_, ?_, ?_⟩
  · rw [List.map_append, h.frames, taken, taken, List.filterMap_append]
    rfl
  · intro push hpush
    obtain hold | hlast := List.mem_append.1 hpush
    · exact accepted_concat.2 (.inl (h.accepted push hold))
    · rw [List.mem_singleton.1 hlast]
      exact accepted_concat.2 (.inl huntaken.1)
  · rw [List.pairwise_append]
    refine ⟨h.ordered, List.pairwise_singleton _ _, fun push hpush last hlast hsource => ?_⟩
    rw [List.mem_singleton.1 hlast] at hsource ⊢
    exact h.before push hpush position frame huntaken hsource
  · -- a take leaves nothing untaken of its own source
    intro push hpush later newer hnewer hsource
    obtain ⟨hleft, hother⟩ | ⟨-, haccepted⟩ := untaken_concat.1 hnewer
    · obtain hold | hlast := List.mem_append.1 hpush
      · exact h.before push hold later newer hleft hsource
      · rw [List.mem_singleton.1 hlast] at hsource
        exact absurd hsource (hother frame rfl)
    · cases haccepted

theorem nodup_positions (h : Handed history handed) : (handed.map (·.position)).Nodup := by
  rw [List.Nodup, List.pairwise_map]
  refine h.ordered.imp_of_mem fun hearlier hlater hbefore hsame => ?_
  have haccepted := h.accepted _ hlater
  rw [← hsame] at haccepted
  have hframe := Option.some.inj ((h.accepted _ hearlier).symm.trans haccepted)
  exact Nat.ne_of_lt (hbefore (congrArg Frame.sourceId hframe)) hsame

end Handed

/-- After any acts, the frames that were taken are those of some pushes in their order. -/
theorem handed_history (sourceCount : UInt16) (acts : List Act) :
    ∃ handed, Handed ((empty sourceCount).history acts) handed := by
  induction acts using List.reverseRecOn with
  | nil => exact ⟨[], rfl, nofun, .nil, nofun⟩
  | append_singleton acts last ih =>
    obtain ⟨handed, h⟩ := ih
    rw [history_append]
    cases last with
    | offer frame => exact ⟨handed, h.concat_quiet rfl⟩
    | stop => exact ⟨handed, h.concat_quiet rfl⟩
    | take =>
      obtain ⟨entries, hfollows⟩ := follows_after sourceCount acts
      have htook := hfollows.take_cases
      simp only [history, act]
      generalize ((empty sourceCount).after acts).take = answered at htook
      cases htook with
      | ended hstopped => exact ⟨handed, h.concat_quiet rfl⟩
      | nothingYet hrunning => exact ⟨handed, h.concat_quiet rfl⟩
      | @frame entry rest left hrunning hleft =>
        exact ⟨_, h.concat_took (hfollows.recalled entry List.mem_cons_self).newest⟩

end FramedVideo.Mailbox
