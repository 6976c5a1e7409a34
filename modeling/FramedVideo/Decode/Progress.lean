import FramedVideo.Decode.Call

/-!
# Polling gets on

A poll never adds to what a source can do. It takes from it when it ends without the frame, and
also when it ends with one, if it began where bytes were wanted. So a loop over polls, and a loop
over frames, ends.

Main statements: `extent_poll_le`, `extent_poll_none`, `extent_poll_start_ok`.
-/

namespace FramedVideo.Decoder

open Transport (Source PartialRead)

variable {σ : Type} [Source σ]

-- ════════════════════════════════════════════════════════════════════════
-- Nothing is added
-- ════════════════════════════════════════════════════════════════════════

theorem extent_pollPayload_le (header : Header) (reading : PartialRead) (decoder : Decoder σ) :
    Source.extent (pollPayload header reading decoder).decoder.source ≤
      Source.extent decoder.source := by
  have hle := PartialRead.extent_poll_le reading decoder.source
  unfold pollPayload
  split <;> rename_i h <;> simpa [h] using hle

theorem extent_pollSearch_le (fault : Fault) (window : Window) (reading : PartialRead)
    (decoder : Decoder σ) :
    Source.extent (pollSearch fault window reading decoder).decoder.source ≤
      Source.extent decoder.source := by
  have hle := PartialRead.extent_poll_le (σ := σ)
  fun_induction pollSearch fault window reading decoder with
  | case1 window reading decoder reading' left h => simpa [h] using hle reading decoder.source
  | case2 window reading decoder failure reading' left h =>
    simpa [h] using hle reading decoder.source
  | case3 window reading decoder reading' left h moved header _ polled =>
    refine Nat.le_trans (extent_pollPayload_le header _ _) ?_
    simpa [h] using hle reading decoder.source
  | case4 window reading decoder reading' left h moved _ _ =>
    simpa [h] using hle reading decoder.source
  | case5 window reading decoder reading' left h moved _ _ ih =>
    refine Nat.le_trans ih ?_
    simpa [h] using hle reading decoder.source

theorem extent_pollRecover_le (fault : Fault) (rejected : Bytes) (reading : PartialRead)
    (decoder : Decoder σ) :
    Source.extent (pollRecover fault rejected reading decoder).decoder.source ≤
      Source.extent decoder.source := by
  unfold pollRecover
  split
  · exact Nat.le_refl _
  · dsimp only
    split
    · exact Nat.le_refl _
    · exact extent_pollSearch_le _ _ _ _

theorem extent_pollHeader_le (reading : PartialRead) (decoder : Decoder σ) :
    Source.extent (pollHeader reading decoder).decoder.source ≤ Source.extent decoder.source := by
  have hle := PartialRead.extent_poll_le reading decoder.source
  unfold pollHeader
  split <;> rename_i h <;> simp only [h] at hle
  · exact hle
  · exact hle
  · split
    · exact Nat.le_trans (extent_pollPayload_le _ _ _) hle
    · exact Nat.le_trans (extent_pollRecover_le _ _ _ _) hle

/-- No poll adds to what the source can do. -/
theorem extent_poll_le (call : Call) (decoder : Decoder σ) :
    Source.extent (poll call decoder).decoder.source ≤ Source.extent decoder.source := by
  cases call with
  | header reading => exact extent_pollHeader_le reading decoder
  | search fault window reading => exact extent_pollSearch_le fault window reading decoder
  | payload header reading => exact extent_pollPayload_le header reading decoder

-- ════════════════════════════════════════════════════════════════════════
-- Not ready
-- ════════════════════════════════════════════════════════════════════════

theorem extent_pollPayload_none (header : Header) (reading : PartialRead) (decoder : Decoder σ)
    (hended : (pollPayload header reading decoder).ended = none) :
    Source.extent (pollPayload header reading decoder).decoder.source <
      Source.extent decoder.source := by
  unfold pollPayload at hended ⊢
  split at hended <;> rename_i h
  · simpa [h] using PartialRead.extent_poll_none reading decoder.source (by rw [h])
  · simp at hended
  · simp at hended

theorem extent_pollSearch_none (fault : Fault) (window : Window) (reading : PartialRead)
    (decoder : Decoder σ) (hended : (pollSearch fault window reading decoder).ended = none) :
    Source.extent (pollSearch fault window reading decoder).decoder.source <
      Source.extent decoder.source := by
  have hle := PartialRead.extent_poll_le (σ := σ)
  fun_induction pollSearch fault window reading decoder with
  | case1 window reading decoder reading' left h =>
    simpa [h] using PartialRead.extent_poll_none reading decoder.source (by rw [h])
  | case2 => simp at hended
  | case3 window reading decoder reading' left h moved header _ polled =>
    refine Nat.lt_of_lt_of_le (extent_pollPayload_none header _ _ hended) ?_
    simpa [h] using hle reading decoder.source
  | case4 => simp at hended
  | case5 window reading decoder reading' left h moved _ _ ih =>
    refine Nat.lt_of_lt_of_le (ih hended) ?_
    simpa [h] using hle reading decoder.source

theorem extent_pollRecover_none (fault : Fault) (rejected : Bytes) (reading : PartialRead)
    (decoder : Decoder σ) (hended : (pollRecover fault rejected reading decoder).ended = none) :
    Source.extent (pollRecover fault rejected reading decoder).decoder.source <
      Source.extent decoder.source := by
  unfold pollRecover at hended ⊢
  split at hended
  · simp at hended
  · dsimp only at hended ⊢
    split at hended <;> rename_i hlimit
    · simp at hended
    · rw [if_neg hlimit]
      exact extent_pollSearch_none _ _ _ _ hended

theorem extent_pollHeader_none (reading : PartialRead) (decoder : Decoder σ)
    (hended : (pollHeader reading decoder).ended = none) :
    Source.extent (pollHeader reading decoder).decoder.source < Source.extent decoder.source := by
  have hle := PartialRead.extent_poll_le reading decoder.source
  have hnone := PartialRead.extent_poll_none reading decoder.source
  unfold pollHeader at hended ⊢
  split at hended <;> rename_i h <;> simp only [h] at hle hnone ⊢
  · exact hnone trivial
  · simp at hended
  · split at hended
    · exact Nat.lt_of_lt_of_le (extent_pollPayload_none _ _ _ hended) hle
    · exact Nat.lt_of_lt_of_le (extent_pollRecover_none _ _ _ _ hended) hle

/-- A poll that does not end its call leaves the source with less to do. -/
theorem extent_poll_none (call : Call) (decoder : Decoder σ)
    (hended : (poll call decoder).ended = none) :
    Source.extent (poll call decoder).decoder.source < Source.extent decoder.source := by
  cases call with
  | header reading => exact extent_pollHeader_none reading decoder hended
  | search fault window reading => exact extent_pollSearch_none fault window reading decoder hended
  | payload header reading => exact extent_pollPayload_none header reading decoder hended

-- ════════════════════════════════════════════════════════════════════════
-- A frame
-- ════════════════════════════════════════════════════════════════════════

/-- A poll that begins a call and ends it with a frame leaves the source with less to do. -/
theorem extent_poll_start_ok (decoder : Decoder σ) (frame : Frame)
    (hended : (poll .start decoder).ended = some (.ok frame)) :
    Source.extent (poll .start decoder).decoder.source < Source.extent decoder.source := by
  have hok := PartialRead.extent_poll_ok (.start Header.size) decoder.source (by decide)
  simp only [poll, Call.start, pollHeader] at hended ⊢
  split at hended <;> rename_i h <;> simp only [h] at hok ⊢
  · simp at hended
  · simp at hended
  · split
    · exact Nat.lt_of_le_of_lt (extent_pollPayload_le _ _ _) (hok trivial)
    · exact Nat.lt_of_le_of_lt (extent_pollRecover_le _ _ _ _) (hok trivial)

end FramedVideo.Decoder
