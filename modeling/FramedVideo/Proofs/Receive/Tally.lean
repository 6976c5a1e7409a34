import FramedVideo.Receive.Stats
import Mathlib.Algebra.GroupWithZero.Nat
import Mathlib.Data.List.Sort

/-!
# What the totals say of the frames

The totals of a connection count its frames twice, all together and source by source. However the
sources take turns, both counts agree with the frames that were recorded, and the sources are listed in
ascending order. Only what is known of the last frame depends on the order of the frames.

The counters are numbers without a bound. While the frames and their bytes are fewer than `2 ^ 64`,
none of them ever needs more than 64 bits.

## Main definitions

- `Tally.Ascending` — the sources of a tally ascend
- `Stats.Totals` — the totals of some frames
- `Stats.Fits` — no counter needs more than 64 bits

Main statements: `Stats.Totals.record`, `Stats.totals_recordAll`, `Stats.totals_law`.
-/

namespace FramedVideo

/-- What the totals keep of the last frame. -/
def Frame.seen (frame : Frame) : LastSeen := ⟨frame.sourceId, frame.frameId, frame.timestamp⟩

-- ════════════════════════════════════════════════════════════════════════
-- The counts of the sources
-- ════════════════════════════════════════════════════════════════════════

namespace Tally

/-- Each source comes before the greater ones, and once. -/
def Ascending (tally : Tally) : Prop := (tally.map (·.1)).Pairwise (· < ·)

variable {tally : Tally}

theorem count_cons (sourceId : UInt16) (entry : UInt16 × Nat) (tally : Tally) :
    Tally.count sourceId (entry :: tally) =
      if entry.1 = sourceId then entry.2 else tally.count sourceId := by
  unfold Tally.count
  rw [List.find?_cons]
  by_cases h : entry.1 = sourceId
  · simp [h]
  · simp [h]

theorem count_eq_zero {sourceId : UInt16} (h : sourceId ∉ tally.map (·.1)) :
    tally.count sourceId = 0 := by
  induction tally with
  | nil => rfl
  | cons entry tally ih =>
    rw [List.map_cons, List.mem_cons, not_or] at h
    rw [count_cons, if_neg (Ne.symm h.1)]
    exact ih h.2

theorem mem_bump (sourceId other : UInt16) (tally : Tally) :
    other ∈ (tally.bump sourceId).map (·.1) ↔ other ∈ tally.map (·.1) ∨ other = sourceId := by
  fun_induction Tally.bump sourceId tally with
  | case1 => simp
  | case2 first count rest hbefore => rw [List.map_cons, List.mem_cons, or_comm]
  | case3 count rest hbefore =>
    rw [List.map_cons, List.map_cons, iff_self_or]
    rintro rfl
    exact List.mem_cons_self
  | case4 first count rest hbefore hne ih =>
    rw [List.map_cons, List.mem_cons, List.map_cons, List.mem_cons, ih, or_assoc]

namespace Ascending

theorem lt_of_lt {sourceId : UInt16} {entry : UInt16 × Nat} (h : Ascending (entry :: tally))
    (hbefore : sourceId < entry.1) : ∀ other ∈ List.map (·.1) (entry :: tally), sourceId < other := by
  intro other hother
  obtain rfl | hrest := List.mem_cons.1 hother
  · exact hbefore
  · exact UInt16.lt_trans hbefore ((List.pairwise_cons.1 h).1 other hrest)

theorem bump (h : tally.Ascending) (sourceId : UInt16) : (tally.bump sourceId).Ascending := by
  fun_induction Tally.bump sourceId tally with
  | case1 => exact List.pairwise_singleton _ _
  | case2 first count rest hbefore => exact List.pairwise_cons.2 ⟨h.lt_of_lt hbefore, h⟩
  | case3 count rest hbefore => exact h
  | case4 first count rest hbefore hne ih =>
    obtain ⟨hfirst, hrest⟩ := List.pairwise_cons.1 h
    refine List.pairwise_cons.2 ⟨fun other hother => ?_, ih hrest⟩
    obtain hother | rfl := (mem_bump sourceId other rest).1 hother
    · exact hfirst other hother
    · exact UInt16.lt_of_le_of_ne (UInt16.not_lt.1 hbefore) (Ne.symm hne)

/-- One more for a source, and the same for any other. -/
theorem count_bump (h : tally.Ascending) (sourceId other : UInt16) :
    (tally.bump sourceId).count other =
      tally.count other + if sourceId = other then 1 else 0 := by
  fun_induction Tally.bump sourceId tally with
  | case1 => rw [count_cons]; exact (Nat.zero_add _).symm
  | case2 first count rest hbefore =>
    rw [count_cons]
    by_cases hother : sourceId = other
    · subst hother
      -- the source comes before all that occurred, so it is none of them
      have hnew : sourceId ∉ List.map (·.1) ((first, count) :: rest) :=
        fun hmem => UInt16.lt_irrefl sourceId (h.lt_of_lt hbefore sourceId hmem)
      rw [if_pos rfl, if_pos rfl, count_eq_zero hnew]
    · rw [if_neg hother, if_neg hother, Nat.add_zero]
  | case3 count rest hbefore =>
    rw [count_cons, count_cons]
    by_cases hother : sourceId = other
    · rw [if_pos hother, if_pos hother, if_pos hother]
    · rw [if_neg hother, if_neg hother, if_neg hother, Nat.add_zero]
  | case4 first count rest hbefore hne ih =>
    rw [count_cons, count_cons, ih (List.pairwise_cons.1 h).2]
    by_cases hother : first = other
    · rw [if_pos hother, if_pos hother, if_neg (hother ▸ hne), Nat.add_zero]
    · rw [if_neg hother, if_neg hother]

/-- The counts of the sources that occurred are those of the entries. -/
theorem map_count (h : tally.Ascending) :
    (tally.map (·.1)).map (tally.count ·) = tally.map (·.2) := by
  induction tally with
  | nil => rfl
  | cons entry rest ih =>
    obtain ⟨hfirst, hrest⟩ := List.pairwise_cons.1 h
    have hlater : ∀ sourceId ∈ rest.map (·.1),
        Tally.count sourceId (entry :: rest) = Tally.count sourceId rest := by
      intro sourceId hmem
      have hne : entry.1 ≠ sourceId := UInt16.ne_of_lt (hfirst sourceId hmem)
      rw [count_cons, if_neg hne]
    rw [List.map_cons, List.map_cons, List.map_cons, count_cons, if_pos rfl,
      List.map_congr_left hlater, ih hrest]

end Ascending

theorem sum_bump (sourceId : UInt16) (tally : Tally) :
    ((tally.bump sourceId).map (·.2)).sum = (tally.map (·.2)).sum + 1 := by
  fun_induction Tally.bump sourceId tally with
  | case1 => rfl
  | case2 first count rest hbefore => rw [List.map_cons, List.sum_cons, Nat.add_comm]
  | case3 count rest hbefore =>
    simp only [List.map_cons, List.sum_cons]
    omega
  | case4 first count rest hbefore hne ih =>
    simp only [List.map_cons, List.sum_cons, ih]
    omega

end Tally

-- ════════════════════════════════════════════════════════════════════════
-- The totals
-- ════════════════════════════════════════════════════════════════════════

namespace Stats

/-- The totals are those of some frames, in the order in which they were recorded. -/
structure Totals (frames : List Frame) (stats : Stats) : Prop where
  count : stats.frames = frames.length
  bytes : stats.payloadBytes = (frames.map (·.payload.length)).sum
  ascending : stats.perSource.Ascending
  occurs : ∀ sourceId, sourceId ∈ stats.sources ↔ ∃ frame ∈ frames, frame.sourceId = sourceId
  each : ∀ sourceId, stats.framesFrom sourceId = frames.countP (·.sourceId = sourceId)
  together : (stats.perSource.map (·.2)).sum = stats.frames
  last : stats.last = frames.getLast?.map Frame.seen

/-- No counter needs more than 64 bits. -/
structure Fits (stats : Stats) : Prop where
  count : stats.frames < 2 ^ 64
  bytes : stats.payloadBytes < 2 ^ 64
  each : ∀ sourceId, stats.framesFrom sourceId < 2 ^ 64

theorem totals_start (start : Nat) : Totals [] { started := start } where
  count := rfl
  bytes := rfl
  ascending := List.Pairwise.nil
  occurs sourceId := by simp [sources]
  each sourceId := rfl
  together := rfl
  last := rfl

namespace Totals

variable {frames : List Frame} {stats : Stats}

theorem record (h : stats.Totals frames) (frame : Frame) :
    (stats.record frame).Totals (frames ++ [frame]) where
  count := by
    rw [List.length_append, ← h.count]
    rfl
  bytes := by
    rw [List.map_append, List.sum_append, ← h.bytes, List.map_singleton, List.sum_singleton]
    rfl
  ascending := h.ascending.bump frame.sourceId
  occurs sourceId := by
    show sourceId ∈ (stats.perSource.bump frame.sourceId).map (·.1) ↔ _
    rw [Tally.mem_bump]
    constructor
    · rintro (hmem | rfl)
      · obtain ⟨earlier, hearlier, hsource⟩ := (h.occurs sourceId).1 hmem
        exact ⟨earlier, List.mem_append_left _ hearlier, hsource⟩
      · exact ⟨frame, List.mem_concat_self, rfl⟩
    · rintro ⟨any, hany, rfl⟩
      obtain hearlier | hlast := List.mem_append.1 hany
      · exact .inl ((h.occurs any.sourceId).2 ⟨any, hearlier, rfl⟩)
      · exact .inr (congrArg Frame.sourceId (List.mem_singleton.1 hlast))
  each sourceId := by
    show (stats.perSource.bump frame.sourceId).count sourceId = _
    rw [h.ascending.count_bump, List.countP_append, ← h.each, List.countP_singleton]
    simp only [decide_eq_true_eq]
    rfl
  together := by
    show ((stats.perSource.bump frame.sourceId).map (·.2)).sum = stats.frames + 1
    rw [Tally.sum_bump, h.together]
  last := by
    rw [List.getLast?_concat]
    rfl

theorem recordAll (h : stats.Totals frames) (later : List Frame) :
    (stats.recordAll later).Totals (frames ++ later) := by
  induction later generalizing frames stats with
  | nil => rwa [List.append_nil]
  | cons frame later ih =>
    have hmore := ih (h.record frame)
    rwa [List.append_assoc] at hmore

/-- The counts of the sources that are listed add up to the count of all frames. -/
theorem sum_sources (h : stats.Totals frames) :
    (stats.sources.map (stats.framesFrom ·)).sum = stats.frames := by
  rw [← h.together, ← h.ascending.map_count]
  rfl

/-- Totals of the same frames in another order have the same counts and list the same sources. -/
theorem of_perm {other : List Frame} {stats' : Stats} (h : stats.Totals frames)
    (h' : stats'.Totals other) (hperm : other.Perm frames) :
    stats'.frames = stats.frames ∧ stats'.payloadBytes = stats.payloadBytes ∧
      stats'.sources = stats.sources ∧
      ∀ sourceId, stats'.framesFrom sourceId = stats.framesFrom sourceId := by
  refine ⟨?_, ?_, ?_, fun sourceId => ?_⟩
  · rw [h.count, h'.count, hperm.length_eq]
  · rw [h.bytes, h'.bytes, (hperm.map _).sum_nat]
  · -- a list that ascends is known by its members
    apply List.Pairwise.eq_of_mem_iff h'.ascending h.ascending
    intro sourceId
    show sourceId ∈ stats'.sources ↔ sourceId ∈ stats.sources
    rw [h.occurs, h'.occurs]
    simp only [hperm.mem_iff]
  · rw [h.each, h'.each, hperm.countP_eq]

theorem fits (h : stats.Totals frames) (hcount : frames.length < 2 ^ 64)
    (hbytes : (frames.map (·.payload.length)).sum < 2 ^ 64) : stats.Fits where
  count := by rwa [h.count]
  bytes := by rwa [h.bytes]
  each sourceId := by
    rw [h.each]
    exact Nat.lt_of_le_of_lt List.countP_le_length hcount

end Totals

/-- Whatever frames are recorded, and from whatever moment on, the totals are theirs. -/
theorem totals_recordAll (start : Nat) (frames : List Frame) :
    (recordAll frames { started := start }).Totals frames :=
  (totals_start start).recordAll frames

theorem fits_take (start : Nat) {frames : List Frame} (hcount : frames.length < 2 ^ 64)
    (hbytes : (frames.map (·.payload.length)).sum < 2 ^ 64) (count : Nat) :
    (recordAll (frames.take count) { started := start }).Fits := by
  rw [← List.take_append_drop count frames] at hcount hbytes
  rw [List.length_append] at hcount
  rw [List.map_append, List.sum_append] at hbytes
  exact (totals_recordAll start _).fits (by omega) (by omega)

/-- If the frames and their payload bytes are fewer than `2 ^ 64`, no counter ever needs more than 64 bits
while they are recorded. In the end, the totals are the count of the frames, the sum of the lengths
of their payloads, and for each source the count of its frames, zero if it has none. The sources are
listed in ascending order, each that occurs and no other, and their counts add up to the count of all
frames. The last frame is the one recorded last. In another order, only the last frame may be another
one. -/
theorem totals_law (start : Nat) (frames : List Frame) (hcount : frames.length < 2 ^ 64)
    (hbytes : (frames.map (·.payload.length)).sum < 2 ^ 64) :
    let stats := recordAll frames { started := start }
    (∀ count, (recordAll (frames.take count) { started := start }).Fits) ∧
      stats.frames = frames.length ∧
      stats.payloadBytes = (frames.map (·.payload.length)).sum ∧
      (∀ sourceId, stats.framesFrom sourceId = frames.countP (·.sourceId = sourceId)) ∧
      stats.sources.Pairwise (· < ·) ∧
      (∀ sourceId, sourceId ∈ stats.sources ↔ ∃ frame ∈ frames, frame.sourceId = sourceId) ∧
      (stats.sources.map (stats.framesFrom ·)).sum = stats.frames ∧
      stats.last = frames.getLast?.map Frame.seen ∧
      ∀ other : List Frame, other.Perm frames →
        let stats' := recordAll other { started := start }
        stats'.frames = stats.frames ∧ stats'.payloadBytes = stats.payloadBytes ∧
          stats'.sources = stats.sources ∧
          ∀ sourceId, stats'.framesFrom sourceId = stats.framesFrom sourceId := by
  intro stats
  have htotals : stats.Totals frames := totals_recordAll start frames
  refine ⟨fits_take start hcount hbytes, htotals.count, htotals.bytes, htotals.each,
    htotals.ascending, htotals.occurs, htotals.sum_sources, htotals.last, fun other hperm => ?_⟩
  exact htotals.of_perm (totals_recordAll start other) hperm

/-- The greater of two sources comes first and once more in the end. A third source has no frame. The other
way round, the frames count the same. -/
theorem totals_law_of_three :
    let frames : List Frame := [
      { sourceId := 7, frameId := 1, timestamp := 10, payload := [1, 2] },
      { sourceId := 0, frameId := 1, timestamp := 11, payload := [] },
      { sourceId := 7, frameId := 2, timestamp := 12, payload := [3] }]
    let stats := recordAll frames { started := 5 }
    let stats' := recordAll frames.reverse { started := 5 }
    (frames.length < 2 ^ 64 ∧ (frames.map (·.payload.length)).sum < 2 ^ 64) ∧
      (∀ count, (recordAll (frames.take count) { started := 5 }).Fits) ∧
      stats.frames = 3 ∧ stats.payloadBytes = 3 ∧ stats.sources = [0, 7] ∧
      stats.framesFrom 0 = 1 ∧ stats.framesFrom 7 = 2 ∧ stats.framesFrom 9 = 0 ∧
      stats.last = some ⟨7, 2, 12⟩ ∧
      stats'.sources = [0, 7] ∧ stats'.framesFrom 7 = 2 ∧ stats'.last = some ⟨7, 1, 10⟩ := by
  intro frames stats stats'
  have hcount : frames.length < 2 ^ 64 := by decide
  have hbytes : (frames.map (·.payload.length)).sum < 2 ^ 64 := by decide
  obtain ⟨hfits, hframes, hpayload, heach, -, -, -, hlast, hother⟩ := totals_law 5 frames hcount hbytes
  obtain ⟨-, -, hsources, hsame⟩ := hother frames.reverse frames.reverse_perm
  have hlisted : stats.sources = [0, 7] := by decide
  exact ⟨⟨hcount, hbytes⟩, hfits, hframes, hpayload, hlisted, heach 0, heach 7, heach 9, hlast,
    hsources.trans hlisted, (hsame 7).trans (heach 7), by decide⟩

end Stats

end FramedVideo
