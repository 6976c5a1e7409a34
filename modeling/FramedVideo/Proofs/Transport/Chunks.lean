import FramedVideo.Proofs.Transport.Stops
import FramedVideo.Transport.Chunked

/-!
# Chunked sources and their wires

A chunked source that is not told to fail brings its bytes, whatever its plan for the pieces. One that
is told to fail stops at the offset that it was given.

Main statements: `Chunked.meter`, `Chunked.carries`, `Chunked.carriesPolled`, `Chunked.stops`.
-/

namespace FramedVideo.Transport.Chunked

theorem allowance_pos {wanted : Nat} {source : Chunked} (hne : wanted ≠ 0)
    (hhere : source.failureHere? = none) : 0 < source.allowance wanted := by
  have hwanted := Nat.pos_of_ne_zero hne
  have hlimit (limit : Nat) (hplan : source.plan.limit? source.turn = some limit) :
      0 < min wanted limit := Nat.lt_min.2 ⟨hwanted, Plan.limit?_pos hplan⟩
  have hleft (failAt : Nat × Kind) (hfail : source.failAt = some failAt) :
      0 < failAt.1 - source.position := by
    simp only [failureHere?, hfail, ite_eq_right_iff, reduceCtorEq, imp_false, Nat.not_le] at hhere
    exact Nat.sub_pos_of_lt hhere
  unfold allowance
  cases hplan : source.plan.limit? source.turn with
  | none =>
    cases hfail : source.failAt with
    | none => exact hwanted
    | some failAt => exact Nat.lt_min.2 ⟨hwanted, hleft failAt hfail⟩
  | some limit =>
    cases hfail : source.failAt with
    | none => exact hlimit limit hplan
    | some failAt => exact Nat.lt_min.2 ⟨hlimit limit hplan, hleft failAt hfail⟩

theorem allowance_le (wanted : Nat) (source : Chunked) : source.allowance wanted ≤ wanted := by
  unfold allowance
  cases source.plan.limit? source.turn with
  | none =>
    cases source.failAt with
    | none => exact Nat.le_refl _
    | some failAt => exact Nat.min_le_left _ _
  | some limit =>
    cases source.failAt with
    | none => exact Nat.min_le_left _ _
    | some failAt => exact Nat.le_trans (Nat.min_le_left _ _) (Nat.min_le_left _ _)

theorem allowance_le_sub {source : Chunked} {offset : Nat} {kind : Kind} (wanted : Nat)
    (hfail : source.failAt = some (offset, kind)) :
    source.allowance wanted ≤ offset - source.position := by
  simp only [allowance, hfail]
  exact Nat.min_le_right _ _

theorem read_of_none {wanted : Nat} {source : Chunked} (hne : wanted ≠ 0)
    (hhere : source.failureHere? = none) :
    Source.read wanted source =
      (.ok (source.rest.take (source.allowance wanted)),
        { source with
          rest := source.rest.drop (source.allowance wanted)
          position := source.position + (source.rest.take (source.allowance wanted)).length
          turn := source.turn + 1
          reads := source.reads + 1 }) := by
  show read wanted source = _
  simp only [read, if_neg hne, hhere]

theorem piece_ne_nil {wanted : Nat} {source : Chunked} (hne : wanted ≠ 0)
    (hhere : source.failureHere? = none) (hrest : source.rest ≠ []) :
    source.rest.take (source.allowance wanted) ≠ [] := by
  have hpos := allowance_pos hne hhere
  rw [Ne, List.take_eq_nil_iff]
  rintro (hzero | hnil)
  · omega
  · exact hrest hnil

theorem length_piece_le (wanted : Nat) (source : Chunked) :
    (source.rest.take (source.allowance wanted)).length ≤ wanted :=
  Nat.le_trans (List.length_take_le _ _) (allowance_le wanted source)

theorem read_of_some {wanted : Nat} {source : Chunked} {failure : Failure} (hne : wanted ≠ 0)
    (hhere : source.failureHere? = some failure) :
    Source.read wanted source = (.error failure, { source with reads := source.reads + 1 }) := by
  show read wanted source = _
  simp only [read, if_neg hne, hhere]

/-- A chunked source hands out the bytes that it holds, as far as it does not fail. -/
theorem meter : Meter remaining where
  length_le {wanted source left bytes} hne hread := by
    cases hhere : source.failureHere? with
    | none =>
      cases (read_of_none hne hhere).symm.trans hread
      exact length_piece_le wanted source
    | some failure => cases (read_of_some hne hhere).symm.trans hread
  of_ok {wanted source left bytes} hne hread := by
    cases hhere : source.failureHere? with
    | none =>
      cases (read_of_none hne hhere).symm.trans hread
      rw [remaining, remaining, ← List.length_append, List.take_append_drop]
    | some failure => cases (read_of_some hne hhere).symm.trans hread
  of_error {wanted source left failure} hne hread := by
    cases hhere : source.failureHere? with
    | none => cases (read_of_none hne hhere).symm.trans hread
    | some failure' =>
      cases (read_of_some hne hhere).symm.trans hread
      rfl

-- ════════════════════════════════════════════════════════════════════════
-- Sources that do not fail
-- ════════════════════════════════════════════════════════════════════════

/-- The source brings the bytes that it holds, and will not fail. -/
def Holds (source : Chunked) (carried : Wire) : Prop :=
  source.failAt = none ∧ carried = Wire.ofBytes source.rest

theorem keptByReads_holds : KeptByReads Holds := by
  rintro source carried wanted ⟨hfail, rfl⟩ hne
  have hhere : source.failureHere? = none := by simp only [failureHere?, hfail]
  rw [read_of_none hne hhere]
  by_cases hrest : source.rest = []
  · rw [hrest, List.take_nil, List.drop_nil]
    exact .ended ⟨hfail, rfl⟩
  · have hcarried : Wire.ofBytes source.rest =
        Wire.ofBytes (source.rest.take (source.allowance wanted)) ++
          Wire.ofBytes (source.rest.drop (source.allowance wanted)) := by
      rw [← Wire.ofBytes_append, List.take_append_drop]
    rw [hcarried]
    exact .piece (piece_ne_nil hne hhere hrest) (length_piece_le wanted source) ⟨hfail, rfl⟩

theorem keptByPolls_holds : KeptByPolls Holds := keptByReads_holds

theorem carries (source : Chunked) (hfail : source.failAt = none) :
    Carries source (Wire.ofBytes source.rest) :=
  ⟨Holds, keptByReads_holds, hfail, rfl⟩

theorem carriesPolled (source : Chunked) (hfail : source.failAt = none) :
    CarriesPolled source (Wire.ofBytes source.rest) :=
  ⟨Holds, keptByPolls_holds, hfail, rfl⟩

-- ════════════════════════════════════════════════════════════════════════
-- Sources that fail
-- ════════════════════════════════════════════════════════════════════════

/-- The source holds the bytes up to the offset at which it fails; once it has failed, no wire is left. -/
def Fails (offset : Nat) (kind : Kind) (source : Chunked) (carried : Wire) : Prop :=
  (source.failAt = some (offset, kind) ∧ offset ≤ source.position + source.rest.length ∧
    carried = Wire.ofBytes (source.rest.take (offset - source.position)) ++ [.fail (injected kind)]) ∨
  carried = []

theorem keptToTheEnd_fails {offset : Nat} {kind : Kind} (hkind : kind ≠ .interrupted) :
    KeptToTheEnd (Fails offset kind) := by
  rintro source carried wanted (⟨hfail, hoffset, rfl⟩ | rfl) hmore hne
  · by_cases hreached : offset ≤ source.position
    · have hhere : source.failureHere? = some (injected kind) := by
        simp only [failureHere?, hfail, if_pos hreached]
      rw [read_of_some hne hhere, Nat.sub_eq_zero_of_le hreached]
      exact .failed hkind (.inr rfl)
    · have hhere : source.failureHere? = none := by simp only [failureHere?, hfail, if_neg hreached]
      have hrest : source.rest ≠ [] := by
        intro hnil
        rw [hnil, List.length_nil] at hoffset
        omega
      have hle := allowance_le_sub wanted hfail
      rw [read_of_none hne hhere]
      obtain ⟨more, hmore⟩ : ∃ more, offset - source.position = source.allowance wanted + more :=
        ⟨_, (Nat.add_sub_of_le hle).symm⟩
      rw [hmore, List.take_add, Wire.ofBytes_append, List.append_assoc]
      refine .piece (piece_ne_nil hne hhere hrest) (length_piece_le wanted source) (.inl ⟨hfail, ?_, ?_⟩)
      · simp only [id_eq, List.length_take, List.length_drop]
        omega
      · simp only [id_eq]
        have hleft : offset - (source.position + (source.rest.take (source.allowance wanted)).length) =
            more := by
          rw [List.length_take]
          omega
        rw [hleft]
  · contradiction

/-- A source that is told to fail hands out the bytes up to there, in whatever pieces, and stops. -/
theorem stops (source : Chunked) {offset : Nat} {kind : Kind} (hkind : kind ≠ .interrupted)
    (hfail : source.failAt = some (offset, kind))
    (hoffset : offset ≤ source.position + source.rest.length) :
    Stops source (source.rest.take (offset - source.position)) (.fail (injected kind) hkind) :=
  ⟨Fails offset kind, keptToTheEnd_fails hkind, .inl ⟨hfail, hoffset, rfl⟩⟩

end FramedVideo.Transport.Chunked
