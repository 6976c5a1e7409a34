import FramedVideo.Proofs.Transport.Wire
import FramedVideo.Transport.PartialRead

/-!
# Sources that read alike

Two sources read alike when exact reads cannot tell them apart. A source that brings a wire reads
like the wire, whether one waits for it or polls it.

## Main definitions

- `ReadsAlike`, `PollsAlike` — relations between sources that exact reads keep
- `Served` — a read hands out a part of a wire
- `KeptByReads`, `KeptByPolls` — relations between sources and wires that single reads keep
- `Carries`, `CarriesPolled` — the source brings a wire and nothing else

Main statements: `KeptByReads.readsAlike`, `KeptByPolls.pollsAlike`.
-/

namespace FramedVideo.Transport

variable {σ τ : Type} [Source σ] [Source τ]

/-- Exact reads get the same from related sources, and leave them related. -/
def ReadsAlike (R : σ → τ → Prop) : Prop :=
  ∀ length source other, R source other →
    (readExact length source).1 = (readExact length other).1 ∧
      R (readExact length source).2 (readExact length other).2

/-- An exact read that is polled gets what a loop over reads gets from a related source. A poll that
does not end it leaves the rest of the loop to do. -/
def PollsAlike (R : σ → τ → Prop) : Prop :=
  ∀ (reading : PartialRead) source other, R source other →
    ∃ left, R (reading.poll source).source left ∧
      gather reading.wanted reading.behind other =
        match (reading.poll source).ended with
        | some ended => ⟨ended, (reading.poll source).reading.behind, left⟩
        | none =>
          gather (reading.poll source).reading.wanted (reading.poll source).reading.behind left

/-- The answer to a read of at most `wanted` bytes, and what it leaves, are a front of a wire and
the rest of it. Pieces may have any size, and interruptions may come anywhere. -/
inductive Served (R : σ → Wire → Prop) (wanted : Nat) (source : σ) :
    Option (Except Failure Bytes) × σ → Wire → Prop where
  | piece {bytes rest left} (hne : bytes ≠ []) (hle : bytes.length ≤ wanted) (hleft : R left rest) :
    Served R wanted source (some (.ok bytes), left) (Wire.ofBytes bytes ++ rest)
  | closed {rest left} (hleft : R left rest) :
    Served R wanted source (some (.ok []), left) (.close :: rest)
  | ended {left} (hleft : R left []) : Served R wanted source (some (.ok []), left) []
  | failed {failure rest left} (hkind : failure.kind ≠ .interrupted) (hleft : R left rest) :
    Served R wanted source (some (.error failure), left) (.fail failure :: rest)
  | interrupted {failure wire left} (hkind : failure.kind = .interrupted)
    (hlt : Source.extent left < Source.extent source) (hleft : R left wire) :
    Served R wanted source (some (.error failure), left) wire
  | notReady {wire left} (hleft : R left wire) : Served R wanted source (none, left) wire

theorem Served.of_extent_le {R : σ → Wire → Prop} {wanted : Nat} {source other : σ}
    {served : Option (Except Failure Bytes) × σ} {wire : Wire} (h : Served R wanted source served wire)
    (hle : Source.extent source ≤ Source.extent other) : Served R wanted other served wire := by
  cases h with
  | piece hne hle hleft => exact .piece hne hle hleft
  | closed hleft => exact .closed hleft
  | ended hleft => exact .ended hleft
  | failed hkind hleft => exact .failed hkind hleft
  | interrupted hkind hlt hleft => exact .interrupted hkind (Nat.lt_of_lt_of_le hlt hle) hleft
  | notReady hleft => exact .notReady hleft

/-- Every read from a source gets the front of the related wire. -/
def KeptByReads (R : σ → Wire → Prop) : Prop :=
  ∀ source wire wanted, R source wire → wanted ≠ 0 →
    Served R wanted source ((Source.read wanted source).map some id) wire

/-- Every poll of a source gets the front of the related wire, or nothing yet. -/
def KeptByPolls (R : σ → Wire → Prop) : Prop :=
  ∀ source wire wanted, R source wire → wanted ≠ 0 →
    Served R wanted source (Source.poll wanted source) wire

/-- Reads from the source bring the wire, in whatever pieces, and then nothing more. -/
def Carries (source : σ) (wire : Wire) : Prop :=
  ∃ R : σ → Wire → Prop, KeptByReads R ∧ R source wire

/-- Polls of the source bring the wire, in whatever pieces, and then nothing more. -/
def CarriesPolled (source : σ) (wire : Wire) : Prop :=
  ∃ R : σ → Wire → Prop, KeptByPolls R ∧ R source wire

theorem ReadsAlike.of_eq {R : σ → τ → Prop} (hR : ReadsAlike R) {length : Nat} {source left : σ}
    {other : τ} {answer : Except ReadFailure Bytes} (h : R source other)
    (hread : readExact length source = (answer, left)) :
    ∃ right, readExact length other = (answer, right) ∧ R left right := by
  obtain ⟨hanswer, hleft⟩ := hR length source other h
  rw [hread] at hanswer hleft
  exact ⟨(readExact length other).2, Prod.ext hanswer.symm rfl, hleft⟩

theorem KeptByReads.gather {R : σ → Wire → Prop} (hR : KeptByReads R) (wanted : Nat)
    (behind : Bytes) (source : σ) (wire : Wire) (h : R source wire) :
    ∃ left, R (gather wanted behind source).source left ∧
      Transport.gather wanted behind wire =
        ⟨(Transport.gather wanted behind source).ended,
          (Transport.gather wanted behind source).behind, left⟩ := by
  fun_induction Transport.gather wanted behind source generalizing wire with
  | case1 behind source => exact ⟨wire, h, gather_zero behind wire⟩
  | case2 wanted behind source hne left hread =>
    have hserved := hR source wire wanted h hne
    rw [hread] at hserved
    obtain ⟨fewer, rfl⟩ := Nat.exists_eq_succ_of_ne_zero hne
    cases hserved with
    | piece hbytes => contradiction
    | @closed rest _ hleft => exact ⟨rest, hleft, Wire.gather_close fewer behind rest⟩
    | ended hleft => exact ⟨[], hleft, Wire.gather_nil fewer behind⟩
  | case3 wanted behind source hne byte bytes left hread ih =>
    have hserved := hR source wire wanted h hne
    rw [hread] at hserved
    cases hserved with
    | @piece _ rest _ _ hle hleft =>
      rw [Wire.gather_ofBytes wanted behind (byte :: bytes) rest hle]
      exact ih rest hleft
  | case4 wanted behind source hne failure left hread hmoved ih =>
    have hserved := hR source wire wanted h hne
    rw [hread] at hserved
    cases hserved with
    | failed hkind hleft => exact absurd hmoved.1 hkind
    | interrupted hkind hlt hleft => exact ih wire hleft
  | case5 wanted behind source hne failure left hread hstuck =>
    have hserved := hR source wire wanted h hne
    rw [hread] at hserved
    obtain ⟨fewer, rfl⟩ := Nat.exists_eq_succ_of_ne_zero hne
    cases hserved with
    | @failed _ rest _ hkind hleft =>
      exact ⟨rest, hleft, Wire.gather_fail fewer behind failure rest hkind⟩
    | interrupted hkind hlt hleft => exact absurd ⟨hkind, hlt⟩ hstuck

theorem KeptByReads.readsAlike {R : σ → Wire → Prop} (hR : KeptByReads R) : ReadsAlike R := by
  intro length source wire h
  obtain ⟨left, hleft, hgather⟩ := hR.gather length [] source wire h
  simp only [readExact, hgather, Gathered.bytes]
  cases (Transport.gather length [] source).ended with
  | ok done => exact ⟨rfl, hleft⟩
  | error failure => exact ⟨rfl, hleft⟩

theorem KeptByPolls.pollsAlike {R : σ → Wire → Prop} (hR : KeptByPolls R) : PollsAlike R := by
  intro reading source wire h
  fun_induction PartialRead.poll reading source generalizing wire with
  | case1 reading source hzero =>
    refine ⟨wire, h, ?_⟩
    rw [hzero, gather_zero]
  | case2 reading source hne left hpoll =>
    have hserved := hR source wire reading.wanted h hne
    rw [hpoll] at hserved
    cases hserved with
    | notReady hleft => exact ⟨wire, hleft, rfl⟩
  | case3 reading source hne left hpoll =>
    have hserved := hR source wire reading.wanted h hne
    rw [hpoll] at hserved
    obtain ⟨fewer, hfewer⟩ := Nat.exists_eq_succ_of_ne_zero hne
    simp only [PartialRead.expected, hfewer]
    cases hserved with
    | piece hbytes => contradiction
    | @closed rest _ hleft => exact ⟨rest, hleft, Wire.gather_close fewer reading.behind rest⟩
    | ended hleft => exact ⟨[], hleft, Wire.gather_nil fewer reading.behind⟩
  | case4 reading source hne byte bytes left hpoll ih =>
    have hserved := hR source wire reading.wanted h hne
    rw [hpoll] at hserved
    cases hserved with
    | @piece _ rest _ _ hle hleft =>
      rw [Wire.gather_ofBytes reading.wanted reading.behind (byte :: bytes) rest hle]
      exact ih rest hleft
  | case5 reading source hne failure left hpoll hmoved ih =>
    have hserved := hR source wire reading.wanted h hne
    rw [hpoll] at hserved
    cases hserved with
    | failed hkind hleft => exact absurd hmoved.1 hkind
    | interrupted hkind hlt hleft => exact ih wire hleft
  | case6 reading source hne failure left hpoll hstuck =>
    have hserved := hR source wire reading.wanted h hne
    rw [hpoll] at hserved
    obtain ⟨fewer, hfewer⟩ := Nat.exists_eq_succ_of_ne_zero hne
    cases hserved with
    | @failed _ rest _ hkind hleft =>
      refine ⟨rest, hleft, ?_⟩
      rw [hfewer]
      exact Wire.gather_fail fewer reading.behind failure rest hkind
    | interrupted hkind hlt hleft => exact absurd ⟨hkind, hlt⟩ hstuck

end FramedVideo.Transport
