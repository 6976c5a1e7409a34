import FramedVideo.Proofs.Transport.Handed

/-!
# What a source is asked

An exact read waits for its source or polls it. Either way it is a loop of reads, each for the bytes that
are outstanding. A watched source answers as the source in it does, and remembers what it was asked.

## Main definitions

- `Form` — the two forms of an exact read
- `Query` — a read or a poll, with its answer
- `Outstanding` — every question is for the bytes that are still missing
- `Watched` — a source and what it was asked

Main statements: `Form.loop_of_piece`, `Form.loop_of_interrupted`, `Watched.loop_source`.
-/

namespace FramedVideo.Transport

namespace PartialRead

variable {σ : Type} [Source σ] {reading later : PartialRead} {source left : σ}

theorem finish_of_ended {ended : Except ReadFailure Unit}
    (hpoll : reading.poll source = ⟨some ended, later, left⟩) :
    reading.finish source = ⟨ended, later.behind, left⟩ := by
  rw [finish]
  split <;> rename_i h <;> cases hpoll.symm.trans h
  rfl

theorem finish_of_notReady (hpoll : reading.poll source = ⟨none, later, left⟩) :
    reading.finish source = later.finish left := by
  rw [finish]
  split <;> rename_i h <;> cases hpoll.symm.trans h
  rfl

theorem finish_of_poll (hpoll : reading.poll source = later.poll left) :
    reading.finish source = later.finish left := by
  cases hlast : later.poll left with
  | mk ended last after =>
    cases ended with
    | none => rw [finish_of_notReady (hpoll.trans hlast), finish_of_notReady hlast]
    | some ended => rw [finish_of_ended (hpoll.trans hlast), finish_of_ended hlast]

end PartialRead

/-- The two forms of an exact read. -/
inductive Form where
  /-- Every read waits. -/
  | blocking
  /-- Every read is a poll. -/
  | polled

namespace Form

variable {σ : Type} [Source σ]

/-- One question to a source, which may have no answer yet if it is polled. -/
def ask (form : Form) (wanted : Nat) (source : σ) : Option (Except Failure Bytes) × σ :=
  match form with
  | blocking => (Source.read wanted source).map some id
  | polled => Source.poll wanted source

/-- Reads on until all the bytes that are wanted have come, behind those that came before. -/
def loop (form : Form) (wanted : Nat) (behind : Bytes) (source : σ) : Gathered σ :=
  match form with
  | blocking => gather wanted behind source
  | polled => PartialRead.finish ⟨wanted, behind⟩ source

/-- Fills a buffer from its beginning. -/
def fill (form : Form) (buffer : Bytes) (source : σ) : Except ReadFailure Unit × Bytes × σ :=
  match form with
  | blocking => Transport.fill buffer source
  | polled => PartialRead.fill buffer source

theorem fill_eq (form : Form) (buffer : Bytes) (source : σ) :
    form.fill buffer source =
      ((form.loop buffer.length [] source).ended,
        overwrite (form.loop buffer.length [] source).bytes buffer,
        (form.loop buffer.length [] source).source) := by
  cases form <;> rfl

variable {wanted : Nat} {source left : σ}

theorem read_of_ask {answer : Except Failure Bytes}
    (hask : blocking.ask wanted source = (some answer, left)) :
    Source.read wanted source = (answer, left) := by
  have hboth := Prod.ext_iff.1 hask
  exact Prod.ext (Option.some.inj hboth.1) hboth.2

theorem ask_blocking_ne_none : (blocking.ask wanted source).1 ≠ none := Option.some_ne_none _

theorem loop_zero (form : Form) (behind : Bytes) (source : σ) :
    form.loop 0 behind source = ⟨.ok (), behind, source⟩ := by
  cases form with
  | blocking => exact gather_zero behind source
  | polled => exact PartialRead.finish_of_ended (PartialRead.poll_of_zero source rfl)

variable {form : Form}

theorem loop_of_notReady (behind : Bytes) (hne : wanted ≠ 0)
    (hask : form.ask wanted source = (none, left)) :
    form.loop wanted behind source = form.loop wanted behind left := by
  cases form with
  | blocking => exact absurd (congrArg Prod.fst hask) ask_blocking_ne_none
  | polled => exact PartialRead.finish_of_notReady (PartialRead.poll_of_notReady hne hask)

theorem loop_of_closed (behind : Bytes) (hne : wanted ≠ 0)
    (hask : form.ask wanted source = (some (.ok []), left)) :
    form.loop wanted behind source =
      ⟨.error (.closed behind.length (behind.length + wanted)), behind, left⟩ := by
  cases form with
  | blocking => exact gather_of_closed behind hne (read_of_ask hask)
  | polled => exact PartialRead.finish_of_ended (PartialRead.poll_of_closed hne hask)

theorem loop_of_piece (behind : Bytes) {piece : Bytes} (hne : wanted ≠ 0) (hpiece : piece ≠ [])
    (hask : form.ask wanted source = (some (.ok piece), left)) :
    form.loop wanted behind source =
      form.loop (wanted - piece.length) (piece.reverseAux behind) left := by
  obtain ⟨byte, bytes, rfl⟩ := List.exists_cons_of_ne_nil hpiece
  cases form with
  | blocking => exact gather_of_piece behind hne (read_of_ask hask)
  | polled => exact PartialRead.finish_of_poll (PartialRead.poll_of_piece hne hask)

theorem loop_of_interrupted (behind : Bytes) {failure : Failure} (hne : wanted ≠ 0)
    (hask : form.ask wanted source = (some (.error failure), left))
    (hkind : failure.kind = .interrupted) (hlt : Source.extent left < Source.extent source) :
    form.loop wanted behind source = form.loop wanted behind left := by
  cases form with
  | blocking => exact gather_of_interrupted behind hne (read_of_ask hask) hkind hlt
  | polled => exact PartialRead.finish_of_poll (PartialRead.poll_of_interrupted hne hask ⟨hkind, hlt⟩)

theorem loop_of_failed (behind : Bytes) {failure : Failure} (hne : wanted ≠ 0)
    (hask : form.ask wanted source = (some (.error failure), left))
    (hstuck : ¬(failure.kind = .interrupted ∧ Source.extent left < Source.extent source)) :
    form.loop wanted behind source = ⟨.error (.transport failure), behind, left⟩ := by
  cases form with
  | blocking => exact gather_of_failed behind hne (read_of_ask hask) hstuck
  | polled => exact PartialRead.finish_of_ended (PartialRead.poll_of_failed hne hask hstuck)

theorem extent_ask_none (form : Form) (hask : form.ask wanted source = (none, left)) :
    Source.extent left < Source.extent source := by
  cases form with
  | blocking => exact absurd (congrArg Prod.fst hask) ask_blocking_ne_none
  | polled =>
    have hlt := Source.extent_poll_none wanted source (congrArg Prod.fst hask)
    rwa [show (Source.poll wanted source).2 = left from congrArg Prod.snd hask] at hlt

theorem extent_ask_piece (form : Form) {piece : Bytes} (hpiece : piece ≠ [])
    (hask : form.ask wanted source = (some (.ok piece), left)) :
    Source.extent left < Source.extent source := by
  cases form with
  | blocking =>
    have hread := read_of_ask hask
    have hlt := Source.extent_read_lt wanted source piece (by rw [hread]) hpiece
    rwa [hread] at hlt
  | polled =>
    have hpoll : Source.poll wanted source = (some (.ok piece), left) := hask
    have hlt := Source.extent_poll_lt wanted source piece (by rw [hpoll]) hpiece
    rwa [hpoll] at hlt

end Form

-- ════════════════════════════════════════════════════════════════════════
-- Questions
-- ════════════════════════════════════════════════════════════════════════

/-- A read or a poll, with its answer. -/
structure Query where
  wanted : Nat
  answer : Option (Except Failure Bytes)

/-- The bytes that an answer brings. -/
def Query.bytes (query : Query) : Bytes :=
  match query.answer with
  | some (.ok bytes) => bytes
  | _ => []

/-- Each of the questions is for as many bytes as the ones before it have left missing, and not for
none. -/
def Outstanding (total : Nat) (queries : List Query) : Prop :=
  ∀ front query back, queries = front ++ query :: back →
    query.wanted ≠ 0 ∧ query.wanted + (front.flatMap Query.bytes).length = total

theorem outstanding_nil (total : Nat) : Outstanding total [] := by
  intro front query back h
  cases front <;> cases h

theorem Outstanding.cons {total : Nat} {query : Query} {queries : List Query}
    (hwanted : query.wanted = total) (hne : total ≠ 0) (hle : query.bytes.length ≤ total)
    (h : Outstanding (total - query.bytes.length) queries) : Outstanding total (query :: queries) := by
  intro front other back hsplit
  cases front with
  | nil =>
    cases hsplit
    exact ⟨hwanted ▸ hne, hwanted⟩
  | cons first front =>
    cases hsplit
    obtain ⟨hpos, hmissing⟩ := h front other back rfl
    rw [List.flatMap_cons, List.length_append]
    exact ⟨hpos, by omega⟩

theorem Outstanding.concat {total : Nat} {queries : List Query} {query : Query}
    (h : Outstanding total queries) (hne : query.wanted ≠ 0)
    (hwanted : query.wanted + (queries.flatMap Query.bytes).length = total) :
    Outstanding total (queries ++ [query]) := by
  intro front other back hsplit
  rcases List.eq_nil_or_concat back with rfl | ⟨back, last, rfl⟩
  · obtain ⟨rfl, hlast⟩ := List.append_inj' hsplit rfl
    cases hlast
    exact ⟨hne, hwanted⟩
  · rw [List.concat_eq_append, ← List.cons_append, ← List.append_assoc] at hsplit
    exact h front other back (List.append_inj_left' hsplit rfl)

/-- A source, and what it was asked so far. -/
structure Watched (σ : Type) where
  source : σ
  queries : List Query := []

namespace Watched

variable {σ : Type} [Source σ]

instance : Source (Watched σ) where
  read wanted watched :=
    let (answer, left) := Source.read wanted watched.source
    (answer, ⟨left, watched.queries ++ [⟨wanted, some answer⟩]⟩)
  poll wanted watched :=
    let (answer, left) := Source.poll wanted watched.source
    (answer, ⟨left, watched.queries ++ [⟨wanted, answer⟩]⟩)
  extent watched := Source.extent watched.source
  extent_read_le wanted watched := Source.extent_read_le wanted watched.source
  extent_read_lt wanted watched := Source.extent_read_lt wanted watched.source
  extent_poll_le wanted watched := Source.extent_poll_le wanted watched.source
  extent_poll_lt wanted watched := Source.extent_poll_lt wanted watched.source
  extent_poll_none wanted watched := Source.extent_poll_none wanted watched.source

variable {form : Form} {wanted : Nat} {source left : σ}

theorem ask_of_ask {answer : Option (Except Failure Bytes)} (queries : List Query)
    (hask : form.ask wanted source = (answer, left)) :
    form.ask wanted (⟨source, queries⟩ : Watched σ) =
      (answer, ⟨left, queries ++ [⟨wanted, answer⟩]⟩) := by
  cases form with
  | blocking =>
    cases hask
    rfl
  | polled =>
    have hpoll : Source.poll wanted source = (answer, left) := hask
    simp only [Form.ask, Source.poll, hpoll]

/-- What a loop over reads comes to does not depend on whether it is watched. -/
theorem loop_source (form : Form) (wanted : Nat) (behind : Bytes) (watched : Watched σ) :
    let gathered := form.loop wanted behind watched
    form.loop wanted behind watched.source =
      ⟨gathered.ended, gathered.behind, gathered.source.source⟩ := by
  obtain ⟨source, queries⟩ := watched
  by_cases hne : wanted = 0
  · subst hne
    rw [Form.loop_zero]
    exact Form.loop_zero form behind source
  rcases hask : form.ask wanted source with ⟨_ | (failure | piece), left⟩
  · have hlt := form.extent_ask_none hask
    have hlater := loop_source form wanted behind ⟨left, queries ++ [⟨wanted, none⟩]⟩
    rwa [← Form.loop_of_notReady behind hne hask,
      ← Form.loop_of_notReady behind hne (ask_of_ask queries hask)] at hlater
  · by_cases hmoved : failure.kind = .interrupted ∧ Source.extent left < Source.extent source
    · obtain ⟨hkind, hlt⟩ := hmoved
      have hlater := loop_source form wanted behind
        ⟨left, queries ++ [⟨wanted, some (.error failure)⟩]⟩
      rwa [← Form.loop_of_interrupted behind hne hask hkind hlt,
        ← Form.loop_of_interrupted behind hne (ask_of_ask queries hask) hkind hlt] at hlater
    · rw [Form.loop_of_failed behind hne (ask_of_ask queries hask) hmoved]
      exact Form.loop_of_failed behind hne hask hmoved
  · by_cases hpiece : piece = []
    · subst hpiece
      rw [Form.loop_of_closed behind hne (ask_of_ask queries hask)]
      exact Form.loop_of_closed behind hne hask
    · have hlt := form.extent_ask_piece hpiece hask
      have hlater := loop_source form (wanted - piece.length) (piece.reverseAux behind)
        ⟨left, queries ++ [⟨wanted, some (.ok piece)⟩]⟩
      rwa [← Form.loop_of_piece behind hne hpiece hask,
        ← Form.loop_of_piece behind hne hpiece (ask_of_ask queries hask)] at hlater
termination_by Source.extent watched.source

end Watched

end FramedVideo.Transport
