import FramedVideo.Transport.ExactRead

/-!
# Exact reads that do not wait

A reader that cannot wait keeps an exact read as a value, and polls it. A poll reads until the
source is not ready or the read is over. To drop the value is to lose the bytes that came.

## Main definitions

- `PartialRead` — an exact read in progress
- `PartialRead.poll` — goes on with it as far as the source lets it
- `PartialRead.finish` — polls it until it is over
- `PartialRead.fill` — an exact read into a buffer, made of polls
-/

namespace FramedVideo.Transport

/-- An exact read in progress. -/
structure PartialRead where
  /-- The number of bytes still to come. -/
  wanted : Nat
  /-- The bytes that came, last first. -/
  behind : Bytes
  deriving DecidableEq, Repr

namespace PartialRead

/-- An exact read of `length` bytes that has not begun. -/
def start (length : Nat) : PartialRead := ⟨length, []⟩

/-- The bytes that came, in order. -/
def bytes (reading : PartialRead) : Bytes := reading.behind.reverse

/-- The length of the whole read. -/
def expected (reading : PartialRead) : Nat := reading.behind.length + reading.wanted

/-- The read after some more bytes came. -/
def receive (reading : PartialRead) (bytes : Bytes) : PartialRead :=
  ⟨reading.wanted - bytes.length, bytes.reverseAux reading.behind⟩

/-- What a poll leaves: how the read ended, if it did, the read, and the source. -/
structure Polled (σ : Type) where
  ended : Option (Except ReadFailure Unit)
  reading : PartialRead
  source : σ

variable {σ : Type} [Source σ]

/-- Goes on with a read until the source is not ready or the read is over. -/
def poll (reading : PartialRead) (source : σ) : Polled σ :=
  if reading.wanted = 0 then
    ⟨some (.ok ()), reading, source⟩
  else
    match _h : Source.poll reading.wanted source with
    | (none, left) => ⟨none, reading, left⟩
    | (some (.ok []), left) =>
      ⟨some (.error (.closed reading.behind.length reading.expected)), reading, left⟩
    | (some (.ok (byte :: bytes)), left) => (reading.receive (byte :: bytes)).poll left
    | (some (.error failure), left) =>
      if failure.kind = .interrupted ∧ Source.extent left < Source.extent source then
        reading.poll left
      else
        ⟨some (.error (.transport failure)), reading, left⟩
termination_by Source.extent source
decreasing_by
  · have hlt := Source.extent_poll_lt reading.wanted source (byte :: bytes) (by rw [_h]) (by simp)
    rwa [_h] at hlt
  · rename_i hmoved
    exact hmoved.2

/-- No poll adds to what a source can do. -/
theorem extent_poll_le (reading : PartialRead) (source : σ) :
    Source.extent (reading.poll source).source ≤ Source.extent source := by
  have hstep := Source.extent_poll_le (σ := σ)
  fun_induction poll reading source with
  | case1 => exact Nat.le_refl _
  | case2 reading source _ left h => simpa [h] using hstep reading.wanted source
  | case3 reading source _ left h => simpa [h] using hstep reading.wanted source
  | case4 reading source _ byte bytes left h ih =>
    exact Nat.le_trans ih (by simpa [h] using hstep reading.wanted source)
  | case5 reading source _ failure left h hmoved ih =>
    exact Nat.le_trans ih (Nat.le_of_lt hmoved.2)
  | case6 reading source _ failure left h _ => simpa [h] using hstep reading.wanted source

/-- A poll that finds the source not ready leaves it with less to do. -/
theorem extent_poll_none (reading : PartialRead) (source : σ)
    (hended : (reading.poll source).ended = none) :
    Source.extent (reading.poll source).source < Source.extent source := by
  fun_induction poll reading source with
  | case1 => simp at hended
  | case2 reading source _ left h =>
    simpa [h] using Source.extent_poll_none reading.wanted source (by rw [h])
  | case3 => simp at hended
  | case4 reading source _ byte bytes left h ih =>
    exact Nat.lt_of_lt_of_le (ih hended)
      (by simpa [h] using Source.extent_poll_le reading.wanted source)
  | case5 reading source _ failure left h hmoved ih =>
    exact Nat.lt_trans (ih hended) hmoved.2
  | case6 => simp at hended

/-- A read that wanted bytes, and got them, leaves the source with less to do. -/
theorem extent_poll_ok (reading : PartialRead) (source : σ) (hwanted : reading.wanted ≠ 0)
    (hended : (reading.poll source).ended = some (.ok ())) :
    Source.extent (reading.poll source).source < Source.extent source := by
  have hstep := extent_poll_le (σ := σ)
  fun_induction poll reading source with
  | case1 => contradiction
  | case2 => simp at hended
  | case3 => simp at hended
  | case4 reading source _ byte bytes left h ih =>
    refine Nat.lt_of_le_of_lt (hstep (reading.receive (byte :: bytes)) left) ?_
    simpa [h] using Source.extent_poll_lt reading.wanted source (byte :: bytes) (by rw [h]) (by simp)
  | case5 reading source _ failure left h hmoved ih =>
    exact Nat.lt_trans (ih hwanted hended) hmoved.2
  | case6 => simp at hended

/-- Polls a read until it is over. -/
def finish (reading : PartialRead) (source : σ) : Gathered σ :=
  match _h : reading.poll source with
  | ⟨some ended, reading', left⟩ => ⟨ended, reading'.behind, left⟩
  | ⟨none, reading', left⟩ => reading'.finish left
termination_by Source.extent source
decreasing_by
  have hlt := extent_poll_none reading source (by rw [_h])
  rwa [_h] at hlt

/-- Reads as many bytes as a buffer has, by polls. The bytes that came before a failure are in the
buffer. -/
def fill (buffer : Bytes) (source : σ) : Except ReadFailure Unit × Bytes × σ :=
  let gathered := (start buffer.length).finish source
  (gathered.ended, overwrite gathered.bytes buffer, gathered.source)

end PartialRead

end FramedVideo.Transport
