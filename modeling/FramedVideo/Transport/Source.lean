import FramedVideo.Bytes
import FramedVideo.Transport.Failure

/-!
# Sources of bytes

A source hands out bytes, a read at a time. A read names the most that is wanted and gets some
bytes, or none when the peer has closed, or a failure. A reader that cannot wait polls instead: the
source may answer that it is not ready, and it is then polled again.

A source is finite: `extent` bounds what it can still do, so that a loop over reads ends.

## Main definitions

- `Source` — types whose values hand out bytes
- `pollUntilReady` — a read made of polls
-/

namespace FramedVideo.Transport

/-- A type whose values hand out bytes. -/
class Source (σ : Type) where
  /-- Waits for at most the given number of bytes. No bytes means that the peer has closed. -/
  read : Nat → σ → Except Failure Bytes × σ
  /-- Asks for at most the given number of bytes without waiting; `none` means not ready. -/
  poll : Nat → σ → Option (Except Failure Bytes) × σ
  /-- A bound on what the source can still do. -/
  extent : σ → Nat
  /-- No read adds to what a source can do. -/
  extent_read_le : ∀ (wanted : Nat) (source : σ), extent (read wanted source).2 ≤ extent source
  /-- Bytes that were handed out are gone. -/
  extent_read_lt : ∀ (wanted : Nat) (source : σ) (bytes : Bytes),
    (read wanted source).1 = .ok bytes → bytes ≠ [] →
      extent (read wanted source).2 < extent source
  /-- No poll adds to what a source can do. -/
  extent_poll_le : ∀ (wanted : Nat) (source : σ), extent (poll wanted source).2 ≤ extent source
  /-- Bytes that were handed out are gone. -/
  extent_poll_lt : ∀ (wanted : Nat) (source : σ) (bytes : Bytes),
    (poll wanted source).1 = some (.ok bytes) → bytes ≠ [] →
      extent (poll wanted source).2 < extent source
  /-- A source is not ready a limited number of times only. -/
  extent_poll_none : ∀ (wanted : Nat) (source : σ),
    (poll wanted source).1 = none → extent (poll wanted source).2 < extent source

/-- Asks for at most the given number of bytes until the source is ready. -/
def pollUntilReady {σ : Type} [Source σ] (wanted : Nat) (source : σ) :
    Except Failure Bytes × σ :=
  match _h : Source.poll wanted source with
  | (some answer, left) => (answer, left)
  | (none, left) => pollUntilReady wanted left
termination_by Source.extent source
decreasing_by
  have hlt := Source.extent_poll_none wanted source (by rw [_h])
  rwa [_h] at hlt

end FramedVideo.Transport
