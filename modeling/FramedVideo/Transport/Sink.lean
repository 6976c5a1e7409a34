import FramedVideo.Bytes
import FramedVideo.Transport.Failure

/-!
# Sinks for bytes

A sink takes bytes, as many of an offer as it likes. What it took it may still hold back until it
is flushed. When nothing more will come it is shut down.

## Main definitions

- `Sink` — types whose values take bytes
- `writeAll` — offers bytes until all are taken
-/

namespace FramedVideo.Transport

/-- A type whose values take bytes. -/
class Sink (ω : Type) where
  /-- Offers bytes, at least one; the answer is how many of them were taken. -/
  write : Bytes → ω → Except Failure Nat × ω
  /-- Lets go of what was taken. -/
  flush : ω → Except Failure Unit × ω
  /-- Tells the sink that nothing more will come. -/
  shutdown : ω → Except Failure Unit × ω

/-- The failure of a sink that takes nothing of an offer. -/
def Failure.tookNothing : Failure := ⟨.writeZero, none⟩

/-- Offers bytes until all are taken. It stops at the first failure, and at the first offer of which
nothing is taken. No bytes are no offer. -/
def writeAll {ω : Type} [Sink ω] (bytes : Bytes) (sink : ω) : Except Failure Unit × ω :=
  match bytes with
  | [] => (.ok (), sink)
  | byte :: rest =>
    match Sink.write (byte :: rest) sink with
    | (.error failure, left) => (.error failure, left)
    | (.ok 0, left) => (.error .tookNothing, left)
    | (.ok (taken + 1), left) => writeAll (rest.drop taken) left
termination_by bytes.length
decreasing_by simp only [List.length_drop, List.length_cons]; omega

end FramedVideo.Transport
