import FramedVideo.Proofs.Decode.Polling
import FramedVideo.Proofs.Transport.Scripts
import Mathlib.Control.Monad.Basic

/-!
# Decoding a script

A decoder on a script does not notice how the bytes are cut, nor where it is interrupted. A decoder
that is polled does not notice moments at which nothing is ready. Both hold of any number of calls,
on any bytes, whatever the answers are.

## Main definitions

- `Decoder.progress` — what a number of calls brought, and how far they got

Main statements: `Decoder.progress_of_rearranged`, `Decoder.finishMany_eq_nextMany_prompt`.
-/

namespace FramedVideo.Decoder

open Transport (ReadsAlike PollsAlike Script Wire)
open Transport.Script (Rearranged Tracks)

/-- The answers of a number of calls, the bytes that the script has handed out by then, and the bytes
that the decoder has skipped by then. -/
def progress {α : Type} (run : List α × Decoder Script) : List α × Nat × Nat :=
  (run.1, run.2.source.position, run.2.skipped)

theorem progress_of_tracks {α : Type} {total : Nat} {run : List α × Decoder Script} {left : Wire}
    (h : Tracks total run.2.source left) :
    progress run = (run.1, total - left.bytesLeft, run.2.skipped) := by
  obtain ⟨-, htotal⟩ := h
  have hposition : run.2.source.position = total - left.bytesLeft := by omega
  rw [progress, hposition]

/-- The number of bytes that a script has handed out or will hand out. -/
def totalBytes (script : Script) : Nat :=
  script.position + (Script.wire script.events).bytesLeft

theorem progress_nextMany (decoder : Decoder Script) (count : Nat) :
    progress (decoder.nextMany count) =
      let onWire := (decoder.onto (Script.wire decoder.source.events)).nextMany count
      (onWire.1, totalBytes decoder.source - onWire.2.source.bytesLeft, onWire.2.skipped) := by
  obtain ⟨right, hright, honWire⟩ :=
    nextMany_alike (Script.keptByReads_tracks (totalBytes decoder.source)).readsAlike count decoder
      (Script.wire decoder.source.events) (Script.tracks_wire decoder.source)
  simp only [honWire]
  exact progress_of_tracks hright

theorem progress_finishMany (decoder : Decoder Script) (count : Nat) :
    progress (decoder.finishMany count) =
      let onWire := (decoder.onto (Script.wire decoder.source.events)).nextMany count
      (onWire.1.map some, totalBytes decoder.source - onWire.2.source.bytesLeft,
        onWire.2.skipped) := by
  obtain ⟨right, hright, hanswers, hlast⟩ :=
    finishMany_alike (Script.keptByPolls_tracks (totalBytes decoder.source)).pollsAlike count decoder
      (Script.wire decoder.source.events) (Script.tracks_wire decoder.source)
  simp only [hlast, ← hanswers]
  exact progress_of_tracks hright

/-- How a script cuts its bytes into pieces, and where it is interrupted, makes no difference: after
any number of calls the answers, the bytes handed out and the bytes skipped are the same, for a
decoder that waits and for one that is polled. -/
theorem progress_of_rearranged (decoder : Decoder Script) (events : List Script.Event)
    (h : Rearranged decoder.source.events events) (count : Nat) :
    let other := decoder.onto { decoder.source with events := events }
    progress (other.nextMany count) = progress (decoder.nextMany count) ∧
      progress (other.finishMany count) = progress (decoder.finishMany count) := by
  intro other
  have hwire : Script.wire other.source.events = Script.wire decoder.source.events := h.wire_eq.symm
  have htotal : totalBytes other.source = totalBytes decoder.source := by
    rw [totalBytes, hwire]
    rfl
  constructor
  · rw [progress_nextMany, progress_nextMany, hwire, htotal]
    rfl
  · rw [progress_finishMany, progress_finishMany, hwire, htotal]
    rfl

/-- A search that is interrupted between two pieces of the stream goes on to the same fault, after the
same bytes. -/
theorem progress_of_cut_search :
    let garbage : Bytes := List.replicate 28 0x55
    let decoder : Decoder Script :=
      { source := { events := [.data (garbage ++ [1] ++ [2, 3])] }, recovery := .scan 2 }
    let events : List Script.Event :=
      [.data (garbage ++ [1]), .fail ⟨.interrupted, none⟩, .data [2, 3]]
    Rearranged decoder.source.events events ∧
      progress (decoder.nextMany 2) =
        ([.error (.fault (.badMagic 0x55555555)), .error (.closed .header 1 28)], 31, 2) ∧
      progress ((decoder.onto { decoder.source with events := events }).nextMany 2) =
        ([.error (.fault (.badMagic 0x55555555)), .error (.closed .header 1 28)], 31, 2) := by
  intro garbage decoder events
  have hsplit : Script.Change decoder.source.events [.data (garbage ++ [1]), .data [2, 3]] :=
    .split [] [] (garbage ++ [1]) [2, 3] nofun nofun
  have hinterrupt : Script.Change [.data (garbage ++ [1]), .data [2, 3]] events :=
    .interrupt [.data (garbage ++ [1])] [.data [2, 3]] ⟨.interrupted, none⟩ rfl
  have hrearranged : Rearranged decoder.source.events events :=
    .trans _ _ _ (.rel _ _ hsplit) (.rel _ _ hinterrupt)
  have hwhole : progress (decoder.nextMany 2) =
      ([.error (.fault (.badMagic 0x55555555)), .error (.closed .header 1 28)], 31, 2) := by
    decide +kernel
  exact ⟨hrearranged, hwhole, (progress_of_rearranged decoder events hrearranged 2).1.trans hwhole⟩

/-- A decoder that is polled answers what a decoder that waits answers on the prompt script, and
leaves of the script what that one leaves, but for the moments at which nothing is ready. -/
theorem finishMany_eq_nextMany_prompt (decoder : Decoder Script) (count : Nat) :
    let polled := decoder.finishMany count
    let waiting := (decoder.onto decoder.source.prompt).nextMany count
    polled.1 = waiting.1.map some ∧
      polled.2.source.position = waiting.2.source.position ∧
      polled.2.skipped = waiting.2.skipped ∧
      polled.2.source.prompt.events = waiting.2.source.events := by
  intro polled waiting
  obtain ⟨right, ⟨hevents, hposition⟩, hanswers, hlast⟩ :=
    finishMany_alike Script.pollsAlike_prompt count decoder decoder.source.prompt
      (Script.prompts_prompt decoder.source)
  have hwaiting : waiting.2 = polled.2.onto right := hlast
  refine ⟨hanswers, ?_, ?_, ?_⟩
  · rw [hwaiting]
    exact hposition.symm
  · rw [hwaiting]
    rfl
  · rw [hwaiting]
    exact hevents.symm

end FramedVideo.Decoder
