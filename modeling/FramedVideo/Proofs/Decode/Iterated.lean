import FramedVideo.Proofs.Decode.Alike
import FramedVideo.Proofs.Frame.Codec
import FramedVideo.Transport.Script
import Mathlib.Data.List.Forall2

/-!
# Frames one by one

An iterator over the frames of a decoder makes a call for each request until a call fails, and none
after that. It tells the failure once, unless the peer closed between two frames. So the decoder is left
where the failed call left it, and another iterator, or a call, goes on there, also when the stream
brings more.

## Main definitions

- `Frames.Tells` — what an iterator answers to requests, told by the calls that it makes
- `Decoder.iterate` — iterators over one decoder, one after another

Main statements: `Frames.nextMany_tells`, `Frames.iterate_law`.
-/

namespace FramedVideo

open Transport (Source Script)

/-- What an iterator answers to some requests, if the calls that it makes have some answers. It makes no
call after a failure, and the requests after it get nothing. -/
inductive Frames.Tells : List (Except DecodeFailure Frame) →
    List (Option (Except DecodeFailure Frame)) → Prop where
  | none : Tells [] []
  | frame (frame : Frame) {calls : List (Except DecodeFailure Frame)}
    {answers : List (Option (Except DecodeFailure Frame))} (later : Tells calls answers) :
    Tells (.ok frame :: calls) (some (.ok frame) :: answers)
  | failure (failure : DecodeFailure) (more : Nat) :
    Tells [.error failure]
      ((if failure.isCleanClose then Option.none else some (.error failure)) ::
        List.replicate more Option.none)

variable {σ : Type} [Source σ]

/-- Iterators over one decoder, one after another, each with a number of requests: their answers, and the
decoder after them. -/
def Decoder.iterate : List Nat → Decoder σ →
    List (List (Option (Except DecodeFailure Frame))) × Decoder σ
  | [], decoder => ([], decoder)
  | requests :: others, decoder =>
    let run := Frames.nextMany { decoder := decoder } requests
    let (answers, last) := run.2.decoder.iterate others
    (run.1 :: answers, last)

theorem Decoder.nextMany_add (first second : Nat) (decoder : Decoder σ) :
    decoder.nextMany (first + second) =
      let (answers, later) := decoder.nextMany first
      (answers ++ (later.nextMany second).1, (later.nextMany second).2) := by
  induction second with
  | zero => exact Prod.ext (List.append_nil _).symm rfl
  | succ second ih =>
    rw [← Nat.add_assoc, nextMany_succ, ih]
    dsimp only
    rw [nextMany_succ second, List.append_assoc]

namespace Frames

/-- An iterator that met a failure does not touch its decoder. -/
theorem nextMany_of_done {frames : Frames σ} (hdone : frames.done = true) (requests : Nat) :
    frames.nextMany requests = (List.replicate requests none, frames) := by
  induction requests with
  | zero => rfl
  | succ requests ih =>
    rw [nextMany, next?, if_pos hdone]
    dsimp only
    rw [ih]
    rfl

theorem nextMany_of_frame {decoder left : Decoder σ} {frame : Frame} (requests : Nat)
    (hnext : decoder.next = (.ok frame, left)) :
    Frames.nextMany { decoder := decoder } (requests + 1) =
      let later := Frames.nextMany { decoder := left } requests
      (some (.ok frame) :: later.1, later.2) := by
  rw [nextMany, next?, if_neg Bool.false_ne_true, hnext]

theorem nextMany_of_failure {decoder left : Decoder σ} {failure : DecodeFailure} (requests : Nat)
    (hnext : decoder.next = (.error failure, left)) :
    Frames.nextMany { decoder := decoder } (requests + 1) =
      ((if failure.isCleanClose then none else some (.error failure)) ::
        List.replicate requests none, { decoder := left, done := true }) := by
  rw [nextMany, next?, if_neg Bool.false_ne_true, hnext]
  dsimp only
  rw [nextMany_of_done rfl]

/-- An iterator makes the calls of its requests up to the first that fails, and leaves its decoder where
they leave it. -/
theorem nextMany_tells (requests : Nat) (decoder : Decoder σ) :
    let run := Frames.nextMany { decoder := decoder } requests
    ∃ calls, decoder.nextMany calls.length = (calls, run.2.decoder) ∧ Tells calls run.1 ∧
      run.1.length = requests ∧ (run.2.done = true ↔ ∃ failure, .error failure ∈ calls) := by
  induction requests generalizing decoder with
  | zero => exact ⟨[], rfl, .none, rfl, by simp [nextMany]⟩
  | succ requests ih =>
    cases hnext : decoder.next with
    | mk answer left =>
      cases answer with
      | ok frame =>
        obtain ⟨calls, hcalls, htells, hlength, hdone⟩ := ih left
        rw [nextMany_of_frame requests hnext]
        refine ⟨.ok frame :: calls, ?_, .frame frame htells, congrArg (· + 1) hlength, ?_⟩
        · rw [List.length_cons, Decoder.nextMany, hnext]
          dsimp only
          rw [hcalls]
        · simpa using hdone
      | error failure =>
        rw [nextMany_of_failure requests hnext]
        refine ⟨[.error failure], ?_, .failure failure requests, by simp, by simp⟩
        rw [List.length_singleton, Decoder.nextMany, hnext]
        rfl

/-- An iterator answers its requests with the frames that successive calls bring, up to the first
failure; then with that failure, once, unless it is a clean close; then with nothing, and without
touching the decoder or its source. Several iterators in turn share the calls of one decoder: each
begins with the call that follows those of the one before. -/
theorem iterate_law (decoder : Decoder σ) :
    (∀ requests,
      let run := Frames.nextMany { decoder := decoder } requests
      ∃ calls, decoder.nextMany calls.length = (calls, run.2.decoder) ∧ Tells calls run.1 ∧
        run.1.length = requests ∧ (run.2.done = true ↔ ∃ failure, .error failure ∈ calls) ∧
        (run.2.done = true → ∀ more, run.2.nextMany more = (List.replicate more none, run.2))) ∧
    ∀ requests,
      let turns := decoder.iterate requests
      ∃ calls, decoder.nextMany calls.flatten.length = (calls.flatten, turns.2) ∧
        List.Forall₂ Tells calls turns.1 ∧ turns.1.map (·.length) = requests := by
  constructor
  · intro requests run
    obtain ⟨calls, hcalls, htells, hlength, hdone⟩ := nextMany_tells requests decoder
    exact ⟨calls, hcalls, htells, hlength, hdone, nextMany_of_done⟩
  · intro requests
    induction requests generalizing decoder with
    | nil => exact ⟨[], rfl, .nil, rfl⟩
    | cons first others ih =>
      obtain ⟨calls, hcalls, htells, hlength, -⟩ := nextMany_tells first decoder
      obtain ⟨rest, hrest, hothers, hlengths⟩ :=
        ih (Frames.nextMany { decoder := decoder } first).2.decoder
      refine ⟨calls :: rest, ?_, .cons htells hothers, congrArg₂ List.cons hlength hlengths⟩
      rw [List.flatten_cons, List.length_append, Decoder.nextMany_add, hcalls]
      dsimp only
      rw [hrest]
      rfl

/-- An iterator stops at a close, and another one goes on with the byte that comes after it. -/
theorem iterate_law_of_close :
    let frame : Frame := { sourceId := 0, frameId := 1, timestamp := 10, payload := [7] }
    let torn : DecodeFailure := .closed .header 1 28
    let decoder : Decoder Script :=
      { source := { events := [.data (frame.onWire {}), .data [], .data [1]] } }
    let run := Frames.nextMany { decoder := decoder } 2
    run.2.done = true ∧ run.2.nextMany 3 = ([none, none, none], run.2) ∧
      (decoder.iterate [3, 2]).1 = [[some (.ok frame), none, none], [some (.error torn), none]] := by
  intro frame torn decoder run
  let closed : Decoder Script := { source := ⟨[.data [], .data [1]], 29, 2⟩ }
  let later : Decoder Script := { source := ⟨[.data [1]], 29, 3⟩ }
  have hframe : decoder.next = (.ok frame, closed) := by cbv
  have hclose : closed.next = (.error (.closed .header 0 28), later) := by cbv
  have htorn : later.next = (.error torn, { source := ⟨[], 30, 5⟩ }) := by cbv
  have hrun (more : Nat) : Frames.nextMany { decoder := decoder } (more + 2) =
      (some (.ok frame) :: none :: List.replicate more none, { decoder := later, done := true }) := by
    rw [nextMany_of_frame _ hframe, nextMany_of_failure _ hclose]
    rfl
  obtain ⟨hone, -⟩ := iterate_law decoder
  obtain ⟨calls, -, -, -, -, hstill⟩ := hone 2
  have hdone : run.2.done = true := by rw [show run = _ from hrun 0]
  refine ⟨hdone, hstill hdone 3, ?_⟩
  rw [Decoder.iterate, hrun 1, Decoder.iterate, nextMany_of_failure _ htorn]
  rfl

end Frames

end FramedVideo
