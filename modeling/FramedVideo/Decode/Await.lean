import FramedVideo.Decode.Progress

/-!
# Waiting for a frame

A call is polled until it is over. A shutdown may come in between: it is looked at before every
poll, so it wins over bytes that are there. A call that a shutdown cut off is dropped.

## Main definitions

- `Shutdown` — when a shutdown comes, counted in looks at it
- `Decoder.await` — polls a call until it is over or a shutdown comes
-/

namespace FramedVideo

open Transport (Source)

/-- When a shutdown comes: at a look with a given number, counted from 0, or never. -/
abbrev Shutdown := Option Nat

/-- The shutdown is there at a look. -/
def Shutdown.cameBy (shutdown : Shutdown) (look : Nat) : Bool :=
  match shutdown with
  | some first => first ≤ look
  | none => false

/-- How the wait for a frame ended: with an answer, or with a shutdown. -/
structure Awaited (σ : Type) where
  /-- The answer of the call; none if the shutdown came first. -/
  answer : Option (Except DecodeFailure Frame)
  decoder : Decoder σ
  /-- Looks at the shutdown so far. -/
  looks : Nat
  log : List Log.Line

namespace Decoder

variable {σ : Type} [Source σ]

/-- Polls a call until it is over or a shutdown comes. -/
def await (shutdown : Shutdown) (looks : Nat) (call : Call) (decoder : Decoder σ) : Awaited σ :=
  if shutdown.cameBy looks then
    ⟨none, decoder, looks + 1, []⟩
  else
    match _h : poll call decoder with
    | ⟨some answer, _, left, log⟩ => ⟨some answer, left, looks + 1, log⟩
    | ⟨none, call', left, log⟩ =>
      let later := left.await shutdown (looks + 1) call'
      { later with log := log ++ later.log }
termination_by Source.extent decoder.source
decreasing_by
  have hlt := extent_poll_none call decoder (by rw [_h])
  rwa [_h] at hlt

/-- Polls a call until it is over. -/
def finish (call : Call) (decoder : Decoder σ) : Awaited σ := decoder.await none 0 call

theorem extent_await_le (shutdown : Shutdown) (looks : Nat) (call : Call) (decoder : Decoder σ) :
    Source.extent (decoder.await shutdown looks call).decoder.source ≤
      Source.extent decoder.source := by
  have hle := extent_poll_le (σ := σ)
  fun_induction await shutdown looks call decoder with
  | case1 => exact Nat.le_refl _
  | case2 looks call decoder _ answer _ left log h => simpa [h] using hle call decoder
  | case3 looks call decoder _ call' left log h _ ih =>
    exact Nat.le_trans ih (by simpa [h] using hle call decoder)

/-- A wait that begins a call and ends with a frame leaves the source with less to do. -/
theorem extent_await_start_ok (shutdown : Shutdown) (looks : Nat) (decoder : Decoder σ)
    (frame : Frame) (hanswer : (decoder.await shutdown looks .start).answer = some (.ok frame)) :
    Source.extent (decoder.await shutdown looks .start).decoder.source <
      Source.extent decoder.source := by
  have hok := extent_poll_start_ok decoder frame
  have hnone := extent_poll_none .start decoder
  unfold await at hanswer ⊢
  split at hanswer
  · simp at hanswer
  · rename_i hrunning
    simp only [hrunning]
    split at hanswer <;> rename_i h
    · simp only [h] at hok ⊢
      exact hok hanswer
    · simp only [h] at hnone ⊢
      exact Nat.lt_of_le_of_lt (extent_await_le _ _ _ _) (hnone trivial)

end Decoder

end FramedVideo
