import FramedVideo.Proofs.Decode.Waiting
import FramedVideo.Proofs.Transport.Handed

/-!
# What a decoder carries from call to call

Between two calls a decoder is its source, its rules and a count of skipped bytes. A call only adds to
the count. So a decoder that has come to some point of a stream does exactly what a new one does that
begins there, poll by poll, with the count carried over.

## Main definitions

- `PollsThrough` — a map between sources that polls do not notice
- `Decoder.carried` — a decoder on a mapped source, with skipped bytes from before
- `Decoder.attempts` — calls one after another, each of which a shutdown may cut off
- `Decoder.fresh` — a new decoder of the same rules, on the rest of a script

Main statements: `Decoder.await_carried`, `Decoder.attempts_fresh`.
-/

namespace FramedVideo

open Transport (Source Script PartialRead)

variable {σ τ : Type} [Source σ] [Source τ] {f : σ → τ}

/-- Polls get the same from a source and from what it is mapped to. -/
structure PollsThrough (f : σ → τ) : Prop where
  poll_eq : ∀ wanted source, Source.poll wanted (f source) = (Source.poll wanted source).map id f
  extent_eq : ∀ source, Source.extent (f source) = Source.extent source

theorem PollsThrough.reading (hf : PollsThrough f) (reading : PartialRead) (source : σ) :
    reading.poll (f source) =
      let polled := reading.poll source
      ⟨polled.ended, polled.reading, f polled.source⟩ := by
  have hpolled {wanted : Nat} {source left : σ} {answer : Option (Except Transport.Failure Bytes)}
      (hpoll : Source.poll wanted source = (answer, left)) :
      Source.poll wanted (f source) = (answer, f left) := by
    rw [hf.poll_eq, hpoll]
    rfl
  fun_induction PartialRead.poll reading source with
  | case1 reading source hzero => exact PartialRead.poll_of_zero (f source) hzero
  | case2 reading source hne left hpoll => exact PartialRead.poll_of_notReady hne (hpolled hpoll)
  | case3 reading source hne left hpoll => exact PartialRead.poll_of_closed hne (hpolled hpoll)
  | case4 reading source hne byte bytes left hpoll ih =>
    exact (PartialRead.poll_of_piece hne (hpolled hpoll)).trans ih
  | case5 reading source hne failure left hpoll hmoved ih =>
    rw [← hf.extent_eq left, ← hf.extent_eq source] at hmoved
    exact (PartialRead.poll_of_interrupted hne (hpolled hpoll) hmoved).trans ih
  | case6 reading source hne failure left hpoll hstuck =>
    rw [← hf.extent_eq left, ← hf.extent_eq source] at hstuck
    exact PartialRead.poll_of_failed hne (hpolled hpoll) hstuck

/-- A decoder on a mapped source, with some more skipped bytes. -/
def Decoder.carried (f : σ → τ) (skipped : Nat) (decoder : Decoder σ) : Decoder τ where
  source := f decoder.source
  protocol := decoder.protocol
  recovery := decoder.recovery
  skipped := skipped + decoder.skipped

/-- What a poll leaves, with the decoder carried over. -/
def Polled.carried (f : σ → τ) (skipped : Nat) (polled : Polled σ) : Polled τ :=
  ⟨polled.ended, polled.call, polled.decoder.carried f skipped, polled.log⟩

/-- What a wait leaves, with the decoder carried over. -/
def Awaited.carried (f : σ → τ) (skipped : Nat) (awaited : Awaited σ) : Awaited τ :=
  ⟨awaited.answer, awaited.decoder.carried f skipped, awaited.looks, awaited.log⟩

namespace Decoder

-- ════════════════════════════════════════════════════════════════════════
-- One call
-- ════════════════════════════════════════════════════════════════════════

theorem pollPayload_carried (hf : PollsThrough f) (before : Nat) (header : Header)
    (reading : PartialRead) (decoder : Decoder σ) :
    pollPayload header reading (decoder.carried f before) =
      (pollPayload header reading decoder).carried f before := by
  unfold pollPayload
  rw [carried, hf.reading]
  cases reading.poll decoder.source with
  | mk ended reading' left =>
    cases ended with
    | none => rfl
    | some ended => cases ended <;> rfl

theorem pollSearch_carried (hf : PollsThrough f) (before : Nat) (fault : Fault) (window : Window)
    (reading : PartialRead) (decoder : Decoder σ) :
    pollSearch fault window reading (decoder.carried f before) =
      (pollSearch fault window reading decoder).carried f before := by
  fun_induction pollSearch fault window reading decoder with
  | case1 window reading decoder reading' left hpoll =>
    rw [pollSearch, carried, hf.reading, hpoll]
    rfl
  | case2 window reading decoder failure reading' left hpoll =>
    rw [pollSearch, carried, hf.reading, hpoll]
    rfl
  | case3 window reading decoder reading' left hpoll moved header hfound polled =>
    have hpayload := pollPayload_carried hf before header (.start header.payloadSize.toNat)
      { decoder with source := left, skipped := decoder.skipped + moved.skipped }
    rw [carried] at hpayload
    rw [pollSearch, carried, hf.reading, hpoll]
    dsimp only
    rw [hfound, Nat.add_assoc]
    dsimp only
    rw [hpayload]
    rfl
  | case4 window reading decoder reading' left hpoll moved hnone hexhausted =>
    rw [pollSearch, carried, hf.reading, hpoll]
    dsimp only
    rw [hnone, Nat.add_assoc]
    exact if_pos hexhausted
  | case5 window reading decoder reading' left hpoll moved hnone hroom ih =>
    rw [pollSearch, carried, hf.reading, hpoll]
    dsimp only
    rw [hnone]
    exact (if_neg hroom).trans ih

theorem pollRecover_carried (hf : PollsThrough f) (before : Nat) (fault : Fault) (rejected : Bytes)
    (reading : PartialRead) (decoder : Decoder σ) :
    pollRecover fault rejected reading (decoder.carried f before) =
      (pollRecover fault rejected reading decoder).carried f before := by
  unfold pollRecover
  rw [show (decoder.carried f before).recovery = decoder.recovery from rfl]
  cases decoder.recovery with
  | disabled => rfl
  | scan limit =>
    dsimp only
    split
    · rfl
    · exact pollSearch_carried hf before fault _ _ decoder

theorem pollHeader_carried (hf : PollsThrough f) (before : Nat) (reading : PartialRead)
    (decoder : Decoder σ) :
    pollHeader reading (decoder.carried f before) =
      (pollHeader reading decoder).carried f before := by
  unfold pollHeader
  rw [show (decoder.carried f before).source = f decoder.source from rfl, hf.reading]
  cases reading.poll decoder.source with
  | mk ended reading' left =>
    cases ended with
    | none => rfl
    | some ended =>
      cases ended with
      | error failure => rfl
      | ok done =>
        dsimp only
        rw [show (decoder.carried f before).protocol = decoder.protocol from rfl]
        cases Header.accept decoder.protocol reading'.bytes with
        | ok header => exact pollPayload_carried hf before header _ { decoder with source := left }
        | error fault =>
          exact pollRecover_carried hf before fault _ _ { decoder with source := left }

theorem poll_carried (hf : PollsThrough f) (before : Nat) (call : Call) (decoder : Decoder σ) :
    poll call (decoder.carried f before) = (poll call decoder).carried f before := by
  cases call with
  | header reading => exact pollHeader_carried hf before reading decoder
  | search fault window reading => exact pollSearch_carried hf before fault window reading decoder
  | payload header reading => exact pollPayload_carried hf before header reading decoder

/-- A wait adds to the count of skipped bytes, and does not look at it. -/
theorem await_carried (hf : PollsThrough f) (before : Nat) (shutdown : Shutdown) (looks : Nat)
    (call : Call) (decoder : Decoder σ) :
    (decoder.carried f before).await shutdown looks call =
      (decoder.await shutdown looks call).carried f before := by
  fun_induction await shutdown looks call decoder with
  | case1 looks call decoder hcame => exact await_of_came call (decoder.carried f before) hcame
  | case2 looks call decoder hrunning answer call' left log hpoll =>
    have hpoll' : poll call (decoder.carried f before) =
        ⟨some answer, call', left.carried f before, log⟩ := by
      rw [poll_carried hf, hpoll]
      rfl
    exact await_of_ended hrunning hpoll'
  | case3 looks call decoder hrunning call' left log hpoll later ih =>
    have hpoll' : poll call (decoder.carried f before) =
        ⟨none, call', left.carried f before, log⟩ := by
      rw [poll_carried hf, hpoll]
      rfl
    rw [await_of_notReady hrunning hpoll', ih]
    rfl

-- ════════════════════════════════════════════════════════════════════════
-- Calls one after another
-- ════════════════════════════════════════════════════════════════════════

/-- Calls one after another, each with a shutdown of its own, which may cut it off: their answers, what
they reported, and the decoder after them. -/
def attempts {σ : Type} [Source σ] : List Shutdown → Decoder σ →
    List (Option (Except DecodeFailure Frame) × List Log.Line) × Decoder σ
  | [], decoder => ([], decoder)
  | shutdown :: shutdowns, decoder =>
    let awaited := decoder.await shutdown 0 .start
    let (answers, last) := awaited.decoder.attempts shutdowns
    ((awaited.answer, awaited.log) :: answers, last)

theorem attempts_carried (hf : PollsThrough f) (before : Nat) (shutdowns : List Shutdown)
    (decoder : Decoder σ) :
    (decoder.carried f before).attempts shutdowns =
      let attempted := decoder.attempts shutdowns
      (attempted.1, attempted.2.carried f before) := by
  induction shutdowns generalizing decoder with
  | nil => rfl
  | cons shutdown shutdowns ih =>
    rw [attempts, await_carried hf]
    dsimp only [Awaited.carried]
    rw [ih]
    rfl

-- ════════════════════════════════════════════════════════════════════════
-- The rest of a script
-- ════════════════════════════════════════════════════════════════════════

/-- A new decoder of the same rules, on the events that are left of a script. -/
def fresh (decoder : Decoder Script) : Decoder Script where
  source := { events := decoder.source.events }
  protocol := decoder.protocol
  recovery := decoder.recovery

end Decoder

/-- A script after the reads of another one. -/
def Transport.Script.following (before : Script) (script : Script) : Script where
  events := script.events
  position := before.position + script.position
  reads := before.reads + script.reads

theorem pollsThrough_following (before : Script) : PollsThrough (Script.following before) := by
  constructor
  · rintro wanted ⟨events, position, reads⟩
    cases events with
    | nil => rfl
    | cons event events =>
      cases event with
      | data bytes =>
        simp only [Source.poll, Script.serve, Script.following, Nat.add_assoc]
        rfl
      | fail failure => rfl
      | notReady => rfl
  · intro script
    rfl

namespace Decoder

/-- A decoder between two calls is a new one on what is left of the script, with its counts. -/
theorem eq_carried_fresh (decoder : Decoder Script) :
    decoder = decoder.fresh.carried (.following decoder.source) decoder.skipped := rfl

/-- Whatever is asked of a decoder, it does what a new one does on what is left of the script. -/
theorem attempts_fresh (decoder : Decoder Script) (shutdowns : List Shutdown) :
    let afresh := decoder.fresh.attempts shutdowns
    decoder.attempts shutdowns =
      (afresh.1, afresh.2.carried (.following decoder.source) decoder.skipped) :=
  (congrArg (attempts shutdowns) decoder.eq_carried_fresh).trans
    (attempts_carried (pollsThrough_following decoder.source) decoder.skipped shutdowns decoder.fresh)

end Decoder

end FramedVideo
