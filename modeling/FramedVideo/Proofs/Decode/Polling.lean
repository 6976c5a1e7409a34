import FramedVideo.Decode.Await
import FramedVideo.Proofs.Decode.Alike

/-!
# Calls that are polled to their end

A call that is polled until it is over answers what a decoder that waits answers, over any source
that reads alike. At every point a call has a meaning of its own: what a decoder that waits would
still do for it. A poll keeps that meaning.

## Main definitions

- `PartialRead.complete` — the rest of an exact read, by a reader that waits
- `Call.resume` — the rest of a call, by a decoder that waits
- `Decoder.finishMany` — a number of calls, each polled to its end

Main statements: `Decoder.poll_resumes`, `Decoder.finish_answers`, `Decoder.finishMany_alike`.
-/

namespace FramedVideo

open Transport (Source ReadFailure PartialRead PollsAlike Wire CarriesPolled gather readExact)

variable {σ τ : Type} [Source σ] [Source τ] {R : σ → τ → Prop}

/-- The rest of an exact read, by a reader that waits. -/
def Transport.PartialRead.complete (reading : PartialRead) (source : σ) :
    Except ReadFailure Bytes × σ :=
  let gathered := gather reading.wanted reading.behind source
  match gathered.ended with
  | .ok () => (.ok gathered.bytes, gathered.source)
  | .error failure => (.error failure, gathered.source)

/-- What the rest of an exact read brings, told by its next poll. -/
def Transport.PartialRead.Polled.Completes (R : σ → τ → Prop) (polled : PartialRead.Polled σ)
    (completed : Except ReadFailure Bytes × τ) : Prop :=
  ∃ right, R polled.source right ∧
    completed =
      match polled.ended with
      | some (.ok ()) => (.ok polled.reading.bytes, right)
      | some (.error failure) => (.error failure, right)
      | none => polled.reading.complete right

theorem Transport.PollsAlike.completes (hR : PollsAlike R) (reading : PartialRead) (source : σ)
    (other : τ) (h : R source other) : (reading.poll source).Completes R (reading.complete other) := by
  obtain ⟨right, hright, hgather⟩ := hR reading source other h
  refine ⟨right, hright, ?_⟩
  rw [PartialRead.complete, hgather]
  cases (reading.poll source).ended with
  | none => rfl
  | some ended =>
    cases ended with
    | ok done => rfl
    | error failure => rfl

/-- What the rest of an exact read brings, in the form in which a caller meets it. -/
theorem Transport.PollsAlike.of_eq (hR : PollsAlike R) {reading : PartialRead} {source : σ}
    {other : τ} {polled : PartialRead.Polled σ} (h : R source other)
    (hpoll : reading.poll source = polled) : polled.Completes R (reading.complete other) :=
  hpoll ▸ hR.completes reading source other h

open Decoder (headerRead searchRead payloadRead thenPayload onto)

/-- The rest of a call, by a decoder that waits. -/
def Call.resume (decoder : Decoder σ) : Call → Except DecodeFailure Frame × Decoder σ
  | .header reading => thenPayload (headerRead (reading.complete decoder.source) decoder)
  | .search fault window reading =>
    thenPayload (searchRead fault window (reading.complete decoder.source) decoder)
  | .payload announced reading => payloadRead announced (reading.complete decoder.source) decoder

/-- What a decoder that waits answers, told by the next poll of a call. -/
def Polled.Resumes (R : σ → τ → Prop) (polled : Polled σ)
    (resumed : Except DecodeFailure Frame × Decoder τ) : Prop :=
  ∃ right, R polled.decoder.source right ∧
    resumed =
      match polled.ended with
      | some answer => (answer, polled.decoder.onto right)
      | none => polled.call.resume (polled.decoder.onto right)

namespace Decoder

theorem pollPayload_resumes (hR : PollsAlike R) (header : Header) (reading : PartialRead)
    (decoder : Decoder σ) (other : τ) (h : R decoder.source other) :
    (pollPayload header reading decoder).Resumes R
      (payloadRead header (reading.complete other) (decoder.onto other)) := by
  obtain ⟨right, hright, hread⟩ := hR.completes reading decoder.source other h
  unfold pollPayload
  split <;> rename_i hpoll <;> rw [hpoll] at hread hright <;> rw [hread]
  · exact ⟨right, hright, rfl⟩
  · exact ⟨right, hright, rfl⟩
  · exact ⟨right, hright, rfl⟩

theorem framePayload_resumes (hR : PollsAlike R) (header : Header) (decoder : Decoder σ)
    (other : τ) (h : R decoder.source other) :
    (pollPayload header (.start header.payloadSize.toNat) decoder).Resumes R
      ((decoder.onto other).framePayload header) :=
  pollPayload_resumes hR header (.start header.payloadSize.toNat) decoder other h

theorem pollSearch_resumes (hR : PollsAlike R) (fault : Fault) (window : Window)
    (reading : PartialRead) (decoder : Decoder σ) (other : τ) (h : R decoder.source other) :
    (pollSearch fault window reading decoder).Resumes R
      (thenPayload (searchRead fault window (reading.complete other) (decoder.onto other))) := by
  fun_induction pollSearch fault window reading decoder generalizing other with
  | case1 window reading decoder reading' left hpoll =>
    obtain ⟨right, hright, hread⟩ := hR.of_eq h hpoll
    rw [hread]
    exact ⟨right, hright, rfl⟩
  | case2 window reading decoder failure reading' left hpoll =>
    obtain ⟨right, hright, hread⟩ := hR.of_eq h hpoll
    rw [hread]
    exact ⟨right, hright, rfl⟩
  | case3 window reading decoder reading' left hpoll moved header hfound polled =>
    obtain ⟨right, hright, hread⟩ := hR.of_eq h hpoll
    rw [hread]
    simp only [searchRead, onto]
    rw [hfound]
    exact framePayload_resumes hR header _ right hright
  | case4 window reading decoder reading' left hpoll moved hnone hexhausted =>
    obtain ⟨right, hright, hread⟩ := hR.of_eq h hpoll
    rw [hread]
    simp only [searchRead, onto]
    rw [hnone]
    dsimp only
    rw [search_of_exhausted fault _ hexhausted]
    exact ⟨right, hright, rfl⟩
  | case5 window reading decoder reading' left hpoll moved hnone hroom ih =>
    obtain ⟨right, hright, hread⟩ := hR.of_eq h hpoll
    rw [hread]
    simp only [searchRead, onto]
    rw [hnone]
    dsimp only
    rw [search_of_room fault _ hroom]
    exact ih right hright

theorem pollRecover_resumes (hR : PollsAlike R) (fault : Fault) (rejected : Bytes)
    (reading : PartialRead) (decoder : Decoder σ) (other : τ) (h : R decoder.source other) :
    (pollRecover fault rejected reading decoder).Resumes R
      (thenPayload (recover fault rejected (decoder.onto other))) := by
  unfold pollRecover
  split <;> rename_i hrecovery
  · rw [recover_disabled fault rejected (decoder.onto other) hrecovery]
    exact ⟨other, h, rfl⟩
  · rename_i limit
    rw [recover_scan fault rejected (decoder.onto other) hrecovery]
    dsimp only
    split <;> rename_i hlimit
    · rw [search_of_exhausted fault (decoder.onto other) hlimit]
      exact ⟨other, h, rfl⟩
    · rw [search_of_room fault (decoder.onto other) hlimit]
      exact pollSearch_resumes hR fault _ (.start 1) decoder other h

theorem pollHeader_resumes (hR : PollsAlike R) (reading : PartialRead) (decoder : Decoder σ)
    (other : τ) (h : R decoder.source other) :
    (pollHeader reading decoder).Resumes R
      (thenPayload (headerRead (reading.complete other) (decoder.onto other))) := by
  obtain ⟨right, hright, hread⟩ := hR.completes reading decoder.source other h
  unfold pollHeader
  split <;> rename_i hpoll <;> rw [hpoll] at hread hright <;> rw [hread]
  · exact ⟨right, hright, rfl⟩
  · exact ⟨right, hright, rfl⟩
  · rename_i reading' left
    simp only [headerRead, onto]
    cases Header.accept decoder.protocol reading'.bytes with
    | ok header => exact framePayload_resumes hR header { decoder with source := left } right hright
    | error fault =>
      exact pollRecover_resumes hR fault reading'.bytes reading' { decoder with source := left }
        right hright

/-- A poll keeps what is left of a call. -/
theorem poll_resumes (hR : PollsAlike R) (call : Call) (decoder : Decoder σ) (other : τ)
    (h : R decoder.source other) :
    (poll call decoder).Resumes R (call.resume (decoder.onto other)) := by
  cases call with
  | header reading => exact pollHeader_resumes hR reading decoder other h
  | search fault window reading => exact pollSearch_resumes hR fault window reading decoder other h
  | payload header reading => exact pollPayload_resumes hR header reading decoder other h

end Decoder

/-- A wait that is over: it has the answer of a decoder that waits, and a decoder that differs from
that one in its source only. -/
def Awaited.Answers (R : σ → τ → Prop) (awaited : Awaited σ)
    (answered : Except DecodeFailure Frame × Decoder τ) : Prop :=
  ∃ right, R awaited.decoder.source right ∧
    awaited.answer = some answered.1 ∧ answered.2 = awaited.decoder.onto right

namespace Decoder

theorem await_none_answers (hR : PollsAlike R) (looks : Nat) (call : Call) (decoder : Decoder σ)
    (other : τ) (h : R decoder.source other) :
    (decoder.await none looks call).Answers R (call.resume (decoder.onto other)) := by
  fun_induction await none looks call decoder generalizing other with
  | case1 looks call decoder hcame => exact absurd hcame Bool.false_ne_true
  | case2 looks call decoder hrunning answer call' left log hpoll =>
    obtain ⟨right, hright, hresumed⟩ := poll_resumes hR call decoder other h
    rw [hpoll] at hright hresumed
    rw [hresumed]
    exact ⟨right, hright, rfl, rfl⟩
  | case3 looks call decoder hrunning call' left log hpoll later ih =>
    obtain ⟨right, hright, hresumed⟩ := poll_resumes hR call decoder other h
    rw [hpoll] at hright hresumed
    rw [hresumed]
    exact ih right hright

/-- A call that is polled to its end answers what a decoder answers that waits. -/
theorem finish_answers (hR : PollsAlike R) (decoder : Decoder σ) (other : τ)
    (h : R decoder.source other) : (decoder.finish .start).Answers R (decoder.onto other).next :=
  await_none_answers hR 0 .start decoder other h

/-- A source that brings a wire to polls brings the answer of the wire. -/
theorem finish_of_carries {decoder : Decoder σ} {carried : Wire}
    {answer : Except DecodeFailure Frame} {last : Decoder Wire}
    (hsource : CarriesPolled decoder.source carried)
    (hwire : (decoder.onto carried).next = (answer, last)) :
    (decoder.finish .start).answer = some answer ∧
      CarriesPolled (decoder.finish .start).decoder.source last.source ∧
      (decoder.finish .start).decoder.skipped = last.skipped := by
  obtain ⟨R, hR, hcarried⟩ := hsource
  obtain ⟨right, hright, hanswer, hlast⟩ := finish_answers hR.pollsAlike decoder carried hcarried
  rw [hwire] at hanswer hlast
  dsimp only at hlast
  subst hlast
  exact ⟨hanswer, ⟨R, hR, hright⟩, rfl⟩

/-- The answers to a number of calls, each polled to its end, and the decoder after them. -/
def finishMany : Nat → Decoder σ → List (Option (Except DecodeFailure Frame)) × Decoder σ
  | 0, decoder => ([], decoder)
  | count + 1, decoder =>
    let awaited := decoder.finish .start
    let (answers, last) := awaited.decoder.finishMany count
    (awaited.answer :: answers, last)

/-- Calls that are polled to their ends answer what a decoder answers that waits. -/
theorem finishMany_alike (hR : PollsAlike R) (count : Nat) (decoder : Decoder σ) (other : τ)
    (h : R decoder.source other) :
    ∃ right, R (decoder.finishMany count).2.source right ∧
      (decoder.finishMany count).1 = ((decoder.onto other).nextMany count).1.map some ∧
      ((decoder.onto other).nextMany count).2 = (decoder.finishMany count).2.onto right := by
  induction count generalizing decoder other with
  | zero => exact ⟨other, h, rfl, rfl⟩
  | succ count ih =>
    obtain ⟨right, hright, hanswer, hleft⟩ := finish_answers hR decoder other h
    obtain ⟨last, hlast, hanswers, hmany⟩ := ih (decoder.finish .start).decoder right hright
    refine ⟨last, hlast, ?_, ?_⟩
    · simp only [finishMany, nextMany, hleft, hanswer, hanswers, List.map_cons]
    · simp only [finishMany, nextMany, hleft, hmany]

/-- A source that brings a wire to polls brings the answers of the wire, however many are asked for. -/
theorem finishMany_of_carries {decoder : Decoder σ} {carried : Wire} {count : Nat}
    {answers : List (Except DecodeFailure Frame)} {last : Decoder Wire}
    (hsource : CarriesPolled decoder.source carried)
    (hwire : (decoder.onto carried).nextMany count = (answers, last)) :
    let run := decoder.finishMany count
    run.1 = answers.map some ∧ CarriesPolled run.2.source last.source ∧
      run.2.skipped = last.skipped := by
  obtain ⟨R, hR, hcarried⟩ := hsource
  obtain ⟨right, hright, hanswers, hlast⟩ :=
    finishMany_alike hR.pollsAlike count decoder carried hcarried
  rw [hwire] at hanswers hlast
  subst hlast
  exact ⟨hanswers, ⟨R, hR, hright⟩, rfl⟩

end Decoder

end FramedVideo
