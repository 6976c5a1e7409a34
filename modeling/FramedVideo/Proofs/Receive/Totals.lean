import FramedVideo.Proofs.Decode.Skipped
import FramedVideo.Proofs.Receive.Resumed
import Mathlib.Data.List.Basic
import Mathlib.Data.Option.Basic

/-!
# Totals of several sessions

The frames and the payload bytes of several sessions add up to those of one session over the whole
stream. The skipped bytes do not. They are the decoder's own count, so a session reports again what was
skipped in the sessions before it.

## Main definitions

- `Decoder.discardedFor` — the bytes that the searches for some frames discard

Main statements: `Paused.skipped`, `Receiver.totals_of_split`.
-/

namespace FramedVideo

open Transport (Source PollsAlike CarriesPolled Script Wire)

/-- The bytes that the searches for some frames discard, if the decoder brings them. -/
def Decoder.discardedFor {σ : Type} [Source σ] (frames : List Frame) (decoder : Decoder σ) : Nat :=
  ((decoder.calls frames.length).map (·.discarded)).sum

namespace Decoder

variable {σ : Type} [Source σ]

theorem Brings.carried {R : σ → Wire → Prop} (hR : PollsAlike R) {decoder left : Decoder σ}
    {frames : List Frame} {carried : Wire} (hsource : R decoder.source carried)
    (hbrings : decoder.Brings frames left) :
    left.skipped = decoder.skipped + (decoder.onto carried).discardedFor frames ∧
      ∃ right, R left.source right := by
  obtain ⟨right, hright, hanswers, hlast⟩ :=
    finishMany_alike hR frames.length decoder carried hsource
  rw [hbrings] at hright hanswers hlast
  have hframes : ((decoder.onto carried).nextMany frames.length).1 = frames.map .ok := by
    apply List.map_injective_iff.2 (Option.some_injective _)
    rw [← hanswers, List.map_map]
    rfl
  have hskipped := skipped_of_frames hframes
  rw [hlast] at hskipped
  exact ⟨hskipped, right, hright⟩

/-- Calls that bring frames count what they discard on the wire that the source carries, and a clean
close after them changes nothing. -/
theorem EndsWith.skipped {decoder : Decoder σ} {frames : List Frame} {failure : DecodeFailure}
    {carried : Wire} (hsource : CarriesPolled decoder.source carried)
    (hends : decoder.EndsWith frames failure) (hclean : failure.isCleanClose = true) :
    (decoder.finishMany (frames.length + 1)).2.skipped =
      decoder.skipped + (decoder.onto carried).discardedFor frames := by
  obtain ⟨R, hR, hcarried⟩ := hsource
  obtain ⟨left, hbrings, hanswer⟩ := hends
  obtain ⟨hskipped, right, hright⟩ := hbrings.carried hR.pollsAlike hcarried
  obtain ⟨right', -, hanswer', hlast⟩ := finish_answers hR.pollsAlike left right hright
  rw [hanswer] at hanswer'
  have hclose := skipped_of_cleanClose (Option.some.inj hanswer').symm hclean
  rw [hlast] at hclose
  rw [finishMany_add, hbrings]
  exact hclose.trans hskipped

end Decoder

-- ════════════════════════════════════════════════════════════════════════
-- Sessions
-- ════════════════════════════════════════════════════════════════════════

namespace Receiver

variable {σ κ : Type} [Source σ] [Consumer κ]

theorem verdict_eq_peerClosed {stopped cut : Bool} {failure : DecodeFailure}
    (h : verdict stopped cut failure = .ok .peerClosed) :
    stopped = false ∧ cut = false ∧ failure.isCleanClose = true := by
  cases stopped with
  | true => cases h
  | false =>
    cases cut with
    | true => cases h
    | false =>
      cases hclean : failure.isCleanClose with
      | true => exact ⟨rfl, rfl, rfl⟩
      | false =>
        rw [verdict, hclean] at h
        cases h

theorem Course.of_peerClosed {shutdown : Shutdown} {looks : Nat} {stats : Stats} {consumer : κ}
    {receiver : Receiver σ} {frames : List Frame} {failure : DecodeFailure} {run : Run σ κ}
    {summary : Summary} (hcourse : Course shutdown looks stats consumer receiver frames failure run)
    (hresult : run.result = .ok summary) (hreason : summary.reason = .peerClosed) :
    failure.isCleanClose = true ∧ run.handed = frames ∧
      run.receiver =
        { receiver with decoder := (receiver.decoder.finishMany (frames.length + 1)).2 } := by
  obtain ⟨hverdict, -⟩ := hcourse.of_ok hresult
  rw [hreason] at hverdict
  obtain ⟨henough, hcut, hclean⟩ := verdict_eq_peerClosed hverdict
  obtain ⟨hhanded, hreceiver⟩ := hcourse.ended (by simpa using henough) (by simpa using hcut)
  rw [hhanded] at hreceiver
  exact ⟨hclean, hhanded, hreceiver⟩

end Receiver

variable {σ : Type} [Source σ] {receiver later : Receiver σ} {sessions : List Session}

/-- What each session reports of its frames adds up. -/
theorem Paused.totals (hpaused : Paused receiver sessions later) :
    (sessions.map (·.summary.frames)).sum = (Session.allHanded sessions).length ∧
      (sessions.map (·.summary.payloadBytes)).sum =
        ((Session.allHanded sessions).map (·.payload.length)).sum := by
  induction hpaused with
  | none => exact ⟨rfl, rfl⟩
  | @more later sessions κ _ before shutdown consumer summary hresult hpause ih =>
    obtain ⟨frames, failure, hends⟩ := later.decoder.exists_endsWith
    obtain ⟨-, hsummary⟩ := (Receiver.run_course shutdown consumer hends).of_ok hresult
    obtain ⟨hframes, hpayload⟩ := ih
    rw [Session.allHanded_concat]
    constructor
    · rw [List.map_append, List.sum_append, hframes, List.length_append, hsummary]
      simp
    · rw [List.map_append, List.sum_append, hpayload, List.map_append, List.sum_append, hsummary]
      simp

/-- Each session reports the count of the decoder that it leaves. -/
theorem Paused.exists_middle (hpaused : Paused receiver sessions later) {earlier others : List Session}
    {session : Session} (hsessions : sessions = earlier ++ session :: others) :
    ∃ middle, Paused receiver (earlier ++ [session]) middle ∧
      session.summary.skippedBytes = middle.decoder.skipped := by
  induction hpaused generalizing others with
  | none => simp at hsessions
  | @more later sessions κ _ before shutdown consumer summary hresult hpause ih =>
    obtain rfl | ⟨front, last, rfl⟩ := others.eq_nil_or_concat
    · obtain ⟨rfl, hlast⟩ := List.append_inj' hsessions rfl
      cases hlast
      obtain ⟨frames, failure, hends⟩ := later.decoder.exists_endsWith
      obtain ⟨-, hsummary⟩ := (Receiver.run_course shutdown consumer hends).of_ok hresult
      refine ⟨_, .more before shutdown consumer hresult hpause, ?_⟩
      rw [hsummary]
    · rw [List.concat_eq_append, ← List.cons_append, ← List.append_assoc] at hsessions
      obtain ⟨hfront, -⟩ := List.append_inj' hsessions rfl
      exact ih hfront

theorem Paused.skipped (hpaused : Paused receiver sessions later) {carried : Wire}
    (hsource : CarriesPolled receiver.decoder.source carried) :
    later.decoder.skipped = receiver.decoder.skipped +
      (receiver.decoder.onto carried).discardedFor (Session.allHanded sessions) := by
  obtain ⟨frames, failure, hends⟩ := receiver.decoder.exists_endsWith
  obtain ⟨rest, -, hbrings, -, -⟩ := hpaused.resumes hends
  obtain ⟨R, hR, hcarried⟩ := hsource
  exact (hbrings.carried hR.pollsAlike hcarried).1

/-- If a session over the whole stream ends with the close of the peer, then so can the last of several
sessions, each of the others stopped before. Their frames are those of the one session, and their totals
of frames and payload bytes add up to its totals. As for the skipped bytes, each session reports what was
discarded from the beginning of the stream on. So the last reports what the one session reports, and
the reports add up to that only if all the others are zero. -/
theorem Receiver.totals_of_split {κ κ' : Type} [Consumer κ] [Consumer κ'] (config : ReceiverConfig)
    (source : σ) (carried : Wire) (hsource : CarriesPolled source carried) (sessions : List Session)
    (later : Receiver σ) (hpaused : Paused (config.receiver source) sessions later)
    (shutdown shutdown' : Shutdown) (consumer : κ) (consumer' : κ') (whole last : Summary)
    (hwhole : ((config.receiver source).run shutdown consumer).result = .ok whole)
    (hclosed : whole.reason = .peerClosed)
    (hlast : (later.run shutdown' consumer').result = .ok last)
    (hclosed' : last.reason = .peerClosed) :
    let run := (config.receiver source).run shutdown consumer
    let wire := (config.receiver source).decoder.onto carried
    let all := sessions ++ [⟨(later.run shutdown' consumer').handed, last⟩]
    Session.allHanded all = run.handed ∧
      (all.map (·.summary.frames)).sum = whole.frames ∧
      (all.map (·.summary.payloadBytes)).sum = whole.payloadBytes ∧
      whole.skippedBytes = wire.discardedFor run.handed ∧
      (∀ earlier session others, all = earlier ++ session :: others →
        session.summary.skippedBytes = wire.discardedFor (Session.allHanded (earlier ++ [session]))) ∧
      ((all.map (·.summary.skippedBytes)).sum = whole.skippedBytes ↔
        ∀ session ∈ sessions, session.summary.skippedBytes = 0) := by
  intro run wire all
  obtain ⟨frames, failure, hends⟩ := (config.receiver source).decoder.exists_endsWith
  have hcourse := run_course shutdown consumer hends
  obtain ⟨hclean, hhanded, hreceiver⟩ := hcourse.of_peerClosed hwhole hclosed
  obtain ⟨-, hsummary⟩ := hcourse.of_ok hwhole
  obtain ⟨rest, rfl, hbrings, hrest, -⟩ := hpaused.resumes hends
  have hcourse' := run_course shutdown' consumer' hrest
  obtain ⟨-, hhanded', hreceiver'⟩ := hcourse'.of_peerClosed hlast hclosed'
  obtain ⟨-, hsummary'⟩ := hcourse'.of_ok hlast
  obtain ⟨hframes, hpayload⟩ := hpaused.totals
  have hall : Session.allHanded all = run.handed := by
    rw [Session.allHanded_concat, hhanded', hhanded]
  have hwholeSkipped : whole.skippedBytes = wire.discardedFor run.handed := by
    rw [hsummary, hreceiver, hhanded, hends.skipped hsource hclean]
    exact Nat.zero_add _
  have hlastSkipped : last.skippedBytes = whole.skippedBytes := by
    have hcalls : ((config.receiver source).decoder.finishMany
        ((Session.allHanded sessions ++ rest).length + 1)).2 =
          (later.decoder.finishMany (rest.length + 1)).2 := by
      rw [List.length_append, Nat.add_assoc, Decoder.finishMany_add, hbrings]
    rw [hsummary, hsummary', hreceiver, hreceiver', hcalls]
  refine ⟨hall, ?_, ?_, hwholeSkipped, ?_, ?_⟩
  · rw [List.map_append, List.sum_append, hframes, hsummary, hsummary', ← hall,
      Session.allHanded_concat, List.length_append]
    simp
  · rw [List.map_append, List.sum_append, hpayload, hsummary, hsummary', ← hall,
      Session.allHanded_concat, List.map_append, List.sum_append]
    simp
  · intro earlier session others hsplit
    obtain rfl | ⟨front, final, rfl⟩ := others.eq_nil_or_concat
    · obtain ⟨rfl, hsession⟩ := List.append_inj' hsplit rfl
      cases hsession
      rw [← hall] at hwholeSkipped
      exact hlastSkipped.trans hwholeSkipped
    · rw [List.concat_eq_append, ← List.cons_append, ← List.append_assoc] at hsplit
      obtain ⟨hfront, -⟩ := List.append_inj' hsplit rfl
      obtain ⟨middle, hmiddle, hskipped⟩ := hpaused.exists_middle hfront
      rw [hskipped, hmiddle.skipped hsource]
      exact Nat.zero_add _
  · rw [List.map_append, List.sum_append, List.map_singleton, List.sum_singleton, hlastSkipped,
      Nat.add_eq_right, List.sum_eq_zero_iff_forall_eq_nat, List.forall_mem_map]

/-- A stray byte stands before the first of two frames, and two more before the second. The first session
reports one byte, and the second all three. -/
theorem Receiver.totals_of_split_of_two :
    let first : Frame := { sourceId := 0, frameId := 1, timestamp := 10, payload := [7] }
    let second : Frame := { sourceId := 0, frameId := 2, timestamp := 20, payload := [] }
    let bytes : Bytes := 0x55 :: first.onWire {} ++ [0x55, 0x55] ++ second.onWire {}
    let script : Script := { events := [.data (bytes.take 40), .notReady, .data (bytes.drop 40)] }
    let receiver := ReceiverConfig.receiver { recovery := .scan 2 } script
    let run := receiver.run none ({ wanted := 1 } : Quota)
    let session : Session := ⟨[first], ⟨.consumerStopped, 1, 1, 1⟩⟩
    let wire := receiver.decoder.onto (Wire.ofBytes bytes)
    Paused receiver [session] run.receiver ∧
      (run.receiver.run none ({} : PictureLog)).result = .ok ⟨.peerClosed, 1, 0, 3⟩ ∧
      (receiver.run none ({} : PictureLog)).result = .ok ⟨.peerClosed, 2, 1, 3⟩ ∧
      wire.discardedFor [first] = 1 ∧ wire.discardedFor [first, second] = 3 := by
  intro first second bytes script receiver run session wire
  have hcarried : Script.wire script.events = Wire.ofBytes bytes := by decide
  have hfirst : run.result = .ok session.summary := by decide +kernel
  have hlast : (run.receiver.run none ({} : PictureLog)).result = .ok ⟨.peerClosed, 1, 0, 3⟩ := by
    decide +kernel
  have hwhole : (receiver.run none ({} : PictureLog)).result = .ok ⟨.peerClosed, 2, 1, 3⟩ := by
    decide +kernel
  have hhanded : run.handed = session.handed := by decide +kernel
  have hhanded' : (receiver.run none ({} : PictureLog)).handed = [first, second] := by decide +kernel
  have hpaused : Paused receiver [session] run.receiver := by
    have hmore : Paused receiver ([] ++ [⟨run.handed, session.summary⟩]) run.receiver :=
      .more (.none receiver) none _ hfirst (.inl rfl)
    rwa [hhanded] at hmore
  obtain ⟨-, -, -, hskipped, hreports, -⟩ :=
    totals_of_split { recovery := .scan 2 } script (Wire.ofBytes bytes)
      (hcarried ▸ script.carriesPolled) [session] run.receiver hpaused none none
      ({} : PictureLog) ({} : PictureLog) _ _ hwhole rfl hlast rfl
  rw [hhanded'] at hskipped
  exact ⟨hpaused, hlast, hwhole, (hreports [] session _ rfl).symm, hskipped.symm⟩

/-- A stray byte stands before two frames. Both sessions report it, and one session reports it once. -/
theorem Receiver.skipped_reported_twice :
    let frame : Frame := { sourceId := 0, frameId := 1, timestamp := 10, payload := [] }
    let bytes : Bytes := 0x55 :: frame.onWire {} ++ frame.onWire {}
    let receiver := ReceiverConfig.receiver { recovery := .scan 1 } ({ events := [.data bytes] } : Script)
    let run := receiver.run none ({ wanted := 1 } : Quota)
    run.result = .ok ⟨.consumerStopped, 1, 0, 1⟩ ∧
      (run.receiver.run none ({} : PictureLog)).result = .ok ⟨.peerClosed, 1, 0, 1⟩ ∧
      (receiver.run none ({} : PictureLog)).result = .ok ⟨.peerClosed, 2, 0, 1⟩ := by
  intro frame bytes receiver run
  exact ⟨by decide +kernel, by decide +kernel, by decide +kernel⟩

end FramedVideo
