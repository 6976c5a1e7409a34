import FramedVideo.Proofs.Frame.Codec
import FramedVideo.Proofs.Receive.Stopping
import FramedVideo.Proofs.Transport.Scripts
import Mathlib.Order.Monotone.Basic

/-!
# Sessions one after another

A receiver that is run again after its consumer had enough, or after a shutdown between two frames, goes
on with the next frame of the stream. So the sessions of one receiver hand on together what one session
would.

## Main definitions

- `Decoder.shutdownBefore` — the shutdown that comes between two calls
- `Session` — the frames and the totals of a session that ended well
- `Paused` — sessions of one receiver, each of which left it at the next frame

Main statements: `Paused.resumes`, `Receiver.session_law`.
-/

namespace FramedVideo

open Transport (Source Script Wire)

-- ════════════════════════════════════════════════════════════════════════
-- Shutdowns between two frames
-- ════════════════════════════════════════════════════════════════════════

namespace Decoder

variable {σ : Type} [Source σ]

/-- The shutdown that comes when a number of calls are over, before the next one begins. -/
def shutdownBefore (count : Nat) (decoder : Decoder σ) : Shutdown := some (decoder.looksFor count)

theorem looksFor_strictMono (decoder : Decoder σ) :
    StrictMono fun count => decoder.looksFor count :=
  strictMono_nat_of_lt_succ fun count => decoder.looksFor_lt_succ count

/-- Such a shutdown leaves time for that number of calls. -/
theorem leaves_shutdownBefore (decoder : Decoder σ) (bound count : Nat) :
    (decoder.shutdownBefore bound).leaves (decoder.looksFor count) = true ↔ count ≤ bound := by
  simp only [shutdownBefore, Shutdown.leaves, decide_eq_true_eq]
  exact decoder.looksFor_strictMono.le_iff_le

theorem cameBy_shutdownBefore (decoder : Decoder σ) (count : Nat) :
    (decoder.shutdownBefore count).cameBy (decoder.looksFor count) = true := by
  simp [shutdownBefore, Shutdown.cameBy]

end Decoder

-- ════════════════════════════════════════════════════════════════════════
-- Sessions
-- ════════════════════════════════════════════════════════════════════════

/-- What a session that ended well has to show: the frames it handed on, and its totals. -/
structure Session where
  handed : List Frame
  summary : Summary
  deriving DecidableEq, Repr

/-- Sessions of one receiver, one after the other, and the receiver they leave. Each was stopped by its
consumer, or by a shutdown that came between two calls. -/
inductive Paused {σ : Type} [Source σ] : Receiver σ → List Session → Receiver σ → Prop
  | none (receiver : Receiver σ) : Paused receiver [] receiver
  | more {receiver later : Receiver σ} {sessions : List Session} {κ : Type} [Consumer κ]
    (before : Paused receiver sessions later) (shutdown : Shutdown) (consumer : κ) {summary : Summary}
    (hresult : (later.run shutdown consumer).result = .ok summary)
    (hpause : summary.reason = .consumerStopped ∨
      summary.reason = .shutdown ∧ ∃ count, shutdown = later.decoder.shutdownBefore count) :
    Paused receiver (sessions ++ [⟨(later.run shutdown consumer).handed, summary⟩])
      (later.run shutdown consumer).receiver

/-- The frames of several sessions. -/
def Session.allHanded (sessions : List Session) : List Frame := sessions.flatMap (·.handed)

theorem Session.allHanded_concat (sessions : List Session) (session : Session) :
    allHanded (sessions ++ [session]) = allHanded sessions ++ session.handed := by
  simp [allHanded]

namespace Receiver

variable {σ κ : Type} [Source σ] [Consumer κ]

variable {shutdown : Shutdown} {consumer : κ} {receiver : Receiver σ} {frames : List Frame}
  {failure : DecodeFailure} {run : Run σ κ} {summary : Summary}

theorem verdict_eq_stopped {stopped cut : Bool}
    (h : verdict stopped cut failure = .ok .consumerStopped) : stopped = true := by
  unfold verdict at h
  split at h
  · assumption
  · split at h
    · cases h
    · split at h <;> cases h

theorem verdict_eq_shutdown {stopped cut : Bool}
    (h : verdict stopped cut failure = .ok .shutdown) : stopped = false ∧ cut = true := by
  unfold verdict at h
  split at h
  · cases h
  · split at h
    · simp_all
    · split at h <;> cases h

theorem verdict_eq_error {stopped cut : Bool} {problem : ReceiverFailure} :
    verdict stopped cut failure = .error problem ↔
      stopped = false ∧ cut = false ∧ failure.isCleanClose = false ∧ .decode failure = problem := by
  cases stopped with
  | true => simp [verdict]
  | false =>
    cases cut with
    | true => simp [verdict]
    | false => cases hclean : failure.isCleanClose <;> simp [verdict, hclean]

/-- The reason and the totals that a session reports. -/
theorem Course.of_ok {looks : Nat} {stats : Stats}
    (hcourse : Course shutdown looks stats consumer receiver frames failure run)
    (hresult : run.result = .ok summary) :
    verdict (!Consumer.wantsMore consumer run.handed)
        (!shutdown.leaves (looks + receiver.decoder.looksFor (run.handed.length + 1))) failure =
      .ok summary.reason ∧
    summary = {
      reason := summary.reason
      frames := stats.frames + run.handed.length
      payloadBytes := stats.payloadBytes + (run.handed.map (·.payload.length)).sum
      skippedBytes := run.receiver.decoder.skipped } := by
  have hverdict := hcourse.result.symm.trans hresult
  cases hreason : verdict _ _ failure with
  | error problem =>
    rw [hreason] at hverdict
    cases hverdict
  | ok reason =>
    rw [hreason] at hverdict
    cases hverdict
    exact ⟨rfl, rfl⟩

/-- A session fails just when the first failure of the stream is not a clean close, and neither its
consumer nor a shutdown keeps it from meeting that failure. -/
theorem Course.failed_iff {stats : Stats}
    (hcourse : Course shutdown 0 stats consumer receiver frames failure run) :
    (∃ problem, run.result = .error problem) ↔
      failure.isCleanClose = false ∧ Consumer.wantsMore consumer frames = true ∧
        shutdown.leaves (receiver.decoder.looksFor (frames.length + 1)) = true := by
  have hresult := hcourse.result
  have hended := hcourse.ended
  obtain ⟨beyond, rfl⟩ := hcourse.handed
  rw [Nat.zero_add] at hresult hended
  constructor
  · rintro ⟨problem, hproblem⟩
    rw [hresult] at hproblem
    cases hverdict : verdict _ _ failure with
    | ok reason =>
      rw [hverdict] at hproblem
      cases hproblem
    | error cause =>
      obtain ⟨henough, hcut, hunclean, -⟩ := verdict_eq_error.1 hverdict
      simp only [Bool.not_eq_false'] at henough hcut
      rw [← (hended henough hcut).1]
      exact ⟨hunclean, henough, hcut⟩
  · rintro ⟨hunclean, hwants, htime⟩
    rw [Consumer.wantsMore_append, Bool.and_eq_true] at hwants
    have hlooks : receiver.decoder.looksFor (run.handed.length + 1) ≤
        receiver.decoder.looksFor ((run.handed ++ beyond).length + 1) := by
      apply receiver.decoder.looksFor_strictMono.monotone
      rw [List.length_append]
      omega
    refine ⟨.decode failure, ?_⟩
    have hverdict := verdict_eq_error.2 ⟨rfl, rfl, hunclean, rfl⟩
    rw [hresult, hwants.1, Shutdown.leaves_of_le hlooks htime, Bool.not_true, hverdict]
    rfl

/-- A session that is paused leaves the stream at the next frame. -/
theorem Course.left_of_paused {stats : Stats}
    (hcourse : Course shutdown 0 stats consumer receiver frames failure run)
    (hresult : run.result = .ok summary)
    (hpause : summary.reason = .consumerStopped ∨
      summary.reason = .shutdown ∧ ∃ count, shutdown = receiver.decoder.shutdownBefore count) :
    run.receiver = { receiver with decoder := (receiver.decoder.finishMany run.handed.length).2 } := by
  obtain ⟨hverdict, -⟩ := hcourse.of_ok hresult
  have hinTime := hcourse.inTime
  rw [Nat.zero_add] at hverdict hinTime
  apply hcourse.paused
  rw [Nat.zero_add]
  obtain hstopped | ⟨hshutdown, count, rfl⟩ := hpause
  · left
    rw [hstopped] at hverdict
    simpa using verdict_eq_stopped hverdict
  · right
    rw [hshutdown] at hverdict
    obtain ⟨-, hcut⟩ := verdict_eq_shutdown hverdict
    have hle := (receiver.decoder.leaves_shutdownBefore count run.handed.length).1 hinTime
    have hge : ¬run.handed.length + 1 ≤ count := by
      rw [← receiver.decoder.leaves_shutdownBefore]
      simpa using hcut
    have hcount : run.handed.length = count := by omega
    rw [hcount]
    exact receiver.decoder.cameBy_shutdownBefore count

end Receiver

variable {σ : Type} [Source σ]

/-- Several sessions hand on the first frames of the stream, and leave the rest of it. -/
theorem Paused.resumes {receiver later : Receiver σ} {sessions : List Session} {frames : List Frame}
    {failure : DecodeFailure} (hpaused : Paused receiver sessions later)
    (hends : receiver.decoder.EndsWith frames failure) :
    ∃ rest, frames = Session.allHanded sessions ++ rest ∧
      receiver.decoder.Brings (Session.allHanded sessions) later.decoder ∧
      later.decoder.EndsWith rest failure ∧ later.logEvery = receiver.logEvery := by
  induction hpaused with
  | none => exact ⟨frames, rfl, rfl, hends, rfl⟩
  | @more later sessions κ _ before shutdown consumer summary hresult hpause ih =>
    obtain ⟨rest, rfl, hbrings, hrest, hlogEvery⟩ := ih
    have hcourse := Receiver.run_course shutdown consumer hrest
    obtain ⟨beyond, rfl⟩ := hcourse.handed
    obtain ⟨left, hleft, hbeyond⟩ := Decoder.endsWith_append.1 hrest
    have hlater := hcourse.left_of_paused hresult hpause
    have hdecoder : (later.run shutdown consumer).receiver.decoder = left := by
      rw [hlater, hleft]
    refine ⟨beyond, ?_, ?_, ?_, ?_⟩
    · rw [Session.allHanded_concat, List.append_assoc]
    · rw [Session.allHanded_concat, hdecoder]
      exact hbrings.append hleft
    · rw [hdecoder]
      exact hbeyond
    · rw [hlater]
      exact hlogEvery

/-- A session hands its consumer the frames that successive calls bring, in their order and once each,
and none after the consumer had enough, a shutdown came, or a call failed. Which of these it was decides
the result, a shutdown before what the stream has to offer; it is a failure just when the first failing
call was not a clean close and neither of the others came earlier. Sessions that were stopped by their
consumers, or by shutdowns between two calls, hand on the first frames of the stream together, and the
next session starts with the next frame. -/
theorem Receiver.session_law (receiver : Receiver σ) :
    (∃ frames failure, receiver.decoder.EndsWith frames failure) ∧
    ∀ frames failure, receiver.decoder.EndsWith frames failure →
      (∀ {κ : Type} [Consumer κ] (shutdown : Shutdown) (consumer : κ),
        let run := receiver.run shutdown consumer
        let count := run.handed.length
        let enough := !Consumer.wantsMore consumer run.handed
        let cut := !shutdown.leaves (receiver.decoder.looksFor (count + 1))
        run.handed <+: frames ∧
          run.consumer = Consumer.after consumer run.handed ∧
          Consumer.wantsMore consumer run.handed.dropLast = true ∧
          shutdown.leaves (receiver.decoder.looksFor count) = true ∧
          (enough = false → cut = false → run.handed = frames) ∧
          run.result = (verdict enough cut failure).map (fun reason => {
            reason := reason
            frames := count
            payloadBytes := (run.handed.map (·.payload.length)).sum
            skippedBytes := run.receiver.decoder.skipped }) ∧
          ((∃ problem, run.result = .error problem) ↔
            failure.isCleanClose = false ∧ Consumer.wantsMore consumer frames = true ∧
              shutdown.leaves (receiver.decoder.looksFor (frames.length + 1)) = true) ∧
          ∀ bound, shutdown = receiver.decoder.shutdownBefore bound →
            count ≤ bound ∧ (cut = true ↔ count = bound)) ∧
      ∀ sessions later, Paused receiver sessions later →
        let handed := Session.allHanded sessions
        later.decoder = (receiver.decoder.finishMany handed.length).2 ∧
          (∃ rest, frames = handed ++ rest ∧ later.decoder.EndsWith rest failure) ∧
          ∀ {κ : Type} [Consumer κ] (shutdown : Shutdown) (consumer : κ),
            let last := later.run shutdown consumer
            handed ++ last.handed <+: frames ∧
              (Consumer.wantsMore consumer last.handed = true →
                shutdown.leaves (later.decoder.looksFor (last.handed.length + 1)) = true →
                  handed ++ last.handed = frames) := by
  refine ⟨receiver.decoder.exists_endsWith, fun frames failure hends => ⟨?_, ?_⟩⟩
  · intro κ _ shutdown consumer run count enough cut
    have hcourse := run_course shutdown consumer hends
    have hinTime := hcourse.inTime
    have hresult := hcourse.result
    have hended := hcourse.ended
    simp only [Nat.zero_add] at hinTime hresult hended
    have hall (henough : enough = false) (hcut : cut = false) : run.handed = frames :=
      (hended (by simpa [enough] using henough) (by simpa [cut] using hcut)).1
    refine ⟨hcourse.handed, hcourse.consumed, hcourse.wanted, hinTime, hall, hresult,
      hcourse.failed_iff, ?_⟩
    rintro bound rfl
    have hle := (receiver.decoder.leaves_shutdownBefore bound count).1 hinTime
    have hcut : cut = true ↔ ¬count + 1 ≤ bound := by
      rw [← receiver.decoder.leaves_shutdownBefore]
      simp [cut]
    rw [hcut]
    omega
  · intro sessions later hpaused handed
    obtain ⟨rest, rfl, hbrings, hrest, -⟩ := hpaused.resumes hends
    refine ⟨?_, ⟨rest, rfl, hrest⟩, ?_⟩
    · rw [hbrings]
    · intro κ _ shutdown consumer last
      have hcourse := run_course shutdown consumer hrest
      have hended := hcourse.ended
      rw [Nat.zero_add] at hended
      refine ⟨(List.prefix_append_right_inj handed).2 hcourse.handed, fun hwants htime => ?_⟩
      rw [(hended hwants htime).1]

/-- A shutdown comes before the second of two frames, and the session after it meets a header that is
cut off, just before its consumer would have enough. -/
theorem Receiver.session_law_of_two :
    let first : Frame := { sourceId := 0, frameId := 1, timestamp := 10, payload := [7] }
    let second : Frame := { sourceId := 0, frameId := 2, timestamp := 20, payload := [] }
    let bytes : Bytes := 0x55 :: first.onWire {} ++ second.onWire {} ++ [1]
    let script : Script := { events := [.data (bytes.take 40), .notReady, .data (bytes.drop 40)] }
    let decoder : Decoder Script := { source := script, recovery := .scan 2 }
    let receiver : Receiver Script := { decoder := decoder, logEvery := 120 }
    let run := receiver.run (decoder.shutdownBefore 1) ({} : PictureLog)
    let last := run.receiver.run none ({ wanted := 2 } : Quota)
    run.handed = [first] ∧ run.result = .ok ⟨.shutdown, 1, 1, run.receiver.decoder.skipped⟩ ∧
      last.handed = [second] ∧ ∃ problem, last.result = .error problem := by
  intro first second bytes script decoder receiver run last
  have hcarried : Script.wire script.events = Wire.ofBytes bytes := by decide
  have hends : decoder.EndsWith [first, second] (.closed .header 1 28) :=
    Decoder.endsWith_of_carries (hcarried ▸ script.carriesPolled) (by cbv)
  obtain ⟨-, hlaw⟩ := receiver.session_law
  obtain ⟨hsession, hsessions⟩ := hlaw _ _ hends
  obtain ⟨hfront, -, -, -, hended, hresult, -, hshutdown⟩ :=
    hsession (decoder.shutdownBefore 1) ({} : PictureLog)
  obtain ⟨hle, hcut⟩ := hshutdown 1 rfl
  have hone : run.handed.length = 1 := by
    by_contra hne
    have hnil : run.handed = [] :=
      List.length_eq_zero_iff.1 (Nat.lt_one_iff.1 (Nat.lt_of_le_of_ne hle hne))
    have hall : run.handed = [first, second] := by
      refine hended ?_ (Bool.eq_false_iff.2 fun h => hne (hcut.1 h))
      rw [hnil]
      rfl
    rw [hnil] at hall
    cases hall
  have hhanded : run.handed = [first] := by
    rw [List.prefix_iff_eq_take.1 hfront, hone]
    rfl
  have hstopped : run.result = .ok ⟨.shutdown, 1, 1, run.receiver.decoder.skipped⟩ := by
    rw [hresult, hcut.2 hone, hhanded]
    rfl
  have hpaused := Paused.more (.none receiver) _ ({} : PictureLog) hstopped (.inr ⟨rfl, 1, rfl⟩)
  obtain ⟨-, ⟨rest, hrest, hends'⟩, -⟩ := hsessions _ _ hpaused
  obtain rfl : [second] = rest := by
    simpa [Session.allHanded, run, hhanded] using hrest
  obtain ⟨-, hlaw'⟩ := run.receiver.session_law
  obtain ⟨hsession', -⟩ := hlaw' _ _ hends'
  obtain ⟨hfront', -, -, -, hended', -, hfailed, -⟩ := hsession' none ({ wanted := 2 } : Quota)
  have hmore : Consumer.wantsMore ({ wanted := 2 } : Quota) last.handed = true := by
    obtain ⟨beyond, hbeyond⟩ := hfront'
    cases hlast : last.handed with
    | nil => rfl
    | cons frame others =>
      rw [hlast] at hbeyond
      obtain ⟨rfl, -⟩ := List.append_eq_nil_iff.1 (List.tail_eq_of_cons_eq hbeyond)
      rfl
  exact ⟨hhanded, hstopped, hended' (by rw [hmore]; rfl) rfl, hfailed.2 ⟨rfl, rfl, rfl⟩⟩

end FramedVideo
