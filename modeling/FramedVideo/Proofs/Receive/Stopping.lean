import FramedVideo.Proofs.Decode.Waiting
import FramedVideo.Receive.Session
import Mathlib.Algebra.GroupWithZero.Nat

/-!
# How a session stops

A session hands on the frames of its calls, one after the other, until one of three things happens: the
consumer has enough, a shutdown comes before the next call is over, or a call fails. The first of them
decides, and a shutdown goes before what the stream has to offer.

## Main definitions

- `Consumer.after` — a consumer that was handed some frames
- `Consumer.wantsMore` — it wants more after each of them
- `Receiver.verdict` — how a session ends
- `Receiver.Course` — all that a session does

Main statements: `Receiver.proceed_course`, `Receiver.run_course`.
-/

namespace FramedVideo

open Transport (Source)

namespace Consumer

variable {κ : Type} [Consumer κ]

/-- The consumer once it was handed some frames, in their order. -/
def after (consumer : κ) (frames : List Frame) : κ :=
  frames.foldl (fun consumer frame => (Consumer.handle frame consumer).consumer) consumer

/-- The consumer wants more after each of some frames. -/
def wantsMore (consumer : κ) : List Frame → Bool
  | [] => true
  | frame :: frames =>
    let handled := Consumer.handle frame consumer
    handled.verdict = .goOn && wantsMore handled.consumer frames

theorem wantsMore_append (consumer : κ) (front frames : List Frame) :
    wantsMore consumer (front ++ frames) =
      (wantsMore consumer front && wantsMore (after consumer front) frames) := by
  induction front generalizing consumer with
  | nil => rfl
  | cons frame front ih =>
    simp only [List.cons_append, wantsMore, ih, Bool.and_assoc]
    rfl

end Consumer

namespace Receiver

/-- How a session ends. A consumer with enough goes before a shutdown, and that before a failure. -/
def verdict (stopped cut : Bool) (failure : DecodeFailure) : Except ReceiverFailure StopReason :=
  if stopped then .ok .consumerStopped
  else if cut then .ok .shutdown
  else if failure.isCleanClose then .ok .peerClosed
  else .error (.decode failure)

variable {σ κ : Type} [Source σ] [Consumer κ]

/-- What a session does from some point on, with totals so far, if the calls from there on bring some
frames and then a failure. -/
structure Course (shutdown : Shutdown) (looks : Nat) (stats : Stats) (consumer : κ)
    (receiver : Receiver σ) (frames : List Frame) (failure : DecodeFailure) (run : Run σ κ) : Prop where
  /-- The first frames are handed on, in their order. -/
  handed : run.handed <+: frames
  /-- The consumer is handed these frames and nothing else. -/
  consumed : run.consumer = Consumer.after consumer run.handed
  /-- It wants more after all of them but the last. -/
  wanted : Consumer.wantsMore consumer run.handed.dropLast = true
  /-- The shutdown leaves time for them. -/
  inTime : shutdown.leaves (looks + receiver.decoder.looksFor run.handed.length) = true
  /-- What stopped the session, and the totals at that point. -/
  result : run.result =
    (verdict (!Consumer.wantsMore consumer run.handed)
      (!shutdown.leaves (looks + receiver.decoder.looksFor (run.handed.length + 1))) failure).map
      fun reason => {
        reason := reason
        frames := stats.frames + run.handed.length
        payloadBytes := stats.payloadBytes + (run.handed.map (·.payload.length)).sum
        skippedBytes := run.receiver.decoder.skipped }
  /-- If neither the consumer nor the shutdown did, all frames are handed on, and one more call has
  failed. -/
  ended : Consumer.wantsMore consumer run.handed = true →
    shutdown.leaves (looks + receiver.decoder.looksFor (run.handed.length + 1)) = true →
      run.handed = frames ∧
        run.receiver =
          { receiver with decoder := (receiver.decoder.finishMany (run.handed.length + 1)).2 }
  /-- If the consumer did, or the shutdown before another call began, the stream is left at the next
  frame. -/
  paused : Consumer.wantsMore consumer run.handed = false ∨
      shutdown.cameBy (looks + receiver.decoder.looksFor run.handed.length) = true →
    run.receiver = { receiver with decoder := (receiver.decoder.finishMany run.handed.length).2 }

-- ════════════════════════════════════════════════════════════════════════
-- One call of a session
-- ════════════════════════════════════════════════════════════════════════

variable {shutdown : Shutdown} {looks : Nat} {receiver : Receiver σ}

theorem proceed_eq (stats : Stats) (consumer : κ) :
    receiver.proceed shutdown looks stats consumer =
      let awaited := receiver.decoder.await shutdown looks .start
      let left := { receiver with decoder := awaited.decoder }
      match awaited.answer with
      | none => ending .shutdown stats consumer left awaited.log
      | some (.error failure) => failing failure stats consumer left awaited.log
      | some (.ok frame) =>
        let attended := receiver.attend none frame stats consumer
        let handled := attended.2
        let later := match handled.verdict with
          | .stop => ending .consumerStopped attended.1 handled.consumer left handled.log
          | .goOn =>
            let rest := left.proceed shutdown awaited.looks attended.1 handled.consumer
            { rest with log := handled.log ++ rest.log }
        { later with handed := frame :: later.handed, log := awaited.log ++ later.log } := by
  rw [proceed]
  split <;> rename_i hawait <;> simp only [hawait]
  rename_i frame left looks' log
  cases receiver.attend none frame stats consumer with
  | mk stats' handled =>
    obtain ⟨verdict, lines, consumer'⟩ := handled
    cases verdict <;> rfl

theorem proceed_of_cut (stats : Stats) (consumer : κ)
    (hcut : shutdown.leaves (looks + (receiver.decoder.finish .start).looks) = false) :
    ∃ left log, receiver.proceed shutdown looks stats consumer =
        ending .shutdown stats consumer { receiver with decoder := left } log ∧
      (shutdown.cameBy looks = true → left = receiver.decoder) := by
  let awaited := receiver.decoder.await shutdown looks .start
  have hnone : awaited.answer = none := by
    refine Decoder.await_of_cut ?_
    rw [← Nat.add_zero looks, Decoder.await_none_add]
    exact hcut
  refine ⟨awaited.decoder, awaited.log, ?_, fun hcame => ?_⟩
  · simp only [proceed_eq, hnone, awaited]
  · simp only [awaited, Decoder.await_of_came _ _ hcame]

theorem await_of_inTime
    (htime : shutdown.leaves (looks + (receiver.decoder.finish .start).looks) = true) :
    receiver.decoder.await shutdown looks .start =
      let awaited := receiver.decoder.finish .start
      { awaited with looks := looks + awaited.looks } := by
  have hsame := receiver.decoder.await_none_add looks 0 .start
  rw [Nat.add_zero] at hsame
  rw [Decoder.await_of_leaves (hsame ▸ htime), hsame]
  rfl

theorem proceed_of_failure (stats : Stats) (consumer : κ) {failure : DecodeFailure}
    (htime : shutdown.leaves (looks + (receiver.decoder.finish .start).looks) = true)
    (hanswer : (receiver.decoder.finish .start).answer = some (.error failure)) :
    receiver.proceed shutdown looks stats consumer =
      failing failure stats consumer
        { receiver with decoder := (receiver.decoder.finish .start).decoder }
        (receiver.decoder.finish .start).log := by
  rw [proceed_eq, await_of_inTime htime]
  simp only [hanswer]

theorem proceed_of_frame (stats : Stats) (consumer : κ) {frame : Frame}
    (htime : shutdown.leaves (looks + (receiver.decoder.finish .start).looks) = true)
    (hanswer : (receiver.decoder.finish .start).answer = some (.ok frame)) :
    let handled := Consumer.handle frame consumer
    let left := { receiver with decoder := (receiver.decoder.finish .start).decoder }
    ∃ log, receiver.proceed shutdown looks stats consumer =
      let later := match handled.verdict with
        | .stop => ending .consumerStopped (stats.record frame) handled.consumer left []
        | .goOn => left.proceed shutdown (looks + (receiver.decoder.finish .start).looks)
            (stats.record frame) handled.consumer
      { later with handed := frame :: later.handed, log := log ++ later.log } := by
  intro handled left
  refine ⟨(receiver.decoder.finish .start).log ++ (receiver.attend none frame stats consumer).2.log, ?_⟩
  have hverdict : (receiver.attend none frame stats consumer).2.verdict = handled.verdict := rfl
  rw [proceed_eq, await_of_inTime htime]
  simp only [hanswer, hverdict]
  cases handled.verdict with
  | stop => simp [ending, attend, handled, left]
  | goOn => simp [attend, handled, left]

-- ════════════════════════════════════════════════════════════════════════
-- A session
-- ════════════════════════════════════════════════════════════════════════

variable {frames : List Frame} {failure : DecodeFailure} {frame : Frame}

theorem course_of_cut (stats : Stats) (consumer : κ) (hnow : shutdown.leaves looks = true)
    (hcut : shutdown.leaves (looks + (receiver.decoder.finish .start).looks) = false) :
    Course shutdown looks stats consumer receiver frames failure
      (receiver.proceed shutdown looks stats consumer) := by
  obtain ⟨left, log, hproceed, hleft⟩ := proceed_of_cut stats consumer hcut
  have hone : shutdown.leaves (looks + receiver.decoder.looksFor 1) = false := hcut
  rw [hproceed]
  constructor
  · exact List.nil_prefix
  · rfl
  · rfl
  · exact hnow
  · simp only [ending, List.length_nil, Nat.zero_add, hone]
    rfl
  · intro _ htime
    simp only [ending, List.length_nil, Nat.zero_add, hone] at htime
    cases htime
  · intro hpaused
    obtain henough | hcame := hpaused
    · cases henough
    · rw [hleft hcame]
      rfl

theorem course_of_failure (stats : Stats) (consumer : κ) (hnow : shutdown.leaves looks = true)
    (htime : shutdown.leaves (looks + (receiver.decoder.finish .start).looks) = true)
    (hanswer : (receiver.decoder.finish .start).answer = some (.error failure)) :
    Course shutdown looks stats consumer receiver [] failure
      (receiver.proceed shutdown looks stats consumer) := by
  have hone : shutdown.leaves (looks + receiver.decoder.looksFor 1) = true := htime
  have hnotYet : shutdown.cameBy looks = false := by
    have hpos := receiver.decoder.looks_lt_await 0 .start
    rw [Shutdown.cameBy_eq, Shutdown.leaves_of_le (Nat.add_le_add_left hpos looks) htime]
    rfl
  rw [proceed_of_failure stats consumer htime hanswer, failing]
  have hnotPaused : ¬(Consumer.wantsMore consumer [] = false ∨ shutdown.cameBy looks = true) := by
    rw [hnotYet]
    simp [Consumer.wantsMore]
  split <;> rename_i hclean
  · refine ⟨List.nil_prefix, rfl, rfl, hnow, ?_, fun _ _ => ⟨rfl, rfl⟩, (absurd · hnotPaused)⟩
    simp only [ending, List.length_nil, Nat.zero_add, hone, verdict, hclean]
    rfl
  · refine ⟨List.nil_prefix, rfl, rfl, hnow, ?_, fun _ _ => ⟨rfl, rfl⟩, (absurd · hnotPaused)⟩
    simp only [List.length_nil, Nat.zero_add, hone, verdict, hclean]
    rfl

theorem course_of_stop (stats : Stats) (consumer : κ)
    (htime : shutdown.leaves (looks + (receiver.decoder.finish .start).looks) = true)
    (hanswer : (receiver.decoder.finish .start).answer = some (.ok frame))
    (hstop : (Consumer.handle frame consumer).verdict = .stop) :
    Course shutdown looks stats consumer receiver (frame :: frames) failure
      (receiver.proceed shutdown looks stats consumer) := by
  obtain ⟨log, hproceed⟩ := proceed_of_frame stats consumer htime hanswer
  simp only [hstop] at hproceed
  have henough : Consumer.wantsMore consumer [frame] = false := by
    simp [Consumer.wantsMore, hstop]
  rw [hproceed]
  refine ⟨⟨frames, rfl⟩, rfl, rfl, htime, ?_, ?_, fun _ => rfl⟩
  · simp only [ending, henough, verdict]
    rfl
  · intro hmore
    exact absurd (hmore.symm.trans henough) Bool.noConfusion

/-- A frame after which the consumer wants more comes in front of what the session does then. -/
theorem Course.cons {stats : Stats} {consumer : κ} {rest : Run σ κ} (log : List Log.Line)
    (hgoOn : (Consumer.handle frame consumer).verdict = .goOn)
    (hrest : Course shutdown (looks + (receiver.decoder.finish .start).looks) (stats.record frame)
      (Consumer.handle frame consumer).consumer
      { receiver with decoder := (receiver.decoder.finish .start).decoder } frames failure rest) :
    Course shutdown looks stats consumer receiver (frame :: frames) failure
      { rest with handed := frame :: rest.handed, log := log ++ rest.log } := by
  have hmore (more : List Frame) : Consumer.wantsMore consumer (frame :: more) =
      Consumer.wantsMore (Consumer.handle frame consumer).consumer more := by
    simp [Consumer.wantsMore, hgoOn]
  have hlooks (count : Nat) : looks + receiver.decoder.looksFor (count + 1) =
      looks + (receiver.decoder.finish .start).looks +
        (receiver.decoder.finish .start).decoder.looksFor count := (Nat.add_assoc _ _ _).symm
  constructor
  · exact List.cons_prefix_cons.2 ⟨rfl, hrest.handed⟩
  · exact hrest.consumed
  · cases hhanded : rest.handed with
    | nil => rfl
    | cons next more =>
      have hwanted := hrest.wanted
      rw [hhanded] at hwanted
      exact (hmore _).trans hwanted
  · rw [List.length_cons, hlooks]
    exact hrest.inTime
  · rw [List.length_cons, hlooks, hmore, hrest.result]
    simp only [Stats.record, List.map_cons, List.sum_cons, Nat.add_assoc, Nat.add_comm 1]
  · rw [List.length_cons, hlooks, hmore]
    intro hwants htime
    obtain ⟨hhanded, hreceiver⟩ := hrest.ended hwants htime
    exact ⟨congrArg (frame :: ·) hhanded, hreceiver⟩
  · rw [List.length_cons, hlooks, hmore]
    exact hrest.paused

/-- So a session takes its course, whatever stops it. -/
theorem proceed_course (stats : Stats) (consumer : κ) (hnow : shutdown.leaves looks = true)
    (hends : receiver.decoder.EndsWith frames failure) :
    Course shutdown looks stats consumer receiver frames failure
      (receiver.proceed shutdown looks stats consumer) := by
  induction frames generalizing receiver looks stats consumer with
  | nil =>
    obtain ⟨left, hbrings, hanswer⟩ := hends
    cases hbrings
    by_cases htime : shutdown.leaves (looks + (receiver.decoder.finish .start).looks) = true
    · exact course_of_failure stats consumer hnow htime hanswer
    · exact course_of_cut stats consumer hnow (Bool.eq_false_iff.2 htime)
  | cons frame frames ih =>
    obtain ⟨hanswer, hends⟩ := Decoder.endsWith_cons.1 hends
    by_cases htime : shutdown.leaves (looks + (receiver.decoder.finish .start).looks) = true
    · cases hverdict : (Consumer.handle frame consumer).verdict with
      | stop => exact course_of_stop stats consumer htime hanswer hverdict
      | goOn =>
        obtain ⟨log, hproceed⟩ := proceed_of_frame stats consumer htime hanswer
        simp only [hverdict] at hproceed
        rw [hproceed]
        exact (ih _ _ htime hends).cons log hverdict
    · exact course_of_cut stats consumer hnow (Bool.eq_false_iff.2 htime)

theorem run_course (shutdown : Shutdown) (consumer : κ)
    (hends : receiver.decoder.EndsWith frames failure) :
    Course shutdown 0 {} consumer receiver frames failure (receiver.run shutdown consumer) := by
  have hnow : shutdown.leaves 0 = true := by
    cases shutdown with
    | none => rfl
    | some first => exact decide_eq_true (Nat.zero_le first)
  exact proceed_course {} consumer hnow hends

end Receiver

end FramedVideo
