import FramedVideo.Proofs.Decode.Polling

/-!
# Calls that a shutdown may cut off

A call looks for a shutdown before each of its polls, so the looks of a call are a number that its
source decides. A shutdown that comes after the last of them changes nothing, and one that comes
earlier cuts the call off.

## Main definitions

- `Shutdown.leaves` — the shutdown leaves time for a number of looks
- `Decoder.looksFor` — the looks of a number of calls
- `Decoder.Brings` — a number of calls bring frames
- `Decoder.EndsWith` — the frames up to the first failure, and that failure

Main statements: `Decoder.await_of_leaves`, `Decoder.await_of_cut`, `Decoder.exists_endsWith`.
-/

namespace FramedVideo

open Transport (Source Wire CarriesPolled)

/-- The shutdown is not there at any of the first looks. -/
def Shutdown.leaves (shutdown : Shutdown) (looks : Nat) : Bool :=
  match shutdown with
  | some first => looks ≤ first
  | none => true

theorem Shutdown.cameBy_eq (shutdown : Shutdown) (look : Nat) :
    shutdown.cameBy look = !shutdown.leaves (look + 1) := by
  cases shutdown with
  | none => rfl
  | some first =>
    by_cases hle : first ≤ look
    · have hlate : ¬look + 1 ≤ first := by omega
      simp [cameBy, leaves, hle, hlate]
    · have hearly : look + 1 ≤ first := by omega
      simp [cameBy, leaves, hle, hearly]

theorem Shutdown.leaves_of_le {shutdown : Shutdown} {fewer looks : Nat} (hle : fewer ≤ looks)
    (h : shutdown.leaves looks = true) : shutdown.leaves fewer = true := by
  cases shutdown with
  | none => rfl
  | some first =>
    simp only [leaves, decide_eq_true_eq] at h ⊢
    omega

namespace Decoder

variable {σ : Type} [Source σ]

-- ════════════════════════════════════════════════════════════════════════
-- One call
-- ════════════════════════════════════════════════════════════════════════

theorem await_of_ended {shutdown : Shutdown} {looks : Nat} {call call' : Call}
    {decoder left : Decoder σ} {answer : Except DecodeFailure Frame} {log : List Log.Line}
    (hnot : ¬shutdown.cameBy looks = true) (hpoll : poll call decoder = ⟨some answer, call', left, log⟩) :
    decoder.await shutdown looks call = ⟨some answer, left, looks + 1, log⟩ := by
  rw [await, if_neg hnot]
  split <;> rename_i hpoll' <;> rw [hpoll] at hpoll' <;> cases hpoll'
  rfl

theorem await_of_notReady {shutdown : Shutdown} {looks : Nat} {call call' : Call}
    {decoder left : Decoder σ} {log : List Log.Line} (hnot : ¬shutdown.cameBy looks = true)
    (hpoll : poll call decoder = ⟨none, call', left, log⟩) :
    decoder.await shutdown looks call =
      let later := left.await shutdown (looks + 1) call'
      { later with log := log ++ later.log } := by
  rw [await, if_neg hnot]
  split <;> rename_i hpoll' <;> rw [hpoll] at hpoll' <;> cases hpoll'
  rfl

/-- A shutdown that is there at the first look leaves the decoder as it was. -/
theorem await_of_came {shutdown : Shutdown} {looks : Nat} (call : Call) (decoder : Decoder σ)
    (hcame : shutdown.cameBy looks = true) :
    decoder.await shutdown looks call = ⟨none, decoder, looks + 1, []⟩ := by
  rw [await, if_pos hcame]

theorem looks_lt_await (looks : Nat) (call : Call) (decoder : Decoder σ) :
    looks < (decoder.await none looks call).looks := by
  fun_induction await none looks call decoder with
  | case1 looks call decoder hcame => exact absurd hcame Bool.false_ne_true
  | case2 looks => exact Nat.lt_succ_self looks
  | case3 looks call decoder hrunning call' left log hpoll later ih =>
    exact Nat.lt_of_succ_lt ih

/-- The looks before a call only add to its count. -/
theorem await_none_add (looks first : Nat) (call : Call) (decoder : Decoder σ) :
    decoder.await none (looks + first) call =
      let awaited := decoder.await none first call
      { awaited with looks := looks + awaited.looks } := by
  have hnot (look : Nat) : ¬Shutdown.cameBy none look = true := Bool.false_ne_true
  fun_induction await none first call decoder with
  | case1 first call decoder hcame => exact absurd hcame (hnot first)
  | case2 first call decoder hrunning answer call' left log hpoll =>
    rw [await_of_ended (hnot _) hpoll]
    rfl
  | case3 first call decoder hrunning call' left log hpoll later ih =>
    rw [await_of_notReady (hnot _) hpoll, Nat.add_assoc, ih]

theorem exists_answer (looks : Nat) (call : Call) (decoder : Decoder σ) :
    ∃ answer, (decoder.await none looks call).answer = some answer := by
  fun_induction await none looks call decoder with
  | case1 looks call decoder hcame => exact absurd hcame Bool.false_ne_true
  | case2 looks call decoder hrunning answer => exact ⟨answer, rfl⟩
  | case3 looks call decoder hrunning call' left log hpoll later ih => exact ih

/-- A shutdown that comes after the last look of a call changes nothing. -/
theorem await_of_leaves {shutdown : Shutdown} {looks : Nat} {call : Call} {decoder : Decoder σ}
    (h : shutdown.leaves (decoder.await none looks call).looks = true) :
    decoder.await shutdown looks call = decoder.await none looks call := by
  have hnot : ¬shutdown.cameBy looks = true := by
    rw [Shutdown.cameBy_eq, Shutdown.leaves_of_le (decoder.looks_lt_await looks call) h]
    exact Bool.false_ne_true
  fun_induction await none looks call decoder with
  | case1 looks call decoder hcame => exact absurd hcame Bool.false_ne_true
  | case2 looks call decoder hrunning answer call' left log hpoll => rw [await_of_ended hnot hpoll]
  | case3 looks call decoder hrunning call' left log hpoll later ih =>
    have hlater : ¬shutdown.cameBy (looks + 1) = true := by
      rw [Shutdown.cameBy_eq, Shutdown.leaves_of_le (left.looks_lt_await (looks + 1) call') h]
      exact Bool.false_ne_true
    rw [await_of_notReady hnot hpoll, ih h hlater]

/-- A shutdown that comes by the last look of a call cuts it off. -/
theorem await_of_cut {shutdown : Shutdown} {looks : Nat} {call : Call} {decoder : Decoder σ}
    (h : shutdown.leaves (decoder.await none looks call).looks = false) :
    (decoder.await shutdown looks call).answer = none := by
  fun_induction await none looks call decoder with
  | case1 looks call decoder hcame => exact absurd hcame Bool.false_ne_true
  | case2 looks call decoder hrunning answer call' left log hpoll =>
    have hcame : shutdown.cameBy looks = true := by
      rw [Shutdown.cameBy_eq, h]
      rfl
    rw [await_of_came call decoder hcame]
  | case3 looks call decoder hrunning call' left log hpoll later ih =>
    by_cases hcame : shutdown.cameBy looks = true
    · rw [await_of_came call decoder hcame]
    · rw [await_of_notReady hcame hpoll]
      exact ih h

-- ════════════════════════════════════════════════════════════════════════
-- Calls one after another
-- ════════════════════════════════════════════════════════════════════════

/-- The looks of a number of calls. -/
def looksFor : Nat → Decoder σ → Nat
  | 0, _ => 0
  | count + 1, decoder =>
    (decoder.finish .start).looks + (decoder.finish .start).decoder.looksFor count

theorem finishMany_add (first second : Nat) (decoder : Decoder σ) :
    decoder.finishMany (first + second) =
      let (answers, later) := decoder.finishMany first
      (answers ++ (later.finishMany second).1, (later.finishMany second).2) := by
  induction first generalizing decoder with
  | zero =>
    rw [Nat.zero_add]
    rfl
  | succ first ih =>
    rw [Nat.add_right_comm, finishMany, ih]
    rfl

theorem length_finishMany (count : Nat) (decoder : Decoder σ) :
    (decoder.finishMany count).1.length = count := by
  induction count generalizing decoder with
  | zero => rfl
  | succ count ih => exact congrArg (· + 1) (ih _)

theorem looksFor_succ (count : Nat) (decoder : Decoder σ) :
    decoder.looksFor (count + 1) =
      decoder.looksFor count + ((decoder.finishMany count).2.finish .start).looks := by
  induction count generalizing decoder with
  | zero => exact Nat.add_comm _ _
  | succ count ih =>
    rw [looksFor, ih, looksFor, finishMany, Nat.add_assoc]

theorem looksFor_lt_succ (count : Nat) (decoder : Decoder σ) :
    decoder.looksFor count < decoder.looksFor (count + 1) := by
  have hpos : 0 < ((decoder.finishMany count).2.finish .start).looks :=
    (decoder.finishMany count).2.looks_lt_await 0 .start
  rw [looksFor_succ]
  omega

/-- As many calls as there are frames bring them, in their order, and leave a decoder. -/
def Brings (decoder : Decoder σ) (frames : List Frame) (left : Decoder σ) : Prop :=
  decoder.finishMany frames.length = (frames.map fun frame => some (.ok frame), left)

/-- The calls bring these frames, and the one after them fails. -/
def EndsWith (decoder : Decoder σ) (frames : List Frame) (failure : DecodeFailure) : Prop :=
  ∃ left, decoder.Brings frames left ∧ (left.finish .start).answer = some (.error failure)

theorem brings_cons {decoder left : Decoder σ} {frame : Frame} {frames : List Frame} :
    decoder.Brings (frame :: frames) left ↔
      (decoder.finish .start).answer = some (.ok frame) ∧
        (decoder.finish .start).decoder.Brings frames left := by
  simp only [Brings, List.length_cons, finishMany, List.map_cons, List.cons.injEq, and_assoc,
    Prod.ext_iff]

theorem endsWith_cons {decoder : Decoder σ} {frame : Frame} {frames : List Frame}
    {failure : DecodeFailure} :
    decoder.EndsWith (frame :: frames) failure ↔
      (decoder.finish .start).answer = some (.ok frame) ∧
        (decoder.finish .start).decoder.EndsWith frames failure := by
  simp only [EndsWith, brings_cons, and_assoc, exists_and_left]

theorem endsWith_append {decoder : Decoder σ} {front frames : List Frame} {failure : DecodeFailure} :
    decoder.EndsWith (front ++ frames) failure ↔
      ∃ left, decoder.Brings front left ∧ left.EndsWith frames failure := by
  induction front generalizing decoder with
  | nil =>
    constructor
    · intro hends
      exact ⟨decoder, rfl, hends⟩
    · rintro ⟨left, hbrings, hends⟩
      cases hbrings
      exact hends
  | cons frame front ih =>
    simp only [List.cons_append, endsWith_cons, brings_cons, ih, and_assoc, exists_and_left]

theorem endsWith_iff {decoder : Decoder σ} {frames : List Frame} {failure : DecodeFailure} :
    decoder.EndsWith frames failure ↔
      (decoder.finishMany (frames.length + 1)).1 =
        frames.map (fun frame => some (.ok frame)) ++ [some (.error failure)] := by
  rw [finishMany_add]
  constructor
  · rintro ⟨left, hbrings, hanswer⟩
    rw [hbrings]
    simp only [finishMany, hanswer]
  · intro hanswers
    have hlength : (decoder.finishMany frames.length).1.length =
        (frames.map fun frame => some (Except.ok (ε := DecodeFailure) frame)).length := by
      rw [length_finishMany, List.length_map]
    obtain ⟨hframes, hlast⟩ := List.append_inj hanswers hlength
    exact ⟨_, Prod.ext hframes rfl, List.head_eq_of_cons_eq hlast⟩

/-- A source that brings a wire to polls brings the frames of the wire, and its failure. -/
theorem endsWith_of_carries {decoder : Decoder σ} {carried : Wire} {frames : List Frame}
    {failure : DecodeFailure} (hsource : CarriesPolled decoder.source carried)
    (hwire : ((decoder.onto carried).nextMany (frames.length + 1)).1 =
      frames.map .ok ++ [.error failure]) :
    decoder.EndsWith frames failure := by
  obtain ⟨hanswers, -, -⟩ := finishMany_of_carries hsource (Prod.ext hwire rfl)
  rw [endsWith_iff, hanswers]
  simp

theorem Brings.append {decoder later left : Decoder σ} {front frames : List Frame}
    (hfront : decoder.Brings front later) (hframes : later.Brings frames left) :
    decoder.Brings (front ++ frames) left := by
  rw [Brings] at hfront hframes
  rw [Brings, List.length_append, finishMany_add, hfront]
  simp only [hframes, List.map_append]

/-- Sooner or later a call fails. -/
theorem exists_endsWith (decoder : Decoder σ) :
    ∃ frames failure, decoder.EndsWith frames failure := by
  obtain ⟨answer, hanswer⟩ := decoder.exists_answer 0 .start
  cases answer with
  | error failure => exact ⟨[], failure, decoder, rfl, hanswer⟩
  | ok frame =>
    have hlt := extent_await_start_ok none 0 decoder frame hanswer
    obtain ⟨frames, failure, hends⟩ := exists_endsWith (decoder.finish .start).decoder
    exact ⟨frame :: frames, failure, endsWith_cons.2 ⟨hanswer, hends⟩⟩
termination_by Source.extent decoder.source

end Decoder

end FramedVideo
