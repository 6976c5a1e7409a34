import FramedVideo.Proofs.Decode.Carried
import FramedVideo.Proofs.Decode.Dropped
import FramedVideo.Proofs.Decode.Scripted
import FramedVideo.Proofs.Receive.Stopping

/-!
# What a shutdown loses

A shutdown drops the call that it comes upon, and with it the bytes that the call read. If there are
none, nothing is lost: the decoder goes on as if the call had never been made, and the sessions before
and after the shutdown hand on together what one session would.

Main statements: `Decoder.progress_of_nothing`, `Receiver.exists_dropped`, `Receiver.shutdown_law`.
-/

namespace FramedVideo

open Transport (Source Script Wire PartialRead)

-- ════════════════════════════════════════════════════════════════════════
-- A call that read nothing
-- ════════════════════════════════════════════════════════════════════════

/-- A call that read nothing has not skipped anything. -/
theorem Protocol.Unfinished.eq_zero {protocol : Protocol} {recovery : Recovery} {skipped : Nat}
    (h : protocol.Unfinished recovery [] skipped) : skipped = 0 := by
  cases h with
  | header => rfl
  | search => rfl
  | payload hheader hshort => exact absurd hheader.whole (by simp [Header.size])

namespace Decoder

/-- A decoder on what is left of a script that handed out nothing brings what it would have brought. -/
theorem progress_of_nothing {decoder : Decoder Script} {left : Script}
    (hnothing : decoder.source.HandsOut [] left) (count : Nat) :
    progress ({ decoder with source := left }.finishMany count) =
      progress (decoder.finishMany count) := by
  have hwire : Script.wire left.events = Script.wire decoder.source.events :=
    hnothing.passes.wire_eq.symm
  have htotal : totalBytes left = totalBytes decoder.source := by
    rw [totalBytes, totalBytes, hwire, hnothing.position, List.length_nil, Nat.add_zero]
  rw [progress_finishMany, progress_finishMany]
  dsimp only
  rw [hwire, htotal]
  rfl

theorem endsWith_of_progress {decoder other : Decoder Script} {frames : List Frame}
    {failure : DecodeFailure}
    (hsame : ∀ count, progress (other.finishMany count) = progress (decoder.finishMany count))
    (hends : decoder.EndsWith frames failure) : other.EndsWith frames failure := by
  rw [endsWith_iff] at hends ⊢
  rw [← hends]
  exact (Prod.mk.inj (hsame (frames.length + 1))).1

/-- A call that is dropped before it read anything might as well not have been made. -/
theorem progress_of_dropped {decoder : Decoder Script} {shutdown : Shutdown} {looks : Nat}
    (hdropped : (decoder.await shutdown looks .start).answer = none)
    (hposition : (decoder.await shutdown looks .start).decoder.source.position =
      decoder.source.position) (count : Nat) :
    progress ((decoder.await shutdown looks .start).decoder.finishMany count) =
      progress (decoder.finishMany count) := by
  obtain ⟨delivered, skipped, hhanded, hunfinished, hleft⟩ := await_of_dropped hdropped
  have hnothing : delivered = [] := by
    have hmoved := hhanded.position
    exact List.length_eq_zero_iff.1 (by omega)
  subst hnothing
  cases hunfinished.eq_zero
  rw [hleft]
  exact progress_of_nothing hhanded count

end Decoder

-- ════════════════════════════════════════════════════════════════════════
-- The call that a shutdown drops
-- ════════════════════════════════════════════════════════════════════════

section Source

variable {σ κ : Type} [Source σ] [Consumer κ]

theorem Decoder.await_of_answered {decoder : Decoder σ} {shutdown : Shutdown} {looks : Nat}
    {answer : Except DecodeFailure Frame}
    (hanswer : (decoder.await shutdown looks .start).answer = some answer) :
    (decoder.await shutdown looks .start).decoder = (decoder.finish .start).decoder := by
  by_cases hleaves : shutdown.leaves (decoder.await none looks .start).looks = true
  · rw [await_of_leaves hleaves, ← Nat.add_zero looks, await_none_add]
    rfl
  · rw [await_of_cut (Bool.eq_false_iff.2 hleaves)] at hanswer
    cases hanswer

/-- A session that ends with a shutdown leaves the decoder that the dropped call leaves. -/
theorem Receiver.exists_dropped (shutdown : Shutdown) (looks : Nat) (stats : Stats) (consumer : κ)
    (receiver : Receiver σ) {summary : Summary}
    (hresult : (receiver.proceed shutdown looks stats consumer).result = .ok summary)
    (hreason : summary.reason = .shutdown) :
    let run := receiver.proceed shutdown looks stats consumer
    let before := (receiver.decoder.finishMany run.handed.length).2
    ∃ looks', (before.await shutdown looks' .start).answer = none ∧
      run.receiver.decoder = (before.await shutdown looks' .start).decoder := by
  fun_induction proceed shutdown looks stats consumer receiver with
  | case1 looks stats consumer receiver left looks' log hawait =>
    refine ⟨looks, congrArg Awaited.answer hawait, ?_⟩
    exact (congrArg Awaited.decoder hawait).symm
  | case2 looks stats consumer receiver failure left looks' log hawait =>
    unfold failing at hresult
    split at hresult <;> cases hresult
    cases hreason
  | case3 looks stats consumer receiver frame left looks' log hawait later ih =>
    obtain rfl : left = (receiver.decoder.finish .start).decoder :=
      (congrArg Awaited.decoder hawait).symm.trans
        (Decoder.await_of_answered (congrArg Awaited.answer hawait))
    cases hverdict : (Consumer.handle frame consumer).verdict with
    | stop =>
      simp only [later, attend, hverdict] at hresult
      cases hresult
      cases hreason
    | goOn =>
      simp only [later, attend, hverdict] at hresult ⊢
      exact ih _ _ hresult

end Source

/-- A call that is polled some times and then dropped has taken some bytes from the script, which do not
make a whole frame. The decoder has lost these bytes and nothing else: it keeps the rest of the script
and its rules, counts the garbage that the call has skipped, and does from then on whatever a new decoder
does on the rest of the script. If the call has not read any byte, calls that are polled to their ends
bring the same answers, after the same bytes, with the same count of skipped ones, as if the dropped
call had not been made. So it is for a session: if the shutdown comes when no byte of the next frame was
read, later sessions hand on all the other frames. -/
theorem Receiver.shutdown_law (decoder : Decoder Script) :
    (∀ polls, (decoder.await (some polls) 0 .start).answer = none →
      let left := (decoder.await (some polls) 0 .start).decoder
      ∃ delivered skipped, decoder.source.HandsOut delivered left.source ∧
        decoder.protocol.Unfinished decoder.recovery delivered skipped ∧
        left = { decoder with source := left.source, skipped := decoder.skipped + skipped } ∧
        (∀ shutdowns,
          let afresh := left.fresh.attempts shutdowns
          left.attempts shutdowns =
            (afresh.1, afresh.2.carried (.following left.source) left.skipped)) ∧
        (delivered = [] → ∀ count,
          Decoder.progress (left.finishMany count) = Decoder.progress (decoder.finishMany count))) ∧
    ∀ {κ : Type} [Consumer κ] (logEvery : Nat) (shutdown : Shutdown) (consumer : κ) (summary : Summary),
      let receiver : Receiver Script := ⟨decoder, logEvery⟩
      let run := receiver.run shutdown consumer
      let before := (decoder.finishMany run.handed.length).2
      let left := run.receiver.decoder
      run.result = .ok summary → summary.reason = .shutdown →
        left.source.position = before.source.position →
          (∀ count,
            Decoder.progress (left.finishMany count) = Decoder.progress (before.finishMany count)) ∧
          ∀ frames failure, decoder.EndsWith frames failure →
            ∃ rest, frames = run.handed ++ rest ∧ left.EndsWith rest failure ∧
              ∀ {κ : Type} [Consumer κ] (consumer : κ),
                let later := run.receiver.run none consumer
                later.handed <+: rest ∧
                  (Consumer.wantsMore consumer later.handed = true → later.handed = rest) := by
  constructor
  · intro polls hdropped left
    obtain ⟨delivered, skipped, hhanded, hunfinished, hleft⟩ := Decoder.await_of_dropped hdropped
    refine ⟨delivered, skipped, hhanded, hunfinished, hleft, left.attempts_fresh, ?_⟩
    rintro rfl count
    exact Decoder.progress_of_dropped hdropped hhanded.position count
  · intro κ _ logEvery shutdown consumer summary receiver run before left hresult hreason hposition
    obtain ⟨looks, hdropped, hleft⟩ := receiver.exists_dropped shutdown 0 {} consumer hresult hreason
    have hsame (count : Nat) : Decoder.progress (left.finishMany count) =
        Decoder.progress (before.finishMany count) := by
      have hnothing := Decoder.progress_of_dropped hdropped (hleft ▸ hposition) count
      rwa [← hleft] at hnothing
    refine ⟨hsame, fun frames failure hends => ?_⟩
    have hcourse : Course shutdown 0 {} consumer receiver frames failure run :=
      run_course shutdown consumer hends
    obtain ⟨rest, rfl⟩ := hcourse.handed
    obtain ⟨later, hbrings, hrest⟩ := Decoder.endsWith_append.1 hends
    have hbefore : before = later := congrArg Prod.snd hbrings
    rw [← hbefore] at hrest
    have hleftRest := Decoder.endsWith_of_progress hsame hrest
    refine ⟨rest, rfl, hleftRest, fun consumer => ?_⟩
    have hlater : Course none 0 {} consumer run.receiver rest failure _ :=
      run_course none consumer hleftRest
    exact ⟨hlater.handed, fun hwants => (hlater.ended hwants rfl).1⟩

/-- A call is dropped before it read anything, another one after the first byte, and a shutdown comes
before anything was read. -/
theorem Receiver.shutdown_law_of_pending :
    let frame : Frame := { sourceId := 0, frameId := 1, timestamp := 10, payload := [7] }
    let bytes : Bytes := frame.onWire {}
    let events : List Script.Event := [.data [0x47], .notReady, .data (bytes.drop 1)]
    let decoder : Decoder Script := { source := { events := .notReady :: events } }
    let early := decoder.await (some 1) 0 .start
    let late := decoder.await (some 2) 0 .start
    let run := Receiver.run (some 1) ({} : PictureLog) ⟨decoder, 120⟩
    (early.answer = none ∧ Decoder.progress (early.decoder.finishMany 2) =
      ([some (.ok frame), some (.error (.closed .header 0 28))], 29, 0)) ∧
    (late.answer = none ∧ ∃ delivered, delivered.length = 1 ∧
      decoder.source.HandsOut delivered late.decoder.source ∧
      decoder.protocol.Unfinished decoder.recovery delivered 0) ∧
    (run.receiver.run none ({} : PictureLog)).handed = [frame] := by
  intro frame bytes events decoder early late run
  let started : Decoder Script := { decoder with source := ⟨events, 0, 1⟩ }
  let cut : Decoder Script := { decoder with source := ⟨[.data (bytes.drop 1)], 1, 3⟩ }
  have hfirst : decoder.poll .start = ⟨none, .start, started, []⟩ := by
    have hread : (PartialRead.start Header.size).poll decoder.source =
        ⟨none, .start Header.size, started.source⟩ := PartialRead.poll_of_notReady (by decide) rfl
    simp only [Decoder.poll, Call.start, Decoder.pollHeader, hread]
    rfl
  have hsecond : started.poll .start = ⟨none, .header ⟨27, [0x47]⟩, cut, []⟩ := by
    let later : PartialRead := (PartialRead.start Header.size).receive [0x47]
    let behind : Script := ⟨events.tail, 1, 2⟩
    have hpiece : (PartialRead.start Header.size).poll started.source = later.poll behind :=
      PartialRead.poll_of_piece (by decide) rfl
    have hread : later.poll behind = ⟨none, later, cut.source⟩ :=
      PartialRead.poll_of_notReady (by decide) rfl
    simp only [Decoder.poll, Call.start, Decoder.pollHeader, hpiece, hread]
    rfl
  have hearly : early = ⟨none, started, 2, []⟩ := by
    rw [show early = _ from Decoder.await_of_notReady (by decide) hfirst, Decoder.await_of_came _ _ rfl]
    rfl
  have hlate : late = ⟨none, cut, 3, []⟩ := by
    rw [show late = _ from Decoder.await_of_notReady (by decide) hfirst,
      Decoder.await_of_notReady (by decide) hsecond, Decoder.await_of_came _ _ rfl]
    rfl
  have hrun : run = Receiver.ending .shutdown {} {} ⟨started, 120⟩ [] := by
    rw [show run = _ from Receiver.proceed_eq _ _, show decoder.await (some 1) 0 .start = _ from hearly]
  have hcarried : Script.wire decoder.source.events = Wire.ofBytes bytes := by decide
  have hends : decoder.EndsWith [frame] (.closed .header 0 28) :=
    Decoder.endsWith_of_carries (hcarried ▸ decoder.source.carriesPolled) (by decide +kernel)
  obtain ⟨hcalls, hsession⟩ := Receiver.shutdown_law decoder
  have hnoneEarly : early.answer = none := congrArg Awaited.answer hearly
  have hnoneLate : late.answer = none := congrArg Awaited.answer hlate
  refine ⟨⟨hnoneEarly, ?_⟩, ⟨hnoneLate, ?_⟩, ?_⟩
  · obtain ⟨delivered, skipped, hhanded, -, -, -, hsame⟩ := hcalls 1 hnoneEarly
    have hposition : 0 = 0 + delivered.length := by
      have hposition := hhanded.position
      rwa [show decoder.await (some 1) 0 .start = _ from hearly] at hposition
    rw [hsame (List.length_eq_zero_iff.1 (by omega)), Decoder.progress_finishMany]
    decide +kernel
  · obtain ⟨delivered, skipped, hhanded, hunfinished, hleft, -⟩ := hcalls 2 hnoneLate
    have hposition := hhanded.position
    have hskipped := congrArg Decoder.skipped hleft
    rw [show decoder.await (some 2) 0 .start = _ from hlate] at hposition hskipped
    have hone : 1 = 0 + delivered.length := hposition
    have hzero : 0 = 0 + skipped := hskipped
    obtain rfl : skipped = 0 := by omega
    exact ⟨delivered, by omega, hhanded, hunfinished⟩
  · have hleft : run.receiver.decoder = started := by rw [hrun]; rfl
    have hhanded : run.handed = [] := by rw [hrun]; rfl
    have hposition : run.receiver.decoder.source.position =
        (decoder.finishMany run.handed.length).2.source.position := by
      rw [hleft, hhanded]
      rfl
    obtain ⟨-, hrest⟩ := hsession 120 (some 1) ({} : PictureLog) ⟨.shutdown, 0, 0, 0⟩
      (congrArg Run.result hrun) rfl hposition
    obtain ⟨rest, hall, -, hlater⟩ := hrest _ _ hends
    obtain rfl : [frame] = rest := hall.trans (congrArg (· ++ rest) hhanded)
    obtain ⟨hfront, hwhole⟩ := hlater ({} : PictureLog)
    obtain hnone | ⟨others, hone, hothers⟩ := List.prefix_cons_iff.1 hfront
    · exact hwhole (by rw [hnone]; rfl)
    · rw [hone, List.prefix_nil.1 hothers]

end FramedVideo
