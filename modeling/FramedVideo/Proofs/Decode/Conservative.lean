import FramedVideo.Proofs.Decode.Consumption
import FramedVideo.Proofs.Decode.Polling
import FramedVideo.Proofs.Decode.Waiting

/-!
# Decoders that would search

A decoder looks at its recovery after a faulty header, and nowhere else. Where a decoder without a
recovery meets no fault, one that would search does the same, up to the same place in the stream. A
search that may discard nothing leaves no trace, whatever the stream.

## Main definitions

- `Decoder.withRecovery` — the same decoder under another recovery
- `Call.searching` — the call is in a search
- `Decoder.Plain` — a poll changed nothing but the source

Main statements: `Decoder.next_withRecovery`, `Decoder.await_withRecovery`,
`Decoder.recovery_conservative`.
-/

namespace FramedVideo

open Transport (Source Script PartialRead readExact)

variable {σ : Type}

/-- The decoder under another recovery. -/
def Decoder.withRecovery (recovery : Recovery) (decoder : Decoder σ) : Decoder σ :=
  { decoder with recovery := recovery }

/-- A call is in a search. -/
def Call.searching : Call → Bool
  | search _ _ _ => true
  | _ => false

/-- What a poll leaves, under another recovery. -/
def Polled.withRecovery (recovery : Recovery) (polled : Polled σ) : Polled σ :=
  { polled with decoder := polled.decoder.withRecovery recovery }

/-- What a wait leaves, under another recovery. -/
def Awaited.withRecovery (recovery : Recovery) (awaited : Awaited σ) : Awaited σ :=
  { awaited with decoder := awaited.decoder.withRecovery recovery }

namespace Decoder

variable [Source σ] {recovery : Recovery} {decoder : Decoder σ}

-- ════════════════════════════════════════════════════════════════════════
-- Calls that wait
-- ════════════════════════════════════════════════════════════════════════

/-- Where nothing may be discarded, the search is over before it reads. -/
theorem recover_of_limit_eq_zero (fault : Fault) (rejected : Bytes) (decoder : Decoder σ)
    (hlimit : decoder.recovery.limit = 0) :
    recover fault rejected decoder = (.error (.fault fault), decoder) := by
  cases hrecovery : decoder.recovery with
  | disabled => exact recover_disabled fault rejected decoder hrecovery
  | scan limit =>
    rw [hrecovery] at hlimit
    rw [recover_scan fault rejected decoder hrecovery]
    exact search_of_exhausted fault decoder (Window.exhausted_eq_true.2 (Nat.le_of_eq hlimit))

omit [Source σ] in
theorem limit_of_disabled (hnever : decoder.recovery = .disabled) : decoder.recovery.limit = 0 :=
  hnever ▸ rfl

theorem next_of_disabled (hnever : decoder.recovery = .disabled) :
    decoder.next.2.recovery = .disabled ∧ decoder.next.2.skipped = decoder.skipped := by
  have hlimit := limit_of_disabled hnever
  have hcalled := decoder.called_next
  generalize decoder.next = called at hcalled ⊢
  cases hcalled with
  | noHeader => exact ⟨hnever, rfl⟩
  | cutOff => exact ⟨hnever, rfl⟩
  | gaveUp => exact ⟨hnever, congrArg (decoder.skipped + ·) hlimit⟩
  | noPayload hslid => exact ⟨hnever, congrArg (decoder.skipped + ·) (Nat.le_zero.1 (hlimit ▸ hslid))⟩
  | frame hslid => exact ⟨hnever, congrArg (decoder.skipped + ·) (Nat.le_zero.1 (hlimit ▸ hslid))⟩

theorem framePayload_withRecovery (header : Header) (recovery : Recovery) (decoder : Decoder σ) :
    (decoder.withRecovery recovery).framePayload header =
      (decoder.framePayload header).map id (withRecovery recovery) := by
  rw [framePayload_eq, framePayload_eq, withRecovery]
  cases readExact header.payloadSize.toNat decoder.source with
  | mk answer left => cases answer <;> rfl

theorem nextHeader_withRecovery (hnever : decoder.recovery = .disabled)
    (h : recovery.limit = 0 ∨ ∀ fault, decoder.nextHeader.1 ≠ .error (.fault fault)) :
    (decoder.withRecovery recovery).nextHeader =
      decoder.nextHeader.map id (withRecovery recovery) := by
  rw [nextHeader_eq] at h ⊢
  rw [nextHeader_eq, withRecovery]
  cases hread : readExact Header.size decoder.source with
  | mk answer left =>
    rw [hread] at h
    cases answer with
    | error failure => rfl
    | ok bytes =>
      simp only [headerRead] at h ⊢
      cases haccept : Header.accept decoder.protocol bytes with
      | ok header => rfl
      | error fault =>
        have hgaveUp := recover_disabled fault bytes { decoder with source := left } hnever
        simp only [haccept, hgaveUp] at h ⊢
        have hlimit : recovery.limit = 0 := h.resolve_right fun hno => hno fault rfl
        exact recover_of_limit_eq_zero fault bytes _ hlimit

/-- A recovery makes no difference to a call that meets no fault without it, and none at all if
nothing may be discarded. -/
theorem next_withRecovery (hnever : decoder.recovery = .disabled)
    (h : recovery.limit = 0 ∨ ∀ fault, decoder.next.1 ≠ .error (.fault fault)) :
    (decoder.withRecovery recovery).next = decoder.next.map id (withRecovery recovery) := by
  have hheader : recovery.limit = 0 ∨ ∀ fault, decoder.nextHeader.1 ≠ .error (.fault fault) := by
    refine h.imp_right fun hno fault hfault => hno fault ?_
    rw [next_eq, thenPayload.eq_def]
    cases hfirst : decoder.nextHeader with
    | mk answer left =>
      rw [hfirst] at hfault
      cases hfault
      rfl
  rw [next_eq, next_eq, nextHeader_withRecovery hnever hheader]
  cases decoder.nextHeader with
  | mk answer left =>
    cases answer with
    | error failure => rfl
    | ok header => exact framePayload_withRecovery header recovery left

theorem nextMany_of_disabled (hnever : decoder.recovery = .disabled) (count : Nat) :
    (decoder.nextMany count).2.skipped = decoder.skipped := by
  induction count generalizing decoder with
  | zero => rfl
  | succ count ih =>
    obtain ⟨hleft, hskipped⟩ := next_of_disabled hnever
    exact (ih hleft).trans hskipped

theorem nextMany_withRecovery (hnever : decoder.recovery = .disabled) {count : Nat}
    (h : recovery.limit = 0 ∨ ∀ fault, .error (.fault fault) ∉ (decoder.nextMany count).1) :
    (decoder.withRecovery recovery).nextMany count =
      (decoder.nextMany count).map id (withRecovery recovery) := by
  induction count generalizing decoder with
  | zero => rfl
  | succ count ih =>
    have hfirst := next_withRecovery hnever
      (h.imp_right fun hno fault hfault => hno fault (hfault ▸ List.mem_cons_self))
    have hrest := ih (next_of_disabled hnever).1
      (h.imp_right fun hno fault hfault => hno fault (List.mem_cons_of_mem _ hfault))
    simp only [nextMany, hfirst, Prod.map, id, hrest]

-- ════════════════════════════════════════════════════════════════════════
-- Calls that are polled
-- ════════════════════════════════════════════════════════════════════════

/-- Only the source has changed, and there is no search. -/
structure Plain (decoder : Decoder σ) (polled : Polled σ) : Prop where
  recovery_eq : polled.decoder.recovery = decoder.recovery
  skipped_eq : polled.decoder.skipped = decoder.skipped
  searching_eq : polled.call.searching = false

theorem plain_pollPayload (header : Header) (reading : PartialRead) (decoder : Decoder σ) :
    decoder.Plain (pollPayload header reading decoder) := by
  unfold pollPayload
  split <;> exact ⟨rfl, rfl, rfl⟩

theorem pollPayload_withRecovery (header : Header) (reading : PartialRead)
    (recovery : Recovery) (decoder : Decoder σ) :
    pollPayload header reading (decoder.withRecovery recovery) =
      (pollPayload header reading decoder).withRecovery recovery := by
  simp only [pollPayload, withRecovery]
  split <;> rfl

theorem pollRecover_of_limit_eq_zero (fault : Fault) (rejected : Bytes)
    (reading : PartialRead) (decoder : Decoder σ) (hlimit : decoder.recovery.limit = 0) :
    pollRecover fault rejected reading decoder =
      ⟨some (.error (.fault fault)), .header reading, decoder, []⟩ := by
  unfold pollRecover
  cases hrecovery : decoder.recovery with
  | disabled => rfl
  | scan limit =>
    rw [hrecovery] at hlimit
    exact if_pos (Window.exhausted_eq_true.2 (Nat.le_of_eq hlimit))

theorem pollHeader_of_accept {reading reading' : PartialRead} {left : σ} {header : Header}
    (hpoll : reading.poll decoder.source = ⟨some (.ok ()), reading', left⟩)
    (haccept : Header.accept decoder.protocol reading'.bytes = .ok header) :
    pollHeader reading decoder =
      pollPayload header (.start header.payloadSize.toNat) { decoder with source := left } := by
  rw [pollHeader, hpoll]
  dsimp only
  rw [haccept]

theorem pollHeader_of_fault {reading reading' : PartialRead} {left : σ} {fault : Fault}
    (hlimit : decoder.recovery.limit = 0)
    (hpoll : reading.poll decoder.source = ⟨some (.ok ()), reading', left⟩)
    (haccept : Header.accept decoder.protocol reading'.bytes = .error fault) :
    pollHeader reading decoder =
      ⟨some (.error (.fault fault)), .header reading', { decoder with source := left }, []⟩ := by
  rw [pollHeader, hpoll]
  dsimp only
  rw [haccept]
  exact pollRecover_of_limit_eq_zero fault reading'.bytes reading' _ hlimit

theorem plain_pollHeader (hnever : decoder.recovery = .disabled) (reading : PartialRead) :
    decoder.Plain (pollHeader reading decoder) := by
  match hpoll : reading.poll decoder.source with
  | ⟨none, reading', left⟩ =>
    rw [pollHeader, hpoll]
    exact ⟨rfl, rfl, rfl⟩
  | ⟨some (.error failure), reading', left⟩ =>
    rw [pollHeader, hpoll]
    exact ⟨rfl, rfl, rfl⟩
  | ⟨some (.ok ()), reading', left⟩ =>
    cases haccept : Header.accept decoder.protocol reading'.bytes with
    | ok header =>
      rw [pollHeader_of_accept hpoll haccept]
      obtain ⟨hrecovery, hskipped, hsearching⟩ := plain_pollPayload header
        (.start header.payloadSize.toNat) { decoder with source := left }
      exact ⟨hrecovery, hskipped, hsearching⟩
    | error fault =>
      rw [pollHeader_of_fault (limit_of_disabled hnever) hpoll haccept]
      exact ⟨rfl, rfl, rfl⟩

theorem pollHeader_withRecovery (hnever : decoder.recovery = .disabled) {reading : PartialRead}
    (h : recovery.limit = 0 ∨
      ∀ fault, (pollHeader reading decoder).ended ≠ some (.error (.fault fault))) :
    pollHeader reading (decoder.withRecovery recovery) =
      (pollHeader reading decoder).withRecovery recovery := by
  match hpoll : reading.poll decoder.source with
  | ⟨none, reading', left⟩ =>
    rw [pollHeader, pollHeader, withRecovery, hpoll]
    rfl
  | ⟨some (.error failure), reading', left⟩ =>
    rw [pollHeader, pollHeader, withRecovery, hpoll]
    rfl
  | ⟨some (.ok ()), reading', left⟩ =>
    cases haccept : Header.accept decoder.protocol reading'.bytes with
    | ok header =>
      rw [pollHeader_of_accept hpoll haccept]
      refine Eq.trans ?_ (pollPayload_withRecovery header _ recovery { decoder with source := left })
      exact pollHeader_of_accept hpoll haccept
    | error fault =>
      have hgaveUp := pollHeader_of_fault (limit_of_disabled hnever) hpoll haccept
      have hlimit : recovery.limit = 0 :=
        h.resolve_right fun hno => hno fault (congrArg Polled.ended hgaveUp)
      rw [hgaveUp]
      exact pollHeader_of_fault hlimit hpoll haccept

theorem plain_poll (hnever : decoder.recovery = .disabled) {call : Call}
    (hcall : call.searching = false) : decoder.Plain (poll call decoder) := by
  cases call with
  | header reading => exact plain_pollHeader hnever reading
  | search fault window reading => cases hcall
  | payload header reading => exact plain_pollPayload header reading decoder

theorem poll_withRecovery (hnever : decoder.recovery = .disabled) {call : Call}
    (hcall : call.searching = false)
    (h : recovery.limit = 0 ∨ ∀ fault, (poll call decoder).ended ≠ some (.error (.fault fault))) :
    poll call (decoder.withRecovery recovery) = (poll call decoder).withRecovery recovery := by
  cases call with
  | header reading => exact pollHeader_withRecovery hnever h
  | search fault window reading => cases hcall
  | payload header reading => exact pollPayload_withRecovery header reading recovery decoder

theorem await_of_disabled (hnever : decoder.recovery = .disabled) (shutdown : Shutdown) (looks : Nat)
    (call : Call) (hcall : call.searching = false) :
    let awaited := decoder.await shutdown looks call
    awaited.decoder.recovery = .disabled ∧ awaited.decoder.skipped = decoder.skipped := by
  fun_induction await shutdown looks call decoder with
  | case1 looks call decoder hcame => exact ⟨hnever, rfl⟩
  | case2 looks call decoder hrunning answer call' left log hpoll =>
    have hplain := plain_poll hnever hcall
    rw [hpoll] at hplain
    exact ⟨hplain.recovery_eq.trans hnever, hplain.skipped_eq⟩
  | case3 looks call decoder hrunning call' left log hpoll later ih =>
    have hplain := plain_poll hnever hcall
    rw [hpoll] at hplain
    obtain ⟨hrecovery, hskipped⟩ := ih (hplain.recovery_eq.trans hnever) hplain.searching_eq
    exact ⟨hrecovery, hskipped.trans hplain.skipped_eq⟩

/-- A recovery makes no difference to a call that is polled, as long as it meets no fault without it. -/
theorem await_withRecovery (hnever : decoder.recovery = .disabled) (shutdown : Shutdown) (looks : Nat)
    (call : Call) (hcall : call.searching = false)
    (h : recovery.limit = 0 ∨
      ∀ fault, (decoder.await shutdown looks call).answer ≠ some (.error (.fault fault))) :
    (decoder.withRecovery recovery).await shutdown looks call =
      (decoder.await shutdown looks call).withRecovery recovery := by
  fun_induction await shutdown looks call decoder with
  | case1 looks call decoder hcame => exact await_of_came call _ hcame
  | case2 looks call decoder hrunning answer call' left log hpoll =>
    have hsame := poll_withRecovery hnever hcall (h.imp_right fun hno => hpoll ▸ hno)
    rw [hpoll] at hsame
    exact await_of_ended hrunning hsame
  | case3 looks call decoder hrunning call' left log hpoll later ih =>
    have hplain := plain_poll hnever hcall
    have hnone (fault : Fault) : (poll call decoder).ended ≠ some (.error (.fault fault)) := by
      rw [hpoll]
      exact (Option.some_ne_none _).symm
    have hsame : poll call (decoder.withRecovery recovery) = _ :=
      poll_withRecovery hnever hcall (.inr hnone)
    rw [hpoll] at hplain hsame
    have hlater := ih (hplain.recovery_eq.trans hnever) hplain.searching_eq h
    refine (await_of_notReady hrunning hsame).trans ?_
    rw [hlater]
    rfl

theorem finishMany_of_disabled (hnever : decoder.recovery = .disabled) (count : Nat) :
    (decoder.finishMany count).2.skipped = decoder.skipped := by
  induction count generalizing decoder with
  | zero => rfl
  | succ count ih =>
    obtain ⟨hleft, hskipped⟩ := await_of_disabled hnever none 0 .start rfl
    exact (ih hleft).trans hskipped

theorem finishMany_withRecovery (hnever : decoder.recovery = .disabled) {count : Nat}
    (h : recovery.limit = 0 ∨ ∀ fault, some (.error (.fault fault)) ∉ (decoder.finishMany count).1) :
    (decoder.withRecovery recovery).finishMany count =
      (decoder.finishMany count).map id (withRecovery recovery) := by
  induction count generalizing decoder with
  | zero => rfl
  | succ count ih =>
    have hfirst := await_withRecovery hnever none 0 .start rfl
      (h.imp_right fun hno fault hfault => hno fault (hfault ▸ List.mem_cons_self))
    have hrest := ih (await_of_disabled hnever none 0 .start rfl).1
      (h.imp_right fun hno fault hfault => hno fault (List.mem_cons_of_mem _ hfault))
    simp only [finishMany, finish, hfirst, Awaited.withRecovery, Prod.map, id] at hrest ⊢
    rw [hrest]

/-- As long as a decoder that never searches meets no fault, one that searches gives the same answers,
call after call, stands at the same place in the stream after each of them, and has skipped nothing. One
that may discard no byte does so on every stream, also after faults. Both hold for calls that wait and
for calls that are polled. -/
theorem recovery_conservative (source : σ) (protocol : Protocol) (limit count : Nat) :
    let never : Decoder σ := { source, protocol }
    let waited := never.nextMany count
    let polled := never.finishMany count
    let searching := never.withRecovery (.scan limit)
    let narrow := never.withRecovery (.scan 0)
    ((∀ fault, .error (.fault fault) ∉ waited.1) →
      searching.nextMany count = (waited.1, waited.2.withRecovery (.scan limit))) ∧
    ((∀ fault, some (.error (.fault fault)) ∉ polled.1) →
      searching.finishMany count = (polled.1, polled.2.withRecovery (.scan limit))) ∧
    narrow.nextMany count = (waited.1, waited.2.withRecovery (.scan 0)) ∧
    narrow.finishMany count = (polled.1, polled.2.withRecovery (.scan 0)) ∧
    waited.2.skipped = 0 ∧ polled.2.skipped = 0 := by
  intro never waited polled searching narrow
  refine ⟨fun hno => ?_, fun hno => ?_, ?_, ?_, ?_, ?_⟩
  · exact nextMany_withRecovery rfl (.inr hno)
  · exact finishMany_withRecovery rfl (.inr hno)
  · exact nextMany_withRecovery rfl (.inl rfl)
  · exact finishMany_withRecovery rfl (.inl rfl)
  · exact nextMany_of_disabled rfl count
  · exact finishMany_of_disabled rfl count

/-- Two frames and a read that fails, all before a faulty header. -/
theorem recovery_conservative_of_three :
    let first : Frame := { sourceId := 0, frameId := 1, timestamp := 10, payload := [7] }
    let second : Frame := { sourceId := 1, frameId := 2, timestamp := 20, payload := [] }
    let reset : Transport.Failure := ⟨.connectionReset, none⟩
    let script : Script :=
      { events := [.data (first.onWire {} ++ second.onWire {}), .notReady, .fail reset,
          .data (List.replicate 40 0)] }
    let never : Decoder Script := { source := script }
    let searching := never.withRecovery (.scan 5)
    (never.nextMany 3).1 = [.ok first, .ok second, .error (.transport reset)] ∧
      searching.nextMany 3 = ((never.nextMany 3).1, (never.nextMany 3).2.withRecovery (.scan 5)) ∧
      searching.finishMany 3 =
        ((never.finishMany 3).1, (never.finishMany 3).2.withRecovery (.scan 5)) := by
  intro first second reset script never searching
  let onWire := never.onto (Script.wire script.events)
  have hanswers : (onWire.nextMany 3).1 = [.ok first, .ok second, .error (.transport reset)] := by cbv
  have hwire : onWire.nextMany 3 = (_, (onWire.nextMany 3).2) := Prod.ext hanswers rfl
  obtain ⟨hwaited, -, -⟩ := nextMany_of_carries script.carries hwire
  obtain ⟨hpolled, -, -⟩ := finishMany_of_carries script.carriesPolled hwire
  obtain ⟨hnext, hfinish, -⟩ := recovery_conservative script {} 5 3
  refine ⟨hwaited, hnext fun fault => ?_, hfinish fun fault => ?_⟩
  · rw [hwaited]
    simp
  · rw [hpolled]
    simp

end Decoder

end FramedVideo
