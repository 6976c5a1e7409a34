import FramedVideo.Proofs.Decode.Search
import FramedVideo.Proofs.Decode.Waiting
import FramedVideo.Proofs.Transport.Handed

/-!
# Calls that are dropped

A call that is dropped before it is over takes with it the bytes that it read. What it read is the
beginning of a frame, perhaps behind garbage, and how far it came can be told from these bytes alone.
The decoder stays behind with the rest of the script, and with the garbage counted, if a header was
found after it.

## Main definitions

- `Protocol.GoesOnAt` — the header that a call goes on with
- `Protocol.Unfinished` — bytes that do not decide a call
- `Call.Reached` — where a call is that has read some bytes
- `Decoder.Amid` — a decoder in the middle of a call

Main statements: `Decoder.poll_amid`, `Decoder.await_of_dropped`.
-/

namespace FramedVideo

open Transport (Source Script PartialRead)

-- ════════════════════════════════════════════════════════════════════════
-- Where a call is
-- ════════════════════════════════════════════════════════════════════════

/-- A call goes on with the header at an offset: none before it is accepted, and if there is garbage
in front, the decoder may skip it. -/
structure Protocol.GoesOnAt (protocol : Protocol) (recovery : Recovery) (bytes : Bytes) (offset : Nat)
    (header : Header) : Prop where
  whole : offset + Header.size ≤ bytes.length
  accepted : Header.accept protocol ((bytes.drop offset).take Header.size) = .ok header
  first : ∀ before < offset, ¬protocol.AcceptsAt bytes before
  allowed : offset = 0 ∨ ∃ limit, recovery = .scan limit ∧ offset ≤ limit

/-- The bytes do not decide a call yet. The number is that of the bytes in front of its header, and 0
as long as there is no header. -/
inductive Protocol.Unfinished (protocol : Protocol) (recovery : Recovery) (bytes : Bytes) : Nat → Prop
  /-- There is no whole header. -/
  | header (hshort : bytes.length < Header.size) : Unfinished protocol recovery bytes 0
  /-- There is none that is accepted, and the search may go on. -/
  | search {limit : Nat} (hrecovery : recovery = .scan limit) (hlong : Header.size ≤ bytes.length)
    (hshort : bytes.length < Header.size + limit) (hnone : ∀ offset, ¬protocol.AcceptsAt bytes offset) :
    Unfinished protocol recovery bytes 0
  /-- There is one, and no whole payload. -/
  | payload {header : Header} {offset : Nat} (hheader : protocol.GoesOnAt recovery bytes offset header)
    (hshort : bytes.length < offset + Header.size + header.payloadSize.toNat) :
    Unfinished protocol recovery bytes offset

/-- Where a call is that has read some bytes, with the number of those that it has skipped. -/
inductive Call.Reached (protocol : Protocol) (recovery : Recovery) (bytes : Bytes) : Call → Nat → Prop
  | header {reading : PartialRead} (hbytes : reading.bytes = bytes)
    (hwanted : reading.wanted + bytes.length = Header.size) :
    Reached protocol recovery bytes (.header reading) 0
  | search {fault : Fault} {limit offset : Nat} (hrecovery : recovery = .scan limit)
    (hroom : offset < limit) (hlength : bytes.length = offset + Header.size)
    (hnone : ∀ before ≤ offset, ¬protocol.AcceptsAt bytes before) :
    Reached protocol recovery bytes (.search fault (.showing bytes limit offset) (.start 1)) 0
  | payload {header : Header} {reading : PartialRead} {offset : Nat}
    (hheader : protocol.GoesOnAt recovery bytes offset header)
    (hbytes : reading.bytes = bytes.drop (offset + Header.size))
    (hwanted : reading.wanted + reading.bytes.length = header.payloadSize.toNat) :
    Reached protocol recovery bytes (.payload header reading) offset

namespace Protocol

variable {protocol : Protocol} {recovery : Recovery} {bytes : Bytes} {offset : Nat} {header : Header}

/-- Bytes that come later do not change what starts at an offset. -/
theorem acceptsAt_append (more : Bytes) (hwhole : offset + Header.size ≤ bytes.length) :
    protocol.AcceptsAt (bytes ++ more) offset ↔ protocol.AcceptsAt bytes offset := by
  have hlonger : offset + Header.size ≤ (bytes ++ more).length := by
    rw [List.length_append]
    omega
  rw [AcceptsAt, AcceptsAt, drop_take_append more hwhole]
  exact and_congr_left fun _ => iff_of_true hlonger hwhole

theorem not_acceptsAt_of_error {fault : Fault}
    (hfault : Header.accept protocol ((bytes.drop offset).take Header.size) = .error fault) :
    ¬protocol.AcceptsAt bytes offset := by
  rintro ⟨-, header, haccept⟩
  rw [hfault] at haccept
  cases haccept

theorem GoesOnAt.append (more : Bytes) (h : protocol.GoesOnAt recovery bytes offset header) :
    protocol.GoesOnAt recovery (bytes ++ more) offset header := by
  have hwhole := h.whole
  refine ⟨?_, ?_, ?_, h.allowed⟩
  · rw [List.length_append]
    omega
  · rw [drop_take_append more hwhole]
    exact h.accepted
  · intro before hlt
    rw [acceptsAt_append more (by omega)]
    exact h.first before hlt

end Protocol

/-- How far a call came can be told from the bytes that it read. -/
theorem Call.Reached.unfinished {protocol : Protocol} {recovery : Recovery} {bytes : Bytes}
    {call : Call} {skipped : Nat} (h : call.Reached protocol recovery bytes skipped)
    (hmore : call.reading.wanted ≠ 0) : protocol.Unfinished recovery bytes skipped := by
  cases h with
  | @header reading hbytes hwanted =>
    have hmore : reading.wanted ≠ 0 := hmore
    exact .header (by omega)
  | search hrecovery hroom hlength hnone =>
    refine .search hrecovery (by omega) (by omega) fun offset haccepts => ?_
    have hwhole := haccepts.1
    exact hnone offset (by omega) haccepts
  | @payload header reading offset hheader hbytes hwanted =>
    have hmore : reading.wanted ≠ 0 := hmore
    have hwhole := hheader.whole
    rw [hbytes, List.length_drop] at hwanted
    exact .payload hheader (by omega)

-- ════════════════════════════════════════════════════════════════════════
-- One poll
-- ════════════════════════════════════════════════════════════════════════

namespace Decoder

/-- The decoder of a call that began with the first one and has read some bytes. -/
structure Amid (first : Decoder Script) (bytes : Bytes) (call : Call) (decoder : Decoder Script)
    (skipped : Nat) : Prop where
  handsOut : first.source.HandsOut bytes decoder.source
  reached : call.Reached first.protocol first.recovery bytes skipped
  same : decoder =
    { first with source := decoder.source, skipped := first.skipped + skipped }

/-- A poll that did not end a call has left it in the middle. -/
def LeftAmid (first : Decoder Script) (polled : Polled Script) : Prop :=
  polled.ended = none → ∃ bytes skipped, first.Amid bytes polled.call polled.decoder skipped ∧
    polled.call.reading.wanted ≠ 0

variable {first decoder : Decoder Script} {bytes : Bytes} {skipped : Nat}

/-- What a poll of a read says about the script, in the form in which a call meets it. -/
theorem handsOut_of_poll {reading reading' : PartialRead} {script left : Script}
    {ended : Option (Except Transport.ReadFailure Unit)}
    (hpoll : reading.poll script = ⟨ended, reading', left⟩)
    (hwell : ended = none ∨ ended = some (.ok ())) :
    ∃ delivered, script.HandsOut delivered left ∧ reading.Grows delivered reading' ∧
      (ended = none ↔ reading'.wanted ≠ 0) := by
  have h := reading.poll_handsOut script
  rw [hpoll] at h
  refine h fun failure hfailed => ?_
  obtain rfl | rfl := hwell
  · cases hfailed
  · cases hfailed

theorem pollPayload_amid {header : Header} {reading : PartialRead}
    (h : first.Amid bytes (.payload header reading) decoder skipped) :
    first.LeftAmid (pollPayload header reading decoder) := by
  obtain ⟨hhanded, hreached, hsame⟩ := h
  unfold pollPayload
  split <;> rename_i hpoll <;> intro hended
  · obtain ⟨more, hmore, hgrows, hwants⟩ := handsOut_of_poll hpoll (.inl rfl)
    cases hreached with
    | payload hheader hbytes hwanted =>
      refine ⟨bytes ++ more, skipped, ⟨hhanded.trans hmore, .payload (hheader.append more) ?_ ?_, ?_⟩,
        hwants.1 rfl⟩
      · rw [hgrows.bytes, hbytes, List.drop_append_of_le_length hheader.whole]
      · rw [hgrows.bytes, List.length_append, ← hwanted, ← hgrows.wanted]
        omega
      · rw [hsame]
  · cases hended
  · cases hended

/-- The payload comes behind its header. -/
theorem pollPayload_start_amid {header : Header} {offset : Nat}
    (hhanded : first.source.HandsOut bytes decoder.source)
    (hheader : first.protocol.GoesOnAt first.recovery bytes offset header)
    (hlength : bytes.length = offset + Header.size)
    (hsame : decoder = { first with source := decoder.source, skipped := first.skipped + offset }) :
    first.LeftAmid (pollPayload header (.start header.payloadSize.toNat) decoder) := by
  have hbehind : (PartialRead.start header.payloadSize.toNat).bytes =
      bytes.drop (offset + Header.size) := by
    rw [← hlength, List.drop_length]
    rfl
  exact pollPayload_amid ⟨hhanded, .payload hheader hbehind rfl, hsame⟩

/-- A search that reads a byte brings its window to the next offset, and has rejected those before. -/
theorem Amid.push {fault : Fault} {window : Window} {reading reading' : PartialRead} {left : Script}
    (h : first.Amid bytes (.search fault window reading) decoder skipped)
    (hpoll : reading.poll decoder.source = ⟨some (.ok ()), reading', left⟩) :
    ∃ byte limit offset, reading'.bytes.headD 0 = byte ∧
      first.source.HandsOut (bytes ++ [byte]) left ∧
      first.recovery = .scan limit ∧ offset + 1 ≤ limit ∧
      (bytes ++ [byte]).length = offset + 1 + Header.size ∧
      window.push byte = .showing (bytes ++ [byte]) limit (offset + 1) ∧
      (∀ before < offset + 1, ¬first.protocol.AcceptsAt (bytes ++ [byte]) before) ∧
      decoder = { first with source := decoder.source } := by
  obtain ⟨hhanded, hreached, hsame⟩ := h
  obtain ⟨more, hmore, hgrows, hwants⟩ := handsOut_of_poll hpoll (.inr rfl)
  cases hreached with
  | @search fault limit offset hrecovery hroom hlength hnone =>
    have hover : reading'.wanted = 0 := by simpa using hwants
    have hone : more.length = 1 := by
      have hwanted := hgrows.wanted
      rwa [hover, Nat.zero_add] at hwanted
    obtain ⟨byte, rfl⟩ := List.length_eq_one_iff.1 hone
    refine ⟨byte, limit, offset, ?_, hhanded.trans hmore, hrecovery, hroom, ?_,
      Window.push_showing_concat limit byte hlength, ?_, hsame⟩
    · rw [hgrows.bytes]
      rfl
    · rw [List.length_append, hlength, List.length_singleton]
      omega
    · intro before hlt
      rw [Protocol.acceptsAt_append [byte] (by omega)]
      exact hnone before (by omega)

/-- A search rejects every offset that it leaves behind, and goes on with the first header. -/
theorem pollSearch_amid (fault : Fault) (window : Window) (reading : PartialRead)
    (decoder : Decoder Script) (bytes : Bytes) (skipped : Nat)
    (h : first.Amid bytes (.search fault window reading) decoder skipped) :
    first.LeftAmid (pollSearch fault window reading decoder) := by
  fun_induction pollSearch fault window reading decoder generalizing bytes skipped with
  | case1 window reading decoder reading' left hpoll =>
    intro _
    obtain ⟨hhanded, hreached, hsame⟩ := h
    obtain ⟨more, hmore, hgrows, hwants⟩ := handsOut_of_poll hpoll (.inl rfl)
    have hwanted := hwants.1 rfl
    cases hreached with
    | search hrecovery hroom hlength hnone =>
      -- a read of one byte that is not over has not got any
      have hcount : reading'.wanted + more.length = 1 := hgrows.wanted
      have hnothing : more = [] := List.length_eq_zero_iff.1 (by omega)
      subst hnothing
      rw [hgrows.eq_of_nothing]
      refine ⟨bytes, 0, ⟨?_, .search hrecovery hroom hlength hnone, ?_⟩, Nat.one_ne_zero⟩
      · simpa using hhanded.trans hmore
      · rw [hsame]
  | case2 =>
    intro hended
    cases hended
  | case3 window reading decoder reading' left hpoll moved header hfound polled =>
    obtain ⟨byte, limit, offset, hbyte, hhanded, hrecovery, hroom, hlength, hmoved, hfirst, hsame⟩ :=
      h.push hpoll
    have hshown : moved = .showing (bytes ++ [byte]) limit (offset + 1) := by
      rw [← hmoved, ← hbyte]
    have haccept := (Window.candidate?_eq_some_iff _ _ _).1 hfound
    rw [hshown, hsame] at haccept
    refine pollPayload_start_amid hhanded ⟨hlength.ge, haccept, hfirst, .inr ⟨limit, hrecovery, hroom⟩⟩
      hlength ?_
    rw [hshown, hsame]
    rfl
  | case4 =>
    intro hended
    cases hended
  | case5 window reading decoder reading' left hpoll moved hnone hexhausted ih =>
    obtain ⟨byte, limit, offset, hbyte, hhanded, hrecovery, hroom, hlength, hmoved, hfirst, hsame⟩ :=
      h.push hpoll
    have hshown : moved = .showing (bytes ++ [byte]) limit (offset + 1) := by
      rw [← hmoved, ← hbyte]
    rw [hshown] at hnone hexhausted ih ⊢
    have hmore : offset + 1 < limit := by
      rw [Window.exhausted_eq_true] at hexhausted
      exact Nat.lt_of_not_le hexhausted
    refine ih (bytes ++ [byte]) 0 ⟨hhanded, .search hrecovery hmore hlength ?_, ?_⟩
    · intro before hle
      obtain hlt | rfl := Nat.lt_or_eq_of_le hle
      · exact hfirst before hlt
      · rintro ⟨hwhole, header, haccept⟩
        rw [hsame] at hnone
        have hfound := (Window.candidate?_eq_some_iff
          (.showing (bytes ++ [byte]) limit (offset + 1)) first.protocol header).2 haccept
        rw [hnone] at hfound
        cases hfound
    · rw [hsame]
      rfl

/-- A faulty header is where a search begins. -/
theorem pollRecover_amid {fault : Fault} (reading : PartialRead)
    (hhanded : first.source.HandsOut bytes decoder.source) (hlength : bytes.length = Header.size)
    (hfault : Header.accept first.protocol bytes = .error fault)
    (hsame : decoder = { first with source := decoder.source }) :
    first.LeftAmid (pollRecover fault bytes reading decoder) := by
  unfold pollRecover
  split <;> rename_i hrecovery
  · intro hended
    cases hended
  · rename_i limit
    dsimp only
    split <;> rename_i hlimit
    · intro hended
      cases hended
    · have hshown : Window.start bytes limit = .showing bytes limit 0 := by
        rw [Window.start, Window.showing, List.drop_zero, ← hlength, List.take_length]
      have hroom : 0 < limit := by
        rw [Window.exhausted_eq_true] at hlimit
        exact Nat.lt_of_not_le hlimit
      rw [hsame] at hrecovery
      rw [hshown]
      refine pollSearch_amid _ _ _ _ bytes 0 ⟨hhanded, .search hrecovery hroom ?_ ?_, hsame⟩
      · rw [hlength, Nat.zero_add]
      · intro before hle
        obtain rfl := Nat.le_zero.1 hle
        have hshown : (bytes.drop 0).take Header.size = bytes := by
          rw [List.drop_zero, ← hlength, List.take_length]
        exact Protocol.not_acceptsAt_of_error (hshown ▸ hfault)

theorem pollHeader_amid {reading : PartialRead}
    (h : first.Amid bytes (.header reading) decoder skipped) :
    first.LeftAmid (pollHeader reading decoder) := by
  obtain ⟨hhanded, hreached, hsame⟩ := h
  cases hreached with
  | header hbytes hwanted =>
    unfold pollHeader
    split <;> rename_i hpoll
    · intro _
      obtain ⟨more, hmore, hgrows, hwants⟩ := handsOut_of_poll hpoll (.inl rfl)
      refine ⟨bytes ++ more, 0, ⟨hhanded.trans hmore, .header ?_ ?_, ?_⟩, hwants.1 rfl⟩
      · rw [hgrows.bytes, hbytes]
      · rw [List.length_append, ← hwanted, ← hgrows.wanted]
        omega
      · rw [hsame]
    · intro hended
      cases hended
    · rename_i reading' left
      obtain ⟨more, hmore, hgrows, hwants⟩ := handsOut_of_poll hpoll (.inr rfl)
      have hover : reading'.wanted = 0 := by simpa using hwants
      have hall : reading'.bytes = bytes ++ more := by rw [hgrows.bytes, hbytes]
      have hlength : (bytes ++ more).length = Header.size := by
        have hcount := hgrows.wanted
        rw [List.length_append]
        omega
      rw [hall]
      split <;> rename_i haccept <;> rw [hsame] at haccept
      · refine pollPayload_start_amid (hhanded.trans hmore) ⟨?_, ?_, ?_, .inl rfl⟩ ?_ ?_
        · rw [hlength, Nat.zero_add]
        · rwa [List.drop_zero, ← hlength, List.take_length]
        · exact fun before hlt => absurd hlt (Nat.not_lt_zero before)
        · rw [hlength, Nat.zero_add]
        · rw [hsame]
      · exact pollRecover_amid reading' (hhanded.trans hmore) hlength haccept (by rw [hsame]; rfl)

/-- A poll that does not end a call leaves it in the middle, with the bytes that it read. -/
theorem poll_amid {call : Call} (h : first.Amid bytes call decoder skipped) :
    first.LeftAmid (poll call decoder) := by
  cases call with
  | header reading => exact pollHeader_amid h
  | search fault window reading => exact pollSearch_amid fault window reading decoder bytes skipped h
  | payload header reading => exact pollPayload_amid h

-- ════════════════════════════════════════════════════════════════════════
-- A call that is dropped
-- ════════════════════════════════════════════════════════════════════════

theorem await_amid (shutdown : Shutdown) (looks : Nat) (call : Call) (decoder : Decoder Script)
    (bytes : Bytes) (skipped : Nat) (h : first.Amid bytes call decoder skipped)
    (hmore : call.reading.wanted ≠ 0)
    (hdropped : (decoder.await shutdown looks call).answer = none) :
    ∃ bytes skipped call', first.Amid bytes call' (decoder.await shutdown looks call).decoder skipped ∧
      call'.reading.wanted ≠ 0 := by
  fun_induction await shutdown looks call decoder generalizing bytes skipped with
  | case1 looks call decoder hcame => exact ⟨bytes, skipped, call, h, hmore⟩
  | case2 => cases hdropped
  | case3 looks call decoder hrunning call' left log hpoll later ih =>
    have hamid := poll_amid h
    rw [hpoll] at hamid
    obtain ⟨bytes', skipped', hleft, hmore'⟩ := hamid rfl
    exact ih bytes' skipped' hleft hmore' hdropped

/-- A call that is dropped has taken some bytes from the script, which do not decide it. The decoder
keeps the rest of the script and its rules, and counts what the call has skipped. -/
theorem await_of_dropped {shutdown : Shutdown} {looks : Nat}
    (hdropped : (decoder.await shutdown looks .start).answer = none) :
    let left := (decoder.await shutdown looks .start).decoder
    ∃ delivered skipped, decoder.source.HandsOut delivered left.source ∧
      decoder.protocol.Unfinished decoder.recovery delivered skipped ∧
      left = { decoder with source := left.source, skipped := decoder.skipped + skipped } := by
  have hstart : decoder.Amid [] .start decoder 0 := ⟨.none decoder.source, .header rfl rfl, rfl⟩
  obtain ⟨delivered, skipped, call, ⟨hhanded, hreached, hsame⟩, hmore⟩ :=
    await_amid shutdown looks .start decoder [] 0 hstart (by decide) hdropped
  exact ⟨delivered, skipped, hhanded, hreached.unfinished hmore, hsame⟩

end Decoder

end FramedVideo
