import FramedVideo.Proofs.Decode.Alike
import FramedVideo.Proofs.Frame.Codec
import FramedVideo.Proofs.Transport.Scripts
import Mathlib.Algebra.GroupWithZero.Nat

/-!
# What a call takes from its source

A call is a header, as many single bytes as its search slides by, and the payload of the header that was
found, each in one exact read. It may break off in each of them. So a call takes a known number of bytes
when it ends well and when it reports a fault, no call takes more than a fixed number, and one who goes on
after faults comes to the end of every stream.

## Main definitions

- `Recovery.limit` — the most bytes that a search discards
- `Decoder.Searched`, `Decoder.Called` — all that a search, and a call, can do
- `Decoder.goesOn` — one may ask for the next frame
- `Decoder.Consumes` — the exact reads of a call, and the bytes that they get

Main statements: `Decoder.called_next`, `Decoder.consumption_bounded`.
-/

namespace FramedVideo

open Transport (Source ReadFailure Meter Script readExact readEach)

/-- The most bytes that a search discards. -/
def Recovery.limit : Recovery → Nat
  | disabled => 0
  | scan limit => limit

namespace Decoder

variable {σ : Type} [Source σ]

/-- The exact reads of a call up to the header that it goes on with, or gives up at: a header, and the
bytes that the search slides by. -/
def headerReads (slid : Nat) : List Nat := Header.size :: List.replicate slid 1

/-- What a search does that has room for some more bytes, and what it leaves. -/
inductive Searched (decoder : Decoder σ) (before room : Nat) :
    Except DecodeFailure Header × Decoder σ → Prop where
  | found {slid header left} (hslid : slid ≤ room)
    (hsize : header.payloadSize ≤ decoder.protocol.maxPayload)
    (hread : readEach (List.replicate slid 1) decoder.source = (.ok (), left)) :
    Searched decoder before room
      (.ok header, { decoder with source := left, skipped := decoder.skipped + (before + slid) })
  | gaveUp {fault left} (hread : readEach (List.replicate room 1) decoder.source = (.ok (), left)) :
    Searched decoder before room
      (.error (.fault fault),
        { decoder with source := left, skipped := decoder.skipped + (before + room) })
  | cutOff {slid failure mid left} (hslid : slid < room)
    (hread : readEach (List.replicate slid 1) decoder.source = (.ok (), mid))
    (hlast : readExact 1 mid = (.error failure, left)) :
    Searched decoder before room
      (.error (.ofRead .resync failure), { decoder with source := left })

/-- A search that slides by a byte does what the rest of it does. -/
theorem Searched.of_slide {decoder : Decoder σ} {before room : Nat} {bytes : Bytes} {left : σ}
    {result : Except DecodeFailure Header × Decoder σ}
    (hread : readExact 1 decoder.source = (.ok bytes, left))
    (h : Searched { decoder with source := left } (before + 1) room result) :
    Searched decoder before (room + 1) result := by
  have hslide (slid : Nat) : readEach (List.replicate (slid + 1) 1) decoder.source =
      readEach (List.replicate slid 1) left := by
    rw [List.replicate_succ, readEach, hread]
  cases h with
  | @found slid header last hslid hsize hrest =>
    rw [Nat.add_right_comm, Nat.add_assoc before]
    exact .found (Nat.succ_le_succ hslid) hsize ((hslide slid).trans hrest)
  | gaveUp hrest =>
    rw [Nat.add_right_comm, Nat.add_assoc before]
    exact .gaveUp ((hslide room).trans hrest)
  | @cutOff slid failure mid last hslid hrest hlast =>
    exact .cutOff (Nat.succ_lt_succ hslid) ((hslide slid).trans hrest) hlast

theorem payloadSize_le_of_accept {protocol : Protocol} {bytes : Bytes} {header : Header}
    (h : Header.accept protocol bytes = .ok header) : header.payloadSize ≤ protocol.maxPayload := by
  obtain ⟨-, hcheck⟩ := (Header.accept_eq_ok_iff protocol bytes header).1 h
  obtain ⟨-, -, -, hsize⟩ := (Header.check_eq_ok_iff header protocol).1 hcheck
  exact hsize

/-- A search reads single bytes, and no more than it may discard. -/
theorem searched (fault : Fault) (window : Window) (decoder : Decoder σ) :
    Searched decoder window.skipped (window.limit - window.skipped)
      (search fault window decoder) := by
  fun_induction search fault window decoder with
  | case1 window decoder hexhausted =>
    rw [Nat.sub_eq_zero_of_le (Window.exhausted_eq_true.1 hexhausted)]
    exact .gaveUp rfl
  | case2 window decoder hroom failure left hread =>
    have hmore := Window.exhausted_eq_false.1 (Bool.eq_false_iff.2 hroom)
    exact .cutOff (Nat.sub_pos_of_lt hmore) rfl hread
  | case3 window decoder hroom bytes left hread moved header hfound =>
    have hmore := Window.exhausted_eq_false.1 (Bool.eq_false_iff.2 hroom)
    refine .found (Nat.sub_pos_of_lt hmore) ?_ ?_
    · exact payloadSize_le_of_accept ((Window.candidate?_eq_some_iff _ _ _).1 hfound)
    · rw [List.replicate_one, readEach, hread]
      rfl
  | case4 window decoder hroom bytes left hread moved hnone ih =>
    have hmore := Window.exhausted_eq_false.1 (Bool.eq_false_iff.2 hroom)
    have hrest : window.limit - window.skipped = window.limit - (window.skipped + 1) + 1 := by omega
    rw [hrest]
    exact .of_slide hread ih

theorem searched_recover (fault : Fault) (rejected : Bytes) (decoder : Decoder σ) :
    Searched decoder 0 decoder.recovery.limit (recover fault rejected decoder) := by
  cases hrecovery : decoder.recovery with
  | disabled =>
    rw [recover_disabled fault rejected decoder hrecovery]
    exact .gaveUp rfl
  | scan limit =>
    rw [recover_scan fault rejected decoder hrecovery]
    exact searched fault (.start rejected limit) decoder

/-- What a call does, and what it leaves. -/
inductive Called (decoder : Decoder σ) : Except DecodeFailure Frame × Decoder σ → Prop where
  | noHeader {failure left} (hlast : readExact Header.size decoder.source = (.error failure, left)) :
    Called decoder (.error (.ofRead .header failure), { decoder with source := left })
  | cutOff {slid failure mid left} (hslid : slid < decoder.recovery.limit)
    (hread : readEach (headerReads slid) decoder.source = (.ok (), mid))
    (hlast : readExact 1 mid = (.error failure, left)) :
    Called decoder (.error (.ofRead .resync failure), { decoder with source := left })
  | gaveUp {fault left}
    (hread : readEach (headerReads decoder.recovery.limit) decoder.source = (.ok (), left)) :
    Called decoder
      (.error (.fault fault),
        { decoder with source := left, skipped := decoder.skipped + decoder.recovery.limit })
  | noPayload {slid failure mid left} {header : Header} (hslid : slid ≤ decoder.recovery.limit)
    (hsize : header.payloadSize ≤ decoder.protocol.maxPayload)
    (hread : readEach (headerReads slid) decoder.source = (.ok (), mid))
    (hlast : readExact header.payloadSize.toNat mid = (.error failure, left)) :
    Called decoder
      (.error (.ofRead .payload failure),
        { decoder with source := left, skipped := decoder.skipped + slid })
  | frame {slid mid payload left} {header : Header} (hslid : slid ≤ decoder.recovery.limit)
    (hsize : header.payloadSize ≤ decoder.protocol.maxPayload)
    (hread : readEach (headerReads slid) decoder.source = (.ok (), mid))
    (hlast : readExact header.payloadSize.toNat mid = (.ok payload, left)) :
    Called decoder
      (.ok (.ofParts header payload),
        { decoder with source := left, skipped := decoder.skipped + slid })

theorem called_framePayload {decoder : Decoder σ} {slid : Nat} {mid : σ} {header : Header}
    (hslid : slid ≤ decoder.recovery.limit)
    (hsize : header.payloadSize ≤ decoder.protocol.maxPayload)
    (hread : readEach (headerReads slid) decoder.source = (.ok (), mid)) :
    Called decoder
      (framePayload header { decoder with source := mid, skipped := decoder.skipped + slid }) := by
  rw [framePayload_eq]
  cases hlast : readExact header.payloadSize.toNat mid with
  | mk answer left =>
    cases answer with
    | error failure => exact .noPayload hslid hsize hread hlast
    | ok payload => exact .frame hslid hsize hread hlast

theorem called_thenPayload {decoder : Decoder σ} {bytes : Bytes} {left : σ}
    {result : Except DecodeFailure Header × Decoder σ}
    (hread : readExact Header.size decoder.source = (.ok bytes, left))
    (h : Searched { decoder with source := left } 0 decoder.recovery.limit result) :
    Called decoder (thenPayload result) := by
  have hheader (slid : Nat) : readEach (headerReads slid) decoder.source =
      readEach (List.replicate slid 1) left := by
    rw [headerReads, readEach, hread]
  cases h with
  | @found slid header mid hslid hsize hslides =>
    rw [Nat.zero_add]
    exact called_framePayload hslid hsize ((hheader slid).trans hslides)
  | gaveUp hslides =>
    rw [Nat.zero_add]
    exact .gaveUp ((hheader _).trans hslides)
  | @cutOff slid failure mid last hslid hslides hlast =>
    exact .cutOff hslid ((hheader slid).trans hslides) hlast

/-- This is all that a call can do. -/
theorem called_next (decoder : Decoder σ) : Called decoder decoder.next := by
  rw [next_eq, nextHeader_eq]
  cases hread : readExact Header.size decoder.source with
  | mk answer left =>
    cases answer with
    | error failure => exact .noHeader hread
    | ok bytes =>
      refine called_thenPayload hread ?_
      simp only [headerRead]
      cases haccept : Header.accept decoder.protocol bytes with
      | ok header => exact .found (Nat.zero_le _) (payloadSize_le_of_accept haccept) rfl
      | error fault => exact searched_recover fault bytes { decoder with source := left }

-- ════════════════════════════════════════════════════════════════════════
-- One call
-- ════════════════════════════════════════════════════════════════════════

/-- One may ask for the next frame: there was one, or a faulty header. -/
def goesOn : Except DecodeFailure Frame → Bool
  | .ok _ => true
  | .error failure => failure.fault?.isSome

/-- The exact reads of a call, and the bytes that they get. -/
structure Consumes (bytesLeft : σ → Nat) (decoder : Decoder σ)
    (called : Except DecodeFailure Frame × Decoder σ) (slid : Nat) (payload? : Option Nat)
    (taken : Nat) : Prop where
  /-- The call reads a header, single bytes, and perhaps a payload, and nothing else. -/
  reads : (readEach (headerReads slid ++ payload?.toList) decoder.source).2 = called.2.source
  /-- All of these reads end well if the call brings a frame or reports a fault, and else one does not. -/
  ended : (readEach (headerReads slid ++ payload?.toList) decoder.source).1 = .ok () ↔
    goesOn called.1 = true
  slid_le : slid ≤ decoder.recovery.limit
  payload_le : ∀ length ∈ payload?, length ≤ decoder.protocol.maxPayload.toNat
  taken_add : taken + bytesLeft called.2.source = bytesLeft decoder.source
  taken_le : taken ≤ Header.size + decoder.recovery.limit + decoder.protocol.maxPayload.toNat
  skipped_le : called.2.skipped ≤ decoder.skipped + taken
  /-- A frame takes its header, what was skipped before it, and its payload. -/
  of_frame : ∀ frame, called.1 = .ok frame →
    called.2.skipped = decoder.skipped + slid ∧ payload? = some frame.payload.length ∧
      taken = Header.size + slid + frame.payload.length
  /-- A fault takes a header and all that may be skipped, whatever payload was declared. -/
  of_fault : ∀ fault, called.1 = .error (.fault fault) →
    slid = decoder.recovery.limit ∧ payload? = none ∧
      taken = Header.size + decoder.recovery.limit

theorem sum_headerReads (slid : Nat) : (headerReads slid).sum = Header.size + slid := by
  rw [headerReads, List.sum_cons, List.sum_replicate_nat, Nat.mul_one]

theorem goesOn_ofRead (stage : Stage) (failure : ReadFailure) :
    goesOn (.error (.ofRead stage failure)) = false := by
  cases failure <;> rfl

theorem headerReads_succ (slid : Nat) : headerReads (slid + 1) = headerReads slid ++ [1] := by
  rw [headerReads, List.replicate_succ', headerReads, List.cons_append]

/-- A call that breaks off in its last read has got what the reads before it asked for, and not all of
the last one. -/
theorem consumes_of_cut {bytesLeft : σ → Nat} (hmeter : Meter bytesLeft) {decoder : Decoder σ}
    {front : List Nat} {mid left : σ} {length slid found : Nat} {payload? : Option Nat}
    {failure : ReadFailure} (stage : Stage) (hread : readEach front decoder.source = (.ok (), mid))
    (hlast : readExact length mid = (.error failure, left))
    (hreads : headerReads slid ++ payload?.toList = front ++ [length])
    (hslid : slid ≤ decoder.recovery.limit)
    (hpayload : ∀ length ∈ payload?, length ≤ decoder.protocol.maxPayload.toNat)
    (hfound : found ≤ front.sum) :
    Consumes bytesLeft decoder
      (.error (.ofRead stage failure),
        { decoder with source := left, skipped := decoder.skipped + found })
      slid payload? (bytesLeft decoder.source - bytesLeft left) := by
  obtain ⟨hle, hlt⟩ := hmeter.readExact_error hlast
  have hfront := hmeter.readEach_ok hread
  have hsum : Header.size + slid + payload?.toList.sum = front.sum + length := by
    have hsums := congrArg List.sum hreads
    rwa [List.sum_append, List.sum_append, sum_headerReads, List.sum_singleton] at hsums
  have hlargest : payload?.toList.sum ≤ decoder.protocol.maxPayload.toNat := by
    cases payload? with
    | none => exact Nat.zero_le _
    | some size => exact hpayload size rfl
  refine ⟨?_, ?_, hslid, hpayload, ?_, ?_, ?_, nofun, ?_⟩
  · rw [hreads, Transport.readEach_concat hread, hlast]
  · rw [hreads, Transport.readEach_concat hread, hlast, goesOn_ofRead]
    exact iff_of_false nofun nofun
  · exact Nat.sub_add_cancel (by omega)
  · omega
  · dsimp only
    omega
  · intro fault hfault
    have hstops : goesOn (.error (.fault fault)) = false := hfault ▸ goesOn_ofRead stage failure
    cases hstops

/-- A call takes what its exact reads ask for, up to the one in which it breaks off. -/
theorem exists_consumes {bytesLeft : σ → Nat} (hmeter : Meter bytesLeft) (decoder : Decoder σ) :
    ∃ slid payload? taken, decoder.Consumes bytesLeft decoder.next slid payload? taken := by
  have hcalled := decoder.called_next
  generalize decoder.next = called at hcalled ⊢
  cases hcalled with
  | noHeader hlast =>
    have hnothing : readEach [] decoder.source = (.ok (), decoder.source) := rfl
    have hnoPayload : ∀ length ∈ none, length ≤ decoder.protocol.maxPayload.toNat := nofun
    exact ⟨0, none, _, consumes_of_cut hmeter .header hnothing hlast rfl (Nat.zero_le _) hnoPayload
      (Nat.le_refl 0)⟩
  | @cutOff slid failure mid left hslid hread hlast =>
    have hreads : headerReads (slid + 1) ++ none.toList = headerReads slid ++ [1] := by
      rw [headerReads_succ, Option.toList_none, List.append_nil]
    have hcut := consumes_of_cut hmeter .resync hread hlast hreads hslid nofun (Nat.zero_le _)
    exact ⟨slid + 1, none, _, hcut⟩
  | @noPayload slid failure mid left header hslid hsize hread hlast =>
    refine ⟨slid, some header.payloadSize.toNat, _, consumes_of_cut hmeter .payload hread hlast rfl
      hslid ?_ ?_⟩
    · rintro length ⟨⟩
      exact hsize
    · rw [sum_headerReads]
      exact Nat.le_add_left _ _
  | @gaveUp fault left hread =>
    have htaken := hmeter.readEach_ok hread
    rw [sum_headerReads] at htaken
    refine ⟨decoder.recovery.limit, none, _, ?_, ?_, Nat.le_refl _, nofun, htaken,
      Nat.le_add_right _ _, ?_, nofun, fun _ _ => ⟨rfl, rfl, rfl⟩⟩
    · rw [Option.toList_none, List.append_nil, hread]
    · rw [Option.toList_none, List.append_nil, hread]
      exact iff_of_true rfl rfl
    · dsimp only
      omega
  | @frame slid mid payload left header hslid hsize hread hlast =>
    obtain ⟨hlength, hpayload⟩ := hmeter.readExact_ok hlast
    have hfront := hmeter.readEach_ok hread
    rw [sum_headerReads] at hfront
    rw [← hlength] at hlast hpayload
    have hle : payload.length ≤ decoder.protocol.maxPayload.toNat := hlength ▸ hsize
    refine ⟨slid, some payload.length, Header.size + slid + payload.length, ?_, ?_, hslid, ?_, ?_, ?_,
      ?_, ?_, nofun⟩
    · rw [Option.toList_some, Transport.readEach_concat hread, hlast]
    · rw [Option.toList_some, Transport.readEach_concat hread, hlast]
      exact iff_of_true rfl rfl
    · rintro length ⟨⟩
      exact hle
    · dsimp only
      omega
    · omega
    · dsimp only
      omega
    · rintro frame ⟨⟩
      exact ⟨rfl, rfl, rfl⟩

-- ════════════════════════════════════════════════════════════════════════
-- Many calls
-- ════════════════════════════════════════════════════════════════════════

theorem Consumes.size_le_taken {bytesLeft : σ → Nat} {decoder : Decoder σ}
    {called : Except DecodeFailure Frame × Decoder σ} {slid taken : Nat} {payload? : Option Nat}
    (h : decoder.Consumes bytesLeft called slid payload? taken) (hgoes : goesOn called.1 = true) :
    Header.size ≤ taken := by
  cases hanswer : called.1 with
  | ok frame =>
    obtain ⟨-, -, htaken⟩ := h.of_frame frame hanswer
    omega
  | error failure =>
    rw [hanswer] at hgoes
    cases failure with
    | fault fault =>
      obtain ⟨-, -, htaken⟩ := h.of_fault fault hanswer
      omega
    | closed stage received expected => cases hgoes
    | transport failure => cases hgoes

/-- No byte is skipped twice. -/
theorem skipped_nextMany_le {bytesLeft : σ → Nat} (hmeter : Meter bytesLeft) (count : Nat)
    (decoder : Decoder σ) :
    (decoder.nextMany count).2.skipped + bytesLeft (decoder.nextMany count).2.source ≤
      decoder.skipped + bytesLeft decoder.source := by
  induction count with
  | zero => exact Nat.le_refl _
  | succ count ih =>
    obtain ⟨slid, payload?, taken, hlast⟩ := exists_consumes hmeter (decoder.nextMany count).2
    have htaken := hlast.taken_add
    have hskipped := hlast.skipped_le
    rw [nextMany_succ]
    dsimp only
    omega

/-- Among the calls on a stream, one that does not go on comes soon. -/
theorem exists_last {bytesLeft : σ → Nat} (hmeter : Meter bytesLeft) (decoder : Decoder σ) :
    ∃ count, count ≤ bytesLeft decoder.source / Header.size ∧
      (∀ answer ∈ (decoder.nextMany count).1, goesOn answer = true) ∧
      goesOn (decoder.nextMany count).2.next.1 = false := by
  induction htotal : bytesLeft decoder.source using Nat.strongRecOn generalizing decoder with
  | _ total ih =>
    by_cases hgoes : goesOn decoder.next.1 = true
    · obtain ⟨slid, payload?, taken, hfirst⟩ := exists_consumes hmeter decoder
      have hsize := hfirst.size_le_taken hgoes
      have htaken := hfirst.taken_add
      have hpos : 0 < Header.size := by decide
      obtain ⟨count, hcount, hanswers, hlast⟩ := ih _ (by omega) decoder.next.2 rfl
      refine ⟨count + 1, ?_, ?_, hlast⟩
      · rw [Nat.le_div_iff_mul_le hpos] at hcount ⊢
        rw [Nat.succ_mul]
        omega
      · exact List.forall_mem_cons.2 ⟨hgoes, hanswers⟩
    · exact ⟨0, Nat.zero_le _, nofun, Bool.eq_false_iff.2 hgoes⟩

/-- A call reads a header, no more single bytes than it may skip, and at most one payload, which is not
larger than the protocol allows. So it takes a bounded number of bytes, and exactly those of its reads if
it brings a frame or reports a fault. One who asks for frames until there is neither a frame nor a fault
has asked at most once more than the stream has room for headers, and has not skipped more bytes than
there were. -/
theorem consumption_bounded {bytesLeft : σ → Nat} (hmeter : Meter bytesLeft) (decoder : Decoder σ) :
    (∃ slid payload? taken, decoder.Consumes bytesLeft decoder.next slid payload? taken) ∧
      ∃ count, count ≤ bytesLeft decoder.source / Header.size ∧
        (∀ answer ∈ (decoder.nextMany count).1, goesOn answer = true) ∧
        goesOn (decoder.nextMany count).2.next.1 = false ∧
        (decoder.nextMany (count + 1)).2.skipped ≤ decoder.skipped + bytesLeft decoder.source := by
  obtain ⟨count, hcount, hanswers, hlast⟩ := exists_last hmeter decoder
  have hskipped := skipped_nextMany_le hmeter (count + 1) decoder
  exact ⟨exists_consumes hmeter decoder, count, hcount, hanswers, hlast, by omega⟩

/-- A frame behind a stray byte, and then a faulty header with too few bytes after it for the search to
come to its limit a second time. -/
theorem consumption_bounded_of_three :
    let frame : Frame := { sourceId := 0, frameId := 1, timestamp := 10, payload := [7] }
    let bytes : Bytes := 0x55 :: frame.onWire {} ++ List.replicate 59 0x55
    let script : Script :=
      { events := [.data (bytes.take 40), .fail ⟨.interrupted, none⟩, .data (bytes.drop 40)] }
    let decoder : Decoder Script := { source := script, recovery := .scan 2 }
    Meter Script.remaining ∧ script.remaining = 89 ∧ decoder.next.1 = .ok frame ∧
      decoder.Consumes Script.remaining decoder.next 1 (some 1) 30 ∧
      ∃ count, count ≤ 3 ∧ (∀ answer ∈ (decoder.nextMany count).1, goesOn answer = true) ∧
        goesOn (decoder.nextMany count).2.next.1 = false ∧
        (decoder.nextMany (count + 1)).2.skipped ≤ 89 := by
  intro frame bytes script decoder
  have hremaining : script.remaining = 89 := by decide +kernel
  have hframe : decoder.next.1 = .ok frame := by cbv
  have hskipped : decoder.next.2.skipped = 1 := by decide +kernel
  obtain ⟨⟨slid, payload?, taken, hconsumes⟩, count, hcount, hanswers, hlast, hbound⟩ :=
    consumption_bounded Script.meter decoder
  obtain ⟨hslid, rfl, rfl⟩ := hconsumes.of_frame frame hframe
  obtain rfl : slid = 1 := (Nat.zero_add slid).symm.trans (hslid.symm.trans hskipped)
  have hcount' : count ≤ 89 / Header.size := hremaining ▸ hcount
  have hbound' : (decoder.nextMany (count + 1)).2.skipped ≤ 0 + 89 := hremaining ▸ hbound
  exact ⟨Script.meter, hremaining, hframe, hconsumes, count, hcount', hanswers, hlast, by omega⟩

end Decoder

end FramedVideo
