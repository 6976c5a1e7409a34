import FramedVideo.Decode.Decoder
import FramedVideo.Proofs.Transport.Alike

/-!
# Decoders over sources that read alike

A decoder looks at its source through exact reads only. Two decoders that follow the same rules, on
sources that read alike, therefore give the same answers, call after call.

## Main definitions

- `Decoder.headerRead`, `Decoder.searchRead`, `Decoder.payloadRead` — what follows an exact read
- `Decoder.onto` — the same rules over another source
- `Decoder.SameAnswer` — the same answer, and related sources after it
- `Decoder.nextMany` — the answers to a number of calls, whatever they are

Main statements: `Decoder.next_alike`, `Decoder.nextMany_alike`.
-/

namespace FramedVideo.Decoder

open Transport (Source ReadFailure ReadsAlike Wire Carries readExact)

variable {σ τ : Type} [Source σ] [Source τ] {R : σ → τ → Prop}

/-- What follows the read of a header. -/
def headerRead (read : Except ReadFailure Bytes × σ) (decoder : Decoder σ) :
    Except DecodeFailure Header × Decoder σ :=
  match read with
  | (.error failure, left) => (.error (.ofRead .header failure), { decoder with source := left })
  | (.ok bytes, left) =>
    match Header.accept decoder.protocol bytes with
    | .ok header => (.ok header, { decoder with source := left })
    | .error fault => recover fault bytes { decoder with source := left }

/-- What follows the read of a byte in a search. -/
def searchRead (fault : Fault) (window : Window) (read : Except ReadFailure Bytes × σ)
    (decoder : Decoder σ) : Except DecodeFailure Header × Decoder σ :=
  match read with
  | (.error failure, left) => (.error (.ofRead .resync failure), { decoder with source := left })
  | (.ok bytes, left) =>
    let moved := window.push (bytes.headD 0)
    match moved.candidate? decoder.protocol with
    | some header =>
      (.ok header, { decoder with source := left, skipped := decoder.skipped + moved.skipped })
    | none => search fault moved { decoder with source := left }

omit [Source σ] in
/-- What follows the read of a payload. -/
def payloadRead (header : Header) (read : Except ReadFailure Bytes × σ) (decoder : Decoder σ) :
    Except DecodeFailure Frame × Decoder σ :=
  match read with
  | (.error failure, left) => (.error (.ofRead .payload failure), { decoder with source := left })
  | (.ok payload, left) => (.ok (.ofParts header payload), { decoder with source := left })

/-- The payload is read once there is a header. -/
def thenPayload : Except DecodeFailure Header × Decoder σ → Except DecodeFailure Frame × Decoder σ
  | (.error failure, left) => (.error failure, left)
  | (.ok header, left) => left.framePayload header

theorem nextHeader_eq (decoder : Decoder σ) :
    decoder.nextHeader = headerRead (readExact Header.size decoder.source) decoder := rfl

theorem framePayload_eq (header : Header) (decoder : Decoder σ) :
    decoder.framePayload header =
      payloadRead header (readExact header.payloadSize.toNat decoder.source) decoder := rfl

theorem next_eq (decoder : Decoder σ) : decoder.next = thenPayload decoder.nextHeader := rfl

theorem search_of_exhausted (fault : Fault) {window : Window} (decoder : Decoder σ)
    (h : window.exhausted = true) :
    search fault window decoder =
      (.error (.fault fault), { decoder with skipped := decoder.skipped + window.skipped }) := by
  rw [search, if_pos h]

theorem search_of_room (fault : Fault) {window : Window} (decoder : Decoder σ)
    (h : ¬window.exhausted = true) :
    search fault window decoder =
      searchRead fault window (readExact 1 decoder.source) decoder := by
  rw [search, if_neg h]
  rfl

theorem recover_disabled (fault : Fault) (rejected : Bytes) (decoder : Decoder σ)
    (h : decoder.recovery = .disabled) :
    recover fault rejected decoder = (.error (.fault fault), decoder) := by
  rw [recover, h]

theorem recover_scan (fault : Fault) (rejected : Bytes) (decoder : Decoder σ) {limit : Nat}
    (h : decoder.recovery = .scan limit) :
    recover fault rejected decoder = search fault (.start rejected limit) decoder := by
  rw [recover, h]

/-- A decoder of the same rules and the same count of skipped bytes, over another source. -/
def onto (decoder : Decoder σ) (source : τ) : Decoder τ :=
  ⟨source, decoder.protocol, decoder.recovery, decoder.skipped⟩

/-- The same answer, and decoders that differ in their sources only, which are related. -/
def SameAnswer {α : Type} (R : σ → τ → Prop) (first : α × Decoder σ) (second : α × Decoder τ) :
    Prop :=
  ∃ right, R first.2.source right ∧ second = (first.1, first.2.onto right)

theorem search_alike (hR : ReadsAlike R) (fault : Fault) (window : Window) (decoder : Decoder σ)
    (other : τ) (h : R decoder.source other) :
    SameAnswer R (search fault window decoder) (search fault window (decoder.onto other)) := by
  fun_induction search fault window decoder generalizing other with
  | case1 window decoder hexhausted =>
    exact ⟨other, h, search_of_exhausted fault (decoder.onto other) hexhausted⟩
  | case2 window decoder hroom failure left hread =>
    obtain ⟨right, hother, hleft⟩ := hR.of_eq h hread
    refine ⟨right, hleft, ?_⟩
    rw [search_of_room fault (decoder.onto other) hroom, onto, hother]
    rfl
  | case3 window decoder hroom bytes left hread moved header hfound =>
    obtain ⟨right, hother, hleft⟩ := hR.of_eq h hread
    refine ⟨right, hleft, ?_⟩
    rw [search_of_room fault (decoder.onto other) hroom, onto, hother]
    simp only [searchRead]
    rw [hfound]
    rfl
  | case4 window decoder hroom bytes left hread moved hnone ih =>
    obtain ⟨right, hother, hleft⟩ := hR.of_eq h hread
    rw [search_of_room fault (decoder.onto other) hroom, onto, hother]
    simp only [searchRead]
    rw [hnone]
    exact ih right hleft

theorem recover_alike (hR : ReadsAlike R) (fault : Fault) (rejected : Bytes) (decoder : Decoder σ)
    (other : τ) (h : R decoder.source other) :
    SameAnswer R (recover fault rejected decoder) (recover fault rejected (decoder.onto other)) := by
  cases hrecovery : decoder.recovery with
  | disabled =>
    rw [recover_disabled fault rejected decoder hrecovery,
      recover_disabled fault rejected (decoder.onto other) hrecovery]
    exact ⟨other, h, rfl⟩
  | scan limit =>
    rw [recover_scan fault rejected decoder hrecovery,
      recover_scan fault rejected (decoder.onto other) hrecovery]
    exact search_alike hR fault (.start rejected limit) decoder other h

theorem nextHeader_alike (hR : ReadsAlike R) (decoder : Decoder σ) (other : τ)
    (h : R decoder.source other) :
    SameAnswer R decoder.nextHeader (decoder.onto other).nextHeader := by
  rw [nextHeader_eq, nextHeader_eq]
  cases hread : readExact Header.size decoder.source with
  | mk answer left =>
    obtain ⟨right, hother, hleft⟩ := hR.of_eq h hread
    rw [onto, hother]
    cases answer with
    | error failure => exact ⟨right, hleft, rfl⟩
    | ok bytes =>
      simp only [headerRead]
      cases Header.accept decoder.protocol bytes with
      | ok header => exact ⟨right, hleft, rfl⟩
      | error fault => exact recover_alike hR fault bytes { decoder with source := left } right hleft

theorem framePayload_alike (hR : ReadsAlike R) (header : Header) (decoder : Decoder σ) (other : τ)
    (h : R decoder.source other) :
    SameAnswer R (decoder.framePayload header) ((decoder.onto other).framePayload header) := by
  rw [framePayload_eq, framePayload_eq]
  cases hread : readExact header.payloadSize.toNat decoder.source with
  | mk answer left =>
    obtain ⟨right, hother, hleft⟩ := hR.of_eq h hread
    rw [onto, hother]
    cases answer with
    | error failure => exact ⟨right, hleft, rfl⟩
    | ok payload => exact ⟨right, hleft, rfl⟩

/-- Sources that read alike bring the same frame, or the same failure. -/
theorem next_alike (hR : ReadsAlike R) (decoder : Decoder σ) (other : τ)
    (h : R decoder.source other) : SameAnswer R decoder.next (decoder.onto other).next := by
  obtain ⟨right, hleft, hheader⟩ := nextHeader_alike hR decoder other h
  rw [next_eq, next_eq, hheader]
  cases hfirst : decoder.nextHeader with
  | mk answer left =>
    rw [hfirst] at hleft
    cases answer with
    | error failure => exact ⟨right, hleft, rfl⟩
    | ok header => exact framePayload_alike hR header left right hleft

/-- A source that brings a wire brings the answer of the wire. -/
theorem next_of_carries {decoder : Decoder σ} {carried : Wire}
    {answer : Except DecodeFailure Frame} {last : Decoder Wire}
    (hsource : Carries decoder.source carried) (hwire : (decoder.onto carried).next = (answer, last)) :
    decoder.next.1 = answer ∧ Carries decoder.next.2.source last.source ∧
      decoder.next.2.skipped = last.skipped := by
  obtain ⟨R, hR, hcarried⟩ := hsource
  obtain ⟨right, hright, hnext⟩ := next_alike hR.readsAlike decoder carried hcarried
  cases hnext.symm.trans hwire
  exact ⟨rfl, ⟨R, hR, hright⟩, rfl⟩

/-- The answers to a number of calls, which go on after failures, and the decoder after them. -/
def nextMany : Nat → Decoder σ → List (Except DecodeFailure Frame) × Decoder σ
  | 0, decoder => ([], decoder)
  | count + 1, decoder =>
    let (answer, left) := decoder.next
    let (answers, last) := left.nextMany count
    (answer :: answers, last)

/-- Sources that read alike bring the same answers, however many are asked for. -/
theorem nextMany_alike (hR : ReadsAlike R) (count : Nat) (decoder : Decoder σ) (other : τ)
    (h : R decoder.source other) :
    SameAnswer R (decoder.nextMany count) ((decoder.onto other).nextMany count) := by
  induction count generalizing decoder other with
  | zero => exact ⟨other, h, rfl⟩
  | succ count ih =>
    obtain ⟨right, hleft, hnext⟩ := next_alike hR decoder other h
    obtain ⟨last, hlast, hmany⟩ := ih decoder.next.2 right hleft
    refine ⟨last, hlast, ?_⟩
    simp only [nextMany, hnext, hmany]

/-- A source that brings a wire brings the answers of the wire, however many are asked for. -/
theorem nextMany_of_carries {decoder : Decoder σ} {carried : Wire} {count : Nat}
    {answers : List (Except DecodeFailure Frame)} {last : Decoder Wire}
    (hsource : Carries decoder.source carried)
    (hwire : (decoder.onto carried).nextMany count = (answers, last)) :
    let run := decoder.nextMany count
    run.1 = answers ∧ Carries run.2.source last.source ∧ run.2.skipped = last.skipped := by
  obtain ⟨R, hR, hcarried⟩ := hsource
  obtain ⟨right, hright, hmany⟩ := nextMany_alike hR.readsAlike count decoder carried hcarried
  cases hmany.symm.trans hwire
  exact ⟨rfl, ⟨R, hR, hright⟩, rfl⟩

/-- The last of several calls starts where the ones before it left off. -/
theorem nextMany_succ (count : Nat) (decoder : Decoder σ) :
    decoder.nextMany (count + 1) =
      ((decoder.nextMany count).1 ++ [(decoder.nextMany count).2.next.1],
        (decoder.nextMany count).2.next.2) := by
  induction count generalizing decoder with
  | zero => rfl
  | succ count ih =>
    have hfirst (count : Nat) : decoder.nextMany (count + 1) =
        (decoder.next.1 :: (decoder.next.2.nextMany count).1,
          (decoder.next.2.nextMany count).2) := rfl
    rw [hfirst, hfirst, ih decoder.next.2]
    rfl

end FramedVideo.Decoder
