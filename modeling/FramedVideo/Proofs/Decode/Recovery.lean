import FramedVideo.Proofs.Decode.Resync
import FramedVideo.Proofs.Decode.Search

/-!
# One recovery

What becomes of a call that meets a faulty header, told by the bytes of the stream alone: however the
stream is cut into pieces, and whether the decoder waits or is polled.

## Main definitions

- `Decoder.Comes` — what a call answers, skips and leaves, by a decoder that waits or is polled

Main statement: `Decoder.recovery_exact`.
-/

namespace FramedVideo.Decoder

open Transport (Source Stop Script Wire Carries CarriesPolled readExact)

section Source

variable {σ : Type} [Source σ]

/-- A call on a source that brings a wire has an answer, after which some bytes have been skipped in all
and a wire is still to come. It is so for a decoder that waits and for one that is polled. -/
def Comes (decoder : Decoder σ) (carried : Wire) (answer : Except DecodeFailure Frame)
    (skipped : Nat) (left : Wire) : Prop :=
  (Carries decoder.source carried →
    decoder.next.1 = answer ∧ decoder.next.2.skipped = skipped ∧
      Carries decoder.next.2.source left) ∧
  (CarriesPolled decoder.source carried →
    (decoder.finish .start).answer = some answer ∧
      (decoder.finish .start).decoder.skipped = skipped ∧
      CarriesPolled (decoder.finish .start).decoder.source left)

theorem comes_of_next {decoder : Decoder σ} {carried : Wire} {answer : Except DecodeFailure Frame}
    {after : Decoder Wire} (hwire : (decoder.onto carried).next = (answer, after)) :
    decoder.Comes carried answer after.skipped after.source := by
  constructor
  · rintro ⟨R, hR, hsource⟩
    obtain ⟨right, hright, hnext⟩ := next_alike hR.readsAlike decoder carried hsource
    cases hnext.symm.trans hwire
    exact ⟨rfl, rfl, R, hR, hright⟩
  · rintro ⟨R, hR, hsource⟩
    obtain ⟨right, hright, hanswer, hleft⟩ := finish_answers hR.pollsAlike decoder carried hsource
    rw [hwire] at hanswer hleft
    subst hleft
    exact ⟨hanswer, rfl, R, hR, hright⟩

/-- What to do after a faulty header makes no difference once there is a good one. -/
theorem framePayload_recovery (header : Header) (recovery : Recovery) (decoder : Decoder σ) :
    let goesOn := decoder.framePayload header
    ({ decoder with recovery := recovery }).framePayload header =
      (goesOn.1, { decoder with source := goesOn.2.source, recovery := recovery }) := by
  simp only [framePayload_eq]
  cases readExact header.payloadSize.toNat decoder.source with
  | mk answer left => cases answer <;> rfl

/-- After a faulty header there are three ways. If a header is accepted at an offset from 1 up to the
limit, the call goes on with the first one as if the stream began there, and skips the bytes in front
of it; a higher limit changes nothing. If none is, and the stream has bytes for as many offsets, the
call reports the fault of the header it began with, and has skipped as many bytes as it may. Else it
takes all bytes and reports the reason for which the stream stops. So a header at the limit is found,
and one behind it is not. -/
theorem recovery_exact (decoder : Decoder σ) (limit : Nat) (bytes : Bytes) (after : Wire) (stop : Stop)
    (fault : Fault) (hrecovery : decoder.recovery = .scan limit) (hlong : Header.size ≤ bytes.length)
    (hfault : Header.accept decoder.protocol (bytes.take Header.size) = .error fault)
    (hstop : after.headD .close = stop.signal) :
    let carried := Wire.ofBytes bytes ++ after
    let onWire := decoder.onto carried
    let offsets := decoder.protocol.offsetsWithin limit bytes
    let gaveUp := decoder.Comes carried (.error (.fault fault)) (decoder.skipped + limit)
      (Wire.ofBytes (bytes.drop (Header.size + limit)) ++ after)
    (∀ offset, IsLeast offsets offset → ∃ header,
      Header.accept decoder.protocol ((bytes.drop offset).take Header.size) = .ok header ∧
        let goesOn := framePayload header
          { onWire.past bytes after offset with skipped := decoder.skipped + offset }
        (onWire.beginning bytes after offset).next = goesOn ∧
          ∀ wider, limit ≤ wider → { decoder with recovery := .scan wider }.Comes carried goesOn.1
            (decoder.skipped + offset) goesOn.2.source) ∧
    (offsets = ∅ → Header.size + limit ≤ bytes.length → gaveUp) ∧
    (offsets = ∅ → bytes.length < Header.size + limit →
      decoder.Comes carried (.error (.ofRead .resync (stop.failure 0 1))) decoder.skipped
        after.tail) ∧
    (IsLeast (decoder.protocol.offsetsWithin (limit + 1) bytes) (limit + 1) → gaveUp) := by
  intro carried onWire offsets gaveUp
  have hgaveUp (hnone : offsets = ∅) (henough : Header.size + limit ≤ bytes.length) : gaveUp := by
    have hnext : onWire.next = (.error (.fault fault),
        { onWire.past bytes after limit with skipped := decoder.skipped + limit }) :=
      next_of_none hrecovery rfl hfault hnone henough
    rw [past, Nat.add_comm limit] at hnext
    exact comes_of_next hnext
  refine ⟨?_, hgaveUp, ?_, ?_⟩
  · intro offset hfirst
    obtain ⟨-, -, hwhole, header, haccept⟩ := hfirst.1
    refine ⟨header, haccept, next_beginning hwhole haccept, ?_⟩
    intro wider hwider
    let willing : Decoder σ := { decoder with recovery := .scan wider }
    have hnext : (willing.onto carried).next =
        ((willing.onto carried).beginning bytes after offset).next :=
      next_of_first rfl rfl hlong hfault (Protocol.first_of_le hwider hfirst)
    have hbegin : ((willing.onto carried).beginning bytes after offset).next = _ :=
      next_beginning hwhole haccept
    let begun : Decoder Wire :=
      { onWire.past bytes after offset with skipped := decoder.skipped + offset }
    exact comes_of_next
      ((hnext.trans hbegin).trans (framePayload_recovery header (.scan wider) begun))
  · intro hnone hshort
    have hnext : onWire.next = _ :=
      next_of_stop hrecovery rfl hlong hfault hnone hshort hstop
    exact comes_of_next hnext
  · intro hbeyond
    obtain ⟨-, -, hwhole, -⟩ := hbeyond.1
    exact hgaveUp (Protocol.none_of_first_beyond hbeyond) (by omega)

end Source

/-- Three bytes in front of a frame are the start of the magic number. A search of three bytes finds the
frame, a search of two reports the first fault. -/
theorem recovery_exact_at_limit :
    let frame : Frame := { sourceId := 0, frameId := 1, timestamp := 10, payload := [7] }
    let bytes : Bytes := [0x47, 0x53, 0x56] ++ frame.onWire {}
    let script : Script :=
      { events := [.data (bytes.take 5), .fail ⟨.interrupted, none⟩, .notReady, .data (bytes.drop 5)] }
    let near : Decoder Script := { source := script, recovery := .scan 2 }
    let far : Decoder Script := { source := script, recovery := .scan 3 }
    IsLeast (({} : Protocol).offsetsWithin 3 bytes) 3 ∧
      far.next.1 = .ok frame ∧ far.next.2.skipped = 3 ∧
      (far.finish .start).answer = some (.ok frame) ∧ (far.finish .start).decoder.skipped = 3 ∧
      near.next.1 = .error (.fault (.badMagic 0x47535647)) ∧ near.next.2.skipped = 2 ∧
      Carries near.next.2.source (Wire.ofBytes [1, 7]) := by
  intro frame bytes script near far
  have hearlier : ∀ offset < 3, 1 ≤ offset → ¬({} : Protocol).AcceptsAt bytes offset := by decide
  have hfirst : IsLeast (({} : Protocol).offsetsWithin 3 bytes) 3 := by
    refine ⟨⟨by decide, by decide, by decide⟩, ?_⟩
    rintro offset ⟨hpos, -, haccepts⟩
    by_contra hlt
    exact hearlier offset (by omega) hpos haccepts
  have hlong : Header.size ≤ bytes.length := by decide
  have hfault : Header.accept {} (bytes.take Header.size) = .error (.badMagic 0x47535647) := by decide
  have hcarried : Script.wire script.events = Wire.ofBytes bytes ++ [] := by decide
  have hwaiting : Carries script (Wire.ofBytes bytes ++ []) := hcarried ▸ script.carries
  have hpolled : CarriesPolled script (Wire.ofBytes bytes ++ []) := hcarried ▸ script.carriesPolled
  obtain ⟨hfound, -, -, -⟩ :=
    recovery_exact far 3 bytes [] .close (.badMagic 0x47535647) rfl hlong hfault rfl
  obtain ⟨-, -, -, hbeyond⟩ :=
    recovery_exact near 2 bytes [] .close (.badMagic 0x47535647) rfl hlong hfault rfl
  obtain ⟨header, -, hbegin, hcomes⟩ := hfound 3 hfirst
  have hframe := next_onWire frame []
    ((far.onto (Wire.ofBytes bytes ++ [])).beginning bytes [] 3) (by decide) (by decide)
  rw [hbegin] at hframe
  obtain ⟨hnext, hfinish⟩ := hcomes 3 (Nat.le_refl 3)
  rw [hframe] at hnext hfinish
  obtain ⟨hanswer, hskipped, -⟩ := hnext hwaiting
  obtain ⟨hanswer', hskipped', -⟩ := hfinish hpolled
  obtain ⟨herror, hskipped'', hleft⟩ := (hbeyond hfirst).1 hwaiting
  have hrest : Wire.ofBytes (bytes.drop (Header.size + 2)) ++ [] = Wire.ofBytes [1, 7] := by decide
  exact ⟨hfirst, hanswer, hskipped, hanswer', hskipped', herror, hskipped'', hrest ▸ hleft⟩

end FramedVideo.Decoder
