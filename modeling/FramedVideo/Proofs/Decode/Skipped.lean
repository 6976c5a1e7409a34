import FramedVideo.Proofs.Decode.Polling
import FramedVideo.Proofs.Frame.Codec
import FramedVideo.Proofs.Transport.Scripts
import Mathlib.Algebra.GroupWithZero.Nat

/-!
# The count of skipped bytes

A search slides its window over the stream, and discards a byte each time. The count of skipped bytes
has those of every search that came to an end of its own, at a header or at its limit. What a search
discarded that was cut off, because the stream ended or failed, is not in the count.

## Main definitions

- `Decoder.slides` — how far a search slides its window
- `Decoder.discarded` — the bytes that the search of a call discards
- `Decoder.uncounted` — the bytes that the search of a call discards and does not count
- `Decoder.calls` — the decoder before each of a number of calls

Main statements: `Decoder.skipped_next`, `Decoder.skipped_nextMany`, `Decoder.skipped_add_uncounted`.
-/

namespace FramedVideo.Decoder

open Transport (Source Carries CarriesPolled Script Wire readExact)

/-- There is no header, and the stream is the reason: it ended or failed. -/
def cutOff : Except DecodeFailure Header → Bool
  | .error failure => failure.fault?.isNone
  | .ok _ => false

section Source

variable {σ : Type} [Source σ]

/-- How many bytes a search slides its window by. -/
def slides (window : Window) (decoder : Decoder σ) : Nat :=
  if window.exhausted then
    0
  else
    match readExact 1 decoder.source with
    | (.error _, _) => 0
    | (.ok bytes, left) =>
      let moved := window.push (bytes.headD 0)
      match moved.candidate? decoder.protocol with
      | some _ => 1
      | none => slides moved { decoder with source := left } + 1
termination_by window.limit - window.skipped
decreasing_by
  rename_i hmore
  have hroom := Window.exhausted_eq_false.1 (Bool.eq_false_iff.2 hmore)
  simp only [Window.limit_push, Window.skipped_push]
  omega

/-- The bytes that the search of a call discards; none if the call does not search. -/
def discarded (decoder : Decoder σ) : Nat :=
  match readExact Header.size decoder.source with
  | (.error _, _) => 0
  | (.ok bytes, left) =>
    match Header.accept decoder.protocol bytes with
    | .ok _ => 0
    | .error _ =>
      match decoder.recovery with
      | .disabled => 0
      | .scan limit => slides (.start bytes limit) { decoder with source := left }

/-- The bytes that the search of a call discards and does not count. -/
def uncounted (decoder : Decoder σ) : Nat :=
  if cutOff decoder.nextHeader.1 then decoder.discarded else 0

/-- The decoder before each of a number of calls. -/
def calls : Nat → Decoder σ → List (Decoder σ)
  | 0, _ => []
  | count + 1, decoder => decoder :: decoder.next.2.calls count

theorem cutOff_ofRead (stage : Stage) (failure : Transport.ReadFailure) :
    cutOff (.error (.ofRead stage failure)) = true := by
  cases failure <;> rfl

/-- A call comes by its header with one exact read, or it searches after that. -/
theorem nextHeader_cases (decoder : Decoder σ) :
    let left : Decoder σ := { decoder with source := (readExact Header.size decoder.source).2 }
    (∃ answer, decoder.nextHeader = (answer, left) ∧ decoder.discarded = 0) ∨
      ∃ fault rejected limit, decoder.nextHeader = search fault (.start rejected limit) left ∧
        decoder.discarded = slides (.start rejected limit) left := by
  rw [nextHeader_eq, discarded]
  cases readExact Header.size decoder.source with
  | mk answer left =>
    cases answer with
    | error failure => exact .inl ⟨_, rfl, rfl⟩
    | ok bytes =>
      simp only [headerRead]
      cases Header.accept decoder.protocol bytes with
      | ok header => exact .inl ⟨_, rfl, rfl⟩
      | error fault =>
        cases decoder.recovery with
        | disabled => exact .inl ⟨_, recover_disabled fault bytes _ rfl, rfl⟩
        | scan limit =>
          exact .inr ⟨fault, bytes, limit, recover_scan fault bytes _ rfl, rfl⟩

theorem next_cases (decoder : Decoder σ) :
    decoder.next.2 = decoder.nextHeader.2 ∨
      ∃ length, decoder.next.2 =
        { decoder.nextHeader.2 with
          source := (readExact length decoder.nextHeader.2.source).2 } := by
  rw [next_eq]
  cases decoder.nextHeader with
  | mk answer left =>
    cases answer with
    | error failure => exact .inl rfl
    | ok header =>
      refine .inr ⟨header.payloadSize.toNat, ?_⟩
      simp only [thenPayload, framePayload_eq]
      cases readExact header.payloadSize.toNat left.source with
      | mk payload left' => cases payload <;> rfl

-- ════════════════════════════════════════════════════════════════════════
-- What is counted
-- ════════════════════════════════════════════════════════════════════════

/-- A search adds to the count what its window has slid by, in all, unless it is cut off. -/
theorem skipped_search (fault : Fault) (window : Window) (decoder : Decoder σ) :
    let searched := search fault window decoder
    let slid := window.skipped + slides window decoder
    searched.2.skipped = decoder.skipped + if cutOff searched.1 then 0 else slid := by
  fun_induction search fault window decoder with
  | case1 window decoder hexhausted =>
    rw [slides, if_pos hexhausted]
    rfl
  | case2 window decoder hroom failure left hread =>
    simp only [cutOff_ofRead, if_true]
    rfl
  | case3 window decoder hroom bytes left hread moved header hfound =>
    rw [slides, if_neg hroom, hread]
    simp only [hfound, moved]
    rfl
  | case4 window decoder hroom bytes left hread moved hnone ih =>
    -- the byte moves from what is still to slide to what the window has counted
    have hslides : slides window decoder = slides moved { decoder with source := left } + 1 := by
      rw [slides, if_neg hroom, hread]
      simp only [hnone, moved]
    have hslid : window.skipped + slides window decoder =
        moved.skipped + slides moved { decoder with source := left } := by
      rw [hslides, Window.skipped_push]
      omega
    rw [hslid]
    exact ih

theorem skipped_nextHeader (decoder : Decoder σ) :
    decoder.nextHeader.2.skipped =
      decoder.skipped + if cutOff decoder.nextHeader.1 then 0 else decoder.discarded := by
  obtain ⟨answer, hheader, hnone⟩ | ⟨fault, rejected, limit, hheader, hslides⟩ :=
    decoder.nextHeader_cases
  · rw [hheader, hnone, ite_self]
    rfl
  · rw [hheader, hslides, skipped_search, Window.start, Nat.zero_add]

/-- The payload of a frame is not searched. -/
theorem skipped_next_eq (decoder : Decoder σ) :
    decoder.next.2.skipped = decoder.nextHeader.2.skipped := by
  obtain hsame | ⟨length, hpayload⟩ := decoder.next_cases
  · rw [hsame]
  · rw [hpayload]

/-- A call adds to the count what its search discards, unless the search is cut off. -/
theorem skipped_next (decoder : Decoder σ) :
    decoder.next.2.skipped + decoder.uncounted = decoder.skipped + decoder.discarded := by
  rw [skipped_next_eq, skipped_nextHeader, uncounted]
  split <;> rfl

/-- So it is for any number of calls, whatever they answer. -/
theorem skipped_nextMany (count : Nat) (decoder : Decoder σ) :
    (decoder.nextMany count).2.skipped + ((decoder.calls count).map (·.uncounted)).sum =
      decoder.skipped + ((decoder.calls count).map (·.discarded)).sum := by
  induction count generalizing decoder with
  | zero => rfl
  | succ count ih =>
    have hfirst := decoder.skipped_next
    have hrest := ih decoder.next.2
    simp only [nextMany, calls, List.map_cons, List.sum_cons]
    omega

theorem uncounted_of_frame {decoder : Decoder σ} {frame : Frame} (h : decoder.next.1 = .ok frame) :
    decoder.uncounted = 0 := by
  rw [next_eq] at h
  rw [uncounted]
  cases hheader : decoder.nextHeader with
  | mk answer left =>
    rw [hheader] at h
    cases answer with
    | error failure => cases h
    | ok header => rfl

/-- Calls that bring frames count all that they discard. -/
theorem skipped_of_frames {frames : List Frame} {decoder : Decoder σ}
    (h : (decoder.nextMany frames.length).1 = frames.map .ok) :
    (decoder.nextMany frames.length).2.skipped =
      decoder.skipped + ((decoder.calls frames.length).map (·.discarded)).sum := by
  have huncounted : ((decoder.calls frames.length).map (·.uncounted)).sum = 0 := by
    induction frames generalizing decoder with
    | nil => rfl
    | cons frame frames ih =>
      obtain ⟨hfirst, hrest⟩ := List.cons_eq_cons.1 h
      rw [List.length_cons, calls, List.map_cons, List.sum_cons, uncounted_of_frame hfirst]
      exact (Nat.zero_add _).trans (ih hrest)
  rw [← skipped_nextMany, huncounted]
  rfl

theorem search_ne_cleanClose {fault : Fault} {window : Window} {decoder : Decoder σ}
    {failure : DecodeFailure} (h : (search fault window decoder).1 = .error failure) :
    failure.isCleanClose = false := by
  fun_induction search fault window decoder with
  | case1 =>
    cases h
    rfl
  | case2 window decoder hroom cause left hread =>
    cases h
    cases cause <;> rfl
  | case3 => cases h
  | case4 window decoder hroom bytes left hread moved hnone ih => exact ih h

/-- A call that meets a clean close has read no header. -/
theorem nextHeader_of_cleanClose {decoder : Decoder σ} {failure : DecodeFailure}
    (h : decoder.next.1 = .error failure) (hclean : failure.isCleanClose = true) :
    decoder.nextHeader.1 = .error failure := by
  rw [next_eq] at h
  cases hheader : decoder.nextHeader with
  | mk answer left =>
    rw [hheader] at h
    cases answer with
    | error cause =>
      cases h
      rfl
    | ok header =>
      rw [thenPayload, framePayload_eq] at h
      cases hread : readExact header.payloadSize.toNat left.source with
      | mk payload left' =>
        rw [hread] at h
        cases payload with
        | error cause =>
          cases h
          cases cause <;> cases hclean
        | ok payload => cases h

theorem skipped_of_cleanClose {decoder : Decoder σ} {failure : DecodeFailure}
    (h : decoder.next.1 = .error failure) (hclean : failure.isCleanClose = true) :
    decoder.next.2.skipped = decoder.skipped := by
  have hheader := nextHeader_of_cleanClose h hclean
  rw [skipped_next_eq]
  obtain ⟨answer, hplain, -⟩ | ⟨fault, rejected, limit, hsearch, -⟩ := decoder.nextHeader_cases
  · rw [hplain]
  · rw [hsearch] at hheader
    rw [search_ne_cleanClose hheader] at hclean
    cases hclean

end Source

-- ════════════════════════════════════════════════════════════════════════
-- Bytes of the stream
-- ════════════════════════════════════════════════════════════════════════

/-- A search reads a byte each time that its window slides, and no others. -/
theorem bytesLeft_search (fault : Fault) (window : Window) (decoder : Decoder Wire) :
    slides window decoder + (search fault window decoder).2.source.bytesLeft =
      decoder.source.bytesLeft := by
  fun_induction search fault window decoder with
  | case1 window decoder hexhausted =>
    rw [slides, if_pos hexhausted]
    exact Nat.zero_add _
  | case2 window decoder hroom failure left hread =>
    obtain ⟨hle, hlt⟩ := Wire.meter.readExact_error hread
    rw [slides, if_neg hroom, hread]
    simp only
    omega
  | case3 window decoder hroom bytes left hread moved header hfound =>
    rw [slides, if_neg hroom, hread]
    simp only [hfound, moved]
    exact (Wire.meter.readExact_ok hread).2
  | case4 window decoder hroom bytes left hread moved hnone ih =>
    have hone := (Wire.meter.readExact_ok hread).2
    rw [slides, if_neg hroom, hread]
    simp only [hnone, moved] at ih ⊢
    omega

theorem bytesLeft_next_le (decoder : Decoder Wire) :
    decoder.discarded + decoder.next.2.source.bytesLeft ≤ decoder.source.bytesLeft := by
  have hread := Wire.meter.readExact_le Header.size decoder.source
  have hheader : decoder.discarded + decoder.nextHeader.2.source.bytesLeft ≤
      decoder.source.bytesLeft := by
    obtain ⟨answer, hheader, hnone⟩ | ⟨fault, rejected, limit, hheader, hslides⟩ :=
      decoder.nextHeader_cases
    · rw [hheader, hnone, Nat.zero_add]
      exact hread
    · rw [hheader, hslides, bytesLeft_search]
      exact hread
  obtain hsame | ⟨length, hpayload⟩ := decoder.next_cases
  · rw [hsame]
    exact hheader
  · rw [hpayload]
    exact Nat.le_trans (Nat.add_le_add_left (Wire.meter.readExact_le length _) _) hheader

/-- No byte of the stream is discarded twice. -/
theorem sum_discarded_le (count : Nat) (decoder : Decoder Wire) :
    ((decoder.calls count).map (·.discarded)).sum ≤ decoder.source.bytesLeft := by
  induction count generalizing decoder with
  | zero => exact Nat.zero_le _
  | succ count ih =>
    have hfirst := decoder.bytesLeft_next_le
    have hrest := ih decoder.next.2
    simp only [calls, List.map_cons, List.sum_cons]
    omega

-- ════════════════════════════════════════════════════════════════════════
-- Any source
-- ════════════════════════════════════════════════════════════════════════

/-- Of the bytes that the searches of any number of calls discard, the count has all but those of the
searches that were cut off. That holds for a decoder that waits and for one that is polled, however the
stream is cut into pieces. So the count is right if and only if no search was cut off after it had
discarded a byte. -/
theorem skipped_add_uncounted {σ : Type} [Source σ] (protocol : Protocol) (recovery : Recovery)
    (source : σ) (carried : Wire) (count : Nat) :
    let decoder : Decoder σ := { source := source, protocol := protocol, recovery := recovery }
    let calls := (decoder.onto carried).calls count
    let discarded := (calls.map (·.discarded)).sum
    let uncounted := (calls.map (·.uncounted)).sum
    (Carries source carried → (decoder.nextMany count).2.skipped + uncounted = discarded) ∧
    (CarriesPolled source carried →
      (decoder.finishMany count).2.skipped + uncounted = discarded) ∧
    (uncounted = 0 ↔
      ∀ call ∈ calls, cutOff call.nextHeader.1 = true → call.discarded = 0) ∧
    discarded ≤ carried.bytesLeft := by
  intro decoder calls discarded uncounted
  have hwire : ((decoder.onto carried).nextMany count).2.skipped + uncounted = discarded :=
    (skipped_nextMany count (decoder.onto carried)).trans (Nat.zero_add _)
  refine ⟨?_, ?_, ?_, sum_discarded_le count (decoder.onto carried)⟩
  · rintro ⟨R, hR, hsource⟩
    obtain ⟨right, -, hmany⟩ := nextMany_alike hR.readsAlike count decoder carried hsource
    rw [hmany] at hwire
    exact hwire
  · rintro ⟨R, hR, hsource⟩
    obtain ⟨right, -, -, hlast⟩ := finishMany_alike hR.pollsAlike count decoder carried hsource
    rw [hlast] at hwire
    exact hwire
  · rw [List.sum_eq_zero_iff_forall_eq_nat, List.forall_mem_map]
    refine forall₂_congr fun call _ => ?_
    rw [Decoder.uncounted]
    split <;> simp_all

/-- A search finds a frame behind a stray byte, the next one reaches its limit, and the last one is cut
off, after it has discarded a byte. -/
theorem skipped_add_uncounted_of_three :
    let frame : Frame := { sourceId := 0, frameId := 1, timestamp := 10, payload := [] }
    let bytes : Bytes := 0x55 :: frame.onWire {} ++ List.replicate 59 0x55
    let script : Script := { events := [.data (bytes.take 40), .notReady, .data (bytes.drop 40)] }
    let decoder : Decoder Script := { source := script, recovery := .scan 2 }
    let calls := (decoder.onto (Wire.ofBytes bytes)).calls 3
    calls.map (·.discarded) = [1, 2, 1] ∧ calls.map (·.uncounted) = [0, 0, 1] ∧
      (decoder.nextMany 3).2.skipped = 3 ∧ (decoder.finishMany 3).2.skipped = 3 := by
  intro frame bytes script decoder calls
  have hdiscarded : calls.map (·.discarded) = [1, 2, 1] := by decide +kernel
  have huncounted : calls.map (·.uncounted) = [0, 0, 1] := by decide +kernel
  have hcarried : Script.wire script.events = Wire.ofBytes bytes := by decide
  obtain ⟨hwaiting, hpolled, -, -⟩ :=
    skipped_add_uncounted {} (.scan 2) script (Wire.ofBytes bytes) 3
  rw [hdiscarded, huncounted] at hwaiting hpolled
  have hskipped := hwaiting (hcarried ▸ script.carries)
  have hskipped' := hpolled (hcarried ▸ script.carriesPolled)
  exact ⟨hdiscarded, huncounted, Nat.add_right_cancel hskipped, Nat.add_right_cancel hskipped'⟩

/-- The stream ends in a search that has discarded three bytes, and none of them is counted. -/
theorem skipped_of_cut_off :
    let script : Script := { events := [.data (List.replicate 31 0)] }
    let decoder : Decoder Script := { source := script, recovery := .scan 10 }
    (decoder.nextMany 1).1 = [.error (.closed .resync 0 1)] ∧
      (decoder.nextMany 1).2.skipped = 0 ∧ ((decoder.calls 1).map (·.discarded)).sum = 3 := by
  intro script decoder
  exact ⟨by cbv, by decide +kernel, by decide +kernel⟩

end FramedVideo.Decoder
