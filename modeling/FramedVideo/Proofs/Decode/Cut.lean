import FramedVideo.Proofs.Decode.Polling
import FramedVideo.Proofs.Decode.Stopped
import FramedVideo.Proofs.Transport.Chunks

/-!
# Streams that are cut

A stream of frames may stop at any of its bytes, for either reason. The frames that lie before the cut
are read back, and then the decoder reports the stop: a close that falls between two frames is clean,
any other close is reported with the part of the frame in which it falls and with the number of bytes
of this part that came, and a failure of the transport is reported as such.

## Main definitions

- `Frame.CutAt` — how an offset divides some frames
- `Stop.report` — what a decoder makes of a stop

Main statements: `Decoder.nextMany_of_cut`, `Decoder.cut_anywhere`.
-/

namespace FramedVideo

open Transport (Source Failure Stop Stops Carries CarriesPolled Chunked Wire)

namespace Frame

variable {frames whole rest : List Frame} {offset into : Nat} {protocol : Protocol}

/-- The offset lies behind the whole frames, and `into` bytes into the first of the rest. -/
structure CutAt (frames : List Frame) (offset : Nat) (whole rest : List Frame) (into : Nat) :
    Prop where
  frames_eq : frames = whole ++ rest
  offset_eq : offset = (whole.map encodedSize).sum + into
  /-- The first of the rest is not whole. -/
  into_lt : ∀ next ∈ rest.head?, into < next.encodedSize
  into_eq : rest = [] → into = 0

theorem exists_cutAt (frames : List Frame) (offset : Nat)
    (hoffset : offset ≤ (frames.map encodedSize).sum) :
    ∃ whole rest into, CutAt frames offset whole rest into := by
  induction frames generalizing offset with
  | nil => exact ⟨[], [], 0, rfl, Nat.le_zero.1 hoffset, nofun, fun _ => rfl⟩
  | cons frame frames ih =>
    by_cases hfirst : offset < frame.encodedSize
    · refine ⟨[], frame :: frames, offset, rfl, (Nat.zero_add offset).symm, ?_, nofun⟩
      rintro next ⟨⟩
      exact hfirst
    · rw [List.map_cons, List.sum_cons] at hoffset
      obtain ⟨whole, rest, into, hframes, hinto, hlt, hnone⟩ := ih (offset - frame.encodedSize) (by omega)
      refine ⟨frame :: whole, rest, into, by rw [hframes, List.cons_append], ?_, hlt, hnone⟩
      rw [List.map_cons, List.sum_cons]
      omega

namespace CutAt

theorem fits_whole (hcut : CutAt frames offset whole rest into)
    (hfits : ∀ frame ∈ frames, frame.Fits protocol) : ∀ frame ∈ whole, frame.Fits protocol :=
  fun frame hframe => hfits frame (hcut.frames_eq ▸ List.mem_append_left rest hframe)

theorem fits_rest (hcut : CutAt frames offset whole rest into)
    (hfits : ∀ frame ∈ frames, frame.Fits protocol) : ∀ frame ∈ rest, frame.Fits protocol :=
  fun frame hframe => hfits frame (hcut.frames_eq ▸ List.mem_append_right whole hframe)

theorem take_stream (hcut : CutAt frames offset whole rest into)
    (hfits : ∀ frame ∈ frames, frame.Fits protocol) :
    (frames.flatMap (·.onWire protocol)).take offset =
      whole.flatMap (·.onWire protocol) ++ (rest.flatMap (·.onWire protocol)).take into := by
  rw [hcut.frames_eq, List.flatMap_append, hcut.offset_eq, ← length_stream (hcut.fits_whole hfits),
    List.take_length_add_append]

theorem take_stream_eq_iff (hcut : CutAt frames offset whole rest into)
    (hfits : ∀ frame ∈ frames, frame.Fits protocol) :
    (frames.flatMap (·.onWire protocol)).take offset = whole.flatMap (·.onWire protocol) ↔
      into = 0 := by
  rw [hcut.take_stream hfits, List.append_right_eq_self, List.take_eq_nil_iff, or_iff_left_iff_imp,
    List.flatMap_eq_nil_iff]
  intro hnothing
  refine hcut.into_eq (List.eq_nil_iff_forall_not_mem.2 fun frame hframe => ?_)
  exact onWire_ne_nil (hcut.fits_rest hfits frame hframe) (hnothing frame hframe)

end CutAt

theorem cutAt_whole (frames : List Frame) : CutAt frames (frames.map encodedSize).sum frames [] 0 :=
  ⟨(List.append_nil frames).symm, rfl, nofun, fun _ => rfl⟩

theorem cutAt_last (frames : List Frame) {last : Frame} (hlt : into < last.encodedSize) :
    CutAt (frames ++ [last]) ((frames.map encodedSize).sum + into) frames [last] into := by
  refine ⟨rfl, rfl, ?_, nofun⟩
  rintro next ⟨⟩
  exact hlt

end Frame

namespace Transport.Stop

/-- What a decoder makes of a stop that comes `into` bytes into the first of some frames. -/
def report (stop : Stop) (into : Nat) : List Frame → DecodeFailure
  | [] => .ofRead .header (stop.failure into Header.size)
  | next :: _ =>
    if into < Header.size then
      .ofRead .header (stop.failure into Header.size)
    else
      .ofRead .payload (stop.failure (into - Header.size) next.payload.length)

variable {into : Nat}

theorem report_of_lt (stop : Stop) (rest : List Frame) (hheader : into < Header.size) :
    stop.report into rest = .ofRead .header (stop.failure into Header.size) := by
  cases rest with
  | nil => rfl
  | cons next rest => exact if_pos hheader

theorem report_of_le (stop : Stop) {next : Frame} {rest : List Frame} (hnext : next ∈ rest.head?)
    (hpayload : Header.size ≤ into) :
    stop.report into rest =
      .ofRead .payload (stop.failure (into - Header.size) next.payload.length) := by
  obtain ⟨others, rfl⟩ := List.head?_eq_some_iff.1 hnext
  exact if_neg (Nat.not_lt.2 hpayload)

theorem report_cases (stop : Stop) (into : Nat) (rest : List Frame) :
    stop.report into rest = .ofRead .header (stop.failure into Header.size) ∨
      Header.size ≤ into ∧ ∃ expected,
        stop.report into rest = .ofRead .payload (stop.failure (into - Header.size) expected) := by
  by_cases hheader : into < Header.size
  · exact .inl (report_of_lt stop rest hheader)
  · cases rest with
    | nil => exact .inl rfl
    | cons next rest => exact .inr ⟨Nat.not_lt.1 hheader, _, if_neg hheader⟩

theorem report_fail (failure : Failure) (hkind : failure.kind ≠ .interrupted) (into : Nat)
    (rest : List Frame) : (fail failure hkind).report into rest = .transport failure := by
  obtain hreport | ⟨-, expected, hreport⟩ := report_cases (fail failure hkind) into rest
  · exact hreport
  · exact hreport

theorem report_close_cases (into : Nat) (rest : List Frame) :
    ∃ received expected, close.report into rest = .closed .header received expected ∨
      close.report into rest = .closed .payload received expected := by
  obtain hreport | ⟨-, expected, hreport⟩ := report_cases close into rest
  · exact ⟨_, _, .inl hreport⟩
  · exact ⟨_, _, .inr hreport⟩

/-- A close is clean just when it comes between two frames. -/
theorem isCleanClose_report_close (into : Nat) (rest : List Frame) :
    (close.report into rest).isCleanClose = true ↔ into = 0 := by
  obtain hreport | ⟨hpayload, expected, hreport⟩ := report_cases close into rest
  · rw [hreport]
    cases into <;> simp [failure, DecodeFailure.ofRead, DecodeFailure.isCleanClose]
  · have hpos : into ≠ 0 := Nat.ne_of_gt (Nat.lt_of_lt_of_le (by decide) hpayload)
    simp [hreport, failure, DecodeFailure.ofRead, DecodeFailure.isCleanClose, hpos]

end Transport.Stop

namespace Decoder

variable {σ : Type} [Source σ] {stop : Stop} {into : Nat}

/-- A frame of which only a front came is reported by the part in which it breaks off. -/
theorem next_of_front (rest : List Frame) (decoder : Decoder σ)
    (hfits : ∀ frame ∈ rest, frame.Fits decoder.protocol)
    (hlt : ∀ next ∈ rest.head?, into < next.encodedSize) (hnone : rest = [] → into = 0)
    (h : Stops decoder.source ((rest.flatMap (·.onWire decoder.protocol)).take into) stop) :
    decoder.next.1 = .error (stop.report into rest) := by
  cases rest with
  | nil =>
    rw [hnone rfl] at h ⊢
    exact next_of_short h (Nat.zero_lt_succ _)
  | cons next rest =>
    obtain ⟨parcel, hparcel, honWire, rfl⟩ := Frame.exists_parcel (hfits next List.mem_cons_self)
    have hinto : into < Header.size + parcel.payload.length := hlt parcel.frame rfl
    have hfront : ((parcel.frame :: rest).flatMap (·.onWire decoder.protocol)).take into =
        parcel.bytes.take into := by
      rw [List.flatMap_cons, ← honWire]
      exact List.take_append_of_le_length (by rw [Parcel.length_bytes]; omega)
    have hlength : (parcel.bytes.take into).length = into := by
      rw [List.length_take, Parcel.length_bytes]
      omega
    rw [hfront] at h
    by_cases hheader : into < Header.size
    · have hshort := next_of_short h (hlength.symm ▸ hheader)
      rw [hshort, hlength, Stop.report, if_pos hheader]
    · have haccept := hparcel.accept_take (Nat.not_lt.1 hheader)
      have hbehind : ((parcel.bytes.take into).drop Header.size).length = into - Header.size := by
        rw [List.length_drop, hlength]
      have hcut := next_of_cut h haccept (by rw [hbehind, hparcel.size_eq]; omega)
      rw [hcut, hbehind, hparcel.size_eq, Stop.report, if_neg hheader]
      rfl

/-- The frames before a cut are read back, and then the stop is reported. -/
theorem nextMany_of_cut {frames whole rest : List Frame} {offset : Nat} (decoder : Decoder σ)
    (hfits : ∀ frame ∈ frames, frame.Fits decoder.protocol)
    (hcut : Frame.CutAt frames offset whole rest into)
    (h : Stops decoder.source ((frames.flatMap (·.onWire decoder.protocol)).take offset) stop) :
    (decoder.nextMany (whole.length + 1)).1 = whole.map .ok ++ [.error (stop.report into rest)] := by
  rw [hcut.take_stream hfits] at h
  obtain ⟨left, hleft, hwhole⟩ := nextMany_of_stops whole _ decoder (hcut.fits_whole hfits) h
  rw [nextMany_succ, hwhole]
  have hlast := next_of_front rest { decoder with source := left } (hcut.fits_rest hfits) hcut.into_lt
    hcut.into_eq hleft
  dsimp only
  rw [hlast]

theorem finishMany_of_cut {frames whole rest : List Frame} {offset : Nat} {tail : Wire}
    (stop : Stop) (decoder : Decoder σ) (hfits : ∀ frame ∈ frames, frame.Fits decoder.protocol)
    (hcut : Frame.CutAt frames offset whole rest into) (htail : tail.headD .close = stop.signal)
    (h : CarriesPolled decoder.source
      (Wire.ofBytes ((frames.flatMap (·.onWire decoder.protocol)).take offset) ++ tail)) :
    (decoder.finishMany (whole.length + 1)).1 =
      List.map some (whole.map .ok ++ [.error (stop.report into rest)]) := by
  have hstops := Wire.stops ((frames.flatMap (·.onWire decoder.protocol)).take offset) htail
  generalize hcarried :
    Wire.ofBytes ((frames.flatMap (·.onWire decoder.protocol)).take offset) ++ tail = carried at *
  have hwire := nextMany_of_cut (decoder.onto carried) hfits hcut hstops
  exact (finishMany_of_carries h (Prod.ext hwire rfl)).1

/-- A stream of frames that stops at any offset, in whatever pieces it comes: the frames that lie
before the offset are read back, and then one failure is reported. If the stream is closed there, this
is a clean close where a frame ends, and says else how many bytes came of the header or of the payload.
If the transport fails there, it is that failure, even where a frame ends. -/
theorem cut_anywhere {σ : Type} [Source σ] (protocol : Protocol) (recovery : Recovery)
    (frames : List Frame) (bytes : Bytes) (offset : Nat) (source : σ)
    (hencode : Frame.encodeAll frames protocol = .ok bytes) (hoffset : offset ≤ bytes.length) :
    let decoder : Decoder σ := { source := source, protocol := protocol, recovery := recovery }
    let cut := bytes.take offset
    (∃ whole rest into, Frame.CutAt frames offset whole rest into) ∧
    ∀ whole rest into, Frame.CutAt frames offset whole rest into →
      let answers (failure : DecodeFailure) : List (Except DecodeFailure Frame) :=
        whole.map .ok ++ [.error failure]
      (∃ closed : DecodeFailure,
        (Stops source cut .close → (decoder.nextMany (whole.length + 1)).1 = answers closed) ∧
        (CarriesPolled source (Wire.ofBytes cut) →
          (decoder.finishMany (whole.length + 1)).1 = (answers closed).map some) ∧
        (into < Header.size → closed = .closed .header into Header.size) ∧
        (∀ next ∈ rest.head?, Header.size ≤ into →
          closed = .closed .payload (into - Header.size) next.payload.length) ∧
        (closed.isCleanClose = true ↔ into = 0)) ∧
      ∀ (failure : Failure) (hkind : failure.kind ≠ .interrupted),
        (Stops source cut (.fail failure hkind) →
          (decoder.nextMany (whole.length + 1)).1 = answers (.transport failure)) ∧
        (∀ after, CarriesPolled source (Wire.ofBytes cut ++ .fail failure :: after) →
          (decoder.finishMany (whole.length + 1)).1 = (answers (.transport failure)).map some) ∧
        (DecodeFailure.transport failure).isCleanClose = false := by
  intro decoder cut
  obtain ⟨hfits, rfl⟩ := (Frame.encodeAll_eq_ok_iff frames protocol bytes).1 hencode
  rw [Frame.length_stream hfits] at hoffset
  refine ⟨Frame.exists_cutAt frames offset hoffset, ?_⟩
  intro whole rest into hcut answers
  refine ⟨⟨Stop.close.report into rest, ?_, ?_, ?_, ?_, ?_⟩, ?_⟩
  · exact nextMany_of_cut decoder hfits hcut
  · intro hsource
    rw [← List.append_nil (Wire.ofBytes cut)] at hsource
    exact finishMany_of_cut .close decoder hfits hcut rfl hsource
  · exact Stop.report_of_lt .close rest
  · intro next hnext hpayload
    exact Stop.report_of_le .close hnext hpayload
  · exact Stop.isCleanClose_report_close into rest
  · intro failure hkind
    refine ⟨?_, ?_, rfl⟩
    · intro hsource
      exact Stop.report_fail failure hkind into rest ▸ nextMany_of_cut decoder hfits hcut hsource
    · intro after hsource
      exact Stop.report_fail failure hkind into rest ▸
        finishMany_of_cut (.fail failure hkind) decoder hfits hcut rfl hsource

/-- A stream that is closed in the payload of its first frame, and one whose transport fails where its
first frame ends. -/
theorem cut_within_and_between :
    let first : Frame := { sourceId := 1, frameId := 2, timestamp := 3, payload := [4, 5] }
    let second : Frame := { sourceId := 1, frameId := 3, timestamp := 4, payload := [] }
    let bytes : Bytes := [first, second].flatMap (·.onWire {})
    let closing : Chunked := { rest := bytes.take 29, plan := .fixed 7 }
    let failing : Chunked := { rest := bytes, plan := .fixed 7, failAt := some (30, .timedOut) }
    Frame.encodeAll [first, second] {} = .ok bytes ∧ 30 ≤ bytes.length ∧
      (nextMany 1 { source := closing }).1 = [.error (.closed .payload 1 2)] ∧
      (finishMany 1 { source := closing }).1 = [some (.error (.closed .payload 1 2))] ∧
      (nextMany 2 { source := failing }).1 =
        [.ok first, .error (.transport (Chunked.injected .timedOut))] := by
  intro first second bytes closing failing
  have hencode : Frame.encodeAll [first, second] {} = .ok bytes := by decide
  have hlength : 30 ≤ bytes.length := by decide
  -- from here on only how many bytes there are matters
  clear_value bytes
  have hwithin : Frame.CutAt [first, second] 29 [] [first, second] 29 :=
    ⟨rfl, rfl, by decide, nofun⟩
  have hbetween : Frame.CutAt [first, second] 30 [first] [second] 0 := ⟨rfl, rfl, by decide, nofun⟩
  have hwaiting : Stops closing (bytes.take 29) .close := (closing.carries rfl).stops_close
  have hpolled : CarriesPolled closing (Wire.ofBytes (bytes.take 29)) := closing.carriesPolled rfl
  have hfails : Stops failing (bytes.take 30) (.fail (Chunked.injected .timedOut) (by decide)) :=
    failing.stops (by decide) rfl (Nat.le_trans hlength (Nat.le_add_left _ _))
  obtain ⟨-, hclosing⟩ := cut_anywhere {} .disabled [first, second] bytes 29 closing hencode
    (Nat.le_of_lt hlength)
  obtain ⟨-, hfailing⟩ := cut_anywhere {} .disabled [first, second] bytes 30 failing hencode hlength
  obtain ⟨⟨closed, hwaited, hfinished, -, hpayload, -⟩, -⟩ := hclosing [] [first, second] 29 hwithin
  obtain ⟨-, hfailed⟩ := hfailing [first] [second] 0 hbetween
  obtain rfl : closed = .closed .payload 1 2 := hpayload first rfl (by decide)
  obtain ⟨htransport, -⟩ := hfailed (Chunked.injected .timedOut) (by decide)
  exact ⟨hencode, hlength, hwaited hwaiting, hfinished hpolled, htransport hfails⟩

end Decoder

end FramedVideo
