import FramedVideo.Proofs.Frame.Codec
import FramedVideo.Transport.Gauge
import FramedVideo.Writer

/-!
# What a sink was given

A recorded sink answers as the sink in it does, and remembers the bytes that were taken of each
offer. A sink that never fails and always takes something is given every frame that fits, whole and
in order, however little it takes at a time. Any other sink takes the whole of each frame that was
written, and a front of one that could not be written.

## Main definitions

- `Recorded` — a sink and the bytes that it took
- `Reliable` — the sink takes all bytes, in pieces of any size, and never fails
- `Writer.FlushFails` — all of a frame is accepted, and the flush after it fails
- `Writer.Wrote` — all that can come of a frame that is to be written

Main statements: `Recorded.writeAll_of_reliable`, `Writer.write_of_reliable`, `Writer.wrote`,
`Writer.bytes_write_of_ok`, `Writer.bytes_write_of_error`.
-/

namespace FramedVideo

namespace Transport

variable {ω : Type} [Sink ω]

/-- A sink, and the bytes that it took so far. -/
structure Recorded (ω : Type) where
  sink : ω
  bytes : Bytes := []

namespace Recorded

/-- Offers bytes to the sink, and remembers those that it takes. -/
def write (offer : Bytes) (recorded : Recorded ω) : Except Failure Nat × Recorded ω :=
  match Sink.write offer recorded.sink with
  | (.ok taken, left) => (.ok taken, ⟨left, recorded.bytes ++ offer.take taken⟩)
  | (.error failure, left) => (.error failure, { recorded with sink := left })

instance : Sink (Recorded ω) where
  write := write
  flush recorded := (Sink.flush recorded.sink).map id ({ recorded with sink := · })
  shutdown recorded := (Sink.shutdown recorded.sink).map id ({ recorded with sink := · })

end Recorded

/-- The sink takes all bytes that it is offered, in pieces of any size, and flushes without failure,
for as long as it is not shut down. -/
def Reliable (sink : ω) : Prop :=
  ∃ P : ω → Prop, P sink ∧ ∀ sink, P sink →
    (∀ offer, offer ≠ [] → ∃ taken left, Sink.write offer sink = (.ok (taken + 1), left) ∧ P left) ∧
      ∃ left, Sink.flush sink = (.ok (), left) ∧ P left

theorem Reliable.write {sink : ω} (h : Reliable sink) {offer : Bytes} (hne : offer ≠ []) :
    ∃ taken left, Sink.write offer sink = (.ok (taken + 1), left) ∧ Reliable left := by
  obtain ⟨P, hsink, hP⟩ := h
  obtain ⟨taken, left, hwrite, hleft⟩ := (hP sink hsink).1 offer hne
  exact ⟨taken, left, hwrite, P, hleft, hP⟩

theorem Reliable.flush {sink : ω} (h : Reliable sink) :
    ∃ left, Sink.flush sink = (.ok (), left) ∧ Reliable left := by
  obtain ⟨P, hsink, hP⟩ := h
  obtain ⟨left, hflush, hleft⟩ := (hP sink hsink).2
  exact ⟨left, hflush, P, hleft, hP⟩

/-- A gauge without a limit is reliable, if it takes something of each offer and no flush fails. -/
theorem Gauge.reliable (gauge : Gauge) (hchunk : gauge.settings.chunk ≠ some 0)
    (hlimit : gauge.settings.limit = none) (hflush : gauge.settings.flushFailure = none) :
    Reliable gauge := by
  refine ⟨fun other => other.settings = gauge.settings, rfl, fun other hother => ⟨?_, ?_⟩⟩
  · intro offer hne
    have hpiece : other.acceptable offer ≠ [] := by
      simp only [acceptable, hother, hlimit]
      split <;> rename_i hsome
      · rw [Ne, List.take_eq_nil_iff]
        rintro (hzero | hnil)
        · exact hchunk (hsome.trans (congrArg some hzero))
        · exact hne hnil
      · exact hne
    obtain ⟨taken, htaken⟩ : ∃ taken, (other.acceptable offer).length = taken + 1 :=
      Nat.exists_eq_succ_of_ne_zero (mt List.length_eq_zero_iff.1 hpiece)
    refine ⟨taken, (Gauge.write offer other).2, ?_, ?_⟩
    · show Gauge.write offer other = _
      simp only [Gauge.write, failureHere?, hother, hlimit, htaken]
    · simp only [Gauge.write, failureHere?, hother, hlimit]
  · refine ⟨(Gauge.flush other).2, ?_, ?_⟩
    · show Gauge.flush other = _
      simp only [Gauge.flush, hother, hflush]
    · simp only [Gauge.flush, hother, hflush]

namespace Recorded

theorem write_of_reliable {offer : Bytes} (hne : offer ≠ []) (recorded : Recorded ω)
    (h : Reliable recorded.sink) :
    ∃ taken left,
      Sink.write offer recorded = (.ok (taken + 1), ⟨left, recorded.bytes ++ offer.take (taken + 1)⟩) ∧
        Reliable left := by
  obtain ⟨taken, left, hwrite, hleft⟩ := h.write hne
  refine ⟨taken, left, ?_, hleft⟩
  show write offer recorded = _
  rw [write, hwrite]

/-- A reliable sink takes all the bytes, in order. -/
theorem writeAll_of_reliable (bytes : Bytes) (recorded : Recorded ω)
    (h : Reliable recorded.sink) :
    ∃ left, writeAll bytes recorded = (.ok (), ⟨left, recorded.bytes ++ bytes⟩) ∧
      Reliable left := by
  fun_induction writeAll bytes recorded with
  | case1 recorded => exact ⟨recorded.sink, by rw [List.append_nil], h⟩
  | case2 recorded byte rest failure left hwrite =>
    obtain ⟨taken, sink, htaken, -⟩ := write_of_reliable (List.cons_ne_nil byte rest) recorded h
    rw [hwrite] at htaken
    cases htaken
  | case3 recorded byte rest left hwrite =>
    obtain ⟨taken, sink, htaken, -⟩ := write_of_reliable (List.cons_ne_nil byte rest) recorded h
    rw [hwrite] at htaken
    cases htaken
  | case4 recorded byte rest taken left hwrite ih =>
    obtain ⟨taken', sink, htaken, hsink⟩ :=
      write_of_reliable (List.cons_ne_nil byte rest) recorded h
    rw [hwrite] at htaken
    cases htaken
    obtain ⟨last, hlast, hreliable⟩ := ih hsink
    refine ⟨last, hlast.trans ?_, hreliable⟩
    rw [List.append_assoc, List.take_succ_cons, List.cons_append, List.take_append_drop]

theorem flush_of_reliable (recorded : Recorded ω) (h : Reliable recorded.sink) :
    ∃ left, Sink.flush recorded = (.ok (), (⟨left, recorded.bytes⟩ : Recorded ω)) ∧
      Reliable left := by
  obtain ⟨left, hflush, hleft⟩ := h.flush
  refine ⟨left, ?_, hleft⟩
  show (Sink.flush recorded.sink).map id _ = _
  rw [hflush]
  rfl

theorem bytes_write_of_ok {offer : Bytes} {recorded left : Recorded ω} {taken : Nat}
    (h : Sink.write offer recorded = (.ok taken, left)) :
    left.bytes = recorded.bytes ++ offer.take taken := by
  change write offer recorded = _ at h
  unfold write at h
  split at h <;> cases h
  rfl

theorem bytes_write_of_error {offer : Bytes} {recorded left : Recorded ω} {failure : Failure}
    (h : Sink.write offer recorded = (.error failure, left)) : left.bytes = recorded.bytes := by
  change write offer recorded = _ at h
  unfold write at h
  split at h <;> cases h
  rfl

theorem bytes_writeAll_of_ok (bytes : Bytes) (recorded left : Recorded ω)
    (h : writeAll bytes recorded = (.ok (), left)) : left.bytes = recorded.bytes ++ bytes := by
  fun_induction writeAll bytes recorded with
  | case1 recorded =>
    cases h
    exact (List.append_nil _).symm
  | case2 recorded byte rest failure last hwrite => cases h
  | case3 recorded byte rest last hwrite => cases h
  | case4 recorded byte rest taken last hwrite ih =>
    rw [ih h, bytes_write_of_ok hwrite, List.append_assoc, List.take_succ_cons, List.cons_append,
      List.take_append_drop]

/-- Offers that fail add a front of the bytes, and not all of them. -/
theorem bytes_writeAll_of_error (bytes : Bytes) (recorded left : Recorded ω) {failure : Failure}
    (h : writeAll bytes recorded = (.error failure, left)) :
    ∃ part, part <+: bytes ∧ part.length < bytes.length ∧ left.bytes = recorded.bytes ++ part := by
  fun_induction writeAll bytes recorded with
  | case1 recorded => cases h
  | case2 recorded byte rest failure last hwrite =>
    cases h
    exact ⟨[], List.nil_prefix, Nat.zero_lt_succ _,
      (bytes_write_of_error hwrite).trans (List.append_nil _).symm⟩
  | case3 recorded byte rest last hwrite =>
    cases h
    exact ⟨[], List.nil_prefix, Nat.zero_lt_succ _, bytes_write_of_ok hwrite⟩
  | case4 recorded byte rest taken last hwrite ih =>
    obtain ⟨part, ⟨missing, hpart⟩, hless, hleft⟩ := ih h
    have hwhole : (byte :: rest).take (taken + 1) ++ (part ++ missing) = byte :: rest := by
      rw [hpart, List.take_succ_cons, List.cons_append, List.take_append_drop]
    refine ⟨(byte :: rest).take (taken + 1) ++ part, ⟨missing, ?_⟩, ?_, ?_⟩
    · rw [List.append_assoc, hwhole]
    · have hlength := congrArg List.length hwhole
      rw [← hpart] at hless
      simp only [List.length_append] at hless hlength ⊢
      omega
    · rw [hleft, bytes_write_of_ok hwrite, List.append_assoc]

theorem flush_eq (recorded : Recorded ω) :
    Sink.flush recorded =
      ((Sink.flush recorded.sink).1, ⟨(Sink.flush recorded.sink).2, recorded.bytes⟩) := rfl

end Recorded

end Transport

namespace Writer

open Transport (Sink Recorded Reliable writeAll)

variable {ω : Type} [Sink ω]

theorem protocol_write (frame : Frame) (writer : Writer ω) :
    (writer.write frame).2.protocol = writer.protocol := by
  unfold write
  split
  · rfl
  · split <;> rfl

/-- A frame that fits is not refused. -/
theorem not_fits_of_write {frame : Frame} {writer left : Writer ω} {fault : Fault}
    (h : writer.write frame = (.error (.fault fault), left)) : ¬frame.Fits writer.protocol := by
  intro hfits
  obtain ⟨header, hheader, -⟩ := Frame.header_of_fits hfits
  rw [write, hheader] at h
  dsimp only at h
  split at h <;> cases h

/-- A reliable sink is given a frame that fits as a whole. -/
theorem write_of_reliable {frame : Frame} (writer : Writer (Recorded ω))
    (hfits : frame.Fits writer.protocol) (h : Reliable writer.sink.sink) :
    ∃ left,
      writer.write frame =
        (.ok (),
          { writer with
            sink := ⟨left, writer.sink.bytes ++ frame.onWire writer.protocol⟩
            written := writer.written + 1 }) ∧
        Reliable left := by
  obtain ⟨header, hheader, honWire, -, -, -⟩ := Frame.onWire_of_fits hfits
  obtain ⟨front, hfront, hfrontReliable⟩ :=
    Recorded.writeAll_of_reliable header.toBytes writer.sink h
  obtain ⟨whole, hwhole, hwholeReliable⟩ :=
    Recorded.writeAll_of_reliable frame.payload ⟨front, writer.sink.bytes ++ header.toBytes⟩
      hfrontReliable
  obtain ⟨left, hflush, hleft⟩ := Recorded.flush_of_reliable
    ⟨whole, writer.sink.bytes ++ header.toBytes ++ frame.payload⟩ hwholeReliable
  refine ⟨left, ?_, hleft⟩
  have hput : put header.toBytes frame.payload writer.sink =
      (.ok (), ⟨left, writer.sink.bytes ++ frame.onWire writer.protocol⟩) := by
    rw [put, hfront]
    simp only [hwhole, hflush]
    rw [honWire, List.append_assoc]
  rw [write, hheader]
  simp only [hput]

theorem bytes_put_of_ok {header payload : Bytes} {recorded left : Recorded ω}
    (h : put header payload recorded = (.ok (), left)) :
    left.bytes = recorded.bytes ++ (header ++ payload) := by
  unfold put at h
  split at h <;> rename_i hheader
  · cases h
  · split at h <;> rename_i hpayload
    · cases h
    · rw [Recorded.flush_eq] at h
      rw [← congrArg Recorded.bytes (Prod.mk.inj h).2, Recorded.bytes_writeAll_of_ok _ _ _ hpayload,
        Recorded.bytes_writeAll_of_ok _ _ _ hheader, List.append_assoc]

/-- A sink takes a header and a payload as a whole, and then its flush fails. -/
def FlushFails (header payload : Bytes) (sink : ω) (failure : Transport.Failure) (left : ω) : Prop :=
  ∃ mid whole, writeAll header sink = (.ok (), mid) ∧ writeAll payload mid = (.ok (), whole) ∧
    Sink.flush whole = (.error failure, left)

/-- Of a header and a payload that could not be put, a front was taken. This is all of them just when
the flush failed. -/
theorem bytes_put_of_error {header payload : Bytes} {recorded left : Recorded ω}
    {failure : Transport.Failure} (h : put header payload recorded = (.error failure, left)) :
    ∃ part, part <+: header ++ payload ∧ left.bytes = recorded.bytes ++ part ∧
      (part = header ++ payload ↔ FlushFails header payload recorded failure left) := by
  unfold put at h
  split at h <;> rename_i hheader
  · cases h
    obtain ⟨part, hpart, hless, hleft⟩ := Recorded.bytes_writeAll_of_error _ _ _ hheader
    refine ⟨part, hpart.trans (List.prefix_append _ _), hleft, iff_of_false ?_ ?_⟩
    · rintro rfl
      rw [List.length_append] at hless
      omega
    · rintro ⟨mid, whole, hmid, -, -⟩
      cases hheader.symm.trans hmid
  · split at h <;> rename_i hpayload
    · cases h
      obtain ⟨part, hpart, hless, hleft⟩ := Recorded.bytes_writeAll_of_error _ _ _ hpayload
      refine ⟨header ++ part, (List.prefix_append_right_inj header).2 hpart, ?_, iff_of_false ?_ ?_⟩
      · rw [hleft, Recorded.bytes_writeAll_of_ok _ _ _ hheader, List.append_assoc]
      · intro hwhole
        rw [List.append_cancel_left hwhole] at hless
        exact absurd hless (Nat.lt_irrefl _)
      · rintro ⟨mid, whole, hmid, hwhole, -⟩
        cases hheader.symm.trans hmid
        cases hpayload.symm.trans hwhole
    · refine ⟨header ++ payload, List.prefix_rfl, ?_, iff_of_true rfl ⟨_, _, hheader, hpayload, h⟩⟩
      rw [Recorded.flush_eq] at h
      rw [← congrArg Recorded.bytes (Prod.mk.inj h).2, Recorded.bytes_writeAll_of_ok _ _ _ hpayload,
        Recorded.bytes_writeAll_of_ok _ _ _ hheader, List.append_assoc]

/-- What comes of a frame that is to be written: it is refused, and the sink is not touched; or a front
of it is accepted; or it is written. -/
inductive Wrote (frame : Frame) (writer : Writer (Recorded ω)) :
    Except WriteFailure Unit × Writer (Recorded ω) → Prop where
  | refused (hlarge : ¬frame.Fits writer.protocol) :
    Wrote frame writer
      (.error (.fault (.payloadTooLarge frame.payload.length writer.protocol.maxPayload)), writer)
  | broken {header part failure left} (hheader : frame.header writer.protocol = .ok header)
    (hpart : part <+: header.toBytes ++ frame.payload)
    (hleft : left.bytes = writer.sink.bytes ++ part)
    (hwhole : part = header.toBytes ++ frame.payload ↔
      FlushFails header.toBytes frame.payload writer.sink failure left) :
    Wrote frame writer (.error (.transport failure), { writer with sink := left })
  | done {header left} (hheader : frame.header writer.protocol = .ok header)
    (hleft : left.bytes = writer.sink.bytes ++ (header.toBytes ++ frame.payload)) :
    Wrote frame writer (.ok (), { writer with sink := left, written := writer.written + 1 })

theorem wrote (frame : Frame) (writer : Writer (Recorded ω)) :
    writer.Wrote frame (writer.write frame) := by
  by_cases hfits : frame.Fits writer.protocol
  · obtain ⟨header, hheader, -⟩ := Frame.header_of_fits hfits
    rw [write, hheader]
    dsimp only
    cases hput : put header.toBytes frame.payload writer.sink with
    | mk answer left =>
      cases answer with
      | error failure =>
        obtain ⟨part, hpart, hleft, hwhole⟩ := bytes_put_of_error hput
        exact .broken hheader hpart hleft hwhole
      | ok done => exact .done hheader (bytes_put_of_ok hput)
  · rw [write, Frame.header_of_not_fits hfits]
    exact .refused hfits

/-- A frame that was written is among the accepted bytes as a whole. -/
theorem bytes_write_of_ok {frame : Frame} {writer left : Writer (Recorded ω)}
    (h : writer.write frame = (.ok (), left)) :
    left.protocol = writer.protocol ∧
      left.sink.bytes = writer.sink.bytes ++ frame.onWire writer.protocol := by
  have hwrote := wrote frame writer
  rw [h] at hwrote
  cases hwrote with
  | done hheader hleft => exact ⟨rfl, Frame.onWire_of_header hheader ▸ hleft⟩

/-- Of a frame that could not be written, a front was accepted. If this is all of it, the flush
failed. -/
theorem bytes_write_of_error {frame : Frame} {writer left : Writer (Recorded ω)}
    {failure : Transport.Failure} (h : writer.write frame = (.error (.transport failure), left)) :
    left.protocol = writer.protocol ∧
      ∃ part, part <+: frame.onWire writer.protocol ∧
        left.sink.bytes = writer.sink.bytes ++ part ∧
        (part = frame.onWire writer.protocol →
          ∃ before, Sink.flush before = (.error failure, left.sink.sink)) := by
  have hwrote := wrote frame writer
  rw [h] at hwrote
  cases hwrote with
  | broken hheader hpart hleft hwhole =>
    rw [Frame.onWire_of_header hheader]
    refine ⟨rfl, _, hpart, hleft, fun hall => ?_⟩
    obtain ⟨mid, whole, -, -, hflush⟩ := hwhole.1 hall
    rw [Recorded.flush_eq] at hflush
    obtain ⟨hfailure, rfl⟩ := Prod.mk.inj hflush
    exact ⟨whole.sink, Prod.ext hfailure rfl⟩

end Writer

end FramedVideo
