import FramedVideo.Proofs.Decode.RoundTrip
import FramedVideo.Proofs.Transport.Chunks
import FramedVideo.Proofs.Transport.Recorded

/-!
# A writer that goes on

One who writes frames through a writer may go on after each of its answers, whatever the sink does. The
bytes that the sink accepts are told by the answers: the whole frame, nothing, or a front of it. As long
as the sink does not fail, the frames that were written are read back, and those that were refused leave
no gap between them.

## Main definitions

- `Writer.after` — the writer after it was given some frames
- `Writer.Attempt`, `Writer.attempts` — a frame with the writer that it is given to, one after the other
- `Writer.Attempt.accepted` — the bytes that the sink took
- `Writer.Attempt.Exact` — the answer tells what the sink took
- `Writer.succeeded` — the frames that were written
- `Writer.Clean` — the sink did not fail

Main statements: `Writer.Attempt.exact`, `Writer.bytes_after`, `Writer.writes_exact`.
-/

namespace FramedVideo.Writer

open Transport (Sink Source Recorded Wire Carries CarriesPolled Gauge Chunked)

variable {ω : Type} [Sink ω]

-- ════════════════════════════════════════════════════════════════════════
-- One attempt
-- ════════════════════════════════════════════════════════════════════════

/-- A frame, and the writer that it is given to. -/
structure Attempt (ω : Type) where
  frame : Frame
  writer : Writer (Recorded ω)

namespace Attempt

/-- What the writer answers. -/
def answer (attempt : Attempt ω) : Except WriteFailure Unit :=
  (attempt.writer.write attempt.frame).1

/-- The writer after the attempt. -/
def left (attempt : Attempt ω) : Writer (Recorded ω) := (attempt.writer.write attempt.frame).2

/-- The bytes that the sink took in the attempt. -/
def accepted (attempt : Attempt ω) : Bytes :=
  attempt.left.sink.bytes.drop attempt.writer.sink.bytes.length

/-- The answer tells what the sink took. -/
structure Exact (protocol : Protocol) (attempt : Attempt ω) : Prop where
  /-- A frame that was written was accepted as a whole. -/
  of_ok : attempt.answer = .ok () → attempt.frame.encode protocol = .ok attempt.accepted
  /-- A frame that is refused changes nothing: nothing is written, and nothing is flushed. -/
  of_fault : ∀ fault, attempt.answer = .error (.fault fault) →
    attempt.left = attempt.writer ∧ attempt.accepted = []
  /-- Of a frame that could not be written, a front was accepted, and all of it just when the flush
  failed. -/
  of_transport : ∀ failure, attempt.answer = .error (.transport failure) →
    ∃ header : Header, attempt.frame.encode protocol = .ok (header.toBytes ++ attempt.frame.payload) ∧
      attempt.accepted <+: header.toBytes ++ attempt.frame.payload ∧
      (attempt.accepted = header.toBytes ++ attempt.frame.payload ↔
        FlushFails header.toBytes attempt.frame.payload attempt.writer.sink failure
          attempt.left.sink)
  fault_iff : (∃ fault, attempt.answer = .error (.fault fault)) ↔
    protocol.maxPayload.toNat < attempt.frame.payload.length

theorem accepted_eq {attempt : Attempt ω} {part : Bytes}
    (h : attempt.left.sink.bytes = attempt.writer.sink.bytes ++ part) : attempt.accepted = part := by
  rw [accepted, h, List.drop_left]

/-- Nothing that was accepted before is taken back. -/
theorem bytes_left (attempt : Attempt ω) :
    attempt.left.sink.bytes = attempt.writer.sink.bytes ++ attempt.accepted := by
  have hwrote := wrote attempt.frame attempt.writer
  have hmore : ∃ part, attempt.left.sink.bytes = attempt.writer.sink.bytes ++ part := by
    rw [left]
    generalize attempt.writer.write attempt.frame = result at hwrote ⊢
    cases hwrote with
    | refused hlarge => exact ⟨[], (List.append_nil _).symm⟩
    | broken hheader hpart hleft hwhole => exact ⟨_, hleft⟩
    | done hheader hleft => exact ⟨_, hleft⟩
  obtain ⟨part, hpart⟩ := hmore
  rw [accepted_eq hpart, hpart]

theorem exact (attempt : Attempt ω) : attempt.Exact attempt.writer.protocol := by
  obtain ⟨frame, writer⟩ := attempt
  have hwrote := wrote frame writer
  generalize hresult : writer.write frame = result at hwrote
  have hanswer : answer ⟨frame, writer⟩ = result.1 := congrArg Prod.fst hresult
  have hleft : left ⟨frame, writer⟩ = result.2 := congrArg Prod.snd hresult
  cases hwrote with
  | refused hlarge =>
    have haccepted : accepted ⟨frame, writer⟩ = [] :=
      accepted_eq (hleft ▸ (List.append_nil _).symm)
    refine ⟨?_, fun _ _ => ⟨hleft, haccepted⟩, ?_, ?_⟩
    · rw [hanswer]
      nofun
    · rw [hanswer]
      nofun
    · exact iff_of_true ⟨_, hanswer⟩ (Nat.lt_of_not_le hlarge)
  | @broken header part failure sink hheader hpart hbytes hwhole =>
    have haccepted : accepted ⟨frame, writer⟩ = part := accepted_eq (hleft ▸ hbytes)
    refine ⟨?_, ?_, ?_, ?_⟩
    · rw [hanswer]
      nofun
    · rw [hanswer]
      nofun
    · rw [hanswer, haccepted, hleft]
      rintro failure ⟨⟩
      exact ⟨header, Frame.encode_of_header hheader, hpart, hwhole⟩
    · rw [hanswer]
      exact iff_of_false nofun (Nat.not_lt.2 (Frame.fits_of_header hheader))
  | @done header sink hheader hbytes =>
    have haccepted : accepted ⟨frame, writer⟩ = header.toBytes ++ frame.payload :=
      accepted_eq (hleft ▸ hbytes)
    refine ⟨?_, ?_, ?_, ?_⟩
    · rw [haccepted]
      exact fun _ => Frame.encode_of_header hheader
    · rw [hanswer]
      nofun
    · rw [hanswer]
      nofun
    · rw [hanswer]
      exact iff_of_false nofun (Nat.not_lt.2 (Frame.fits_of_header hheader))

end Attempt

-- ════════════════════════════════════════════════════════════════════════
-- One attempt after the other
-- ════════════════════════════════════════════════════════════════════════

/-- The writer after it was given some frames. -/
def after (writer : Writer ω) (frames : List Frame) : Writer ω :=
  frames.foldl (fun writer frame => (writer.write frame).2) writer

/-- The attempts to write some frames, which go on after failures. -/
def attempts (writer : Writer (Recorded ω)) : List Frame → List (Attempt ω)
  | [] => []
  | frame :: frames => ⟨frame, writer⟩ :: (writer.write frame).2.attempts frames

/-- The frames that were written. -/
def succeeded (attempts : List (Attempt ω)) : List Frame :=
  (attempts.filter (·.answer.isOk)).map (·.frame)

theorem succeeded_cons_of_ok {attempt : Attempt ω} (h : attempt.answer = .ok ())
    (attempts : List (Attempt ω)) :
    succeeded (attempt :: attempts) = attempt.frame :: succeeded attempts := by
  rw [succeeded, List.filter_cons_of_pos (by rw [h]; rfl)]
  rfl

theorem succeeded_cons_of_error {attempt : Attempt ω} {failure : WriteFailure}
    (h : attempt.answer = .error failure) (attempts : List (Attempt ω)) :
    succeeded (attempt :: attempts) = succeeded attempts := by
  rw [succeeded, List.filter_cons_of_neg (by rw [h]; nofun)]
  rfl

theorem frames_attempts (writer : Writer (Recorded ω)) (frames : List Frame) :
    (writer.attempts frames).map (·.frame) = frames := by
  induction frames generalizing writer with
  | nil => rfl
  | cons frame frames ih => exact congrArg (frame :: ·) (ih _)

/-- What the sink holds is what it took in all the attempts. -/
theorem bytes_after (writer : Writer (Recorded ω)) (frames : List Frame) :
    (writer.after frames).sink.bytes =
      writer.sink.bytes ++ (writer.attempts frames).flatMap (·.accepted) := by
  induction frames generalizing writer with
  | nil => exact (List.append_nil _).symm
  | cons frame frames ih =>
    have hrest : (writer.after (frame :: frames)).sink.bytes = _ := ih (writer.write frame).2
    have hfirst : (writer.write frame).2.sink.bytes = _ := Attempt.bytes_left ⟨frame, writer⟩
    rw [hrest, hfirst, List.append_assoc]
    rfl

theorem written_after (writer : Writer (Recorded ω)) (frames : List Frame) :
    (writer.after frames).written =
      writer.written + (succeeded (writer.attempts frames)).length := by
  induction frames generalizing writer with
  | nil => rfl
  | cons frame frames ih =>
    have hrest : (writer.after (frame :: frames)).written = _ := ih (writer.write frame).2
    have hwrote := wrote frame writer
    rw [hrest, attempts]
    generalize hresult : writer.write frame = result at hwrote ⊢
    have hanswer : (Attempt.mk frame writer).answer = result.1 := congrArg Prod.fst hresult
    cases hwrote with
    | refused | broken => rw [succeeded_cons_of_error hanswer]
    | done =>
      rw [succeeded_cons_of_ok hanswer, List.length_cons]
      dsimp only
      omega

theorem exact_attempts (writer : Writer (Recorded ω)) (frames : List Frame) :
    ∀ attempt ∈ writer.attempts frames, attempt.Exact writer.protocol := by
  induction frames generalizing writer with
  | nil => exact nofun
  | cons frame frames ih =>
    have hrest := ih (writer.write frame).2
    rw [protocol_write] at hrest
    exact List.forall_mem_cons.2 ⟨Attempt.exact ⟨frame, writer⟩, hrest⟩

/-- No attempt met a failure of the sink. -/
def Clean (attempts : List (Attempt ω)) : Prop :=
  ∀ attempt ∈ attempts, ∀ failure, attempt.answer ≠ .error (.transport failure)

theorem succeeded_of_clean {protocol : Protocol} {attempts : List (Attempt ω)}
    (hexact : ∀ attempt ∈ attempts, attempt.Exact protocol) (hclean : Clean attempts) :
    succeeded attempts = (attempts.map (·.frame)).filter (·.Fits protocol) ∧
      attempts.flatMap (·.accepted) = (succeeded attempts).flatMap (·.onWire protocol) := by
  induction attempts with
  | nil => exact ⟨rfl, rfl⟩
  | cons attempt attempts ih =>
    obtain ⟨hfirst, hrest⟩ := List.forall_mem_cons.1 hexact
    obtain ⟨hanswers, hothers⟩ := List.forall_mem_cons.1 hclean
    obtain ⟨hframes, hbytes⟩ := ih hrest hothers
    rw [List.map_cons, List.flatMap_cons, hbytes]
    match hanswer : attempt.answer with
    | .ok () =>
      obtain ⟨hfits, haccepted⟩ := (Frame.encode_eq_ok_iff _ _ _).1 (hfirst.of_ok hanswer)
      rw [succeeded_cons_of_ok hanswer, List.filter_cons_of_pos (by simpa using hfits), hframes,
        List.flatMap_cons, haccepted]
      exact ⟨rfl, rfl⟩
    | .error (.fault fault) =>
      have hlarge : ¬attempt.frame.Fits protocol :=
        Nat.not_le.2 (hfirst.fault_iff.1 ⟨fault, hanswer⟩)
      obtain ⟨-, haccepted⟩ := hfirst.of_fault fault hanswer
      rw [succeeded_cons_of_error hanswer, List.filter_cons_of_neg (by simpa using hlarge), hframes,
        haccepted]
      exact ⟨rfl, rfl⟩
    | .error (.transport failure) => exact absurd hanswer (hanswers failure)

/-- What the sink accepts is told by the answers, whatever it does and however often the writer goes on
after a failure: the whole of each frame that was written, nothing of one that was refused, and a front
of one that could not be written, which is all of it just when the flush failed. The writer counts the
frames that were written, and refuses those that are too large, and no others. If no attempt met a
failure of the sink, the accepted bytes are read back as the frames that fit, and then a clean close. -/
theorem writes_exact {σ : Type} [Source σ] (sink : ω) (protocol : Protocol) (recovery : Recovery)
    (frames : List Frame) (source : σ) :
    let fresh : Writer (Recorded ω) := { sink := ⟨sink, []⟩, protocol }
    let attempts := fresh.attempts frames
    let last := fresh.after frames
    let written := succeeded attempts
    let decoder : Decoder σ := { source, protocol, recovery }
    let closed : Except DecodeFailure Frame := .error (.closed .header 0 Header.size)
    attempts.map (·.frame) = frames ∧
    last.sink.bytes = attempts.flatMap (·.accepted) ∧
    last.written = written.length ∧
    (∀ attempt ∈ attempts, attempt.Exact protocol) ∧
    (Clean attempts →
      written = frames.filter (·.payload.length ≤ protocol.maxPayload.toNat) ∧
      (Carries source (Wire.ofBytes last.sink.bytes) →
        let run := decoder.nextMany (written.length + 1)
        run.1 = written.map .ok ++ [closed] ∧ Carries run.2.source [] ∧ run.2.skipped = 0) ∧
      (CarriesPolled source (Wire.ofBytes last.sink.bytes) →
        let run := decoder.finishMany (written.length + 1)
        run.1 = written.map (some <| .ok ·) ++ [some closed] ∧ CarriesPolled run.2.source [] ∧
          run.2.skipped = 0)) := by
  intro fresh attempts last written decoder closed
  have hbytes : last.sink.bytes = attempts.flatMap (·.accepted) := fresh.bytes_after frames
  have hwritten : last.written = 0 + written.length := fresh.written_after frames
  have hexact : ∀ attempt ∈ attempts, attempt.Exact protocol := fresh.exact_attempts frames
  refine ⟨fresh.frames_attempts frames, hbytes, hwritten.trans (Nat.zero_add _), hexact,
    fun hclean => ?_⟩
  obtain ⟨hkept, haccepted⟩ := succeeded_of_clean hexact hclean
  rw [fresh.frames_attempts] at hkept
  have hfits : ∀ frame ∈ written, frame.Fits protocol := by
    intro frame hframe
    have hmem : frame ∈ frames.filter (·.Fits protocol) := hkept ▸ hframe
    exact of_decide_eq_true (List.mem_filter.1 hmem).2
  have hwire : (decoder.onto (Wire.ofBytes last.sink.bytes)).nextMany (written.length + 1) =
      (written.map .ok ++ [closed], decoder.onto ([] : Wire)) :=
    Decoder.nextMany_frames_close written (decoder.onto _) hfits
      (congrArg Wire.ofBytes (hbytes.trans haccepted))
  refine ⟨hkept, fun hsource => Decoder.nextMany_of_carries hsource hwire, fun hsource => ?_⟩
  have hrun := Decoder.finishMany_of_carries hsource hwire
  rwa [List.map_append, List.map_map] at hrun

/-- Two frames with one between them that is too large, written three bytes at a time and read five at a
time. -/
theorem writes_exact_of_three :
    let protocol : Protocol := { maxPayload := 2 }
    let first : Frame := { sourceId := 0, frameId := 1, timestamp := 10, payload := [1] }
    let large : Frame := { sourceId := 1, frameId := 2, timestamp := 20, payload := [4, 5, 6] }
    let second : Frame := { sourceId := 0, frameId := 3, timestamp := 30, payload := [2, 3] }
    let gauge : Gauge := { settings := { chunk := some 3 } }
    let fresh : Writer (Recorded Gauge) := { sink := ⟨gauge, []⟩, protocol }
    let attempts := fresh.attempts [first, large, second]
    let last := fresh.after [first, large, second]
    let source : Chunked := { rest := last.sink.bytes, plan := .fixed 5 }
    let decoder : Decoder Chunked := { source, protocol }
    Clean attempts ∧ last.written = 2 ∧
      (decoder.nextMany 3).1 = [.ok first, .ok second, .error (.closed .header 0 28)] := by
  intro protocol first large second gauge fresh attempts last source decoder
  have hanswers : attempts.map (·.answer) =
      [.ok (), .error (.fault (.payloadTooLarge 3 2)), .ok ()] := by decide +kernel
  have hclean : Clean attempts := by
    intro attempt hattempt failure hfailure
    have hmem : attempt.answer ∈ attempts.map (·.answer) := List.mem_map_of_mem hattempt
    rw [hanswers, hfailure] at hmem
    simp at hmem
  obtain ⟨-, -, hcount, -, hreads⟩ :=
    writes_exact gauge protocol .disabled [first, large, second] source
  obtain ⟨hkept, hwaits, -⟩ := hreads hclean
  have hwritten : succeeded attempts = [first, second] := hkept.trans (by decide)
  have hsource : Carries source (Wire.ofBytes source.rest) := source.carries rfl
  obtain ⟨hanswer, -, -⟩ := hwaits hsource
  rw [hwritten] at hcount hanswer
  exact ⟨hclean, hcount, hanswer⟩

end FramedVideo.Writer
