import FramedVideo.Proofs.Decode.Cut
import FramedVideo.Proofs.Send.Service
import FramedVideo.Proofs.Transport.Chunks

/-!
# What a client sees of a broken session

A sink may take the bytes that it is offered in any pieces, and fail after any number of them. What it
has taken from a session are the frames that the session counts, and then, if the session ended with a
failure, a front of one more frame that it had taken from the mailbox. One who decodes these bytes gets
the frames that were counted, and the other one too if only its flush failed.

## Main definitions

- `Service.takes` — the frames that a number of acts take from the mailbox
- `SendSession.Behind` — what a sink has taken behind the last frame that was written
- `SendSession.Gave` — what a session has given its sink
- `SendSession.Accepted` — the frames of which a sink has accepted all, and what stands behind them

Main statements: `SendSession.Gave.step`, `Service.gave_after`, `Service.broken_session`.
-/

namespace FramedVideo

open Transport (Sink Source Recorded Gauge Chunked Stop Stops CarriesPolled Wire)

variable {ω : Type} [Sink ω]

-- ════════════════════════════════════════════════════════════════════════
-- The frames that are taken
-- ════════════════════════════════════════════════════════════════════════

namespace Service

/-- The frame that an act takes from the mailbox, if it takes one. -/
def took? (service : Service ω) : Act → Option Frame
  | .step _ => service.session.took? service.mailbox
  | _ => none

/-- The frames that several acts take, in order. -/
def takes (service : Service ω) : List Act → List Frame
  | [] => []
  | next :: acts => (service.took? next).toList ++ (service.act next).takes acts

theorem takes_append (service : Service ω) (front back : List Act) :
    service.takes (front ++ back) = service.takes front ++ (service.after front).takes back := by
  induction front generalizing service with
  | nil => rfl
  | cons next front ih =>
    rw [List.cons_append, takes, takes, ih, List.append_assoc]
    rfl

theorem takes_concat (service : Service ω) (acts : List Act) (last : Act) :
    service.takes (acts ++ [last]) =
      service.takes acts ++ ((service.after acts).took? last).toList := by
  rw [takes_append, takes, takes, List.append_nil]

/-- A session takes nothing but what was offered. -/
theorem holdsOnly_after {P : Frame → Prop} {first : Service ω}
    (h : first.mailbox.HoldsOnly P) {acts : List Act}
    (hacts : ∀ frame, .offer frame ∈ acts → P frame) :
    (first.after acts).mailbox.HoldsOnly P ∧ ∀ frame ∈ first.takes acts, P frame := by
  induction acts using List.reverseRecOn with
  | nil => exact ⟨h, nofun⟩
  | append_singleton acts last ih =>
    obtain ⟨hmailbox, htakes⟩ := ih fun frame hmem => hacts frame (List.mem_append_left _ hmem)
    rw [after_concat, takes_concat]
    cases last with
    | offer frame =>
      refine ⟨hmailbox.offer (hacts frame (List.mem_append_right _ List.mem_cons_self)), ?_⟩
      simpa [took?] using htakes
    | stop => exact ⟨hmailbox.stop, by simpa [took?] using htakes⟩
    | step now =>
      generalize first.after acts = service at hmailbox ⊢
      obtain ⟨hleft, htaken⟩ := hmailbox.take
      constructor
      · show (service.session.step now service.mailbox).mailbox.HoldsOnly P
        obtain hsame | htook := (service.session.moves now service.mailbox).mailbox_eq
        · rwa [hsame]
        · rwa [htook]
      · refine List.forall_mem_append.2 ⟨htakes, fun frame hframe => htaken frame ?_⟩
        rw [Option.mem_toList] at hframe
        simp only [took?, SendSession.took?] at hframe
        cases hphase : service.session.phase with
        | taking => simpa [hphase] using hframe
        | holding held => simp [hphase] at hframe
        | ended disconnect => simp [hphase] at hframe

end Service

-- ════════════════════════════════════════════════════════════════════════
-- The bytes that are accepted
-- ════════════════════════════════════════════════════════════════════════

namespace SendSession

/-- What a sink has taken behind the last frame that was written, by what the session does next. Only
where a failure ended the session can this be anything. The frame that the session holds, or that it
failed to write, is the last that it took. -/
inductive Behind (protocol : Protocol) (sink : ω) (taken sent : List Frame) : Phase → Bytes → Prop where
  | taking (horder : sent.Sublist taken) : Behind protocol sink taken sent .taking []
  | holding {front : List Frame} {frame : Frame} (htaken : taken = front ++ [frame])
    (horder : sent.Sublist front) (hfits : frame.Fits protocol) :
    Behind protocol sink taken sent (.holding frame) []
  | closed (horder : sent.Sublist taken) : Behind protocol sink taken sent (.ended none) []
  | broken {failure : Transport.Failure} {front : List Frame} {frame : Frame} {tail : Bytes}
    (htaken : taken = front ++ [frame]) (horder : sent.Sublist front) (hfits : frame.Fits protocol)
    (htail : tail <+: frame.onWire protocol)
    (hflush : tail = frame.onWire protocol → ∃ before, Sink.flush before = (.error failure, sink)) :
    Behind protocol sink taken sent (.ended (some failure)) tail

/-- What a session has given its sink: the wire forms of the frames that it wrote and counts, and then
perhaps a part of one more. -/
structure Gave (protocol : Protocol) (session : SendSession (Recorded ω)) (taken sent : List Frame)
    (tail : Bytes) : Prop where
  agreed : session.writer.protocol = protocol
  counted : session.stats.sent = sent.length
  fits : ∀ frame ∈ sent, frame.Fits protocol
  bytes : session.writer.sink.bytes = sent.flatMap (·.onWire protocol) ++ tail
  behind : Behind protocol session.writer.sink.sink taken sent session.phase tail

variable {protocol : Protocol} {session : SendSession (Recorded ω)} {taken sent : List Frame}
  {tail : Bytes} {frame : Frame}

theorem Gave.of_taking (h : session.Gave protocol taken sent tail) (hphase : session.phase = .taking) :
    sent.Sublist taken ∧ tail = [] := by
  have hbehind := h.behind
  rw [hphase] at hbehind
  cases hbehind with
  | taking horder => exact ⟨horder, rfl⟩

theorem Gave.of_holding (h : session.Gave protocol taken sent tail)
    (hphase : session.phase = .holding frame) :
    tail = [] ∧ frame.Fits protocol ∧ ∃ front, taken = front ++ [frame] ∧ sent.Sublist front := by
  have hbehind := h.behind
  rw [hphase] at hbehind
  cases hbehind with
  | holding htaken horder hfits => exact ⟨rfl, hfits, _, htaken, horder⟩

theorem Gave.of_broken {failure : Transport.Failure} (h : session.Gave protocol taken sent tail)
    (hphase : session.phase = .ended (some failure)) :
    ∃ front frame, taken = front ++ [frame] ∧ sent.Sublist front ∧ frame.Fits protocol ∧
      tail <+: frame.onWire protocol ∧
      (tail = frame.onWire protocol →
        ∃ before, Sink.flush before = (.error failure, session.writer.sink.sink)) := by
  have hbehind := h.behind
  rw [hphase] at hbehind
  cases hbehind with
  | broken htaken horder hfits htail hflush => exact ⟨_, _, htaken, horder, hfits, htail, hflush⟩

theorem Gave.tail_eq_nil (h : session.Gave protocol taken sent tail)
    (hphase : ∀ failure, session.phase ≠ .ended (some failure)) : tail = [] := by
  have hbehind := h.behind
  generalize session.phase = phase at hbehind hphase
  cases hbehind with
  | broken => exact absurd rfl (hphase _)
  | _ => rfl

/-- A step keeps the account of what the sink was given. -/
theorem Gave.step (h : session.Gave protocol taken sent tail) (now : Nat) (mailbox : Mailbox) :
    ∃ tail', (session.step now mailbox).session.Gave protocol
      (taken ++ (session.took? mailbox).toList) (sent ++ (session.wrote? now).toList) tail' := by
  have hmoves := session.moves now mailbox
  generalize session.step now mailbox = stepped at hmoves ⊢
  generalize session.took? mailbox = took? at hmoves ⊢
  generalize session.wrote? now = wrote? at hmoves ⊢
  cases hmoves with
  | idle hphase | waits hphase _ | rests hphase _ =>
    simp only [Option.toList_none, List.append_nil]
    exact ⟨tail, h⟩
  | closes hphase htake =>
    obtain ⟨horder, rfl⟩ := h.of_taking hphase
    simp only [Option.toList_none, List.append_nil, close_fst]
    exact ⟨[], h.agreed, h.counted, h.fits, h.bytes, .closed horder⟩
  | @refuses frame fault left hphase htake hheader =>
    obtain ⟨horder, rfl⟩ := h.of_taking hphase
    simp only [Option.toList_none, List.append_nil]
    exact ⟨[], h.agreed, h.counted, h.fits, h.bytes,
      .taking (horder.trans (List.sublist_append_left _ _))⟩
  | @takes frame header left hphase htake hheader =>
    obtain ⟨horder, rfl⟩ := h.of_taking hphase
    simp only [Option.toList_none, List.append_nil]
    exact ⟨[], h.agreed, h.counted, h.fits, h.bytes,
      .holding rfl horder (h.agreed ▸ Frame.fits_of_header hheader)⟩
  | @sends frame writer stats hphase hopen hwrite hstats =>
    obtain ⟨rfl, hfits, front, rfl, horder⟩ := h.of_holding hphase
    obtain ⟨hprotocol, hbytes⟩ := Writer.bytes_write_of_ok hwrite
    rw [h.agreed] at hprotocol hbytes
    simp only [Option.toList_none, List.append_nil, Option.toList_some]
    refine ⟨[], hprotocol, ?_, ?_, ?_, .taking (horder.append_right _)⟩
    · rw [hstats, List.length_append, h.counted]
      rfl
    · exact List.forall_mem_append.2 ⟨h.fits, List.forall_mem_singleton.2 hfits⟩
    · rw [hbytes, h.bytes, List.flatMap_append, List.flatMap_singleton, List.append_nil,
        List.append_nil]
  | @drops frame fault writer dropped log hphase hopen hwrite hdrop =>
    obtain ⟨-, hfits, -⟩ := h.of_holding hphase
    exact absurd (h.agreed ▸ hfits) (Writer.not_fits_of_write hwrite)
  | @breaks frame failure writer hphase hopen hwrite =>
    obtain ⟨rfl, hfits, front, rfl, horder⟩ := h.of_holding hphase
    obtain ⟨hprotocol, part, hpart, hbytes, hflush⟩ := Writer.bytes_write_of_error hwrite
    rw [h.agreed] at hprotocol hpart hflush
    simp only [Option.toList_none, List.append_nil]
    refine ⟨part, hprotocol, h.counted, h.fits, ?_, .broken rfl horder hfits hpart hflush⟩
    rw [hbytes, h.bytes, List.append_nil]

end SendSession

/-- After any acts, on any mailbox and any sink, the account of what the sink was given is right. -/
theorem Service.gave_after (config : SenderConfig) (mailbox : Mailbox) (sink : ω) (acts : List Act) :
    let first : Service (Recorded ω) := ⟨mailbox, config.session ⟨sink, []⟩⟩
    ∃ tail, (first.after acts).session.Gave config.protocol (first.takes acts) (first.writes acts)
      tail := by
  intro first
  induction acts using List.reverseRecOn with
  | nil => exact ⟨[], rfl, rfl, nofun, rfl, .taking .slnil⟩
  | append_singleton acts last ih =>
    obtain ⟨tail, h⟩ := ih
    rw [after_concat, takes_concat, writes_concat]
    cases last with
    | offer frame => exact ⟨tail, by simpa [took?, wrote?, act] using h⟩
    | stop => exact ⟨tail, by simpa [took?, wrote?, act] using h⟩
    | step now => exact h.step now (first.after acts).mailbox

-- ════════════════════════════════════════════════════════════════════════
-- The bytes that are read back
-- ════════════════════════════════════════════════════════════════════════

/-- The wire forms of some frames and a front of one more are a stream that is cut. -/
theorem Frame.exists_cutAt_of_front {protocol : Protocol} {sent : List Frame} {frame : Frame}
    {tail : Bytes} (hsent : ∀ frame ∈ sent, frame.Fits protocol) (hfits : frame.Fits protocol)
    (htail : tail <+: frame.onWire protocol) :
    let bytes := sent.flatMap (·.onWire protocol) ++ tail
    ((sent ++ [frame]).flatMap (·.onWire protocol)).take bytes.length = bytes ∧
      ∃ rest into, CutAt (sent ++ [frame]) bytes.length
        (if tail = frame.onWire protocol then sent ++ [frame] else sent) rest into := by
  intro bytes
  have hlength : bytes.length = (sent.map encodedSize).sum + tail.length := by
    rw [List.length_append, length_stream hsent]
  obtain ⟨missing, hmissing⟩ := htail
  have hstream : (sent ++ [frame]).flatMap (·.onWire protocol) = bytes ++ missing := by
    rw [List.flatMap_append, List.flatMap_singleton, ← hmissing, List.append_assoc]
  refine ⟨by rw [hstream, List.take_left], ?_⟩
  rw [hlength]
  split <;> rename_i hwhole
  · refine ⟨[], 0, ?_⟩
    have hcut := cutAt_whole (sent ++ [frame])
    rwa [List.map_append, List.sum_append, List.map_singleton, List.sum_singleton,
      ← length_onWire hfits, ← hwhole] at hcut
  · refine ⟨[frame], tail.length, cutAt_last sent ?_⟩
    have hmore : missing ≠ [] := by
      rintro rfl
      exact hwhole ((List.append_nil tail).symm.trans hmissing)
    have hpos := List.length_pos_of_ne_nil hmore
    rw [← length_onWire hfits, ← hmissing, List.length_append]
    omega

namespace SendSession

/-- What a sink has accepted of a session: the frames that were sent and a tail. The frames in
`whole` are those of which all was accepted. -/
structure Accepted (protocol : Protocol) (session : SendSession (Recorded ω))
    (taken sent whole : List Frame) (tail : Bytes) : Prop where
  bytes : session.writer.sink.bytes = sent.flatMap (·.onWire protocol) ++ tail
  /-- Nothing stands behind the frames that were sent, unless the session ended with a failure. -/
  unbroken : (∀ failure, session.phase ≠ .ended (some failure)) → tail = [] ∧ whole = sent
  /-- If it did, a front of the last frame that was taken stands there. Only a failing flush leaves all
  of it there. -/
  broken : ∀ failure, session.phase = .ended (some failure) →
    ∃ (front : List Frame) (frame : Frame) (wire : Bytes),
      taken = front ++ [frame] ∧ sent.Sublist front ∧ frame.encode protocol = .ok wire ∧
        tail <+: wire ∧ whole = (if tail = wire then sent ++ [frame] else sent) ∧
        (tail = wire → ∃ before, Sink.flush before = (.error failure, session.writer.sink.sink))

variable {protocol : Protocol} {session : SendSession (Recorded ω)} {taken sent : List Frame}
  {tail : Bytes}

/-- What a sink has accepted is a stream of frames that is cut. -/
theorem Gave.exists_cutAt (h : session.Gave protocol taken sent tail) :
    let bytes := session.writer.sink.bytes
    ∃ (frames whole rest : List Frame) (into : Nat),
      session.Accepted protocol taken sent whole tail ∧ sent.length ≤ whole.length ∧
        whole.length ≤ sent.length + 1 ∧ (∀ frame ∈ frames, frame.Fits protocol) ∧
        (frames.flatMap (·.onWire protocol)).take bytes.length = bytes ∧
        Frame.CutAt frames bytes.length whole rest into := by
  intro bytes
  by_cases hphase : ∀ failure, session.phase ≠ .ended (some failure)
  · have htail := h.tail_eq_nil hphase
    have hbytes : bytes = sent.flatMap (·.onWire protocol) := by
      rw [← List.append_nil (List.flatMap _ _), ← htail]
      exact h.bytes
    refine ⟨sent, sent, [], 0, ⟨h.bytes, fun _ => ⟨htail, rfl⟩, ?_⟩, Nat.le_refl _, Nat.le_succ _,
      h.fits, ?_, ?_⟩
    · exact fun failure hbroken => absurd hbroken (hphase failure)
    · rw [hbytes, List.take_length]
    · rw [hbytes, Frame.length_stream h.fits]
      exact Frame.cutAt_whole sent
  · obtain ⟨failure, hfailure⟩ := Classical.not_forall_not.1 hphase
    obtain ⟨front, frame, htaken, horder, hfits, htail, hflush⟩ := h.of_broken hfailure
    obtain ⟨hbytes, rest, into, hcut⟩ := Frame.exists_cutAt_of_front h.fits hfits htail
    rw [← h.bytes] at hbytes hcut
    refine ⟨sent ++ [frame], _, rest, into, ⟨h.bytes, ?_, ?_⟩, ?_, ?_, ?_, hbytes, hcut⟩
    · exact fun hnone => absurd hfailure (hnone failure)
    · intro failure' hfailure'
      cases hfailure.symm.trans hfailure'
      exact ⟨front, frame, _, htaken, horder, (Frame.encode_eq_ok_iff frame protocol _).2 ⟨hfits, rfl⟩,
        htail, rfl, hflush⟩
    · split <;> simp
    · split <;> simp
    · exact List.forall_mem_append.2 ⟨h.fits, List.forall_mem_singleton.2 hfits⟩

end SendSession

/-- What a client sees of a session, broken or not. The bytes that the sink accepted are the frames
that the session counts, and behind them nothing, unless the session ended with a failure; then they
are a front of one more frame, the last that was taken. One who decodes the bytes gets the frames that
were counted, and the last one too if all of it was accepted and its flush failed. After that comes a
close, in a header or in a payload, which is clean just when the bytes hold nothing else. -/
theorem Service.broken_session {σ : Type} [Source σ] (config : SenderConfig) (mailbox : Mailbox)
    (sink : ω) (acts : List Act) (source : σ) :
    let first : Service (Recorded ω) := ⟨mailbox, config.session ⟨sink, []⟩⟩
    let session := (first.after acts).session
    let sent := first.writes acts
    let bytes := session.writer.sink.bytes
    let stream (frames : List Frame) : Bytes := frames.flatMap (·.onWire config.protocol)
    let decoder : Decoder σ :=
      { source := source, protocol := config.protocol, recovery := .disabled }
    session.stats.sent = sent.length ∧ Frame.encodeAll sent config.protocol = .ok (stream sent) ∧
    ∃ (tail : Bytes) (decoded : List Frame) (closed : DecodeFailure),
      let answers : List (Except DecodeFailure Frame) := decoded.map .ok ++ [.error closed]
      session.Accepted config.protocol (first.takes acts) sent decoded tail ∧
      sent.length ≤ decoded.length ∧ decoded.length ≤ sent.length + 1 ∧
      (Stops source bytes .close → (decoder.nextMany (decoded.length + 1)).1 = answers) ∧
      (CarriesPolled source (Wire.ofBytes bytes) →
        (decoder.finishMany (decoded.length + 1)).1 = answers.map some) ∧
      (closed.isCleanClose = true ↔ bytes = stream decoded) ∧
      ∃ received expected, closed = .closed .header received expected ∨
        closed = .closed .payload received expected := by
  intro first session sent bytes stream decoder
  obtain ⟨tail, hgave⟩ : ∃ tail, session.Gave config.protocol (first.takes acts) sent tail :=
    gave_after config mailbox sink acts
  obtain ⟨frames, decoded, rest, into, haccepted, hle, hle', hfits, hcut⟩ := hgave.exists_cutAt
  obtain ⟨(hbytes : (stream frames).take bytes.length = bytes), hcut⟩ := hcut
  refine ⟨hgave.counted, (Frame.encodeAll_eq_ok_iff sent config.protocol _).2 ⟨hgave.fits, rfl⟩,
    tail, decoded, Stop.close.report into rest, haccepted, hle, hle', ?_, ?_, ?_,
    Stop.report_close_cases into rest⟩
  · intro hsource
    rw [← hbytes] at hsource
    exact Decoder.nextMany_of_cut decoder hfits hcut hsource
  · intro hsource
    rw [← List.append_nil (Wire.ofBytes bytes), ← hbytes] at hsource
    exact Decoder.finishMany_of_cut .close decoder hfits hcut rfl hsource
  · rw [Stop.isCleanClose_report_close into rest, ← hcut.take_stream_eq_iff hfits, hbytes]

/-- A session whose second flush fails counts one frame, and its client gets two. -/
theorem Service.broken_session_at_flush :
    let broken : Transport.Failure := ⟨.brokenPipe, none⟩
    let earlier : Frame := { sourceId := 0, frameId := 1, timestamp := 10, payload := [1, 2] }
    let later : Frame := { sourceId := 1, frameId := 2, timestamp := 20, payload := [] }
    let gauge : Gauge := { settings := { chunk := some 3, flushFailure := some (2, broken) } }
    let config : SenderConfig := { sourceCount := 2 }
    let acts : List Act := [.offer earlier, .offer later, .step 0, .step 1, .step 2, .step 3]
    let last := (config.service (⟨gauge, []⟩ : Recorded Gauge)).after acts
    let source : Chunked := { rest := last.session.writer.sink.bytes, plan := .fixed 5 }
    let decoder : Decoder Chunked := { source := source }
    last.session.phase = .ended (some broken) ∧ last.session.stats.sent = 1 ∧
      ∃ closed, closed.isCleanClose = true ∧
        (decoder.nextMany 3).1 = [.ok earlier, .ok later, .error closed] := by
  intro broken earlier later gauge config acts last source decoder
  have hphase : last.session.phase = .ended (some broken) := by decide +kernel
  have hsent : last.session.stats.sent = 1 := by decide +kernel
  have hlength : last.session.writer.sink.bytes.length = 58 := by decide +kernel
  have htakes : (config.service (⟨gauge, []⟩ : Recorded Gauge)).takes acts = [earlier, later] := by decide +kernel
  have hwrites : (config.service (⟨gauge, []⟩ : Recorded Gauge)).writes acts = [earlier] := by decide +kernel
  have hlast : last = (config.service (⟨gauge, []⟩ : Recorded Gauge)).after acts := rfl
  have hsource : Stops source last.session.writer.sink.bytes .close :=
    (source.carries rfl).stops_close
  clear_value last
  have hservice : config.service (⟨gauge, []⟩ : Recorded Gauge) =
      ⟨.empty config.sourceCount, config.session ⟨gauge, []⟩⟩ := rfl
  obtain ⟨-, -, tail, decoded, closed, haccepted, -, -, hdecoded, -, hclean, -⟩ :=
    broken_session config (.empty config.sourceCount) gauge acts source
  rw [hservice] at htakes hwrites hlast
  rw [htakes, hwrites, ← hlast] at haccepted
  rw [← hlast] at hdecoded hclean
  obtain ⟨front, frame, wire, htaken, -, hwire, htail, hwhole, -⟩ := haccepted.broken broken hphase
  change [earlier] ++ [later] = front ++ [frame] at htaken
  obtain ⟨-, rfl⟩ := List.append_singleton_inj.1 htaken
  obtain ⟨hfits, rfl⟩ := (Frame.encode_eq_ok_iff later config.protocol wire).1 hwire
  have hfull : tail = later.onWire config.protocol := by
    have hearlier : earlier.Fits config.protocol := by decide
    rw [haccepted.bytes, List.length_append, List.flatMap_singleton, Frame.length_onWire hearlier]
      at hlength
    refine htail.eq_of_length ?_
    rw [Frame.length_onWire hfits]
    exact Nat.add_left_cancel hlength
  rw [if_pos hfull] at hwhole
  subst hwhole
  refine ⟨hphase, hsent, closed, hclean.2 ?_, hdecoded hsource⟩
  simp only [haccepted.bytes, hfull, List.flatMap_append, List.flatMap_singleton]

end FramedVideo
