import FramedVideo.Proofs.Receive.Stream
import FramedVideo.Proofs.Send.Broken
import FramedVideo.Proofs.Send.Sources

/-!
# Frames that fit

The check of the settings bounds the size of the payloads by what the protocol allows, and the sources
have the numbers that the mailbox knows. So no frame of a source is refused on its way: not by the mailbox
while it is open, not by a session, and not by the receiver, which takes it for a picture if there is room
for the marker of one.

## Main definitions

- `SyntheticSource.captures` — the frames of a source, in order
- `SenderConfig.Makes` — a frame of one of the sources of a sender
- `SendSession.Lossless` — a session has dropped no frame, and will not drop the one that it holds

Main statements: `SyntheticSource.getElem?_captures`, `SenderConfig.Makes.shape`, `Service.lossless_after`,
`Receiver.run_front`, `SenderConfig.sources_fit`.
-/

namespace FramedVideo

open Transport (Sink Source Recorded Gauge Chunked Wire Stop CarriesPolled)

-- ════════════════════════════════════════════════════════════════════════
-- The frames of a source
-- ════════════════════════════════════════════════════════════════════════

namespace SyntheticSource

/-- The frames that a source captures at some times. -/
def captures (source : SyntheticSource) : List UInt64 → List Frame
  | [] => []
  | time :: times => (source.capture time).1 :: (source.capture time).2.captures times

theorem getElem?_captures (source : SyntheticSource) (times : List UInt64) (index : Nat) :
    (source.captures times)[index]? = times[index]?.map fun time =>
      ({ source with nextId := source.nextId + UInt32.ofNat index }.capture time).1 := by
  induction times generalizing source index with
  | nil => rfl
  | cons time times ih =>
    cases index with
    | zero => simp [captures]
    | succ index =>
      have hnext : source.nextId + 1 + UInt32.ofNat index =
          source.nextId + UInt32.ofNat (index + 1) := by
        rw [UInt32.ofNat_add, UInt32.add_assoc, UInt32.add_comm 1]
        rfl
      rw [captures, List.getElem?_cons_succ, List.getElem?_cons_succ, ih]
      simp only [capture, payload, hnext]

variable (source : SyntheticSource) (frameId : UInt32)

@[simp]
theorem length_payload : (source.payload frameId).length = source.payloadSize := by
  simp only [payload, Picture.afterStart, Picture.startMarker]
  split
  · simp [Picture.endMarker]
    omega
  · simp
    omega

theorem opens_payload : Picture.opens (source.payload frameId) = decide (2 ≤ source.payloadSize) := by
  by_cases hroom : 2 ≤ source.payloadSize
  · have hwhole : Picture.startMarker.take source.payloadSize = Picture.startMarker :=
      List.take_of_length_le hroom
    rw [decide_eq_true hroom, Picture.opens, payload, hwhole, List.isPrefixOf_iff_prefix]
    exact List.prefix_append _ _
  · rw [decide_eq_false hroom, Picture.opens, Bool.eq_false_iff, ne_eq, List.isPrefixOf_iff_prefix]
    intro hprefix
    have hle := hprefix.length_le
    rw [length_payload] at hle
    exact hroom hle

theorem endMarker_suffix_payload (hroom : 4 ≤ source.payloadSize) :
    Picture.endMarker <:+ source.payload frameId := by
  rw [payload, Picture.afterStart, if_pos hroom, ← List.append_assoc]
  exact List.suffix_append _ _

end SyntheticSource

namespace SenderConfig

variable {config : SenderConfig} {frame : Frame}

/-- A frame of one of the sources of a sender. -/
def Makes (config : SenderConfig) (frame : Frame) : Prop :=
  ∃ entry ∈ (Roster.start config).entries, ∃ times, frame ∈ entry.source.captures times

theorem mem_entries_start {entry : Roster.Entry} :
    entry ∈ (Roster.start config).entries ↔
      ∃ sourceId < config.sourceCount,
        entry = { source := { sourceId := sourceId, payloadSize := config.payloadSize } } := by
  simp only [Roster.start, List.mem_map, List.mem_range]
  constructor
  · rintro ⟨number, hlt, rfl⟩
    have hsmall : number < UInt16.size := Nat.lt_trans hlt config.sourceCount.toNat_lt
    refine ⟨.ofNat number, ?_, rfl⟩
    rwa [UInt16.lt_iff_toNat_lt, UInt16.toNat_ofNat_of_lt' hsmall]
  · rintro ⟨sourceId, hlt, rfl⟩
    exact ⟨sourceId.toNat, UInt16.lt_iff_toNat_lt.1 hlt, by rw [UInt16.ofNat_toNat]⟩

/-- A frame of a source has its number, and a payload of the right size that opens as a picture does. -/
theorem Makes.shape (h : config.Makes frame) :
    frame.sourceId < config.sourceCount ∧ frame.payload.length = config.payloadSize ∧
      Picture.opens frame.payload = decide (2 ≤ config.payloadSize) := by
  obtain ⟨entry, hentry, times, hframe⟩ := h
  obtain ⟨sourceId, hlt, rfl⟩ := mem_entries_start.1 hentry
  obtain ⟨index, hindex⟩ := List.mem_iff_getElem?.1 hframe
  rw [SyntheticSource.getElem?_captures] at hindex
  obtain ⟨time, -, rfl⟩ := Option.map_eq_some_iff.1 hindex
  exact ⟨hlt, SyntheticSource.length_payload _ _, SyntheticSource.opens_payload _ _⟩

theorem Makes.fits (h : config.Makes frame) (hcheck : config.check = .ok ()) :
    frame.Fits config.protocol := by
  obtain ⟨-, hsize, -⟩ := h.shape
  obtain ⟨-, -, -, hle⟩ := config.check_eq_ok_iff.1 hcheck
  exact hsize.trans_le hle

end SenderConfig

-- ════════════════════════════════════════════════════════════════════════
-- A session
-- ════════════════════════════════════════════════════════════════════════

variable {ω : Type} [Sink ω]

namespace SendSession

/-- A session has dropped no frame, and will not drop the one that it holds. -/
structure Lossless (protocol : Protocol) (session : SendSession ω) : Prop where
  agreed : session.writer.protocol = protocol
  oversize : session.stats.oversize = 0
  held : ∀ frame, session.phase = .holding frame → frame.Fits protocol

/-- A step that takes a frame that fits, or none, drops nothing. -/
theorem Lossless.step {protocol : Protocol} {session : SendSession ω} (h : session.Lossless protocol)
    (now : Nat) {mailbox : Mailbox}
    (htook : ∀ frame, session.took? mailbox = some frame → frame.Fits protocol) :
    (session.step now mailbox).session.Lossless protocol := by
  have hmoves := session.moves now mailbox
  have hagreed := hmoves.protocol.trans h.agreed
  generalize session.step now mailbox = stepped at hmoves hagreed ⊢
  generalize session.took? mailbox = took? at hmoves htook
  generalize session.wrote? now = wrote? at hmoves
  cases hmoves with
  | idle | waits | rests => exact h
  | closes hphase htake =>
    refine ⟨hagreed, ?_, ?_⟩
    · rw [close_fst]
      exact h.oversize
    · rw [close_fst]
      exact nofun
  | refuses hphase htake hheader =>
    have hfits := htook _ rfl
    exact absurd (h.agreed ▸ hfits) (Frame.not_fits_of_header hheader)
  | takes hphase htake hheader =>
    refine ⟨hagreed, h.oversize, ?_⟩
    rintro frame ⟨⟩
    exact htook _ rfl
  | sends hphase hopen hwrite hstats =>
    subst hstats
    exact ⟨hagreed, h.oversize, nofun⟩
  | drops hphase hopen hwrite hdrop =>
    exact absurd (h.agreed ▸ h.held _ hphase) (Writer.not_fits_of_write hwrite)
  | breaks hphase hopen hwrite => exact ⟨hagreed, h.oversize, nofun⟩

end SendSession

theorem Service.lossless_after {protocol : Protocol} {first : Service ω}
    (h : first.session.Lossless protocol) {acts : List Act}
    (htakes : ∀ frame ∈ first.takes acts, frame.Fits protocol) :
    (first.after acts).session.Lossless protocol := by
  induction acts using List.reverseRecOn with
  | nil => exact h
  | append_singleton acts last ih =>
    rw [takes_concat] at htakes
    obtain ⟨hbefore, hlast⟩ := List.forall_mem_append.1 htakes
    rw [after_concat]
    cases last with
    | offer frame => exact ih hbefore
    | stop => exact ih hbefore
    | step now =>
      refine (ih hbefore).step now fun frame htook => hlast frame ?_
      exact Option.mem_toList.2 htook

/-- All that a sink has taken are the wire forms of frames that the session took, the last one perhaps in
part. -/
theorem SendSession.Gave.exists_frames {protocol : Protocol} {session : SendSession (Recorded ω)}
    {taken sent : List Frame} {tail : Bytes} (h : session.Gave protocol taken sent tail) :
    ∃ frames : List Frame, (∀ frame ∈ frames, frame ∈ taken ∧ frame.Fits protocol) ∧
      session.writer.sink.bytes <+: frames.flatMap (·.onWire protocol) := by
  have hbytes := h.bytes
  have hbehind := h.behind
  have hsent {before : List Frame} (horder : sent.Sublist before) (hbefore : before ⊆ taken) :
      ∀ frame ∈ sent, frame ∈ taken ∧ frame.Fits protocol :=
    fun frame hmem => ⟨hbefore (horder.subset hmem), h.fits frame hmem⟩
  generalize session.phase = phase at hbehind
  cases hbehind with
  | taking horder | closed horder =>
    rw [List.append_nil] at hbytes
    exact ⟨sent, hsent horder fun _ => id, hbytes ▸ List.prefix_rfl⟩
  | holding htaken horder hfits =>
    rw [List.append_nil] at hbytes
    exact ⟨sent, hsent horder (htaken ▸ List.subset_append_left _ _), hbytes ▸ List.prefix_rfl⟩
  | @broken failure front frame tail htaken horder hfits htail hflush =>
    refine ⟨sent ++ [frame], List.forall_mem_append.2
      ⟨hsent horder (htaken ▸ List.subset_append_left _ _), List.forall_mem_singleton.2
        ⟨htaken ▸ List.mem_append_right _ List.mem_cons_self, hfits⟩⟩, ?_⟩
    rw [hbytes, List.flatMap_append, List.flatMap_singleton]
    exact (List.prefix_append_right_inj _).2 htail

-- ════════════════════════════════════════════════════════════════════════
-- The receiver
-- ════════════════════════════════════════════════════════════════════════

theorem PictureLog.after_eq (log : PictureLog) {frames : List Frame} {opens : Bool}
    (hopens : ∀ frame ∈ frames, Picture.opens frame.payload = opens) :
    Consumer.after log frames =
      if opens = true then { log with accepted := log.accepted + frames.length }
      else { log with rejected := log.rejected + frames.length } := by
  induction frames generalizing log with
  | nil => cases opens <;> rfl
  | cons frame frames ih =>
    obtain ⟨hfirst, hrest⟩ := List.forall_mem_cons.1 hopens
    have hhandled : Consumer.after log (frame :: frames) =
        Consumer.after (log.handle frame).consumer frames := rfl
    rw [hhandled, ih _ hrest]
    cases opens with
    | true => simp [PictureLog.handle, hfirst, Nat.add_assoc, Nat.add_comm 1]
    | false => simp [PictureLog.handle, hfirst, Nat.add_assoc, Nat.add_comm 1]

/-- A receiver whose stream is the front of some frames hands on the first of them, and nothing else. -/
theorem Receiver.run_front {σ κ : Type} [Source σ] [Consumer κ] (config : ReceiverConfig)
    {frames : List Frame} {front : Bytes} {later : Wire} {stop : Stop} {source : σ}
    (hfits : ∀ frame ∈ frames, frame.Fits config.protocol)
    (hfront : front <+: frames.flatMap (·.onWire config.protocol))
    (hstop : later.headD .close = stop.signal)
    (hsource : CarriesPolled source (Wire.ofBytes front ++ later)) (shutdown : Shutdown)
    (consumer : κ) :
    let run := (config.receiver source).run shutdown consumer
    run.handed <+: frames ∧ run.consumer = Consumer.after consumer run.handed := by
  intro run
  have hlength := hfront.length_le
  rw [Frame.length_stream hfits] at hlength
  obtain ⟨whole, rest, into, hcut⟩ := Frame.exists_cutAt frames front.length hlength
  rw [List.prefix_iff_eq_take.1 hfront] at hsource
  have hanswers :=
    Decoder.finishMany_of_cut stop (config.receiver source).decoder hfits hcut hstop hsource
  have hends : (config.receiver source).decoder.EndsWith whole (stop.report into rest) := by
    rw [Decoder.endsWith_iff, hanswers]
    simp
  have hcourse := run_course shutdown consumer hends
  exact ⟨hcourse.handed.trans (hcut.frames_eq ▸ List.prefix_append whole rest), hcourse.consumed⟩

-- ════════════════════════════════════════════════════════════════════════
-- From the settings to the counts
-- ════════════════════════════════════════════════════════════════════════

/-- With settings that pass their check, the frames of each source have the numbers from zero on, payloads
of the size that was set, and the markers of a picture where there is room. No mailbox for as many sources
ignores them while it is open, and they have a header. So a session that is offered no other frames drops
none as too large, whoever was served before it, and a receiver of what it sent, whole or cut off at any
byte, is handed such frames only, and counts them all as pictures, or none if they are too small. -/
theorem SenderConfig.sources_fit {config : SenderConfig} (hcheck : config.check = .ok ()) :
    (∀ sourceId < config.sourceCount,
      let source : SyntheticSource := { sourceId := sourceId, payloadSize := config.payloadSize }
      (∃ entry ∈ (Roster.start config).entries, entry.source = source) ∧
      ∀ (times : List UInt64) (index : Nat) (time : UInt64), times[index]? = some time →
        ∃ frame header, (source.captures times)[index]? = some frame ∧
          frame.sourceId = sourceId ∧ frame.timestamp = time ∧
          frame.frameId.toNat = index % 2 ^ 32 ∧ frame.payload.length = config.payloadSize ∧
          (2 ≤ config.payloadSize → Picture.startMarker <+: frame.payload) ∧
          (4 ≤ config.payloadSize → Picture.endMarker <:+ frame.payload) ∧
          (∀ mailbox : Mailbox, mailbox.slots.size = config.sourceCount.toNat →
            mailbox.stopped = false → (mailbox.offer frame).1 ≠ .ignored) ∧
          frame.header config.protocol = .ok header) ∧
    ∀ {ω σ : Type} [Sink ω] [Source σ] (earlier : List Mailbox.Act) (acts : List Service.Act) (sink : ω),
      (∀ frame, .offer frame ∈ earlier → config.Makes frame) →
      (∀ frame, .offer frame ∈ acts → config.Makes frame) →
      let mailbox := (Mailbox.empty config.sourceCount).after earlier
      let first : Service ω := ⟨mailbox, config.session sink⟩
      let recorded : Service (Recorded ω) := ⟨mailbox, config.session ⟨sink, []⟩⟩
      (first.after acts).session.stats.oversize = 0 ∧
      ∀ (receiver : ReceiverConfig) (front : Bytes) (later : Wire) (stop : Stop) (source : σ)
        (shutdown : Shutdown) (log : PictureLog), receiver.protocol = config.protocol →
        front <+: (recorded.after acts).session.writer.sink.bytes → later.headD .close = stop.signal →
        CarriesPolled source (Wire.ofBytes front ++ later) →
        let run := (receiver.receiver source).run shutdown log
        (∀ frame ∈ run.handed, config.Makes frame) ∧
        run.consumer =
          if 2 ≤ config.payloadSize then { log with accepted := log.accepted + run.handed.length }
          else { log with rejected := log.rejected + run.handed.length } := by
  constructor
  · intro sourceId hlt source
    have hentry := mem_entries_start.2 ⟨sourceId, hlt, rfl⟩
    refine ⟨⟨_, hentry, rfl⟩, fun times index time htime => ?_⟩
    have hframe := source.getElem?_captures times index
    rw [htime, Option.map_some] at hframe
    have hmakes : config.Makes _ := ⟨_, hentry, times, List.mem_of_getElem? hframe⟩
    obtain ⟨header, hheader, -⟩ := Frame.header_of_fits (hmakes.fits hcheck)
    obtain ⟨hknown, hsize, hopens⟩ := hmakes.shape
    refine ⟨_, header, hframe, rfl, rfl, ?_, hsize, fun hroom => ?_,
      fun hroom => source.endMarker_suffix_payload _ hroom, fun mailbox hslots hrunning => ?_, hheader⟩
    · show (0 + UInt32.ofNat index).toNat = index % 2 ^ 32
      rw [UInt32.zero_add, UInt32.toNat_ofNat']
    · rw [decide_eq_true hroom] at hopens
      exact List.isPrefixOf_iff_prefix.1 hopens
    · rw [ne_eq, Mailbox.offer_fst_eq_ignored_iff, hslots, hrunning, ← UInt16.le_iff_toNat_le]
      rintro (hstopped | hunknown)
      · cases hstopped
      · exact absurd hlt (UInt16.not_lt.2 hunknown)
  · intro ω σ _ _ earlier acts sink hearlier hacts mailbox first recorded
    have hmailbox : mailbox.HoldsOnly config.Makes :=
      (Mailbox.holdsOnly_empty config.Makes config.sourceCount).after hearlier
    have hfirst : first.mailbox.HoldsOnly config.Makes := hmailbox
    have hrecorded : recorded.mailbox.HoldsOnly config.Makes := hmailbox
    constructor
    · have hstart : first.session.Lossless config.protocol := ⟨rfl, rfl, nofun⟩
      have htakes : ∀ frame ∈ first.takes acts, frame.Fits config.protocol := fun frame hmem =>
        ((Service.holdsOnly_after hfirst hacts).2 frame hmem).fits hcheck
      exact (Service.lossless_after hstart htakes).oversize
    · intro receiver front later stop source shutdown log hprotocol hfront hstop hsource run
      obtain ⟨tail, hgave⟩ := Service.gave_after config mailbox sink acts
      obtain ⟨frames, hframes, hbytes⟩ := hgave.exists_frames
      rw [← hprotocol] at hframes hbytes
      obtain ⟨hhanded, hconsumer⟩ := Receiver.run_front receiver
        (fun frame hmem => (hframes frame hmem).2) (hfront.trans hbytes) hstop hsource shutdown log
      have hmade : ∀ frame ∈ run.handed, config.Makes frame := fun frame hmem =>
        (Service.holdsOnly_after hrecorded hacts).2 frame (hframes frame (hhanded.subset hmem)).1
      refine ⟨hmade, hconsumer.trans ?_⟩
      rw [log.after_eq fun frame hmem => (hmade frame hmem).shape.2.2]
      simp only [decide_eq_true_eq]

/-- Source 1 of two makes a frame of three bytes, an opened picture without an end, and a session writes it
to a client. The receiver counts it as a picture. -/
theorem SenderConfig.sources_fit_of_two :
    let config : SenderConfig :=
      { sourceCount := 2, payloadSize := 3, protocol := { maxPayload := 3 } }
    let frame : Frame := { sourceId := 1, frameId := 1, timestamp := 6, payload := [0xff, 0xd8, 0] }
    let acts : List Service.Act := [.offer frame, .step 0, .step 1, .stop, .step 2]
    let first : Service Gauge := ⟨.empty 2, config.session {}⟩
    let recorded : Service (Recorded Gauge) := ⟨.empty 2, config.session ⟨{}, []⟩⟩
    let source : Chunked :=
      { rest := (recorded.after acts).session.writer.sink.bytes, plan := .fixed 5 }
    let receiver : ReceiverConfig := { protocol := config.protocol }
    let run := (receiver.receiver source).run none ({} : PictureLog)
    config.check = .ok () ∧ config.Makes frame ∧ (first.after acts).session.stats.sent = 1 ∧
      (first.after acts).session.stats.oversize = 0 ∧ run.handed = [frame] ∧
      run.consumer = { accepted := 1 } := by
  intro config frame acts first recorded source receiver run
  have hcheck : config.check = .ok () := by decide
  obtain ⟨hframes, hsessions⟩ := sources_fit hcheck
  obtain ⟨⟨entry, hentry, heq⟩, -⟩ := hframes 1 (by decide)
  have hmakes : config.Makes frame := by
    refine ⟨entry, hentry, [5, 6], ?_⟩
    rw [heq]
    decide
  have hacts : ∀ other, .offer other ∈ acts → config.Makes other := by
    intro other hother
    have hsame : other = frame := by simpa [acts] using hother
    exact hsame ▸ hmakes
  obtain ⟨hoversize, hreceives⟩ := hsessions (σ := Chunked) [] acts ({} : Gauge) nofun hacts
  have hsource : CarriesPolled source (Wire.ofBytes source.rest) := source.carriesPolled rfl
  obtain ⟨-, hconsumer⟩ := hreceives receiver source.rest [] .close source none {} rfl
    List.prefix_rfl rfl ((List.append_nil (Wire.ofBytes source.rest)).symm ▸ hsource)
  have hbytes : source.rest = [frame].flatMap (·.onWire receiver.protocol) := by decide +kernel
  rw [hbytes] at hsource
  obtain ⟨hhanded, -⟩ := Receiver.run_frames receiver [frame] source ({} : PictureLog)
    (PictureLog.willing {}) (List.forall_mem_singleton.2 (hmakes.fits hcheck)) hsource
  refine ⟨hcheck, hmakes, by decide +kernel, hoversize, hhanded, hconsumer.trans ?_⟩
  rw [if_pos (by decide), hhanded]
  rfl

end FramedVideo
