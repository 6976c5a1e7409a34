import FramedVideo.Proofs.Send.Broken
import FramedVideo.Proofs.Send.Clients
import FramedVideo.Proofs.Transport.Traced

/-!
# How a session ends

A session ends in one of two ways. It comes for its next frame and finds the mailbox stopped; then it
shuts the stream down, which is its last call. Or a call of a header, a payload or a flush fails; then
this is its last call. A stop that comes earlier, while the session holds a frame, lets this frame out
and no other.

## Main definitions

- `SendSession.Ending` — the calls of a session behind those of the frames that it wrote
- `SendSession.Called` — all calls of a session to its sink

Main statements: `SendSession.Called.step`, `Service.ended_of_step`, `Service.writes_of_stopped`,
`Service.ends_in_order`.
-/

namespace FramedVideo

open Transport (Sink Traced Request Gauge)

variable {ω : Type}

-- ════════════════════════════════════════════════════════════════════════
-- After the end, and after a stop
-- ════════════════════════════════════════════════════════════════════════

namespace Service

variable [Sink ω] {service : Service ω}

/-- A session that has ended takes nothing, writes nothing and calls nothing. -/
theorem session_after_of_ended {disconnect : Option Transport.Failure}
    (h : service.session.phase = .ended disconnect) (acts : List Act) :
    (service.after acts).session = service.session ∧ service.takes acts = [] ∧
      service.writes acts = [] := by
  induction acts generalizing service with
  | nil => exact ⟨rfl, rfl, rfl⟩
  | cons next acts ih =>
    have hnext : (service.act next).session = service.session ∧ service.took? next = none ∧
        service.wrote? next = none := by
      cases next with
      | offer frame => exact ⟨rfl, rfl, rfl⟩
      | stop => exact ⟨rfl, rfl, rfl⟩
      | step now =>
        simp [act, took?, wrote?, SendSession.step, SendSession.took?, SendSession.wrote?, h]
    obtain ⟨hsession, htook, hwrote⟩ := hnext
    obtain ⟨hafter, htakes, hwrites⟩ := ih (hsession ▸ h)
    refine ⟨hafter.trans hsession, ?_, ?_⟩
    · rw [takes, htook, htakes]
      rfl
    · rw [writes, hwrote, hwrites]
      rfl

/-- A mailbox that was stopped stays as it is, whatever is offered. Of the frames that were taken before,
only the one that the session holds can still be written. -/
theorem writes_of_stopped (h : service.mailbox.stopped = true) (acts : List Act) :
    (service.after acts).mailbox = service.mailbox ∧ service.takes acts = [] ∧
      (service.writes acts).Sublist (held service.session) := by
  induction acts generalizing service with
  | nil => exact ⟨rfl, rfl, List.nil_sublist _⟩
  | cons next acts ih =>
    have hnext : (service.act next).mailbox = service.mailbox ∧ service.took? next = none ∧
        ((service.wrote? next).toList ++ held (service.act next).session).Sublist
          (held service.session) := by
      cases next with
      | offer frame => exact ⟨(Mailbox.act_of_stopped h (.offer frame)).1, rfl, List.Sublist.refl _⟩
      | stop => exact ⟨(Mailbox.act_of_stopped h .stop).1, rfl, List.Sublist.refl _⟩
      | step now =>
        have hmoves := service.session.moves now service.mailbox
        obtain ⟨hsame, hnone⟩ :=
          Mailbox.after_of_stopped h service.session.mailboxAct?.toList
        obtain ⟨hmailbox, htook⟩ := hmoves.use
        have hheld := hmoves.held
        rw [htook, hnone, List.append_nil] at hheld
        exact ⟨hmailbox.trans hsame, Option.toList_eq_nil_iff.1 (htook.trans hnone), hheld⟩
    obtain ⟨hmailbox, htook, hheld⟩ := hnext
    obtain ⟨hafter, htakes, hwrites⟩ := ih (hmailbox ▸ h)
    refine ⟨hafter.trans hmailbox, ?_, ?_⟩
    · rw [takes, htook, htakes]
      rfl
    · rw [writes]
      exact (hwrites.append_left _).trans hheld

omit [Sink ω] in
theorem sublist_held_cases {session : SendSession ω} {frames : List Frame}
    (h : frames.Sublist (held session)) :
    frames = [] ∨ ∃ frame, session.phase = .holding frame ∧ frames = [frame] := by
  unfold held at h
  split at h
  · rename_i frame hphase
    exact (List.sublist_singleton.1 h).imp_right fun hframes => ⟨frame, hphase, hframes⟩
  · exact .inl (List.sublist_nil.1 h)

/-- After a stop the mailbox does not change, nothing is taken, and one frame is written at most: the one
that was held at the stop. -/
theorem after_stop (first : Service ω) (earlier later : List Act) :
    let acts := earlier ++ .stop :: later
    (first.after acts).mailbox = (first.after earlier).mailbox.stop ∧
      first.takes acts = first.takes earlier ∧
      ∃ more, first.writes acts = first.writes earlier ++ more ∧
        (more = [] ∨ ∃ frame, (first.after earlier).session.phase = .holding frame ∧
          more = [frame]) := by
  intro acts
  have hstopped : ((first.after earlier).act .stop).mailbox.stopped = true := rfl
  obtain ⟨hmailbox, htakes, hwrites⟩ := writes_of_stopped hstopped later
  refine ⟨?_, ?_, ((first.after earlier).act .stop).writes later, ?_, sublist_held_cases hwrites⟩
  · rw [after_append]
    exact hmailbox
  · rw [takes_append, takes, htakes]
    exact List.append_nil _
  · rw [writes_append, writes]
    rfl

-- ════════════════════════════════════════════════════════════════════════
-- The step that ends a session
-- ════════════════════════════════════════════════════════════════════════

/-- What a step does when the session comes for a frame and the mailbox is stopped. -/
theorem ended_of_step (htaking : service.session.phase = .taking)
    (hstopped : service.mailbox.stopped = true) (now : Nat) :
    (service.act (.step now)).session.phase = .ended none := by
  simp [act, SendSession.step, htaking, Mailbox.take, hstopped]

/-- After a stop a session ends in two steps, if it may write the frame that it holds. -/
theorem ended_of_steps (hstopped : service.mailbox.stopped = true) {now : Nat}
    (hopen : service.session.pacer.isOpen now = true) (next : Nat) :
    ∃ disconnect, ((service.act (.step now)).act (.step next)).session.phase = .ended disconnect := by
  have hstill : (service.act (.step now)).mailbox.stopped = true := (mailbox_act _ _).1.2 (.inl hstopped)
  have hfirst : (service.act (.step now)).session.phase = .taking ∨
      ∃ disconnect, (service.act (.step now)).session.phase = .ended disconnect := by
    cases hphase : service.session.phase with
    | taking => exact .inr ⟨none, ended_of_step hphase hstopped now⟩
    | ended disconnect =>
      exact .inr ⟨disconnect, (session_after_of_ended hphase [.step now]).1 ▸ hphase⟩
    | holding frame =>
      simp only [act, SendSession.step, hphase, hopen, if_true]
      obtain htaking | ⟨failure, hfailure⟩ :=
        service.session.phase_send now frame service.mailbox
      · exact .inl htaking
      · exact .inr ⟨some failure, hfailure⟩
  obtain htaking | ⟨disconnect, hended⟩ := hfirst
  · exact ⟨none, ended_of_step htaking hstill next⟩
  · exact ⟨disconnect, (session_after_of_ended hended [.step next]).1 ▸ hended⟩

/-- Only a stop ends a session that no failure ends. -/
theorem stopped_of_step {queue : List Frame} (h : service.mailbox.Holds queue) {last : Act}
    (hrunning : service.session.phase ≠ .ended none)
    (hended : (service.act last).session.phase = .ended none) :
    ∃ now, last = .step now ∧ service.session.phase = .taking ∧ service.mailbox.stopped = true := by
  cases last with
  | offer frame => exact absurd hended hrunning
  | stop => exact absurd hended hrunning
  | step now =>
    refine ⟨now, rfl, ?_⟩
    have hmoves := service.session.moves now service.mailbox
    rw [act] at hended
    generalize service.session.step now service.mailbox = stepped at hmoves hended
    generalize service.session.took? service.mailbox = took? at hmoves
    generalize service.session.wrote? now = wrote? at hmoves
    cases hmoves with
    | closes hphase htake => exact ⟨hphase, h.take_eq_ended_iff.1 (congrArg Prod.fst htake)⟩
    | idle hphase | waits hphase _ | rests hphase _ => exact absurd hended hrunning
    | refuses | takes | sends | breaks => cases hended
    | drops hphase hopen hwrite hdrop =>
      cases hdrop
      cases hended

/-- A session ends without a failure just when it comes for a frame after the mailbox was stopped. -/
theorem phase_eq_ended_none_iff {first : Service ω} {queue : List Frame}
    (hholds : first.mailbox.Holds queue) (htaking : first.session.phase = .taking) (acts : List Act) :
    (first.after acts).session.phase = .ended none ↔
      ∃ earlier now later, acts = earlier ++ .step now :: later ∧
        (first.after earlier).session.phase = .taking ∧
        (first.after earlier).mailbox.stopped = true := by
  constructor
  · intro hended
    induction acts using List.reverseRecOn with
    | nil => cases htaking.symm.trans hended
    | append_singleton acts last ih =>
      -- the last act came after the end, or it was the end
      by_cases hbefore : (first.after acts).session.phase = .ended none
      · obtain ⟨earlier, now, later, hacts, hthere⟩ := ih hbefore
        refine ⟨earlier, now, later ++ [last], ?_, hthere⟩
        rw [hacts, List.append_assoc, List.cons_append]
      · obtain ⟨⟨queue, hqueue, -⟩, -⟩ :=
          holdsOnly_after (P := fun _ => True) ⟨queue, hholds, fun _ _ => trivial⟩
            fun _ _ => trivial
        rw [after_concat] at hended
        obtain ⟨now, rfl, hthere⟩ := stopped_of_step hqueue hbefore hended
        exact ⟨acts, now, [], rfl, hthere⟩
  · rintro ⟨earlier, now, later, rfl, hphase, hstopped⟩
    have hended := ended_of_step hphase hstopped now
    rw [after_append, ← hended]
    exact congrArg SendSession.phase (session_after_of_ended hended later).1

end Service

-- ════════════════════════════════════════════════════════════════════════
-- The calls of a session
-- ════════════════════════════════════════════════════════════════════════

namespace SendSession

/-- The calls of a session behind those of the frames that it wrote, by what it does next. There are none
before its end. Then there is a shutdown, or there are calls of the last frame that it took, of which the
last one failed. -/
inductive Ending (protocol : Protocol) (taken : List Frame) : Phase → List Request → Prop where
  | taking : Ending protocol taken .taking []
  | holding {front frame} (htaken : taken = front ++ [frame]) :
    Ending protocol taken (.holding frame) []
  | closed {answer} : Ending protocol taken (.ended none) [.shutdown answer]
  | broken {front frame requests failure} (htaken : taken = front ++ [frame])
    (hputs : frame.Puts protocol requests (some failure)) :
    Ending protocol taken (.ended (some failure)) requests

/-- All calls of a session to its sink: those of each frame that it wrote, of which none failed, and then
those of its end. -/
structure Called (protocol : Protocol) (session : SendSession (Traced ω)) (taken written : List Frame)
    (parts : List (List Request)) (tail : List Request) : Prop where
  agreed : session.writer.protocol = protocol
  requests : session.writer.sink.requests = parts.flatten ++ tail
  written : List.Forall₂ (fun frame part => frame.Puts protocol part none) written parts
  ending : Ending protocol taken session.phase tail

section Calls

variable {protocol : Protocol} {session : SendSession (Traced ω)} {taken written : List Frame}
  {parts : List (List Request)} {tail : List Request}

theorem Called.of_taking (h : session.Called protocol taken written parts tail)
    (hphase : session.phase = .taking) : tail = [] := by
  have hending := h.ending
  rw [hphase] at hending
  cases hending
  rfl

theorem Called.of_holding {frame : Frame} (h : session.Called protocol taken written parts tail)
    (hphase : session.phase = .holding frame) : tail = [] ∧ ∃ front, taken = front ++ [frame] := by
  have hending := h.ending
  rw [hphase] at hending
  cases hending with
  | holding htaken => exact ⟨rfl, _, htaken⟩

theorem failures_written
    (h : List.Forall₂ (fun frame part => Frame.Puts protocol frame part none) written parts) :
    parts.flatten.filterMap (·.failure?) = [] ∧
      ∀ request ∈ parts.flatten, request.isShutdown = false := by
  induction h with
  | nil => exact ⟨rfl, nofun⟩
  | cons hputs hrest ih =>
    obtain ⟨header, -, hputs⟩ := hputs
    rw [List.flatten_cons, List.filterMap_append, hputs.failures, ih.1]
    exact ⟨rfl, List.forall_mem_append.2 ⟨hputs.not_shutdown, ih.2⟩⟩

theorem Called.shutdown_iff (h : session.Called protocol taken written parts tail) :
    session.phase = .ended none ↔ ∃ answer, tail = [.shutdown answer] := by
  have hending := h.ending
  generalize session.phase = phase at hending
  cases hending with
  | taking | holding => exact iff_of_false nofun nofun
  | closed => exact iff_of_true rfl ⟨_, rfl⟩
  | broken htaken hputs =>
    obtain ⟨header, -, hputs⟩ := hputs
    refine iff_of_false nofun ?_
    rintro ⟨answer, rfl⟩
    exact absurd (hputs.not_shutdown _ (List.mem_singleton_self _)) Bool.noConfusion

theorem Called.count_shutdown (h : session.Called protocol taken written parts tail) :
    session.writer.sink.requests.countP (·.isShutdown) =
      if session.phase = .ended none then 1 else 0 := by
  have hnone {requests : List Request} (hquiet : ∀ request ∈ requests, request.isShutdown = false) :
      requests.countP (·.isShutdown) = 0 :=
    List.countP_eq_zero.2 fun request hrequest => by simp [hquiet request hrequest]
  rw [h.requests, List.countP_append, hnone (failures_written h.written).2, Nat.zero_add]
  have hending := h.ending
  generalize session.phase = phase at hending
  cases hending with
  | taking | holding | closed => rfl
  | broken htaken hputs =>
    obtain ⟨header, -, hputs⟩ := hputs
    exact hnone hputs.not_shutdown

theorem Called.failure_iff (h : session.Called protocol taken written parts tail)
    (failure : Transport.Failure) :
    session.phase = .ended (some failure) ↔
      ∃ request ∈ session.writer.sink.requests, request.failure? = some failure := by
  have hending := h.ending
  rw [← List.mem_filterMap, h.requests, List.filterMap_append, (failures_written h.written).1,
    List.nil_append]
  generalize session.phase = phase at hending
  cases hending with
  | taking | holding | closed => exact iff_of_false nofun nofun
  | @broken front frame requests found htaken hputs =>
    obtain ⟨header, -, hputs⟩ := hputs
    rw [hputs.failures, Option.toList_some, List.mem_singleton, Phase.ended.injEq, Option.some_inj,
      eq_comm]

theorem Called.last_of_failure (h : session.Called protocol taken written parts tail)
    {failure : Transport.Failure} (hphase : session.phase = .ended (some failure)) :
    ∃ front request, session.writer.sink.requests = front ++ [request] ∧
      request.failure? = some failure := by
  have hending := h.ending
  rw [hphase] at hending
  cases hending with
  | broken htaken hputs =>
    obtain ⟨header, -, hputs⟩ := hputs
    obtain ⟨front, request, rfl, hrequest⟩ := hputs.last
    exact ⟨_, request, h.requests.trans (List.append_assoc _ _ _).symm, hrequest⟩

variable [Sink ω]

theorem requests_shutdown (writer : Writer (Traced ω)) :
    writer.shutdown.2.protocol = writer.protocol ∧
      ∃ answer, writer.shutdown.2.sink.requests = writer.sink.requests ++ [.shutdown answer] :=
  ⟨rfl, _, rfl⟩

/-- A step keeps the account of the calls. -/
theorem Called.step (h : session.Called protocol taken written parts tail) (now : Nat)
    (mailbox : Mailbox) :
    ∃ parts tail, (session.step now mailbox).session.Called protocol
      (taken ++ (session.took? mailbox).toList) (written ++ (session.wrote? now).toList) parts
        tail := by
  have hmoves := session.moves now mailbox
  generalize session.step now mailbox = stepped at hmoves ⊢
  generalize session.took? mailbox = took? at hmoves ⊢
  generalize session.wrote? now = wrote? at hmoves ⊢
  cases hmoves with
  | idle hphase | waits hphase _ | rests hphase _ =>
    simp only [Option.toList_none, List.append_nil]
    exact ⟨parts, tail, h⟩
  | closes hphase htake =>
    obtain rfl := h.of_taking hphase
    obtain ⟨hprotocol, answer, hrequests⟩ := requests_shutdown session.writer
    simp only [Option.toList_none, List.append_nil, close_fst]
    refine ⟨parts, [.shutdown answer], hprotocol.trans h.agreed, hrequests.trans ?_, h.written,
      .closed⟩
    rw [h.requests, List.append_nil]
  | refuses hphase htake hheader =>
    obtain rfl := h.of_taking hphase
    simp only [Option.toList_none, List.append_nil]
    exact ⟨parts, [], h.agreed, h.requests, h.written, .taking⟩
  | takes hphase htake hheader =>
    obtain rfl := h.of_taking hphase
    simp only [Option.toList_none, List.append_nil]
    exact ⟨parts, [], h.agreed, h.requests, h.written, .holding rfl⟩
  | @sends frame writer stats hphase hopen hwrite hstats =>
    obtain ⟨rfl, -⟩ := h.of_holding hphase
    have hasked := session.writer.asked frame
    rw [hwrite] at hasked
    simp only [Option.toList_none, List.append_nil, Option.toList_some]
    cases hasked with
    | @done requests left hputs =>
      refine ⟨parts ++ [requests], [], h.agreed, ?_, ?_, .taking⟩
      · simp only [h.requests, List.flatten_append, List.flatten_singleton, List.append_nil]
      · exact List.rel_append h.written (.cons (h.agreed ▸ hputs) .nil)
  | @drops frame fault writer dropped log hphase hopen hwrite hdrop =>
    obtain ⟨rfl, -⟩ := h.of_holding hphase
    have hasked := session.writer.asked frame
    rw [hwrite] at hasked
    simp only [Option.toList_none, List.append_nil]
    cases hdrop
    cases hasked with
    | refused hheader => exact ⟨parts, [], h.agreed, h.requests, h.written, .taking⟩
  | @breaks frame failure writer hphase hopen hwrite =>
    obtain ⟨rfl, front, htaken⟩ := h.of_holding hphase
    have hasked := session.writer.asked frame
    rw [hwrite] at hasked
    simp only [Option.toList_none, List.append_nil]
    cases hasked with
    | @broken requests failure left hputs =>
      refine ⟨parts, requests, h.agreed, ?_, h.written, .broken htaken (h.agreed ▸ hputs)⟩
      simp only [h.requests, List.append_nil]

end Calls

end SendSession

variable [Sink ω]

/-- After any acts, on any mailbox and any sink, the account of the calls is right. -/
theorem Service.called_after (config : SenderConfig) (mailbox : Mailbox) (sink : ω)
    (acts : List Act) :
    let first : Service (Traced ω) := ⟨mailbox, config.session ⟨sink, []⟩⟩
    ∃ parts tail, (first.after acts).session.Called config.protocol (first.takes acts)
      (first.writes acts) parts tail := by
  intro first
  induction acts using List.reverseRecOn with
  | nil => exact ⟨[], [], rfl, rfl, .nil, .taking⟩
  | append_singleton acts last ih =>
    obtain ⟨parts, tail, h⟩ := ih
    rw [after_concat, takes_concat, writes_concat]
    cases last with
    | offer frame => exact ⟨parts, tail, by simpa [took?, wrote?, act] using h⟩
    | stop => exact ⟨parts, tail, by simpa [took?, wrote?, act] using h⟩
    | step now => exact h.step now (first.after acts).mailbox

/-- How a session ends, whatever is offered and whenever the mailbox is stopped. It ends without a
failure just when it comes for a frame after a stop; then, and only then, it shuts the stream down, once
and as its last call, and the answer to that does not matter. It ends with a failure just when one of its
calls fails, which is then the last. After its end it does nothing more. After a stop nothing is taken
any more, and only a frame that was held is still written; two steps then end the session, if the first
of them comes when the frame may go. -/
theorem Service.ends_in_order (config : SenderConfig) (sink : ω) (before : List Mailbox.Act)
    (acts : List Act) :
    let first : Service (Traced ω) :=
      ⟨(Mailbox.empty config.sourceCount).after before, config.session ⟨sink, []⟩⟩
    let session := (first.after acts).session
    let requests := session.writer.sink.requests
    (∃ parts tail,
      session.Called config.protocol (first.takes acts) (first.writes acts) parts tail ∧
        (session.phase = .ended none ↔ ∃ answer, tail = [.shutdown answer])) ∧
    requests.countP (·.isShutdown) = (if session.phase = .ended none then 1 else 0) ∧
    (session.phase = .ended none ↔ ∃ earlier now later, acts = earlier ++ .step now :: later ∧
      (first.after earlier).session.phase = .taking ∧ (.stop ∈ before ∨ .stop ∈ earlier)) ∧
    (∀ failure, session.phase = .ended (some failure) ↔
      ∃ request ∈ requests, request.failure? = some failure) ∧
    (∀ failure, session.phase = .ended (some failure) →
      ∃ front request, requests = front ++ [request] ∧ request.failure? = some failure) ∧
    (∀ disconnect, session.phase = .ended disconnect → ∀ more,
      (first.after (acts ++ more)).session = session ∧
        first.takes (acts ++ more) = first.takes acts ∧
        first.writes (acts ++ more) = first.writes acts) ∧
    ∀ earlier later, acts = earlier ++ .stop :: later →
      (first.after acts).mailbox = (first.after earlier).mailbox.stop ∧
      first.takes acts = first.takes earlier ∧
      (∃ more, first.writes acts = first.writes earlier ++ more ∧
        (more = [] ∨ ∃ frame, (first.after earlier).session.phase = .holding frame ∧
          more = [frame])) ∧
      ∀ now next, session.pacer.isOpen now = true → ∃ disconnect,
        (first.after (acts ++ [.step now, .step next])).session.phase = .ended disconnect := by
  intro first session requests
  obtain ⟨parts, tail, hcalled⟩ :
      ∃ parts tail, session.Called config.protocol (first.takes acts) (first.writes acts) parts tail :=
    called_after config _ sink acts
  obtain ⟨queue, hholds, -⟩ := (Mailbox.holds_empty config.sourceCount).after before
  have hstopped (acts : List Act) : (first.after acts).mailbox.stopped = true ↔
      .stop ∈ before ∨ .stop ∈ acts := by
    rw [stopped_after, Mailbox.stopped_after_empty]
  refine ⟨⟨parts, tail, hcalled, hcalled.shutdown_iff⟩, hcalled.count_shutdown, ?_,
    hcalled.failure_iff, fun failure => hcalled.last_of_failure, ?_, ?_⟩
  · rw [phase_eq_ended_none_iff hholds rfl acts]
    simp only [hstopped]
  · intro disconnect hended more
    obtain ⟨hsession, htakes, hwrites⟩ := session_after_of_ended hended more
    rw [after_append, takes_append, writes_append, htakes, hwrites]
    exact ⟨hsession, List.append_nil _, List.append_nil _⟩
  · rintro earlier later rfl
    obtain ⟨hmailbox, htakes, hwrites⟩ := first.after_stop earlier later
    refine ⟨hmailbox, htakes, hwrites, fun now next hopen => ?_⟩
    have hstop := (hstopped (earlier ++ .stop :: later)).2
      (.inr (List.mem_append_right _ List.mem_cons_self))
    rw [after_append]
    exact ended_of_steps hstop hopen next

/-- A stop comes while a frame waits for its slot, and the stream cannot be shut down. The frame is still
written, and one that has come later stays behind. -/
theorem Service.ends_in_order_at_slot :
    let frame (sourceId : UInt16) (frameId : UInt32) : Frame :=
      { sourceId := sourceId, frameId := frameId, timestamp := 0, payload := [] }
    let config : SenderConfig := { sourceCount := 2, maxFps := 1 }
    let gauge : Gauge := { settings := { shutdownFailure := some ⟨.notConnected, none⟩ } }
    let before : List Mailbox.Act := [.offer (frame 0 1)]
    let first : Service (Traced Gauge) :=
      ⟨(Mailbox.empty config.sourceCount).after before, config.session ⟨gauge, []⟩⟩
    let earlier : List Act := [.step 0, .step 0, .offer (frame 0 2), .step 1, .offer (frame 1 3)]
    let acts := earlier ++ .stop :: [.step 1, .step Time.second, .step Time.second]
    let last := first.after acts
    (first.after earlier).session.phase = .holding (frame 0 2) ∧
      first.writes acts = first.writes earlier ++ [frame 0 2] ∧ last.mailbox.pending = [1] ∧
      last.session.phase = .ended none ∧
      last.session.writer.sink.requests.countP (·.isShutdown) = 1 := by
  intro frame config gauge before first earlier acts last
  have hended : last.session.phase = .ended none := by decide +kernel
  have hpending : (first.after earlier).mailbox.pending = [1] := by decide +kernel
  obtain ⟨-, hcount, -, -, -, -, hstop⟩ := ends_in_order config gauge before acts
  obtain ⟨hmailbox, -, -, -⟩ := hstop earlier _ rfl
  refine ⟨by decide +kernel, by decide +kernel, ?_, hended, hcount.trans (if_pos hended)⟩
  exact (congrArg Mailbox.pending hmailbox).trans hpending

end FramedVideo
