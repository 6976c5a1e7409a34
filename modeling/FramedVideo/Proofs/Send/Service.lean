import FramedVideo.Proofs.Send.Steps
import FramedVideo.Proofs.Transport.Recorded
import Mathlib.Data.List.Induction

/-!
# A mailbox that is served

Sources offer frames to a mailbox, a session takes them and writes them to its client, and somebody
stops the mailbox, in any order. Whatever the order, a client that takes everything is given the
frames that were written, one after the other, and nothing else, and the session counts them.

## Main definitions

- `Service` — a mailbox and the session that serves it
- `Service.Act` — what can happen next
- `Service.after` — the service after a number of acts
- `Service.writes` — the frames that a number of acts write
- `SendSession.Wrote` — what a session has given its client

Main statements: `SendSession.step_cases`, `Service.wrote_after`.
-/

namespace FramedVideo

open Transport (Sink Recorded Reliable)

/-- A mailbox, and the session that takes frames from it for one client. -/
structure Service (ω : Type) where
  mailbox : Mailbox
  session : SendSession ω

/-- What can happen next. -/
inductive Service.Act where
  /-- A source offers a frame. -/
  | offer (frame : Frame)
  /-- The mailbox is stopped. -/
  | stop
  /-- The session takes its next step, at a moment. -/
  | step (now : Nat)
  deriving DecidableEq, Repr

/-- The service of a sender that accepts its first client. -/
def SenderConfig.service {ω : Type} (config : SenderConfig) (sink : ω) : Service ω where
  mailbox := .empty config.sourceCount
  session := config.session sink

variable {ω : Type} [Sink ω]

namespace Service

/-- The service after one act. -/
def act (service : Service ω) : Act → Service ω
  | .offer frame => { service with mailbox := (service.mailbox.offer frame).2 }
  | .stop => { service with mailbox := service.mailbox.stop }
  | .step now =>
    let stepped := service.session.step now service.mailbox
    ⟨stepped.mailbox, stepped.session⟩

/-- The service after several acts. -/
def after (service : Service ω) (acts : List Act) : Service ω := acts.foldl act service

/-- The frame that an act writes, if it writes one. -/
def wrote? (service : Service ω) : Act → Option Frame
  | .step now => service.session.wrote? now
  | _ => none

/-- The frames that several acts write, in order. -/
def writes (service : Service ω) : List Act → List Frame
  | [] => []
  | next :: acts => (service.wrote? next).toList ++ (service.act next).writes acts

@[simp]
theorem after_nil (service : Service ω) : service.after [] = service := rfl

theorem after_append (service : Service ω) (front back : List Act) :
    service.after (front ++ back) = (service.after front).after back := List.foldl_append

@[simp]
theorem after_concat (service : Service ω) (acts : List Act) (last : Act) :
    service.after (acts ++ [last]) = (service.after acts).act last := service.after_append acts [last]

theorem writes_append (service : Service ω) (front back : List Act) :
    service.writes (front ++ back) = service.writes front ++ (service.after front).writes back := by
  induction front generalizing service with
  | nil => rfl
  | cons next front ih =>
    rw [List.cons_append, writes, writes, ih, List.append_assoc]
    rfl

theorem writes_concat (service : Service ω) (acts : List Act) (last : Act) :
    service.writes (acts ++ [last]) =
      service.writes acts ++ ((service.after acts).wrote? last).toList := by
  rw [writes_append, writes, writes, List.append_nil]

end Service

namespace SendSession

theorem Moves.protocol {now : Nat} {mailbox : Mailbox} {session : SendSession ω} {stepped : Stepped ω}
    {took? wrote? : Option Frame} (h : session.Moves now mailbox stepped took? wrote?) :
    stepped.session.writer.protocol = session.writer.protocol := by
  cases h with
  | idle | waits | rests | refuses | takes => rfl
  | closes hphase htake =>
    rw [close_fst]
    rfl
  | @sends frame writer _ hphase hopen hwrite =>
    exact (congrArg (·.2.protocol) hwrite).symm.trans (session.writer.protocol_write frame)
  | @drops frame _ writer _ _ hphase hopen hwrite hdrop =>
    cases hdrop
    exact (congrArg (·.2.protocol) hwrite).symm.trans (session.writer.protocol_write frame)
  | @breaks frame _ writer hphase hopen hwrite =>
    exact (congrArg (·.2.protocol) hwrite).symm.trans (session.writer.protocol_write frame)

/-- What a session has given its client: the wire forms of some frames, which it counts. The frame
that it holds has a wire form, too, and the client will take it. -/
structure Wrote (protocol : Protocol) (session : SendSession (Recorded ω)) (frames : List Frame) :
    Prop where
  agreed : session.writer.protocol = protocol
  bytes : session.writer.sink.bytes = frames.flatMap (·.onWire protocol)
  sent : session.stats.sent = frames.length
  payloadBytes : session.stats.payloadBytes = (frames.flatMap (·.payload)).length
  fits : ∀ frame ∈ frames, frame.Fits protocol
  held : ∀ frame, session.phase = .holding frame → frame.Fits protocol
  reliable : (∀ disconnect, session.phase ≠ .ended disconnect) → Reliable session.writer.sink.sink

/-- What a step of a session does, and the frame that it writes. -/
inductive Did (protocol : Protocol) (mailbox : Mailbox) (session : SendSession (Recorded ω)) :
    SendSession (Recorded ω) × Mailbox → Option Frame → Prop where
  /-- The session has ended, or it is too early to write. -/
  | idle (hphase : session.phase ≠ .taking) : Did protocol mailbox session (session, mailbox) none
  /-- There is nothing to take yet. -/
  | waited {left} (hphase : session.phase = .taking) (htake : mailbox.take = (.nothingYet, left)) :
    Did protocol mailbox session (session, left) none
  /-- The mailbox was stopped. -/
  | closed {writer left} (hphase : session.phase = .taking) (htake : mailbox.take = (.ended, left))
    (hprotocol : writer.protocol = protocol)
    (hbytes : writer.sink.bytes = session.writer.sink.bytes) :
    Did protocol mailbox session ({ session with writer := writer, phase := .ended none }, left) none
  /-- The frame that was taken is too large. -/
  | refused {frame left stats} (hphase : session.phase = .taking)
    (htake : mailbox.take = (.frame frame, left)) (hfits : ¬frame.Fits protocol)
    (hsent : stats.sent = session.stats.sent)
    (hpayload : stats.payloadBytes = session.stats.payloadBytes) :
    Did protocol mailbox session ({ session with stats := stats, phase := .taking }, left) none
  /-- The frame that was taken is held. -/
  | took {frame left} (hphase : session.phase = .taking)
    (htake : mailbox.take = (.frame frame, left)) (hfits : frame.Fits protocol) :
    Did protocol mailbox session ({ session with phase := .holding frame }, left) none
  /-- The frame that was held is written. -/
  | wrote {frame pacer written sink} (hphase : session.phase = .holding frame)
    (hreliable : Reliable sink) :
    Did protocol mailbox session
      ({ session with
          writer := {
            sink := ⟨sink, session.writer.sink.bytes ++ frame.onWire protocol⟩
            protocol := protocol
            written := written }
          pacer := pacer
          stats := { session.stats with
            sent := session.stats.sent + 1
            payloadBytes := session.stats.payloadBytes + frame.payload.length }
          phase := .taking },
        mailbox)
      (some frame)

/-- A client that takes everything leaves few of the steps of a session. -/
theorem Moves.did {protocol : Protocol} {now : Nat} {mailbox : Mailbox}
    {session : SendSession (Recorded ω)} {frames : List Frame} {stepped : Stepped (Recorded ω)}
    {took? wrote? : Option Frame} (hmoves : session.Moves now mailbox stepped took? wrote?)
    (h : session.Wrote protocol frames) :
    Did protocol mailbox session (stepped.session, stepped.mailbox) wrote? := by
  have hwritten {frame : Frame} (hphase : session.phase = .holding frame) :=
    session.writer.write_of_reliable (h.agreed ▸ h.held frame hphase)
      (h.reliable fun _ hended => nomatch hphase.symm.trans hended)
  cases hmoves with
  | idle hphase => exact .idle (hphase ▸ nofun)
  | rests hphase hclosed => exact .idle (hphase ▸ nofun)
  | waits hphase htake => exact .waited hphase htake
  | closes hphase htake =>
    rw [close_fst]
    exact .closed hphase htake h.agreed rfl
  | refuses hphase htake hheader =>
    exact .refused hphase htake (h.agreed ▸ Frame.not_fits_of_header hheader) rfl rfl
  | takes hphase htake hheader =>
    exact .took hphase htake (h.agreed ▸ Frame.fits_of_header hheader)
  | sends hphase hopen hwrite hstats =>
    obtain ⟨left, hreliable, hleft⟩ := hwritten hphase
    cases hwrite.symm.trans hreliable
    rw [hstats, h.agreed]
    exact .wrote hphase hleft
  | drops hphase hopen hwrite hdrop =>
    obtain ⟨left, hreliable, -⟩ := hwritten hphase
    cases hwrite.symm.trans hreliable
  | breaks hphase hopen hwrite =>
    obtain ⟨left, hreliable, -⟩ := hwritten hphase
    cases hwrite.symm.trans hreliable

theorem step_cases {protocol : Protocol} {session : SendSession (Recorded ω)} {frames : List Frame}
    (h : session.Wrote protocol frames) (now : Nat) (mailbox : Mailbox) :
    Did protocol mailbox session
      ((session.step now mailbox).session, (session.step now mailbox).mailbox)
      (session.wrote? now) :=
  (session.moves now mailbox).did h

/-- A step keeps the account of what the client was given. -/
theorem Wrote.step {protocol : Protocol} {session : SendSession (Recorded ω)} {frames : List Frame}
    (h : session.Wrote protocol frames) (now : Nat) (mailbox : Mailbox) :
    (session.step now mailbox).session.Wrote protocol (frames ++ (session.wrote? now).toList) := by
  have hdid := step_cases h now mailbox
  generalize (session.step now mailbox).session = next at hdid ⊢
  generalize (session.step now mailbox).mailbox = left at hdid
  generalize session.wrote? now = wrote? at hdid ⊢
  cases hdid with
  | idle => simpa using h
  | waited => simpa using h
  | closed hphase htake hprotocol hbytes =>
    simp only [Option.toList_none, List.append_nil]
    exact ⟨hprotocol, hbytes.trans h.bytes, h.sent, h.payloadBytes, h.fits, nofun,
      fun hrunning => absurd rfl (hrunning none)⟩
  | refused hphase htake hfits hsent hpayload =>
    simp only [Option.toList_none, List.append_nil]
    exact ⟨h.agreed, h.bytes, hsent.trans h.sent, hpayload.trans h.payloadBytes, h.fits, nofun,
      fun _ => h.reliable (hphase ▸ nofun)⟩
  | took hphase htake hfits =>
    simp only [Option.toList_none, List.append_nil]
    refine ⟨h.agreed, h.bytes, h.sent, h.payloadBytes, h.fits, ?_,
      fun _ => h.reliable (hphase ▸ nofun)⟩
    rintro frame ⟨⟩
    exact hfits
  | @wrote frame pacer written sink hphase hreliable =>
    simp only [Option.toList_some]
    refine ⟨rfl, ?_, ?_, ?_, ?_, nofun, fun _ => hreliable⟩
    · simp only [h.bytes, List.flatMap_append, List.flatMap_singleton]
    · simp only [h.sent, List.length_append, List.length_singleton]
    · simp only [h.payloadBytes, List.flatMap_append, List.length_append, List.flatMap_singleton]
    · intro other hother
      obtain hbefore | hlast := List.mem_append.1 hother
      · exact h.fits other hbefore
      · exact List.mem_singleton.1 hlast ▸ h.held frame hphase

end SendSession

/-- A client that takes everything has been given the frames that were written, whatever the order
of the acts. -/
theorem Service.wrote_after (config : SenderConfig) (sink : ω) (hsink : Reliable sink)
    (acts : List Act) :
    let first := config.service (⟨sink, []⟩ : Recorded ω)
    (first.after acts).session.Wrote config.protocol (first.writes acts) := by
  intro first
  induction acts using List.reverseRecOn with
  | nil => exact ⟨rfl, rfl, rfl, rfl, nofun, nofun, fun _ => hsink⟩
  | append_singleton acts last ih =>
    rw [after_concat, writes_concat]
    cases last with
    | offer frame => simpa [wrote?, act] using ih
    | stop => simpa [wrote?, act] using ih
    | step now => exact ih.step now (first.after acts).mailbox

end FramedVideo
