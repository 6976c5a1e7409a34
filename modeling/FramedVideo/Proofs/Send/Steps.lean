import FramedVideo.Proofs.Mailbox.Turns
import FramedVideo.Send.Session

/-!
# The steps of a session

A step of a session takes a frame, or writes the one that it holds, or does neither. This is the list
of all that it can do, for any sink: every other fact about steps is read off it.

## Main definitions

- `SendSession.took?`, `SendSession.wrote?` — the frame that a session takes in a step, or writes
- `SendSession.Moves` — what a step does

Main statement: `SendSession.moves`.
-/

namespace FramedVideo.SendSession

open Transport (Sink)

variable {ω : Type}

/-- The frame that a session takes in a step, if it takes one. -/
def took? (mailbox : Mailbox) (session : SendSession ω) : Option Frame :=
  match session.phase with
  | .taking => mailbox.take.1.frame?
  | _ => none

variable [Sink ω]

/-- The frame that a session writes in a step, if it writes one. -/
def wrote? (now : Nat) (session : SendSession ω) : Option Frame :=
  match session.phase with
  | .holding frame =>
    if session.pacer.isOpen now then
      match (session.writer.write frame).1 with
      | .ok () => some frame
      | .error _ => none
    else
      none
  | _ => none

@[simp]
theorem close_fst (session : SendSession ω) :
    session.close.1 =
      { session with writer := session.writer.shutdown.2, phase := .ended none } := by
  unfold close
  cases session.writer.shutdown with
  | mk answer writer => cases answer <;> rfl

/-- What a step does at a moment, with the frame that it takes and the frame that it writes. -/
inductive Moves (now : Nat) (mailbox : Mailbox) (session : SendSession ω) :
    Stepped ω → Option Frame → Option Frame → Prop where
  /-- The session has ended. -/
  | idle {disconnect} (hphase : session.phase = .ended disconnect) :
    Moves now mailbox session ⟨session, mailbox, []⟩ none none
  /-- There is nothing to take yet. -/
  | waits {left} (hphase : session.phase = .taking) (htake : mailbox.take = (.nothingYet, left)) :
    Moves now mailbox session ⟨session, left, []⟩ none none
  /-- The mailbox was stopped. -/
  | closes {left} (hphase : session.phase = .taking) (htake : mailbox.take = (.ended, left)) :
    Moves now mailbox session ⟨session.close.1, left, session.close.2⟩ none none
  /-- The frame that is taken has no wire form. -/
  | refuses {frame fault left} (hphase : session.phase = .taking)
    (htake : mailbox.take = (.frame frame, left))
    (hheader : frame.header session.writer.protocol = .error fault) :
    Moves now mailbox session
      ⟨(session.drop frame fault).1, left, (session.drop frame fault).2⟩ (some frame) none
  /-- The frame that is taken is held. -/
  | takes {frame header left} (hphase : session.phase = .taking)
    (htake : mailbox.take = (.frame frame, left))
    (hheader : frame.header session.writer.protocol = .ok header) :
    Moves now mailbox session ⟨{ session with phase := .holding frame }, left, []⟩ (some frame) none
  /-- It is too early to write the frame that is held. -/
  | rests {frame} (hphase : session.phase = .holding frame)
    (hclosed : session.pacer.isOpen now = false) :
    Moves now mailbox session ⟨session, mailbox, []⟩ none none
  /-- The frame that is held is written. -/
  | sends {frame writer stats} (hphase : session.phase = .holding frame)
    (hopen : session.pacer.isOpen now = true)
    (hwrite : session.writer.write frame = (.ok (), writer))
    (hstats : stats = { session.stats with
      sent := session.stats.sent + 1
      payloadBytes := session.stats.payloadBytes + frame.payload.length }) :
    Moves now mailbox session
      ⟨{ session with
          writer := writer, pacer := session.pacer.release now, stats := stats, phase := .taking },
        mailbox,
        Log.wroteFrame frame ::
          if Log.isDue session.logEvery stats.sent then [Log.sent mailbox stats] else []⟩
      none (some frame)
  /-- The writer refuses the frame that is held. -/
  | drops {frame fault writer dropped log} (hphase : session.phase = .holding frame)
    (hopen : session.pacer.isOpen now = true)
    (hwrite : session.writer.write frame = (.error (.fault fault), writer))
    (hdrop : drop frame fault
      { session with writer := writer, pacer := session.pacer.release now } = (dropped, log)) :
    Moves now mailbox session ⟨dropped, mailbox, log⟩ none none
  /-- The sink fails. -/
  | breaks {frame failure writer} (hphase : session.phase = .holding frame)
    (hopen : session.pacer.isOpen now = true)
    (hwrite : session.writer.write frame = (.error (.transport failure), writer)) :
    Moves now mailbox session
      ⟨{ session with
          writer := writer, pacer := session.pacer.release now, phase := .ended (some failure) },
        mailbox, [Log.disconnected failure session.stats]⟩
      none none

/-- These are all the steps that there are. -/
theorem moves (now : Nat) (mailbox : Mailbox) (session : SendSession ω) :
    Moves now mailbox session (session.step now mailbox) (session.took? mailbox)
      (session.wrote? now) := by
  unfold step took? wrote?
  cases hphase : session.phase with
  | ended disconnect => exact .idle hphase
  | holding frame =>
    by_cases hopen : session.pacer.isOpen now = true
    · simp only [hopen, if_true, send]
      cases hwrite : session.writer.write frame with
      | mk answer writer =>
        cases answer with
        | ok done => exact .sends hphase hopen hwrite rfl
        | error failure =>
          cases failure with
          | fault fault => exact .drops hphase hopen hwrite rfl
          | transport failure => exact .breaks hphase hopen hwrite
    · simp only [hopen]
      exact .rests hphase (Bool.eq_false_iff.2 hopen)
  | taking =>
    cases htake : mailbox.take with
    | mk delivery left =>
      cases delivery with
      | nothingYet => exact .waits hphase htake
      | ended => exact .closes hphase htake
      | frame frame =>
        cases hheader : frame.header session.writer.protocol with
        | error fault =>
          simp only [hheader]
          exact .refuses hphase htake hheader
        | ok header =>
          simp only [hheader]
          exact .takes hphase htake hheader

variable {now : Nat} {mailbox : Mailbox} {session : SendSession ω} {stepped : Stepped ω}
  {took? wrote? : Option Frame}

theorem Moves.mailbox_eq (h : session.Moves now mailbox stepped took? wrote?) :
    stepped.mailbox = mailbox ∨ stepped.mailbox = mailbox.take.2 := by
  cases h with
  | idle _ | rests _ _ | sends _ _ _ _ | drops _ _ _ _ | breaks _ _ _ => exact .inl rfl
  | waits _ htake | closes _ htake | refuses _ htake _ | takes _ htake _ =>
    exact .inr (congrArg Prod.snd htake).symm

theorem Moves.sent (h : session.Moves now mailbox stepped took? wrote?) :
    stepped.session.stats.sent = session.stats.sent + wrote?.toList.length := by
  cases h with
  | closes hphase htake => simp
  | sends hphase hopen hwrite hstats => simp [hstats]
  | drops hphase hopen hwrite hdrop =>
    cases hdrop
    rfl
  | _ => rfl

end FramedVideo.SendSession
