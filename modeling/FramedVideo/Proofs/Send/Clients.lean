import FramedVideo.Proofs.Mailbox.Counts
import FramedVideo.Proofs.Send.Fates
import FramedVideo.Proofs.Send.Order
import FramedVideo.Proofs.Send.Steps
import Mathlib.Algebra.GroupWithZero.Nat
import Mathlib.Data.List.Flatten

/-!
# Clients one after another

A sender serves its clients one after another from the same mailbox. A client may take any number of
bytes and then fail, and the frame that was being written is then lost. No other frame is lost without
being counted, and none is written for two clients.

## Main definitions

- `SendSession.spent` — the frames that a session counts, with the one in its hand or lost
- `Visit` — a session with a client, and the frames that it took and wrote
- `Clients` — a mailbox, and the sessions that served it
- `Clients.act`, `Clients.after` — what happens, in any order
- `Clients.Agrees` — the sessions took what was taken from the mailbox

Main statements: `SendSession.Moves.spent`, `Visit.Tallies.step`, `Clients.Agrees.act`,
`Clients.conserves_frames`.
-/

namespace FramedVideo

open Transport (Sink Gauge)

-- ════════════════════════════════════════════════════════════════════════
-- The frames of one session
-- ════════════════════════════════════════════════════════════════════════

namespace SendSession

/-- How many frames a session has in its hand, or lost with its client. -/
@[simp]
def Phase.inHand : Phase → Nat
  | .taking => 0
  | .holding _ => 1
  | .ended none => 0
  | .ended (some _) => 1

variable {ω : Type}

/-- The frames that a session counts, with the one in its hand or lost. -/
def spent (session : SendSession ω) : Nat :=
  session.stats.sent + session.stats.oversize + session.phase.inHand

variable [Sink ω] {now : Nat} {mailbox : Mailbox} {session : SendSession ω} {stepped : Stepped ω}
  {took? wrote? : Option Frame}

/-- A frame that a session takes is counted, or in its hand, or lost. -/
theorem Moves.spent (h : session.Moves now mailbox stepped took? wrote?) :
    stepped.session.spent = session.spent + took?.toList.length := by
  unfold SendSession.spent
  cases h with
  | idle hphase => rfl
  | waits hphase htake => rfl
  | rests hphase hclosed => rfl
  | closes hphase htake => simp [hphase]
  | refuses hphase htake hheader =>
    simp only [hphase, drop, Phase.inHand, Option.toList_some, List.length_singleton]
    omega
  | takes hphase htake hheader => simp [hphase]
  | sends hphase hopen hwrite hstats =>
    simp only [hphase, hstats, Phase.inHand, Option.toList_none, List.length_nil]
    omega
  | drops hphase hopen hwrite hdrop =>
    cases hdrop
    simp only [hphase, Phase.inHand, Option.toList_none, List.length_nil]
    omega
  | breaks hphase hopen hwrite => simp [hphase]

theorem Moves.held (h : session.Moves now mailbox stepped took? wrote?) :
    (wrote?.toList ++ Service.held stepped.session).Sublist
      (Service.held session ++ took?.toList) := by
  unfold Service.held
  cases h with
  | idle hphase => simp
  | waits hphase htake => simp
  | rests hphase hclosed => simp
  | closes hphase htake => simp
  | refuses hphase htake hheader => simp [hphase, drop]
  | takes hphase htake hheader => simp [hphase]
  | sends hphase hopen hwrite hstats => simp [hphase]
  | drops hphase hopen hwrite hdrop =>
    cases hdrop
    simp
  | breaks hphase hopen hwrite => simp

/-- What the next step of a session does to the mailbox. -/
def mailboxAct? (session : SendSession ω) : Option Mailbox.Act :=
  match session.phase with
  | .taking => some .take
  | _ => none

/-- A step takes from the mailbox if the session is taking, and does nothing else to it. -/
theorem Moves.use (h : session.Moves now mailbox stepped took? wrote?) :
    stepped.mailbox = mailbox.after session.mailboxAct?.toList ∧
      took?.toList = Mailbox.taken (mailbox.history session.mailboxAct?.toList) := by
  unfold mailboxAct?
  cases h with
  | idle hphase | rests hphase _ | sends hphase _ _ _ | drops hphase _ _ _ | breaks hphase _ _ =>
    rw [hphase]
    exact ⟨rfl, rfl⟩
  | waits hphase htake | closes hphase htake | refuses hphase htake _ | takes hphase htake _ =>
    rw [hphase]
    simp only [Option.toList_some, Mailbox.after_cons, Mailbox.history, Mailbox.act, htake]
    exact ⟨rfl, rfl⟩

end SendSession

-- ════════════════════════════════════════════════════════════════════════
-- Visits
-- ════════════════════════════════════════════════════════════════════════

/-- A session with a client, and the frames that it took and wrote so far. -/
structure Visit (ω : Type) where
  session : SendSession ω
  taken : List Frame := []
  /-- Of the frames that it took, those that its client got in whole. -/
  written : List Frame := []

namespace Visit

variable {ω : Type}

/-- The session has ended. -/
def isOver (visit : Visit ω) : Bool :=
  match visit.session.phase with
  | .ended _ => true
  | _ => false

/-- The failure that ended the session, if one did. -/
def disconnect? (visit : Visit ω) : Option Transport.Failure :=
  match visit.session.phase with
  | .ended disconnect => disconnect
  | _ => none

theorem spent_of_isOver {visit : Visit ω} (h : visit.isOver = true) :
    visit.session.spent = visit.session.stats.sent + visit.session.stats.oversize +
      if visit.disconnect?.isSome then 1 else 0 := by
  unfold isOver at h
  unfold SendSession.spent disconnect?
  cases hphase : visit.session.phase with
  | taking => simp [hphase] at h
  | holding frame => simp [hphase] at h
  | ended disconnect => cases disconnect <;> rfl

variable [Sink ω]

/-- The next step of the session, and the mailbox after it. -/
def step (now : Nat) (mailbox : Mailbox) (visit : Visit ω) : Visit ω × Mailbox :=
  let stepped := visit.session.step now mailbox
  let next : Visit ω := {
    session := stepped.session
    taken := visit.taken ++ (visit.session.took? mailbox).toList
    written := visit.written ++ (visit.session.wrote? now).toList }
  (next, stepped.mailbox)

/-- The counts of a session agree with the frames that it took and wrote. It wrote frames that it took,
in the same order. -/
structure Tallies (visit : Visit ω) : Prop where
  sent : visit.session.stats.sent = visit.written.length
  taken : visit.taken.length = visit.session.spent
  order : (visit.written ++ Service.held visit.session).Sublist visit.taken

theorem Tallies.step {visit : Visit ω} (h : visit.Tallies) (now : Nat) (mailbox : Mailbox) :
    (visit.step now mailbox).1.Tallies := by
  have hmoves := visit.session.moves now mailbox
  refine ⟨?_, ?_, ?_⟩
  · simp only [Visit.step, hmoves.sent, h.sent, List.length_append]
  · simp only [Visit.step, hmoves.spent, h.taken, List.length_append]
  · simp only [Visit.step]
    rw [List.append_assoc]
    refine (hmoves.held.append_left visit.written).trans ?_
    rw [← List.append_assoc]
    exact h.order.append_right _

end Visit

-- ════════════════════════════════════════════════════════════════════════
-- Many clients
-- ════════════════════════════════════════════════════════════════════════

/-- A mailbox, and the sessions that have served it and the one that serves it now. -/
structure Clients (ω : Type) where
  config : SenderConfig
  mailbox : Mailbox
  /-- The sessions that have ended, in order. -/
  past : List (Visit ω) := []
  /-- The session that is running. -/
  current : Option (Visit ω) := none

/-- The sender before its first client. -/
def SenderConfig.clients {ω : Type} (config : SenderConfig) : Clients ω where
  config := config
  mailbox := .empty config.sourceCount

namespace Clients

/-- What can happen next. -/
inductive Act (ω : Type) where
  /-- A source offers a frame. -/
  | offer (frame : Frame)
  /-- The mailbox is stopped. -/
  | stop
  /-- A client connects, and is served if no other one is. -/
  | connect (sink : ω)
  /-- The session that is running takes its next step, at a moment. -/
  | step (now : Nat)

variable {ω : Type}

/-- All sessions so far, in order. -/
def visits (clients : Clients ω) : List (Visit ω) := clients.past ++ clients.current.toList

variable [Sink ω]

/-- The clients after one act. -/
def act (clients : Clients ω) : Act ω → Clients ω
  | .offer frame => { clients with mailbox := (clients.mailbox.offer frame).2 }
  | .stop => { clients with mailbox := clients.mailbox.stop }
  | .connect sink =>
    match clients.current with
    | some _ => clients
    | none => { clients with current := some { session := clients.config.session sink } }
  | .step now =>
    match clients.current with
    | none => clients
    | some visit =>
      let (next, left) := visit.step now clients.mailbox
      if next.isOver then
        { clients with mailbox := left, past := clients.past ++ [next], current := none }
      else
        { clients with mailbox := left, current := some next }

/-- The clients after several acts. -/
def after (clients : Clients ω) (acts : List (Act ω)) : Clients ω := acts.foldl act clients

/-- What an act does to the mailbox. -/
def mailboxAct? (clients : Clients ω) : Act ω → Option Mailbox.Act
  | .offer frame => some (.offer frame)
  | .stop => some .stop
  | .connect _ => none
  | .step _ => clients.current.bind fun visit => visit.session.mailboxAct?

/-- What several acts do to the mailbox. -/
def mailboxActs (clients : Clients ω) : List (Act ω) → List Mailbox.Act
  | [] => []
  | next :: acts => (clients.mailboxAct? next).toList ++ (clients.act next).mailboxActs acts

theorem after_concat (clients : Clients ω) (acts : List (Act ω)) (last : Act ω) :
    clients.after (acts ++ [last]) = (clients.after acts).act last := List.foldl_concat _ _ _ _

theorem mailboxActs_concat (clients : Clients ω) (acts : List (Act ω)) (last : Act ω) :
    clients.mailboxActs (acts ++ [last]) =
      clients.mailboxActs acts ++ ((clients.after acts).mailboxAct? last).toList := by
  induction acts generalizing clients with
  | nil => simp [mailboxActs, after]
  | cons next acts ih =>
    rw [List.cons_append, mailboxActs, mailboxActs, ih, List.append_assoc]
    rfl

/-- The sessions took what was taken from the mailbox, and all but the last one have ended. -/
structure Agrees (clients : Clients ω) (past : List Mailbox.Event) : Prop where
  taken : clients.visits.flatMap (·.taken) = Mailbox.taken past
  tallies : ∀ visit ∈ clients.visits, visit.Tallies
  finished : ∀ visit ∈ clients.past, visit.isOver = true

namespace Agrees

variable {clients : Clients ω} {past : List Mailbox.Event}

omit [Sink ω] in
theorem concat_quiet (h : clients.Agrees past) (mailbox : Mailbox) {event : Mailbox.Event}
    (hquiet : event.taken? = none) :
    Agrees { clients with mailbox := mailbox } (past ++ [event]) := by
  refine ⟨?_, h.tallies, h.finished⟩
  rw [Mailbox.taken_append, ← h.taken, Mailbox.taken, List.filterMap_cons_none hquiet,
    List.filterMap_nil, List.append_nil]
  rfl

omit [Sink ω] in
theorem connect (h : clients.Agrees past) (hnone : clients.current = none) (sink : ω) :
    Agrees { clients with current := some { session := clients.config.session sink } } past := by
  have hvisits : clients.visits = clients.past := by rw [visits, hnone]; exact List.append_nil _
  obtain ⟨htaken, htallies, hover⟩ := h
  rw [hvisits] at htaken htallies
  refine ⟨?_, ?_, hover⟩
  · rw [← htaken, visits, List.flatMap_append]
    exact List.append_nil _
  · intro visit hvisit
    obtain hpast | hcurrent := List.mem_append.1 hvisit
    · exact htallies visit hpast
    · rw [List.mem_singleton.1 hcurrent]
      exact ⟨rfl, rfl, .slnil⟩

theorem step (h : clients.Agrees past) {visit : Visit ω} (hcurrent : clients.current = some visit)
    (now : Nat) {later : Clients ω}
    (hvisits : later.visits = clients.past ++ [(visit.step now clients.mailbox).1])
    (hover : ∀ visit ∈ later.past, visit.isOver = true) :
    later.Agrees (past ++ clients.mailbox.history visit.session.mailboxAct?.toList) := by
  obtain ⟨-, htook⟩ := (visit.session.moves now clients.mailbox).use
  have hbefore : clients.visits = clients.past ++ [visit] := by rw [visits, hcurrent]; rfl
  obtain ⟨htaken, htallies, -⟩ := h
  rw [hbefore] at htaken htallies
  refine ⟨?_, ?_, hover⟩
  · rw [Mailbox.taken_append, ← htaken, ← htook, hvisits, List.flatMap_append, List.flatMap_append,
      List.append_assoc, List.flatMap_singleton, List.flatMap_singleton]
    rfl
  · intro other hother
    rw [hvisits] at hother
    obtain hpast | hlast := List.mem_append.1 hother
    · exact htallies other (List.mem_append_left _ hpast)
    · rw [List.mem_singleton.1 hlast]
      exact (htallies visit (List.mem_append_right _ List.mem_cons_self)).step now clients.mailbox

/-- An act does to the mailbox what it says, and the sessions take what this brings. -/
theorem act (h : clients.Agrees past) (next : Act ω) :
    let acts := (clients.mailboxAct? next).toList
    (clients.act next).mailbox = clients.mailbox.after acts ∧
      (clients.act next).Agrees (past ++ clients.mailbox.history acts) := by
  cases next with
  | offer frame => exact ⟨rfl, h.concat_quiet _ rfl⟩
  | stop => exact ⟨rfl, h.concat_quiet _ rfl⟩
  | connect sink =>
    simp only [mailboxAct?, Option.toList_none, Mailbox.history, List.append_nil, Clients.act]
    cases hcurrent : clients.current with
    | none => exact ⟨rfl, h.connect hcurrent sink⟩
    | some visit => exact ⟨rfl, h⟩
  | step now =>
    simp only [mailboxAct?, Clients.act]
    cases hcurrent : clients.current with
    | none => exact ⟨rfl, (List.append_nil past).symm ▸ h⟩
    | some visit =>
      have huse := (visit.session.moves now clients.mailbox).use.1
      by_cases hover : (visit.step now clients.mailbox).1.isOver = true
      · simp only [hover, if_true]
        refine ⟨huse, h.step hcurrent now (List.append_nil _) fun other hother => ?_⟩
        obtain hpast | hlast := List.mem_append.1 hother
        · exact h.finished other hpast
        · rw [List.mem_singleton.1 hlast]
          exact hover
      · simp only [hover]
        exact ⟨huse, h.step hcurrent now rfl h.finished⟩

end Agrees

theorem agrees_after (config : SenderConfig) (acts : List (Act ω)) :
    let first : Clients ω := config.clients
    let done := first.mailboxActs acts
    (first.after acts).mailbox = (Mailbox.empty config.sourceCount).after done ∧
      (first.after acts).Agrees ((Mailbox.empty config.sourceCount).history done) := by
  intro first
  induction acts using List.reverseRecOn with
  | nil => exact ⟨rfl, rfl, nofun, nofun⟩
  | append_singleton acts last ih =>
    obtain ⟨hmailbox, hagrees⟩ := ih
    obtain ⟨hnext, hafter⟩ := hagrees.act last
    simp only [after_concat, mailboxActs_concat, Mailbox.after_append, Mailbox.history_append]
    rw [← hmailbox]
    exact ⟨hnext, hafter⟩

/-- Whenever no session is running, every frame that was accepted has been replaced, or it waits, or a
session has counted it, or a session has lost it with its client, and each lost client costs one frame.
The frames that were written, in all sessions together, are those of different pushes, and those of one
source come in the order of their pushes. -/
theorem conserves_frames (config : SenderConfig) (acts : List (Act ω))
    (hidle : ((config.clients : Clients ω).after acts).current = none) :
    let first : Clients ω := config.clients
    let clients := first.after acts
    let history := (Mailbox.empty config.sourceCount).history (first.mailboxActs acts)
    let used (visit : Visit ω) := visit.session.stats.sent + visit.session.stats.oversize +
      if visit.disconnect?.isSome then 1 else 0
    clients.mailbox.pushed = clients.mailbox.dropped + clients.mailbox.pending.length +
      (clients.past.map used).sum ∧
    (∀ visit ∈ clients.past, visit.taken.length = used visit ∧
      visit.written.length = visit.session.stats.sent ∧ visit.written.Sublist visit.taken) ∧
    ∃ sent : List Push, sent.map (·.frame) = clients.past.flatMap (·.written) ∧
      (∀ push ∈ sent, Mailbox.Accepted history push.position push.frame) ∧
      (sent.map (·.position)).Nodup ∧
      sent.Pairwise fun earlier later =>
        earlier.frame.sourceId = later.frame.sourceId → earlier.position < later.position := by
  intro first clients history used
  obtain ⟨hmailbox, htaken, htallies, hover⟩ := agrees_after config acts
  obtain ⟨-, haccepted⟩ := Mailbox.counts_after config.sourceCount (first.mailboxActs acts)
  obtain ⟨handed, hhanded⟩ :=
    Mailbox.handed_history config.sourceCount (first.mailboxActs acts)
  have hvisits : clients.visits = clients.past := by rw [visits, hidle]; exact List.append_nil _
  rw [hvisits] at htaken htallies
  have hused : ∀ visit ∈ clients.past, visit.taken.length = used visit := by
    intro visit hvisit
    rw [(htallies visit hvisit).taken]
    exact Visit.spent_of_isOver (hover visit hvisit)
  have hwritten : ∀ visit ∈ clients.past, visit.written.Sublist visit.taken := by
    intro visit hvisit
    exact (List.sublist_append_left _ _).trans (htallies visit hvisit).order
  refine ⟨?_, fun visit hvisit => ?_, ?_⟩
  · have hlength := congrArg List.length htaken
    rw [List.length_flatMap, List.map_congr_left hused] at hlength
    rw [← hmailbox, ← hlength] at haccepted
    exact haccepted.trans (Nat.add_right_comm _ _ _)
  · exact ⟨hused visit hvisit, (htallies visit hvisit).sent.symm, hwritten visit hvisit⟩
  · -- the pushes that were taken are in order, and those that were written are some of them
    have hsome : (clients.past.flatMap (·.written)).Sublist (handed.map (·.frame)) := by
      rw [hhanded.frames, ← htaken]
      exact List.Sublist.flatMap_right clients.past hwritten
    obtain ⟨sent, hsent, hmap⟩ := List.sublist_map_iff.1 hsome
    exact ⟨sent, hmap.symm, fun push hpush => hhanded.accepted push (hsent.subset hpush),
      hhanded.nodup_positions.sublist (hsent.map _), hhanded.ordered.sublist hsent⟩

/-- A client breaks off in its first frame, and another one is served until the mailbox is stopped: it
gets one frame, after one was replaced and one found too large, and one is left behind. -/
theorem conserves_frames_of_two :
    let frame (sourceId : UInt16) (frameId : UInt32) (payload : Bytes) : Frame :=
      { sourceId := sourceId, frameId := frameId, timestamp := 0, payload := payload }
    let config : SenderConfig := { sourceCount := 2, protocol := { maxPayload := 1 } }
    let broken : Gauge := { settings := { limit := some 10 } }
    let acts : List (Act Gauge) := [.offer (frame 0 1 []), .connect broken, .step 0, .step 0,
      .offer (frame 1 2 [7, 8]), .offer (frame 0 3 []), .offer (frame 0 4 [9]), .connect {},
      .step 0, .step 0, .step 0, .offer (frame 1 5 []), .stop, .step 0]
    let first : Clients Gauge := config.clients
    (first.after acts).current = none ∧
      (first.after acts).past.map (·.disconnect?) = [some .tookNothing, none] ∧
      (first.after acts).past.map (·.written) = [[], [frame 0 4 [9]]] ∧
      (first.after acts).mailbox.dropped = 1 ∧ (first.after acts).mailbox.pending = [1] ∧
      (first.after acts).mailbox.pushed = 1 + 1 + (1 + 2) := by
  intro frame config broken acts first
  have hidle : (first.after acts).current = none := by decide +kernel
  have hdropped : (first.after acts).mailbox.dropped = 1 := by decide +kernel
  have hpending : (first.after acts).mailbox.pending = [1] := by decide +kernel
  have hused : ((first.after acts).past.map fun visit => visit.session.stats.sent +
      visit.session.stats.oversize + if visit.disconnect?.isSome then 1 else 0) = [1, 2] := by decide +kernel
  have hpushed := (conserves_frames config acts hidle).1
  rw [hused, hdropped, hpending] at hpushed
  exact ⟨hidle, by decide +kernel, by decide +kernel, hdropped, hpending, hpushed⟩

end Clients

end FramedVideo
