import FramedVideo.Proofs.Mailbox.Tickets
import FramedVideo.Proofs.Mailbox.Turns

/-!
# No wake is lost

No waiter is left waiting beside a frame. While one waits, there are at least as many notifications to
come, waiters on their way to the mailbox and wakes to be used as there are sources with a frame. What
keeps that so is that a waiter takes its ticket before it tries the mailbox.

## Main definitions

- `Waiter.onTheWay` — the waiter will try the mailbox before it waits
- `Waiter.hasWake` — it does, or it was woken, or it has a wake to pass on
- `Traffic.supply` — the notifications to come, the waiters on their way and the wakes to be used
- `Traffic.Parked` — somebody waits who was not woken
- `Traffic.Sound` — what every section keeps

Main statements: `Traffic.Sound.next`, `Traffic.sound_of_reachable`, `Traffic.no_lost_wake`.
-/

namespace FramedVideo

namespace Mailbox

theorem length_pending_offer_le (mailbox : Mailbox) (frame : Frame) :
    (mailbox.offer frame).2.pending.length ≤ mailbox.pending.length + 1 ∧
      ((mailbox.offer frame).1 = .ignored → (mailbox.offer frame).2 = mailbox) := by
  unfold offer
  split
  · exact ⟨Nat.le_succ _, fun _ => rfl⟩
  · split
    · exact ⟨Nat.le_succ _, fun _ => rfl⟩
    · split
      · exact ⟨Nat.le_succ _, nofun⟩
      · refine ⟨Nat.le_of_eq ?_, nofun⟩
        exact List.length_append

/-- A take finds the mailbox stopped, or nothing in it, or it shortens the queue. -/
theorem take_trichotomy (mailbox : Mailbox) :
    mailbox.stopped = true ∧ mailbox.take = (.ended, mailbox) ∨
      mailbox.stopped = false ∧ mailbox.pending = [] ∧ mailbox.take = (.nothingYet, mailbox) ∨
      mailbox.stopped = false ∧ mailbox.take.1 ≠ .nothingYet ∧
        mailbox.take.2.pending.length + 1 = mailbox.pending.length := by
  unfold take
  cases hstopped : mailbox.stopped with
  | true => exact .inl ⟨rfl, rfl⟩
  | false =>
    cases hpending : mailbox.pending with
    | nil => exact .inr (.inl ⟨rfl, rfl, rfl⟩)
    | cons sourceId waiting =>
      refine .inr (.inr ⟨rfl, ?_⟩)
      simp only [Bool.false_eq_true, if_false]
      split
      · exact ⟨nofun, rfl⟩
      · split
        · exact ⟨nofun, rfl⟩
        · exact ⟨nofun, rfl⟩

theorem length_pending_take_le (mailbox : Mailbox) :
    mailbox.take.2.pending.length ≤ mailbox.pending.length := by
  obtain ⟨-, htake⟩ | ⟨-, -, htake⟩ | ⟨-, -, hlength⟩ := mailbox.take_trichotomy
  · exact Nat.le_of_eq (congrArg (·.2.pending.length) htake)
  · exact Nat.le_of_eq (congrArg (·.2.pending.length) htake)
  · omega

end Mailbox

/-- The waiter will try the mailbox before it waits. -/
def Waiter.onTheWay : Waiter → Bool
  | starting | enlisted _ _ => true
  | waiting _ | leaving _ _ | finished _ | cancelled => false

/-- The waiter was woken, or is on its way, or has a wake to pass on as it leaves. -/
def Waiter.hasWake (notifier : Notifier) : Waiter → Bool
  | starting | enlisted _ _ => true
  | waiting ticket => notifier.isWoken ticket
  | leaving ticket _ => notifier.woken.contains (ticket, .single)
  | finished _ | cancelled => false

namespace Traffic

/-- The notifications to come, the waiters on their way to the mailbox, and the wakes to be used. -/
def supply (traffic : Traffic) : Nat :=
  traffic.owed + traffic.waiters.countP (·.onTheWay) + traffic.exchange.notifier.singles

/-- Somebody waits who was not woken. -/
def Parked (traffic : Traffic) : Prop :=
  ∃ ticket, .waiting ticket ∈ traffic.waiters ∧ ticket ∈ traffic.exchange.notifier.waiting

/-- What every section keeps. -/
structure Sound (traffic : Traffic) : Prop where
  enrolled : traffic.exchange.notifier.Enrolled traffic.waiters
  closing : traffic.stopping ≠ 0 ∨ traffic.announced = true → traffic.exchange.mailbox.stopped = true
  announced : traffic.announced = true → ¬traffic.Parked
  supplied : traffic.exchange.mailbox.stopped = false → traffic.Parked →
    traffic.exchange.mailbox.pending.length ≤ traffic.supply

theorem sound_empty (sourceCount : UInt16) : Sound { exchange := .empty sourceCount } where
  enrolled := by
    refine ⟨List.nodup_nil, nofun, nofun, List.nodup_nil, nofun, nofun, nofun⟩
  closing := by
    rintro (hne | hannounced)
    · exact absurd rfl hne
    · cases hannounced
  announced := nofun
  supplied _ _ := Nat.zero_le _

namespace Sound

variable {traffic later : Traffic} {front back : List Waiter} {waiter waiter' : Waiter}

theorem enrolled_split (h : traffic.Sound) (hwaiters : traffic.waiters = front ++ waiter :: back) :
    traffic.exchange.notifier.Enrolled (front ++ waiter :: back) :=
  hwaiters ▸ h.enrolled

/-- A section does no harm that parks nobody and uses up no more supply than it takes from the queue. -/
theorem of_supply (h : traffic.Sound)
    (henrolled : later.exchange.notifier.Enrolled later.waiters)
    (hstopped : later.exchange.mailbox.stopped = traffic.exchange.mailbox.stopped)
    (hstopping : later.stopping = traffic.stopping) (hannounced : later.announced = traffic.announced)
    (hparked : later.Parked → traffic.Parked)
    (hsupply : later.Parked → traffic.exchange.mailbox.stopped = false →
      later.exchange.mailbox.pending.length + traffic.supply ≤
        traffic.exchange.mailbox.pending.length + later.supply) :
    later.Sound where
  enrolled := henrolled
  closing hclosing := by
    rw [hstopped]
    rw [hstopping, hannounced] at hclosing
    exact h.closing hclosing
  announced hall hwaits := h.announced (hannounced ▸ hall) (hparked hwaits)
  supplied hrunning hwaits := by
    rw [hstopped] at hrunning
    have hbefore := h.supplied hrunning (hparked hwaits)
    have hsection := hsupply hwaits hrunning
    omega

/-- In particular if one waiter goes on, and does not begin to wait. -/
theorem change (h : traffic.Sound) (hwaiters : traffic.waiters = front ++ waiter :: back)
    {mailbox : Mailbox} {notifier : Notifier} (henrolled : notifier.Enrolled (front ++ waiter' :: back))
    (hstopped : mailbox.stopped = traffic.exchange.mailbox.stopped)
    (hmoving : ∀ ticket, waiter' ≠ .waiting ticket)
    (hwaiting : ∀ ticket, .waiting ticket ∈ traffic.waiters → ticket ∈ notifier.waiting →
      ticket ∈ traffic.exchange.notifier.waiting)
    (hsupply : notifier.waiting ≠ [] → traffic.exchange.mailbox.stopped = false →
      mailbox.pending.length + waiter.onTheWay.toNat + traffic.exchange.notifier.singles ≤
        traffic.exchange.mailbox.pending.length + waiter'.onTheWay.toNat + notifier.singles) :
    (traffic.moved front (waiter', ⟨mailbox, notifier⟩) back).Sound := by
  refine h.of_supply henrolled hstopped rfl rfl ?_ ?_
  · rintro ⟨ticket, hticket, hmem⟩
    obtain hnew | hold := Notifier.Enrolled.eq_or_mem_of_split hticket
    · exact absurd hnew.symm (hmoving ticket)
    · have hbefore : .waiting ticket ∈ traffic.waiters := hwaiters ▸ hold waiter
      exact ⟨ticket, hbefore, hwaiting ticket hbefore hmem⟩
  · rintro ⟨ticket, -, hmem⟩ hrunning
    have hsection := hsupply (List.ne_nil_of_mem hmem) hrunning
    have hcount (waiter : Waiter) : (front ++ waiter :: back).countP (·.onTheWay) =
        (front ++ back).countP (·.onTheWay) + waiter.onTheWay.toNat := by
      cases hway : waiter.onTheWay <;> simp [hway, Nat.add_assoc]
    simp only [supply, moved, hwaiters, hcount]
    omega

theorem accept (h : traffic.Sound) {frame : Frame} {outcome : Mailbox.Outcome} {mailbox : Mailbox}
    (hoffer : traffic.exchange.mailbox.offer frame = (outcome, mailbox)) :
    Sound { traffic with
      exchange := { traffic.exchange with mailbox := mailbox }
      owed := traffic.owed + 1 } := by
  have hkeeps := (traffic.exchange.mailbox.offer_keeps frame).1
  have hlength := (traffic.exchange.mailbox.length_pending_offer_le frame).1
  rw [hoffer] at hkeeps hlength
  refine h.of_supply h.enrolled hkeeps rfl rfl id fun _ _ => ?_
  simp only [supply] at hlength ⊢
  omega

theorem notify (h : traffic.Sound) {owed : Nat} {notifier : Notifier} (howed : traffic.owed = owed + 1)
    (hnotified : traffic.exchange.notifier.Notified notifier) :
    Sound { traffic with
      exchange := { traffic.exchange with notifier := notifier }
      owed := owed } := by
  refine h.of_supply (h.enrolled.notified hnotified) rfl rfl rfl ?_ ?_
  · rintro ⟨ticket, hticket, hmem⟩
    exact ⟨ticket, hticket, hnotified.waiting_subset hmem⟩
  · rintro ⟨ticket, -, hmem⟩ -
    have hsingles := hnotified.singles (List.ne_nil_of_mem hmem)
    simp only [supply]
    omega

theorem stop (h : traffic.Sound) :
    Sound { traffic with
      exchange := { traffic.exchange with mailbox := traffic.exchange.mailbox.stop }
      stopping := traffic.stopping + 1 } where
  enrolled := h.enrolled
  closing _ := rfl
  announced := h.announced
  supplied := nofun

theorem announce (h : traffic.Sound) {stopping : Nat} (hstopping : traffic.stopping = stopping + 1) :
    Sound { traffic with
      exchange := { traffic.exchange with notifier := traffic.exchange.notifier.notifyAll }
      stopping := stopping
      announced := true } := by
  have hstopped : traffic.exchange.mailbox.stopped = true :=
    h.closing (.inl (hstopping ▸ Nat.succ_ne_zero stopping))
  refine ⟨h.enrolled.notifyAll, fun _ => hstopped, ?_, ?_⟩
  · rintro - ⟨ticket, -, hmem⟩
    exact List.not_mem_nil hmem
  · intro hrunning
    exact absurd (hstopped.symm.trans hrunning) Bool.noConfusion

theorem takeNow (h : traffic.Sound) : Sound { traffic with exchange := traffic.exchange.takeNow.2 } := by
  have htake : traffic.exchange.takeNow.2 =
      { traffic.exchange with mailbox := traffic.exchange.mailbox.take.2 } := by
    rw [Exchange.takeNow, Mailbox.takeNow_eq]
  have hlength := traffic.exchange.mailbox.length_pending_take_le
  rw [htake]
  refine h.of_supply h.enrolled (traffic.exchange.mailbox.take_keeps).1 rfl rfl id fun _ _ => ?_
  exact Nat.add_le_add_right hlength _

theorem start (h : traffic.Sound) (hwaiters : traffic.waiters = front ++ .starting :: back) :
    (traffic.moved front (Waiter.starting.step traffic.exchange) back).Sound := by
  have henrolled := h.enrolled_split hwaiters
  have hnotifier : traffic.exchange.notifier.enlist.2.2.singles = traffic.exchange.notifier.singles ∧
      traffic.exchange.notifier.enlist.2.2.waiting ⊆
        traffic.exchange.notifier.waiting ++ [traffic.exchange.notifier.issued] := by
    unfold Notifier.enlist
    split
    · exact ⟨rfl, List.subset_append_left _ _⟩
    · exact ⟨rfl, List.Subset.refl _⟩
  obtain ⟨hsingles, hwaiting⟩ := hnotifier
  have hstep : Waiter.starting.step traffic.exchange =
      (.enlisted traffic.exchange.notifier.enlist.1 traffic.exchange.notifier.enlist.2.1,
        { traffic.exchange with notifier := traffic.exchange.notifier.enlist.2.2 }) := rfl
  rw [hstep]
  refine h.change hwaiters henrolled.enlist rfl nofun ?_ ?_
  · -- the new ticket is not that of anybody who waits
    intro ticket hticket hmem
    have hheld : ticket ∈ Waiter.tickets traffic.waiters := List.mem_filterMap.2 ⟨_, hticket, rfl⟩
    refine (List.mem_append.1 (hwaiting hmem)).resolve_right fun hnew => ?_
    exact Nat.ne_of_lt (h.enrolled.issued ticket hheld) (List.mem_singleton.1 hnew)
  · intro _ _
    rw [hsingles]
    exact Nat.le_refl _

theorem arrive (h : traffic.Sound) :
    (traffic.moved traffic.waiters (Waiter.starting.step traffic.exchange) []).Sound := by
  have harrived : Sound { traffic with waiters := traffic.waiters ++ [.starting] } := by
    refine h.of_supply h.enrolled.arrived rfl rfl rfl ?_ ?_
    · rintro ⟨ticket, hticket, hmem⟩
      obtain hold | hnew := List.mem_append.1 hticket
      · exact ⟨ticket, hold, hmem⟩
      · cases List.mem_singleton.1 hnew
    · intro _ _
      simp only [supply, List.countP_append]
      omega
  exact harrived.start rfl

/-- Whoever leaves, or is cancelled, passes a wake on that it did not use. -/
theorem leave (h : traffic.Sound) (hwaiters : traffic.waiters = front ++ waiter :: back) {ticket : Nat}
    {notifier : Notifier} (hticket : waiter.ticket? = some ticket) (hway : waiter.onTheWay = false)
    (hgaveUp : traffic.exchange.notifier.GaveUp ticket notifier) (hnone : waiter'.ticket? = none) :
    (traffic.moved front (waiter', { traffic.exchange with notifier := notifier }) back).Sound := by
  have henrolled := h.enrolled_split hwaiters
  have hdropped := henrolled.drop hticket hnone
  refine h.change hwaiters ?_ rfl ?_ (fun _ _ hmem => hgaveUp.waiting_subset hmem) ?_
  · cases hgaveUp with
    | nothing hwoken => exact hdropped
    | unseen hwoken hnotified => exact hdropped.notified hnotified
  · rintro other rfl
    cases hnone
  · intro hwaiting _
    have hsingles := hgaveUp.singles_le henrolled.nodup hwaiting
    rw [hway, Bool.toNat_false]
    omega

theorem leaveWith (h : traffic.Sound) {ticket : Nat} {woken : Bool}
    (hwaiters : traffic.waiters = front ++ .enlisted ticket woken :: back)
    (hsome : traffic.exchange.mailbox.take.1 ≠ .nothingYet) :
    (traffic.moved front ((Waiter.enlisted ticket woken).step traffic.exchange) back).Sound := by
  have hleaving : ∃ frame, (Waiter.enlisted ticket woken).step traffic.exchange =
      (.leaving ticket frame,
        { traffic.exchange with mailbox := traffic.exchange.mailbox.take.2 }) := by
    rw [Waiter.step]
    cases htake : traffic.exchange.mailbox.take with
    | mk delivery mailbox =>
      cases delivery with
      | frame frame => exact ⟨some frame, rfl⟩
      | ended => exact ⟨none, rfl⟩
      | nothingYet => exact absurd (congrArg Prod.fst htake) hsome
  obtain ⟨frame, hstep⟩ := hleaving
  have henrolled := h.enrolled_split hwaiters
  have hkept : traffic.exchange.notifier.Enrolled (front ++ .leaving ticket frame :: back) := by
    refine henrolled.keep rfl ?_ ?_
    · intro other hrelies
      cases hrelies
    · intro other hsame
      cases hsame
  rw [hstep]
  refine h.change hwaiters hkept (traffic.exchange.mailbox.take_keeps).1 ?_ (fun _ _ hmem => hmem) ?_
  · intro other hsame
    cases hsame
  intro _ hrunning
  obtain ⟨hstopped, -⟩ | ⟨-, -, htake⟩ | ⟨-, -, hlength⟩ := traffic.exchange.mailbox.take_trichotomy
  · exact absurd (hstopped.symm.trans hrunning) Bool.noConfusion
  · exact absurd (congrArg Prod.fst htake) hsome
  · simp only [Waiter.onTheWay, Bool.toNat_true, Bool.toNat_false]
    omega

/-- Whoever finds nothing in the mailbox starts over or waits. Only here does somebody begin to wait,
and the queue is empty at that moment. -/
theorem stay (h : traffic.Sound) {ticket : Nat} {woken : Bool}
    (hwaiters : traffic.waiters = front ++ .enlisted ticket woken :: back)
    (hrunning : traffic.exchange.mailbox.stopped = false)
    (hpending : traffic.exchange.mailbox.pending = []) :
    (traffic.moved front (if woken then .starting else .waiting ticket, traffic.exchange)
      back).Sound := by
  have henrolled := h.enrolled_split hwaiters
  have hmem : .enlisted ticket woken ∈ front ++ .enlisted ticket woken :: back :=
    List.mem_append_right _ List.mem_cons_self
  cases woken with
  | true =>
    have hdropped : (traffic.exchange.notifier.forget ticket).Enrolled (front ++ .starting :: back) :=
      henrolled.drop rfl rfl
    rw [Notifier.forget_of_notMem (henrolled.unknown ticket hmem)] at hdropped
    exact h.change hwaiters hdropped rfl nofun (fun _ _ hmem => hmem) fun _ _ => Nat.le_refl _
  | false =>
    refine ⟨?_, h.closing, fun hall => ?_, fun _ _ => ?_⟩
    · refine henrolled.keep rfl ?_ nofun
      rintro _ ⟨⟩
      exact henrolled.known _ hmem ticket rfl
    · exact absurd ((h.closing (.inr hall)).symm.trans hrunning) Bool.noConfusion
    · have hempty : traffic.exchange.mailbox.pending.length = 0 := List.length_eq_zero_iff.2 hpending
      exact Nat.le_trans (Nat.le_of_eq hempty) (Nat.zero_le _)

theorem tryMailbox (h : traffic.Sound) {ticket : Nat} {woken : Bool}
    (hwaiters : traffic.waiters = front ++ .enlisted ticket woken :: back) :
    (traffic.moved front ((Waiter.enlisted ticket woken).step traffic.exchange) back).Sound := by
  by_cases hsome : traffic.exchange.mailbox.take.1 = .nothingYet
  · obtain ⟨-, htake⟩ | ⟨hrunning, hpending, htake⟩ | ⟨-, hnot, -⟩ :=
      traffic.exchange.mailbox.take_trichotomy
    · rw [htake] at hsome
      cases hsome
    · simp only [Waiter.step, htake]
      exact h.stay hwaiters hrunning hpending
    · exact absurd hsome hnot
  · exact h.leaveWith hwaiters hsome

/-- Whoever looks whether its ticket was woken starts over if so. -/
theorem look (h : traffic.Sound) {ticket : Nat}
    (hwaiters : traffic.waiters = front ++ .waiting ticket :: back) :
    (traffic.moved front ((Waiter.waiting ticket).step traffic.exchange) back).Sound := by
  have henrolled := h.enrolled_split hwaiters
  cases hwoken : traffic.exchange.notifier.isWoken ticket with
  | true =>
    have hwaiting : (traffic.exchange.notifier.forget ticket).waiting ⊆
        traffic.exchange.notifier.waiting := List.filter_subset_self _
    have hsingles : traffic.exchange.notifier.singles ≤
        (traffic.exchange.notifier.forget ticket).singles + 1 :=
      Notifier.singles_le_forget_succ henrolled.nodup
    simp only [Waiter.step, Notifier.observe, hwoken, if_true]
    refine h.change hwaiters (henrolled.drop rfl rfl) rfl ?_ (fun _ _ hmem => hwaiting hmem) ?_
    · intro other hsame
      cases hsame
    · intro _ _
      simp only [Waiter.onTheWay, Bool.toNat_true, Bool.toNat_false]
      omega
  | false =>
    have hstep : (Waiter.waiting ticket).step traffic.exchange = (.waiting ticket, traffic.exchange) := by
      simp only [Waiter.step, Notifier.observe, hwoken, Bool.false_eq_true, if_false]
    rw [hstep, moved_self hwaiters]
    exact h

theorem step (h : traffic.Sound) (hwaiters : traffic.waiters = front ++ waiter :: back) :
    (traffic.moved front (waiter.step traffic.exchange) back).Sound := by
  cases waiter with
  | starting => exact h.start hwaiters
  | enlisted ticket woken => exact h.tryMailbox hwaiters
  | waiting ticket => exact h.look hwaiters
  | leaving ticket frame =>
    exact h.leave hwaiters rfl rfl (traffic.exchange.notifier.gaveUp_giveUp ticket) rfl
  | finished frame =>
    rw [Waiter.step, moved_self hwaiters]
    exact h
  | cancelled =>
    rw [Waiter.step, moved_self hwaiters]
    exact h

/-- So every section of anybody keeps what is to be kept. -/
theorem next (h : traffic.Sound) (hnext : traffic.Next later) : later.Sound := by
  cases hnext with
  | accept hoffer haccepted => exact h.accept hoffer
  | @ignore frame mailbox hoffer =>
    have hsame := (traffic.exchange.mailbox.length_pending_offer_le frame).2
    rw [hoffer] at hsame
    cases hsame rfl
    exact h
  | notify howed hnotified => exact h.notify howed hnotified
  | stop => exact h.stop
  | announce hstopping => exact h.announce hstopping
  | takeNow => exact h.takeNow
  | arrive => exact h.arrive
  | step hwaiters => exact h.step hwaiters
  | leave hwaiters hgaveUp => exact h.leave hwaiters rfl rfl hgaveUp rfl
  | cancel hwaiters hgaveUp => exact h.leave hwaiters rfl rfl hgaveUp rfl

end Sound

theorem sound_of_reachable {sourceCount : UInt16} {traffic : Traffic}
    (h : traffic.Reachable sourceCount) : traffic.Sound := by
  induction h with
  | refl => exact sound_empty sourceCount
  | tail _ hnext ih => exact ih.next hnext

theorem parked_of_unwoken {traffic : Traffic} (h : traffic.Sound) {ticket : Nat}
    (hwaits : .waiting ticket ∈ traffic.waiters)
    (hunwoken : traffic.exchange.notifier.isWoken ticket = false) : traffic.Parked := by
  have hknown := h.enrolled.known _ hwaits ticket rfl
  refine ⟨ticket, hwaits, (Notifier.mem_known.1 hknown).resolve_right ?_⟩
  rw [hunwoken]
  exact Bool.false_ne_true

/-- If nobody has a wake, then there are none, and nobody is on the way. -/
theorem supply_eq_owed {traffic : Traffic} (h : traffic.Sound)
    (hnobody : ∀ other ∈ traffic.waiters, other.hasWake traffic.exchange.notifier = false) :
    traffic.supply = traffic.owed := by
  have hway : traffic.waiters.countP (·.onTheWay) = 0 := by
    rw [List.countP_eq_zero]
    intro other hother hway
    have hnone := hnobody other hother
    cases other <;> cases hway <;> cases hnone
  have hsingles : traffic.exchange.notifier.singles = 0 := by
    rw [Notifier.singles, List.countP_eq_zero]
    rintro ⟨ticket, wake⟩ hentry hsingle
    cases of_decide_eq_true hsingle
    -- the ticket has a holder, who would have this wake
    have hwoken : traffic.exchange.notifier.isWoken ticket = true :=
      Notifier.isWoken_iff.2 (List.mem_map_of_mem hentry)
    have hheld := h.enrolled.held ticket (Notifier.mem_known.2 (.inr hwoken))
    obtain ⟨other, hother, hticket⟩ := List.mem_filterMap.1 hheld
    have hnone := hnobody other hother
    cases other with
    | waiting theirs =>
      cases hticket
      exact absurd (hwoken.symm.trans hnone) Bool.noConfusion
    | leaving theirs frame =>
      cases hticket
      exact absurd ((List.contains_iff_mem.2 hentry).symm.trans hnone) Bool.noConfusion
    | enlisted theirs woken => cases hnone
    | starting => cases hticket
    | finished frame => cases hticket
    | cancelled => cases hticket
  rw [supply, hway, hsingles]
  rfl

/-- Whatever sections led there, and whichever tickets the notifications woke: nobody waits unwoken
after a stop has notified all, and nobody waits unwoken at a running mailbox that holds a frame, unless
a push is still to notify or somebody else has a wake. -/
theorem no_lost_wake (sourceCount : UInt16) (traffic : Traffic) (hreachable : traffic.Reachable sourceCount)
    (ticket : Nat) (hwaits : .waiting ticket ∈ traffic.waiters)
    (hunwoken : traffic.exchange.notifier.isWoken ticket = false) :
    ¬(traffic.exchange.mailbox.stopped = true ∧ traffic.announced = true) ∧
      ¬(traffic.exchange.mailbox.stopped = false ∧ traffic.exchange.mailbox.pending ≠ [] ∧
        traffic.owed = 0 ∧
        ∀ other ∈ traffic.waiters, other.hasWake traffic.exchange.notifier = false) := by
  have hsound := sound_of_reachable hreachable
  have hparked := parked_of_unwoken hsound hwaits hunwoken
  constructor
  · rintro ⟨-, hall⟩
    exact hsound.announced hall hparked
  · rintro ⟨hrunning, hpending, howed, hnobody⟩
    have hlength := hsound.supplied hrunning hparked
    rw [supply_eq_owed hsound hnobody, howed] at hlength
    exact hpending (List.length_eq_zero_iff.1 (Nat.le_zero.1 hlength))

/-- Two wait when a frame comes. The first was woken, and the second still waits. -/
theorem no_lost_wake_of_two :
    let frame : Frame := { sourceId := 0, frameId := 1, timestamp := 10, payload := [] }
    let come (traffic : Traffic) : Traffic :=
      traffic.moved traffic.waiters (Waiter.starting.poll traffic.exchange) []
    let both : Traffic := come (come { exchange := .empty 1 })
    let traffic : Traffic := { both with exchange := (both.exchange.push frame).2 }
    traffic.Reachable 1 ∧ traffic.waiters = [.waiting 0, .waiting 1] ∧
      traffic.exchange.mailbox.pending = [0] ∧ traffic.owed = 0 ∧
      traffic.exchange.notifier.isWoken 1 = false ∧
      ∃ other ∈ traffic.waiters, other.hasWake traffic.exchange.notifier = true := by
  intro frame come both traffic
  have hreachable : traffic.Reachable 1 :=
    .trans (.trans (arrive_sections _) (arrive_sections _)) (push_sections both frame)
  have hwaiters : traffic.waiters = [.waiting 0, .waiting 1] := by decide +kernel
  have hpending : traffic.exchange.mailbox.pending = [0] := by decide +kernel
  have hunwoken : traffic.exchange.notifier.isWoken 1 = false := by decide +kernel
  have hrunning : traffic.exchange.mailbox.stopped = false := by decide +kernel
  obtain ⟨-, hlost⟩ := no_lost_wake 1 traffic hreachable 1 (hwaiters ▸ by decide) hunwoken
  refine ⟨hreachable, hwaiters, hpending, rfl, hunwoken, ?_⟩
  by_contra hnobody
  refine hlost ⟨hrunning, hpending ▸ nofun, rfl, fun other hother => ?_⟩
  exact Bool.eq_false_iff.2 fun hwake => hnobody ⟨other, hother, hwake⟩

end Traffic

end FramedVideo
