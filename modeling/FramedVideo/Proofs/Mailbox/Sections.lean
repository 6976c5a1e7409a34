import FramedVideo.Mailbox.Waiter
import Mathlib.Logic.Relation

/-!
# Those who share an exchange, section by section

Sources push, others stop the mailbox or try it, and any number of waiters wait for frames. Each call
consists of sections that happen at once, and the sections of different calls follow each other in any
order. A push gives its frame to the mailbox in one section and notifies in another, and so does a stop.

Which ticket a single notification wakes is left open here. The notifier wakes the one that has waited
longest, so what it does is among the possibilities.

## Main definitions

- `Notifier.Notified`, `Notifier.GaveUp` — what a single notification can do, and a ticket given up
- `Traffic` — an exchange, its waiters, and the calls that are between two sections
- `Traffic.moved` — one of the waiters has gone on
- `Traffic.Next` — what one section of somebody does
- `Traffic.Reachable` — any number of sections, from an empty mailbox on

Main statements: `Traffic.push_sections`, `Traffic.stop_sections`, `Traffic.arrive_sections`,
`Traffic.poll_sections`, `Traffic.cancel_section`.
-/

namespace FramedVideo

namespace Notifier

variable {notifier : Notifier} {ticket : Nat}

/-- A single notification wakes one of the tickets that wait, or is kept if there is none. -/
inductive Notified (notifier : Notifier) : Notifier → Prop where
  | kept (hnobody : notifier.waiting = []) : notifier.Notified { notifier with permit := true }
  | woke (front : List Nat) (ticket : Nat) (back : List Nat)
    (hwaiting : notifier.waiting = front ++ ticket :: back) :
    notifier.Notified
      { notifier with waiting := front ++ back, woken := notifier.woken ++ [(ticket, .single)] }

/-- A ticket is given up, and a single notification that its holder did not see is passed on. -/
inductive GaveUp (notifier : Notifier) (ticket : Nat) : Notifier → Prop where
  | unseen {left} (hwoken : (ticket, .single) ∈ notifier.woken)
    (hnotified : (notifier.forget ticket).Notified left) : notifier.GaveUp ticket left
  | nothing (hwoken : (ticket, .single) ∉ notifier.woken) :
    notifier.GaveUp ticket (notifier.forget ticket)

theorem notified_notifyOne (notifier : Notifier) : notifier.Notified notifier.notifyOne := by
  unfold notifyOne
  split <;> rename_i hwaiting
  · exact .kept hwaiting
  · rename_i ticket waiting
    exact .woke [] ticket waiting hwaiting

theorem gaveUp_giveUp (notifier : Notifier) (ticket : Nat) :
    notifier.GaveUp ticket (notifier.giveUp ticket) := by
  unfold giveUp
  split <;> rename_i hwoken
  · exact .unseen (List.contains_iff_mem.1 hwoken) (notified_notifyOne _)
  · exact .nothing fun hmem => hwoken (List.contains_iff_mem.2 hmem)

end Notifier

/-- An exchange, its waiters, and the calls that are between two sections. -/
structure Traffic where
  exchange : Exchange
  /-- Pushes that the mailbox has accepted, and whose notifications are to come. -/
  owed : Nat := 0
  /-- Stops that have stopped the mailbox, and whose notifications are to come. -/
  stopping : Nat := 0
  /-- A stop has notified all. -/
  announced : Bool := false
  /-- Those who came, with what each will do next. All of them have taken a ticket, so one that is to
  start was woken, and starts over. -/
  waiters : List Waiter := []
  deriving DecidableEq

namespace Traffic

/-- One waiter has gone on, and has left the exchange in some state. -/
def moved (traffic : Traffic) (front : List Waiter) (done : Waiter × Exchange) (back : List Waiter) :
    Traffic :=
  { traffic with exchange := done.2, waiters := front ++ done.1 :: back }

theorem moved_self {traffic : Traffic} {front back : List Waiter} {waiter : Waiter}
    (hwaiters : traffic.waiters = front ++ waiter :: back) :
    traffic.moved front (waiter, traffic.exchange) back = traffic := by
  rw [moved, ← hwaiters]

/-- What one section of somebody does. -/
inductive Next (traffic : Traffic) : Traffic → Prop where
  /-- A push whose frame is accepted. -/
  | accept {frame outcome mailbox} (hoffer : traffic.exchange.mailbox.offer frame = (outcome, mailbox))
    (haccepted : outcome ≠ .ignored) :
    traffic.Next { traffic with
      exchange := { traffic.exchange with mailbox := mailbox }
      owed := traffic.owed + 1 }
  /-- A push whose frame is not; it notifies nobody. -/
  | ignore {frame mailbox} (hoffer : traffic.exchange.mailbox.offer frame = (.ignored, mailbox)) :
    traffic.Next { traffic with exchange := { traffic.exchange with mailbox := mailbox } }
  | notify {owed notifier} (howed : traffic.owed = owed + 1)
    (hnotified : traffic.exchange.notifier.Notified notifier) :
    traffic.Next { traffic with
      exchange := { traffic.exchange with notifier := notifier }
      owed := owed }
  | stop :
    traffic.Next { traffic with
      exchange := { traffic.exchange with mailbox := traffic.exchange.mailbox.stop }
      stopping := traffic.stopping + 1 }
  | announce {stopping} (hstopping : traffic.stopping = stopping + 1) :
    traffic.Next { traffic with
      exchange := { traffic.exchange with notifier := traffic.exchange.notifier.notifyAll }
      stopping := stopping
      announced := true }
  | takeNow : traffic.Next { traffic with exchange := traffic.exchange.takeNow.2 }
  | arrive : traffic.Next (traffic.moved traffic.waiters (Waiter.starting.step traffic.exchange) [])
  | step {front waiter back} (hwaiters : traffic.waiters = front ++ waiter :: back) :
    traffic.Next (traffic.moved front (waiter.step traffic.exchange) back)
  | leave {front ticket frame back notifier}
    (hwaiters : traffic.waiters = front ++ .leaving ticket frame :: back)
    (hgaveUp : traffic.exchange.notifier.GaveUp ticket notifier) :
    traffic.Next (traffic.moved front (.finished frame, { traffic.exchange with notifier := notifier }) back)
  /-- A waiter is cancelled while it waits. -/
  | cancel {front ticket back notifier}
    (hwaiters : traffic.waiters = front ++ .waiting ticket :: back)
    (hgaveUp : traffic.exchange.notifier.GaveUp ticket notifier) :
    traffic.Next (traffic.moved front (.cancelled, { traffic.exchange with notifier := notifier }) back)

/-- Any number of sections. -/
abbrev Leads : Traffic → Traffic → Prop := Relation.ReflTransGen Next

/-- The sections lead there from an empty mailbox. -/
def Reachable (sourceCount : UInt16) (traffic : Traffic) : Prop :=
  Leads { exchange := .empty sourceCount } traffic

-- ════════════════════════════════════════════════════════════════════════
-- Whole calls
-- ════════════════════════════════════════════════════════════════════════

theorem push_sections (traffic : Traffic) (frame : Frame) :
    traffic.Leads { traffic with exchange := (traffic.exchange.push frame).2 } := by
  cases hoffer : traffic.exchange.mailbox.offer frame with
  | mk outcome mailbox =>
    have hnotified := traffic.exchange.notifier.notified_notifyOne
    cases outcome with
    | ignored =>
      rw [Exchange.push, hoffer]
      exact .single (.ignore hoffer)
    | queued =>
      rw [Exchange.push, hoffer]
      exact .tail (.single (.accept hoffer nofun)) (.notify rfl hnotified)
    | replaced =>
      rw [Exchange.push, hoffer]
      exact .tail (.single (.accept hoffer nofun)) (.notify rfl hnotified)

theorem stop_sections (traffic : Traffic) :
    traffic.Leads { traffic with exchange := traffic.exchange.stop, announced := true } :=
  .tail (.single .stop) (.announce rfl)

section

variable {front back : List Waiter} {waiter waiter' : Waiter} {exchange exchange' : Exchange}

theorem leads_of_step (traffic : Traffic) (hstep : waiter.step exchange = (waiter', exchange')) :
    (traffic.moved front (waiter, exchange) back).Leads
      (traffic.moved front (waiter', exchange') back) := by
  have hnext : (traffic.moved front (waiter, exchange) back).Next _ := .step rfl
  rw [moved, hstep] at hnext
  exact .single hnext

/-- A waiter that is polled goes through its sections without anybody else's in between. -/
theorem poll_sections (traffic : Traffic) (front back : List Waiter) (waiter : Waiter)
    (exchange : Exchange) :
    (traffic.moved front (waiter, exchange) back).Leads
      (traffic.moved front (waiter.poll exchange) back) := by
  fun_induction Waiter.poll waiter exchange with
  | case1 exchange ticket woken notifier henlist ih =>
    refine .trans (leads_of_step traffic ?_) ih
    rw [Waiter.step, henlist]
  | case2 exchange ticket woken frame mailbox htake =>
    have htaken : (Waiter.enlisted ticket woken).step exchange =
        (.leaving ticket (some frame), { exchange with mailbox := mailbox }) := by
      rw [Waiter.step, htake]
    exact .trans (leads_of_step traffic htaken) (leads_of_step traffic rfl)
  | case3 exchange ticket woken mailbox htake =>
    have htaken : (Waiter.enlisted ticket woken).step exchange =
        (.leaving ticket none, { exchange with mailbox := mailbox }) := by
      rw [Waiter.step, htake]
    exact .trans (leads_of_step traffic htaken) (leads_of_step traffic rfl)
  | case4 exchange ticket mailbox htake ih =>
    refine .trans (leads_of_step traffic ?_) ih
    rw [Waiter.step, htake]
    rfl
  | case5 exchange ticket woken mailbox htake hwoken ih =>
    refine .trans (leads_of_step traffic ?_) ih
    rw [Waiter.step, htake]
    exact if_neg hwoken ▸ rfl
  | case6 exchange ticket notifier hobserve ih =>
    refine .trans (leads_of_step traffic ?_) ih
    rw [Waiter.step, hobserve]
  | case7 exchange ticket notifier hobserve =>
    refine leads_of_step traffic ?_
    rw [Waiter.step, hobserve]
  | case8 exchange other => exact leads_of_step traffic rfl

end

/-- A new waiter takes its ticket, and is polled from there on. -/
theorem arrive_sections (traffic : Traffic) :
    traffic.Leads (traffic.moved traffic.waiters (Waiter.starting.poll traffic.exchange) []) := by
  have hpoll := traffic.poll_sections traffic.waiters [] (Waiter.starting.step traffic.exchange).1
    (Waiter.starting.step traffic.exchange).2
  have hsame : Waiter.starting.poll traffic.exchange =
      (Waiter.starting.step traffic.exchange).1.poll (Waiter.starting.step traffic.exchange).2 := by
    rw [Waiter.poll]
    rfl
  rw [hsame]
  exact .head .arrive hpoll

theorem cancel_section {traffic : Traffic} {front back : List Waiter} {ticket : Nat}
    (hwaiters : traffic.waiters = front ++ .waiting ticket :: back) :
    traffic.Next (traffic.moved front ((Waiter.waiting ticket).cancel traffic.exchange) back) :=
  .cancel hwaiters (traffic.exchange.notifier.gaveUp_giveUp ticket)

end Traffic

end FramedVideo
