import FramedVideo.Mailbox
import FramedVideo.Mailbox.Notifier

/-!
# Waiting for a frame of a mailbox

A mailbox and its notifier make an exchange. One who waits for a frame goes through sections, each
of which happens at once, while others may act in between: it takes a ticket, tries the mailbox,
and, if nothing is there, waits for its ticket to be woken and starts over. It takes its ticket
before it tries the mailbox, so a frame that comes in between is not missed.

## Main definitions

- `Exchange` — a mailbox and its notifier
- `Exchange.push`, `Exchange.stop` — changes, and the notifications that follow them
- `Waiter` — one who waits for a frame
- `Waiter.step` — its next section
- `Waiter.poll` — its sections up to the point where it has to wait
- `Waiter.cancel` — its end before a frame came
-/

namespace FramedVideo

/-- A mailbox and its notifier. -/
structure Exchange where
  mailbox : Mailbox
  notifier : Notifier := {}
  deriving DecidableEq, Repr

namespace Exchange

/-- The exchange of the sources below `sourceCount`. -/
def empty (sourceCount : UInt16) : Exchange := { mailbox := .empty sourceCount }

/-- Offers a frame, and notifies one who waits if it was accepted. -/
def push (frame : Frame) (exchange : Exchange) : Mailbox.Outcome × Exchange :=
  match exchange.mailbox.offer frame with
  | (.ignored, mailbox) => (.ignored, { exchange with mailbox := mailbox })
  | (outcome, mailbox) => (outcome, ⟨mailbox, exchange.notifier.notifyOne⟩)

/-- Takes the frame that is there now. -/
def takeNow (exchange : Exchange) : Option Frame × Exchange :=
  match exchange.mailbox.takeNow with
  | (frame, mailbox) => (frame, { exchange with mailbox := mailbox })

/-- Stops the mailbox, and notifies all who wait. -/
def stop (exchange : Exchange) : Exchange :=
  ⟨exchange.mailbox.stop, exchange.notifier.notifyAll⟩

end Exchange

/-- One who waits for a frame, by the section that comes next. -/
inductive Waiter where
  /-- To take a ticket. -/
  | starting
  /-- To try the mailbox. The ticket may have been woken as it was taken. -/
  | enlisted (ticket : Nat) (woken : Bool)
  /-- To look whether the ticket was woken. -/
  | waiting (ticket : Nat)
  /-- To give up the ticket and leave with what the mailbox gave. -/
  | leaving (ticket : Nat) (frame : Option Frame)
  /-- Nothing; it left with a frame, or with none when the mailbox was stopped. -/
  | finished (frame : Option Frame)
  /-- Nothing; it was cancelled. -/
  | cancelled
  deriving DecidableEq, Repr

namespace Waiter

/-- The next section. -/
def step (waiter : Waiter) (exchange : Exchange) : Waiter × Exchange :=
  match waiter with
  | starting =>
    match exchange.notifier.enlist with
    | (ticket, woken, notifier) => (enlisted ticket woken, { exchange with notifier := notifier })
  | enlisted ticket woken =>
    match exchange.mailbox.take with
    | (.frame frame, mailbox) => (leaving ticket (some frame), { exchange with mailbox := mailbox })
    | (.ended, mailbox) => (leaving ticket none, { exchange with mailbox := mailbox })
    | (.nothingYet, mailbox) =>
      (if woken then starting else waiting ticket, { exchange with mailbox := mailbox })
  | waiting ticket =>
    match exchange.notifier.observe ticket with
    | (true, notifier) => (starting, { exchange with notifier := notifier })
    | (false, notifier) => (waiting ticket, { exchange with notifier := notifier })
  | leaving ticket frame =>
    (finished frame, { exchange with notifier := exchange.notifier.giveUp ticket })
  | finished frame => (finished frame, exchange)
  | cancelled => (cancelled, exchange)

/-- The sections that are left before the waiter leaves or has to wait, if nobody else acts. -/
def pendingSections (waiter : Waiter) (notifier : Notifier) : Nat :=
  let bound := 3 * (notifier.permit.toNat + notifier.woken.length)
  match waiter with
  | starting => bound + 3
  | enlisted _ true => bound + 4
  | enlisted _ false => bound + 2
  | waiting _ => bound + 1
  | _ => 0

theorem length_woken_observe {notifier left : Notifier} {ticket : Nat}
    (h : notifier.observe ticket = (true, left)) :
    left.permit = notifier.permit ∧ left.woken.length < notifier.woken.length := by
  unfold Notifier.observe at h
  split at h
  · rename_i hwoken
    simp only [Prod.mk.injEq, true_and] at h
    subst h
    refine ⟨rfl, ?_⟩
    obtain ⟨entry, hmem, heq⟩ := List.any_eq_true.1 hwoken
    refine List.length_filter_lt_length_iff_exists.2 ⟨entry, hmem, ?_⟩
    simpa using heq
  · simp at h

/-- The sections of a waiter up to the point where it has to wait for others. -/
def poll (waiter : Waiter) (exchange : Exchange) : Waiter × Exchange :=
  match waiter with
  | starting =>
    match _h : exchange.notifier.enlist with
    | (ticket, woken, notifier) =>
      (enlisted ticket woken).poll { exchange with notifier := notifier }
  | enlisted ticket woken =>
    match exchange.mailbox.take with
    | (.frame frame, mailbox) =>
      (finished (some frame), ⟨mailbox, exchange.notifier.giveUp ticket⟩)
    | (.ended, mailbox) => (finished none, ⟨mailbox, exchange.notifier.giveUp ticket⟩)
    | (.nothingYet, mailbox) =>
      if woken then
        starting.poll { exchange with mailbox := mailbox }
      else
        (waiting ticket).poll { exchange with mailbox := mailbox }
  | waiting ticket =>
    match _h : exchange.notifier.observe ticket with
    | (true, notifier) => starting.poll { exchange with notifier := notifier }
    | (false, notifier) => (waiting ticket, { exchange with notifier := notifier })
  | other => other.step exchange
termination_by waiter.pendingSections exchange.notifier
decreasing_by
  · unfold Notifier.enlist at _h
    split at _h <;> rename_i hpermit <;>
      · simp only [Prod.mk.injEq] at _h
        obtain ⟨rfl, rfl, rfl⟩ := _h
        simp only [pendingSections, hpermit, Bool.toNat_true, Bool.toNat_false]
        omega
  · rename_i hwoken
    simp only [pendingSections, hwoken]
    omega
  · rename_i hwoken
    simp only [pendingSections, hwoken]
    omega
  · obtain ⟨hpermit, hlt⟩ := length_woken_observe _h
    simp only [pendingSections, hpermit]
    omega

/-- The waiter gives up before a frame came. A waiter that is done stays as it is. -/
def cancel (waiter : Waiter) (exchange : Exchange) : Waiter × Exchange :=
  match waiter with
  | starting => (cancelled, exchange)
  | enlisted ticket _ =>
    (cancelled, { exchange with notifier := exchange.notifier.giveUp ticket })
  | waiting ticket => (cancelled, { exchange with notifier := exchange.notifier.giveUp ticket })
  | leaving ticket _ => (cancelled, { exchange with notifier := exchange.notifier.giveUp ticket })
  | other => (other, exchange)

/-- The waiter waits, and was woken since it last looked. -/
def isWoken (waiter : Waiter) (exchange : Exchange) : Bool :=
  match waiter with
  | waiting ticket => exchange.notifier.isWoken ticket
  | _ => false

end Waiter

end FramedVideo
