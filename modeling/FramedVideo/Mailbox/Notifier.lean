/-!
# Waking those who wait

A notifier holds the tickets of those who wait for something to change. A single notification wakes
the ticket that has waited longest; when none waits it is kept, as a permit, for the next ticket,
and only one is kept. A notification of all wakes every ticket that waits and is not kept.

A ticket that was woken singly and is given up before its holder looked passes the notification on.

## Main definitions

- `Notifier` — the tickets that wait, those that were woken, and the permit
- `Notifier.enlist` — a new ticket
- `Notifier.notifyOne`, `Notifier.notifyAll` — waking
- `Notifier.observe`, `Notifier.giveUp` — what a holder does with a ticket
-/

namespace FramedVideo

/-- How a ticket was woken. -/
inductive Notifier.Wake where
  /-- Alone. -/
  | single
  /-- With all that waited. -/
  | broadcast
  deriving DecidableEq, Repr

/-- The tickets of those who wait for something to change. -/
structure Notifier where
  /-- A notification that found nobody waiting. -/
  permit : Bool := false
  /-- The tickets that wait, the longest wait first. -/
  waiting : List Nat := []
  /-- The tickets that were woken and whose holders have not looked yet. -/
  woken : List (Nat × Notifier.Wake) := []
  /-- The number of the next ticket. -/
  issued : Nat := 0
  deriving DecidableEq, Repr

namespace Notifier

/-- A new ticket. It takes the permit if there is one, and need not wait then. -/
def enlist (notifier : Notifier) : Nat × Bool × Notifier :=
  let ticket := notifier.issued
  if notifier.permit then
    (ticket, true, { notifier with permit := false, issued := ticket + 1 })
  else
    (ticket, false,
      { notifier with waiting := notifier.waiting ++ [ticket], issued := ticket + 1 })

/-- Wakes the ticket that has waited longest, or keeps a permit. -/
def notifyOne (notifier : Notifier) : Notifier :=
  match notifier.waiting with
  | [] => { notifier with permit := true }
  | ticket :: waiting =>
    { notifier with waiting := waiting, woken := notifier.woken ++ [(ticket, .single)] }

/-- Wakes every ticket that waits. -/
def notifyAll (notifier : Notifier) : Notifier :=
  { notifier with
    waiting := []
    woken := notifier.woken ++ notifier.waiting.map fun ticket => (ticket, .broadcast) }

/-- The ticket was woken and its holder has not looked yet. -/
def isWoken (notifier : Notifier) (ticket : Nat) : Bool :=
  notifier.woken.any fun entry => entry.1 = ticket

/-- The notifier without a ticket. -/
def forget (notifier : Notifier) (ticket : Nat) : Notifier :=
  { notifier with
    waiting := notifier.waiting.filter (· ≠ ticket)
    woken := notifier.woken.filter fun entry => entry.1 ≠ ticket }

/-- The holder looks whether its ticket was woken, and has used it up if so. -/
def observe (notifier : Notifier) (ticket : Nat) : Bool × Notifier :=
  if notifier.isWoken ticket then (true, notifier.forget ticket) else (false, notifier)

/-- The holder gives up its ticket. A single notification that it did not see goes to the next. -/
def giveUp (notifier : Notifier) (ticket : Nat) : Notifier :=
  let left := notifier.forget ticket
  if notifier.woken.contains (ticket, .single) then left.notifyOne else left

end Notifier

end FramedVideo
