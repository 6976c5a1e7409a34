import FramedVideo.Proofs.Mailbox.Sections
import Mathlib.Data.List.Count
import Mathlib.Data.List.Nodup
import Mathlib.Data.List.Perm.Basic

/-!
# Tickets and their holders

Each ticket that a notifier knows is held by one waiter, and a ticket that a waiter relies on is known.
That is so after every section, whichever tickets the single notifications wake.

## Main definitions

- `Notifier.known` — the tickets that wait or were woken
- `Notifier.singles` — the single notifications that are still to be seen
- `Notifier.Enrolled` — the tickets of a notifier are those of the waiters

Main statements: `Enrolled.notified`, `Enrolled.keep`, `Enrolled.drop`, `Enrolled.enlist`.
-/

namespace FramedVideo

-- ════════════════════════════════════════════════════════════════════════
-- Tickets of a notifier
-- ════════════════════════════════════════════════════════════════════════

namespace Notifier

variable {notifier left : Notifier} {ticket : Nat}

/-- The tickets that wait or were woken. -/
def known (notifier : Notifier) : List Nat := notifier.waiting ++ notifier.woken.map (·.1)

theorem isWoken_iff : notifier.isWoken ticket = true ↔ ticket ∈ notifier.woken.map (·.1) := by
  simp [isWoken]

theorem mem_known : ticket ∈ notifier.known ↔
    ticket ∈ notifier.waiting ∨ notifier.isWoken ticket = true := by
  rw [known, List.mem_append, isWoken_iff]

theorem Notified.known_perm (h : notifier.Notified left) : left.known.Perm notifier.known := by
  cases h with
  | kept hnobody => exact .refl _
  | woke front ticket back hwaiting =>
    simp only [known, hwaiting, List.map_append, List.map_cons, List.map_nil]
    rw [← List.append_assoc]
    refine List.perm_append_comm.trans ?_
    rw [List.singleton_append, List.append_assoc, List.append_assoc, List.cons_append]
    exact List.perm_middle.symm

theorem known_perm_notifyAll (notifier : Notifier) : notifier.notifyAll.known.Perm notifier.known := by
  simp only [known, notifyAll, List.nil_append, List.map_append, List.map_map]
  exact List.perm_append_comm.trans (.of_eq (by simp [Function.comp_def]))

theorem known_forget (notifier : Notifier) (ticket : Nat) :
    (notifier.forget ticket).known = notifier.known.filter (· ≠ ticket) := by
  simp only [known, forget, List.filter_append, List.filter_map]
  rfl

theorem forget_of_notMem (h : ticket ∉ notifier.known) : notifier.forget ticket = notifier := by
  rw [known, List.mem_append, not_or] at h
  obtain ⟨hwaiting, hwoken⟩ := h
  have hwaiting' : notifier.waiting.filter (· ≠ ticket) = notifier.waiting := by
    rw [List.filter_eq_self]
    intro other hother
    exact decide_eq_true fun hsame => hwaiting (hsame ▸ hother)
  have hwoken' : notifier.woken.filter (fun entry => entry.1 ≠ ticket) = notifier.woken := by
    rw [List.filter_eq_self]
    intro entry hentry
    exact decide_eq_true fun hsame => hwoken (hsame ▸ List.mem_map_of_mem hentry)
  rw [forget, hwaiting', hwoken']

/-- The single notifications whose holders have not looked. -/
def singles (notifier : Notifier) : Nat := notifier.woken.countP (·.2 = .single)

theorem Notified.singles (h : notifier.Notified left) (hwaiting : left.waiting ≠ []) :
    left.singles = notifier.singles + 1 := by
  cases h with
  | kept hnobody => exact absurd hnobody hwaiting
  | woke front ticket back => simp [Notifier.singles]

theorem singles_le_forget_of_notMem (h : (ticket, .single) ∉ notifier.woken) :
    notifier.singles ≤ (notifier.forget ticket).singles := by
  simp only [singles, forget, List.countP_filter]
  refine List.countP_mono_left fun entry hentry hsingle => ?_
  have hne : entry.1 ≠ ticket := by
    rintro rfl
    exact h (of_decide_eq_true hsingle ▸ hentry)
  simp [of_decide_eq_true hsingle, hne]

/-- A ticket has at most one wake to lose. -/
theorem singles_le_forget_succ (hnodup : notifier.known.Nodup) :
    notifier.singles ≤ (notifier.forget ticket).singles + 1 := by
  have hwoken : (notifier.woken.map (·.1)).Nodup := (List.nodup_append.1 hnodup).2.1
  have hone : (notifier.woken.filter fun entry => entry.1 = ticket).length ≤ 1 := by
    rw [← List.countP_eq_length_filter]
    have hcount := List.nodup_iff_count_le_one.1 hwoken ticket
    rwa [List.count, List.countP_map] at hcount
  have hle := List.countP_le_length (p := fun entry : Nat × Wake => decide (entry.2 = .single))
    (l := notifier.woken.filter fun entry => entry.1 = ticket)
  rw [singles, List.countP_eq_countP_filter_add notifier.woken _ fun entry => entry.1 ≠ ticket]
  simp only [singles, forget, ne_eq, decide_not, Bool.not_not]
  omega

theorem Notified.waiting_subset (h : notifier.Notified left) : left.waiting ⊆ notifier.waiting := by
  cases h with
  | kept hnobody => exact List.Subset.refl _
  | woke front ticket back hwaiting =>
    rw [hwaiting]
    intro other hother
    simp only [List.mem_append, List.mem_cons] at hother ⊢
    exact hother.imp_right .inr

theorem GaveUp.waiting_subset (h : notifier.GaveUp ticket left) : left.waiting ⊆ notifier.waiting := by
  have hforget : (notifier.forget ticket).waiting ⊆ notifier.waiting := List.filter_subset_self _
  cases h with
  | nothing hwoken => exact hforget
  | unseen hwoken hnotified => exact List.Subset.trans hnotified.waiting_subset hforget

/-- A ticket that is given up takes no wake with it while others wait. -/
theorem GaveUp.singles_le (h : notifier.GaveUp ticket left) (hnodup : notifier.known.Nodup)
    (hwaiting : left.waiting ≠ []) : notifier.singles ≤ left.singles := by
  cases h with
  | nothing hwoken => exact singles_le_forget_of_notMem hwoken
  | unseen hwoken hnotified =>
    rw [hnotified.singles hwaiting]
    exact singles_le_forget_succ hnodup

end Notifier

-- ════════════════════════════════════════════════════════════════════════
-- Tickets of the waiters
-- ════════════════════════════════════════════════════════════════════════

namespace Waiter

/-- The ticket that a waiter holds. -/
def ticket? : Waiter → Option Nat
  | enlisted ticket _ => some ticket
  | waiting ticket => some ticket
  | leaving ticket _ => some ticket
  | starting | finished _ | cancelled => none

/-- The ticket that has to be woken for a waiter to go on, unless it finds a frame before. -/
def reliesOn? : Waiter → Option Nat
  | enlisted ticket false => some ticket
  | waiting ticket => some ticket
  | _ => none

theorem ticket?_of_reliesOn? {waiter : Waiter} {ticket : Nat}
    (h : waiter.reliesOn? = some ticket) : waiter.ticket? = some ticket := by
  unfold reliesOn? at h
  split at h
  · exact h
  · exact h
  · cases h

/-- The tickets that waiters hold, in the order of the waiters. -/
def tickets (waiters : List Waiter) : List Nat := waiters.filterMap ticket?

end Waiter

open Waiter (tickets)

/-- The tickets that a notifier knows are held by waiters, and those that waiters rely on are known. -/
structure Notifier.Enrolled (notifier : Notifier) (waiters : List Waiter) : Prop where
  nodup : notifier.known.Nodup
  permit : notifier.permit = true → notifier.waiting = []
  held : ∀ ticket ∈ notifier.known, ticket ∈ tickets waiters
  distinct : (tickets waiters).Nodup
  issued : ∀ ticket ∈ tickets waiters, ticket < notifier.issued
  known : ∀ waiter ∈ waiters, ∀ ticket, waiter.reliesOn? = some ticket → ticket ∈ notifier.known
  unknown : ∀ ticket, .enlisted ticket true ∈ waiters → ticket ∉ notifier.known

namespace Notifier.Enrolled

variable {notifier left : Notifier} {front back waiters : List Waiter} {waiter waiter' : Waiter}
  {ticket : Nat}

theorem of_perm (h : notifier.Enrolled waiters) (hknown : left.known.Perm notifier.known)
    (hissued : left.issued = notifier.issued) (hpermit : left.permit = true → left.waiting = []) :
    left.Enrolled waiters where
  nodup := hknown.nodup_iff.2 h.nodup
  permit := hpermit
  held ticket hmem := h.held ticket (hknown.mem_iff.1 hmem)
  distinct := h.distinct
  issued ticket hmem := hissued ▸ h.issued ticket hmem
  known waiter hmem ticket hrelies := hknown.mem_iff.2 (h.known waiter hmem ticket hrelies)
  unknown ticket hmem hknows := h.unknown ticket hmem (hknown.mem_iff.1 hknows)

theorem notified (h : notifier.Enrolled waiters) (hnotified : notifier.Notified left) :
    left.Enrolled waiters := by
  refine h.of_perm hnotified.known_perm ?_ ?_
  · cases hnotified <;> rfl
  · cases hnotified with
    | kept hnobody => exact fun _ => hnobody
    | woke front ticket back hwaiting =>
      -- a permit is kept only while nobody waits
      intro hpermit
      rw [h.permit hpermit] at hwaiting
      exact absurd hwaiting.symm (List.append_ne_nil_of_right_ne_nil _ (List.cons_ne_nil _ _))

theorem notifyAll (h : notifier.Enrolled waiters) : notifier.notifyAll.Enrolled waiters :=
  h.of_perm notifier.known_perm_notifyAll rfl fun _ => rfl

theorem tickets_split (front back : List Waiter) (waiter : Waiter) :
    tickets (front ++ waiter :: back) = tickets front ++ waiter.ticket?.toList ++ tickets back := by
  cases hticket : waiter.ticket? <;> simp [tickets, hticket]

theorem eq_or_mem_of_split {other : Waiter} (h : other ∈ front ++ waiter' :: back) :
    other = waiter' ∨ ∀ waiter, other ∈ front ++ waiter :: back := by
  rw [List.mem_append, List.mem_cons] at h
  obtain hfront | rfl | hback := h
  · exact .inr fun waiter => List.mem_append_left _ hfront
  · exact .inl rfl
  · exact .inr fun waiter => List.mem_append_right _ (List.mem_cons_of_mem _ hback)

/-- A waiter may go on with the ticket that it has. -/
theorem keep (h : notifier.Enrolled (front ++ waiter :: back))
    (hticket : waiter'.ticket? = waiter.ticket?)
    (hrelies : ∀ ticket, waiter'.reliesOn? = some ticket → ticket ∈ notifier.known)
    (hprompt : ∀ ticket, waiter' ≠ .enlisted ticket true) :
    notifier.Enrolled (front ++ waiter' :: back) := by
  have htickets : tickets (front ++ waiter' :: back) = tickets (front ++ waiter :: back) := by
    rw [tickets_split, tickets_split, hticket]
  refine ⟨h.nodup, h.permit, htickets ▸ h.held, htickets ▸ h.distinct, htickets ▸ h.issued, ?_, ?_⟩
  · intro other hother ticket hneeds
    obtain rfl | hold := eq_or_mem_of_split hother
    · exact hrelies ticket hneeds
    · exact h.known other (hold waiter) ticket hneeds
  · intro ticket hother
    obtain hnew | hold := eq_or_mem_of_split hother
    · exact absurd hnew.symm (hprompt ticket)
    · exact h.unknown ticket (hold waiter)

/-- A waiter may go on without its ticket, if the notifier forgets it. -/
theorem drop (h : notifier.Enrolled (front ++ waiter :: back)) (hticket : waiter.ticket? = some ticket)
    (hnone : waiter'.ticket? = none) :
    (notifier.forget ticket).Enrolled (front ++ waiter' :: back) := by
  have hbefore : tickets (front ++ waiter :: back) = tickets front ++ ticket :: tickets back := by
    rw [tickets_split, hticket, Option.toList_some, List.append_assoc, List.singleton_append]
  have hafter : tickets (front ++ waiter' :: back) = tickets front ++ tickets back := by
    rw [tickets_split, hnone, Option.toList_none, List.append_nil]
  have hmem (other : Nat) : other ∈ tickets (front ++ waiter :: back) ↔
      other = ticket ∨ other ∈ tickets (front ++ waiter' :: back) := by
    rw [hbefore, hafter]
    simp only [List.mem_append, List.mem_cons]
    exact or_left_comm
  have hdistinct := h.distinct
  rw [hbefore, List.nodup_middle, List.nodup_cons, ← hafter] at hdistinct
  have hmem_known (other : Nat) :
      other ∈ (notifier.forget ticket).known ↔ other ∈ notifier.known ∧ other ≠ ticket := by
    simp [known_forget]
  refine ⟨?_, ?_, ?_, hdistinct.2, ?_, ?_, ?_⟩
  · rw [known_forget]
    exact h.nodup.filter _
  · intro hpermit
    rw [forget, h.permit hpermit]
    rfl
  · intro other hother
    obtain ⟨hknown, hne⟩ := (hmem_known other).1 hother
    exact ((hmem other).1 (h.held other hknown)).resolve_left hne
  · exact fun other hother => h.issued other ((hmem other).2 (.inr hother))
  · intro other hother theirs hneeds
    have hticket' := Waiter.ticket?_of_reliesOn? hneeds
    obtain rfl | hold := eq_or_mem_of_split hother
    · rw [hnone] at hticket'
      cases hticket'
    · refine (hmem_known theirs).2 ⟨h.known other (hold waiter) theirs hneeds, ?_⟩
      rintro rfl
      exact hdistinct.1 (List.mem_filterMap.2 ⟨other, hother, hticket'⟩)
  · intro theirs hother hknown
    obtain rfl | hold := eq_or_mem_of_split hother
    · cases hnone
    · exact h.unknown theirs (hold waiter) ((hmem_known theirs).1 hknown).1

/-- A waiter that starts takes a ticket that nobody had. It waits unless there was a permit. -/
theorem enroll (h : notifier.Enrolled (front ++ .starting :: back)) {woken : Bool}
    (hissued : left.issued = notifier.issued + 1)
    (hknown : left.known.Perm ((if woken then [] else [notifier.issued]) ++ notifier.known))
    (hpermit : left.permit = true → left.waiting = []) :
    left.Enrolled (front ++ .enlisted notifier.issued woken :: back) := by
  have hbefore : tickets (front ++ .starting :: back) = tickets front ++ tickets back := by
    rw [tickets_split, Waiter.ticket?, Option.toList_none, List.append_nil]
  have hafter : tickets (front ++ .enlisted notifier.issued woken :: back) =
      tickets front ++ notifier.issued :: tickets back := by
    rw [tickets_split, Waiter.ticket?, Option.toList_some, List.append_assoc, List.singleton_append]
  have hmem (ticket : Nat) :
      ticket ∈ tickets (front ++ .enlisted notifier.issued woken :: back) ↔
        ticket = notifier.issued ∨ ticket ∈ tickets (front ++ .starting :: back) := by
    rw [hbefore, hafter]
    simp only [List.mem_append, List.mem_cons]
    exact or_left_comm
  have hfresh : notifier.issued ∉ tickets (front ++ .starting :: back) :=
    fun hold => Nat.lt_irrefl _ (h.issued _ hold)
  have hmem_known (ticket : Nat) : ticket ∈ left.known ↔
      woken = false ∧ ticket = notifier.issued ∨ ticket ∈ notifier.known := by
    rw [hknown.mem_iff]
    cases woken <;> simp
  refine ⟨?_, hpermit, ?_, ?_, ?_, ?_, ?_⟩
  · rw [hknown.nodup_iff]
    have hunknown : notifier.issued ∉ notifier.known := fun hold => hfresh (h.held _ hold)
    cases woken with
    | true => exact h.nodup
    | false => exact List.nodup_cons.2 ⟨hunknown, h.nodup⟩
  · intro ticket hticket
    obtain ⟨-, rfl⟩ | hold := (hmem_known ticket).1 hticket
    · exact (hmem _).2 (.inl rfl)
    · exact (hmem ticket).2 (.inr (h.held ticket hold))
  · rw [hafter, List.nodup_middle, List.nodup_cons, ← hbefore]
    exact ⟨hfresh, h.distinct⟩
  · intro ticket hticket
    rw [hissued]
    obtain rfl | hold := (hmem ticket).1 hticket
    · exact Nat.lt_succ_self _
    · exact Nat.lt_succ_of_lt (h.issued ticket hold)
  · intro other hother ticket hneeds
    obtain rfl | hold := eq_or_mem_of_split hother
    · cases woken with
      | true => cases hneeds
      | false => exact (hmem_known ticket).2 (.inl ⟨rfl, (Option.some.inj hneeds).symm⟩)
    · exact (hmem_known ticket).2 (.inr (h.known other (hold _) ticket hneeds))
  · intro ticket hother hticket
    obtain hnew | hold := eq_or_mem_of_split hother
    · cases hnew
      obtain ⟨hwoken, -⟩ | hknown := (hmem_known _).1 hticket
      · cases hwoken
      · exact hfresh (h.held _ hknown)
    · obtain ⟨-, rfl⟩ | hknown := (hmem_known ticket).1 hticket
      · exact hfresh (List.mem_filterMap.2 ⟨_, hold _, rfl⟩)
      · exact h.unknown ticket (hold _) hknown

theorem enlist (h : notifier.Enrolled (front ++ .starting :: back)) :
    notifier.enlist.2.2.Enrolled
      (front ++ .enlisted notifier.enlist.1 notifier.enlist.2.1 :: back) := by
  unfold Notifier.enlist
  split <;> rename_i hpermit
  · exact h.enroll rfl (.refl _) nofun
  · refine h.enroll rfl ?_ fun hkept => absurd hkept hpermit
    simp only [Notifier.known, List.append_assoc]
    exact List.perm_middle

theorem arrived (h : notifier.Enrolled waiters) : notifier.Enrolled (waiters ++ [.starting]) := by
  have htickets : tickets (waiters ++ [.starting]) = tickets waiters := by
    rw [tickets_split, Waiter.ticket?]
    simp [tickets]
  refine ⟨h.nodup, h.permit, htickets ▸ h.held, htickets ▸ h.distinct, htickets ▸ h.issued, ?_, ?_⟩
  · intro waiter hwaiter ticket hneeds
    obtain hold | hnew := List.mem_append.1 hwaiter
    · exact h.known waiter hold ticket hneeds
    · rw [List.mem_singleton.1 hnew] at hneeds
      cases hneeds
  · intro ticket hwaiter
    obtain hold | hnew := List.mem_append.1 hwaiter
    · exact h.unknown ticket hold
    · cases List.mem_singleton.1 hnew

end Notifier.Enrolled

end FramedVideo
