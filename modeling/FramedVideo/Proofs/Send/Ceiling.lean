import FramedVideo.Proofs.Send.Pacing

/-!
# The most frames in a second

A limit of so many frames in a second is kept by an interval, which is the second divided by the limit in
whole nanoseconds. What is cut off there adds up: if the limit does not divide the second, one frame more
than the limit, or several, may go in a second. A limit of more than a frame in each nanosecond leaves no
interval at all. This is so for a timer of which nothing is known but that it is never early; one that fires
on whole milliseconds rounds the interval up.

## Main definitions

- `Pacer.Grant` — the moments at which a pacer is asked for a slot and gives it
- `Pacer.Serves` — the grants of a pacer, one after the other
- `Pacer.Grant.inSecond` — how many slots are given within a second
- `Pacer.Grant.every` — slots that are asked for and given as soon as they are open

Main statements: `Pacer.Serves.inSecond_le`, `Pacer.serves_every`, `SenderConfig.limit_kept_iff`.
-/

namespace FramedVideo

namespace Pacer

/-- The moments at which a pacer is asked for a slot, and at which it gives it. -/
structure Grant where
  asked : Nat
  given : Nat
  deriving DecidableEq, Repr

/-- A pacer that is asked for slots, each time not before it gave the last one, may give them so: none
before it is asked for, and none early. -/
def Serves (now : Nat) (pacer : Pacer) : List Grant → Prop
  | [] => True
  | grant :: grants => now ≤ grant.asked ∧ grant.asked ≤ grant.given ∧
    pacer.isOpen grant.given = true ∧ (pacer.release grant.given).Serves grant.given grants

/-- How many slots are given within the second that starts at a moment. -/
def Grant.inSecond (start : Nat) (grants : List Grant) : Nat :=
  grants.countP fun grant => start ≤ grant.given ∧ grant.given < start + Time.second

/-- So many slots, an interval apart, each given when it is asked for. -/
def Grant.every (interval : Nat) : Nat → Nat → List Grant
  | _, 0 => []
  | start, count + 1 => ⟨start, start⟩ :: every interval (start + interval) count

-- ════════════════════════════════════════════════════════════════════════
-- At most so many
-- ════════════════════════════════════════════════════════════════════════

/-- An interval leaves room for so many moments within a second. -/
theorem countP_second_le {interval : Nat} (hinterval : 0 < interval) {moments : List Nat}
    (hspaced : moments.Pairwise (· + interval ≤ ·)) (start : Nat) :
    moments.countP (fun moment => start ≤ moment ∧ moment < start + Time.second) ≤
      (Time.second - 1) / interval + 1 := by
  have hcount := countP_le_of_spaced hinterval hspaced start (start + (Time.second - 1))
  rw [Nat.add_sub_cancel_left] at hcount
  refine Nat.le_trans (List.countP_mono_left fun moment _ hmoment => ?_) hcount
  obtain ⟨hstart, hend⟩ := of_decide_eq_true hmoment
  have hlast : moment ≤ start + (Time.second - 1) := by omega
  exact decide_eq_true ⟨hstart, hlast⟩

section AtMost

variable {interval now : Nat} {pacer : Pacer} {grants : List Grant}

/-- Nothing is given before the next slot opens. -/
theorem Serves.le_given (h : pacer.Serves now grants) {opens : Nat}
    (hopens : pacer.opensAt? = some opens) : ∀ grant ∈ grants, opens ≤ grant.given := by
  induction grants generalizing pacer now opens with
  | nil => exact nofun
  | cons grant grants ih =>
    obtain ⟨-, -, hopen, hrest⟩ := h
    have hgrant : opens ≤ grant.given := (pacer.isOpen_iff _).1 hopen opens hopens
    refine List.forall_mem_cons.2 ⟨hgrant, fun later hlater => ?_⟩
    cases hinterval : pacer.interval with
    | none => simp [opensAt?, hinterval] at hopens
    | some interval =>
      have hnext : grant.given + interval ≤ later.given :=
        ih hrest (by rw [opensAt?_release, hinterval]; rfl) later hlater
      omega

theorem Serves.spaced (h : pacer.Serves now grants) (hinterval : pacer.interval = some interval) :
    (grants.map (·.given)).Pairwise (· + interval ≤ ·) := by
  induction grants generalizing pacer now with
  | nil => exact .nil
  | cons grant grants ih =>
    obtain ⟨-, -, -, hrest⟩ := h
    refine List.pairwise_cons.2
      ⟨List.forall_mem_map.2 ?_, ih hrest ((pacer.interval_release _).trans hinterval)⟩
    exact hrest.le_given (by rw [opensAt?_release, hinterval]; rfl)

/-- An interval leaves room for so many slots within a second. -/
theorem Serves.inSecond_le (h : pacer.Serves now grants) (hinterval : pacer.interval = some interval)
    (hpos : 0 < interval) (start : Nat) :
    Grant.inSecond start grants ≤ (Time.second - 1) / interval + 1 := by
  have hcount := countP_second_le hpos (h.spaced hinterval) start
  rwa [List.countP_map] at hcount

end AtMost

-- ════════════════════════════════════════════════════════════════════════
-- As many as that
-- ════════════════════════════════════════════════════════════════════════

theorem serves_every {interval start now : Nat} {pacer : Pacer}
    (hinterval : pacer.interval = some interval) (hopen : pacer.isOpen start = true)
    (hnow : now ≤ start) (count : Nat) : pacer.Serves now (Grant.every interval start count) := by
  induction count generalizing pacer start now with
  | zero => trivial
  | succ count ih =>
    have hnext : (pacer.release start).isOpen (start + interval) = true := by
      rw [isOpen_iff, opensAt?_release, hinterval]
      rintro _ ⟨⟩
      exact Nat.le_refl _
    exact ⟨hnow, Nat.le_refl _, hopen,
      ih ((pacer.interval_release _).trans hinterval) hnext (Nat.le_add_right _ _)⟩

namespace Grant

theorem length_every (interval start count : Nat) : (every interval start count).length = count := by
  induction count generalizing start with
  | zero => rfl
  | succ count ih => rw [every, List.length_cons, ih]

theorem given_every (interval start count : Nat) :
    ∀ grant ∈ every interval start count,
      start ≤ grant.given ∧ grant.given + interval ≤ start + count * interval := by
  induction count generalizing start with
  | zero => exact nofun
  | succ count ih =>
    rw [every, Nat.succ_mul]
    refine List.forall_mem_cons.2 ⟨⟨Nat.le_refl _, by dsimp only; omega⟩, fun grant hgrant => ?_⟩
    obtain ⟨hstart, hend⟩ := ih _ grant hgrant
    omega

theorem inSecond_every {interval count : Nat} (start : Nat)
    (hroom : count * interval < Time.second + interval) :
    inSecond start (every interval start count) = count := by
  rw [inSecond, List.countP_eq_length.2, length_every]
  intro grant hgrant
  obtain ⟨hstart, hend⟩ := given_every _ _ _ grant hgrant
  exact decide_eq_true ⟨hstart, by omega⟩

end Grant

end Pacer

-- ════════════════════════════════════════════════════════════════════════
-- The limit
-- ════════════════════════════════════════════════════════════════════════

open Pacer (Grant)

/-- A limit of frames in a second is kept, whenever the pacer is asked and however late it answers, just
if it divides the second. The interval that it becomes lets as many frames go in a second as fit there, an
interval apart; if nothing is left of it, any number may go. -/
theorem SenderConfig.limit_kept_iff (config : SenderConfig) (hlimit : config.maxFps ≠ 0) :
    let pacer : Pacer := { interval := config.sendInterval? }
    let fps := config.maxFps.toNat
    let interval := Time.second / fps
    let most := (Time.second - 1) / interval + 1
    (0 < interval →
      (∀ now grants, pacer.Serves now grants → ∀ start, Grant.inSecond start grants ≤ most) ∧
        ∃ grants, pacer.Serves 0 grants ∧ Grant.inSecond 0 grants = most) ∧
    (interval = 0 → ∀ count, ∃ grants, pacer.Serves 0 grants ∧ Grant.inSecond 0 grants = count) ∧
    ((∀ now grants, pacer.Serves now grants → ∀ start, Grant.inSecond start grants ≤ fps) ↔
      fps ∣ Time.second) := by
  intro pacer fps interval most
  have hinterval : pacer.interval = some interval := if_neg hlimit
  have hreach (count : Nat) (hroom : count * interval < Time.second + interval) :
      ∃ grants, pacer.Serves 0 grants ∧ Grant.inSecond 0 grants = count := by
    refine ⟨Grant.every interval 0 count, ?_, Grant.inSecond_every 0 hroom⟩
    have hopen : pacer.isOpen 0 = true :=
      (pacer.isOpen_iff 0).2 fun moment hmoment => by cases (Pacer.opensAt?_first _).symm.trans hmoment
    exact Pacer.serves_every hinterval hopen (Nat.le_refl 0) count
  refine ⟨fun hpos => ⟨fun now grants h => h.inSecond_le hinterval hpos, hreach most ?_⟩,
    fun hzero count => hreach count ?_, fun hkept => ?_, fun hdvd => ?_⟩
  · have hfits := Nat.div_mul_le_self (Time.second - 1) interval
    have hsecond : 0 < Time.second := by decide
    rw [Nat.succ_mul]
    omega
  · rw [hzero, Nat.mul_zero]
    decide
  · -- one frame more than the limit would go as well
    by_contra hdvd
    have hcut : fps * interval < Time.second :=
      Nat.lt_of_le_of_ne (Nat.mul_div_le _ _) fun h => hdvd ⟨interval, h.symm⟩
    obtain ⟨grants, hserves, hcount⟩ := hreach (fps + 1) (by rw [Nat.succ_mul]; omega)
    have hmost := hkept 0 grants hserves 0
    omega
  · intro now grants hserves start
    have hsecond : interval * fps = Time.second := Nat.div_mul_cancel hdvd
    have hpos : 0 < interval := by
      refine Nat.pos_of_ne_zero fun hzero => ?_
      rw [hzero, Nat.zero_mul] at hsecond
      exact absurd hsecond (by decide)
    have hless : (Time.second - 1) / interval < fps := by
      refine Nat.div_lt_of_lt_mul ?_
      rw [hsecond]
      decide
    exact (hserves.inSecond_le hinterval hpos start).trans hless

/-- Twenty frames in a second are fifty milliseconds apart, and never more than twenty. -/
theorem SenderConfig.limit_kept_at_twenty :
    let config : SenderConfig := { maxFps := 20 }
    config.maxFps ≠ 0 ∧ 20 ∣ Time.second ∧
      ∀ now grants, Pacer.Serves now { interval := config.sendInterval? } grants →
        ∀ start, Grant.inSecond start grants ≤ 20 := by
  intro config
  have hdvd : 20 ∣ Time.second := by decide
  exact ⟨by decide, hdvd, (limit_kept_iff config (by decide)).2.2.2 hdvd⟩

/-- With a limit of three frames in a second, four go in a second. The moments are those of a timer that is
exact to the nanosecond. The timer of a `Timeline` fires on whole milliseconds (`Time.firesAt`): on these
the limit is kept (`Timeline.inSecond_le_limit`), and between them, where a frame finds its slot open and
does not wait for the timer, it is not (`Timeline.four_between_milliseconds`). -/
theorem SenderConfig.limit_missed_at_three :
    let config : SenderConfig := { maxFps := 3 }
    let grants : List Grant := [⟨0, 0⟩, ⟨333333333, 333333333⟩, ⟨666666666, 666666666⟩,
      ⟨999999999, 999999999⟩]
    Pacer.Serves 0 { interval := config.sendInterval? } grants ∧ Grant.inSecond 0 grants = 4 ∧
      config.maxFps.toNat < 4 := by
  intro config grants
  refine ⟨?_, by decide, by decide⟩
  simp only [Pacer.Serves, grants]
  decide

end FramedVideo
