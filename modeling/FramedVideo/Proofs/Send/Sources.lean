import FramedVideo.Proofs.Mailbox.Counts
import FramedVideo.Send.Roster

/-!
# Sources at work

The sources of a sender tick together, at every multiple of the period between two frames. As long as
the mailbox is not stopped, each of them offers one frame at every tick that was due, and none ends.
The period is a second divided by the rate of capture, in whole nanoseconds. Above one frame in a
nanosecond it is zero: then no source offers anything, though the settings pass their check.

## Main definitions

- `Roster.Act`, `Roster.after` — what can be done while sources run, and the sources after it
- `Mailbox.Grows` — a mailbox took a number of frames
- `Roster.Working` — all sources run, and have ticked a number of times
- `Roster.UpToDate` — all sources run, and have ticked whenever it was time
- `Roster.Idle` — no source has ticked, and none runs once time has passed

Main statements: `Roster.Working.act`, `Roster.Idle.act`, `Roster.sources_work_or_idle`.
-/

namespace FramedVideo

-- ════════════════════════════════════════════════════════════════════════
-- The mailbox and the settings
-- ════════════════════════════════════════════════════════════════════════

/-- A mailbox took a number of frames, and is else as open and as large as before. -/
structure Mailbox.Grows (before : Mailbox) (count : Nat) (after : Mailbox) : Prop where
  stopped_eq : after.stopped = before.stopped
  size_eq : after.slots.size = before.slots.size
  pushed_eq : after.pushed = before.pushed + count

namespace Mailbox

theorem Grows.refl (mailbox : Mailbox) : mailbox.Grows 0 mailbox := ⟨rfl, rfl, rfl⟩

theorem Grows.trans {before mid after : Mailbox} {first second : Nat} (h : before.Grows first mid)
    (hrest : mid.Grows second after) : before.Grows (first + second) after := by
  refine ⟨hrest.stopped_eq.trans h.stopped_eq, hrest.size_eq.trans h.size_eq, ?_⟩
  rw [hrest.pushed_eq, h.pushed_eq, Nat.add_assoc]

theorem grows_offer {mailbox : Mailbox} {frame : Frame} (hopen : mailbox.stopped = false)
    (hknown : frame.sourceId.toNat < mailbox.slots.size) :
    mailbox.Grows 1 (mailbox.offer frame).2 := by
  obtain ⟨hstopped, hsize⟩ := offer_keeps mailbox frame
  refine ⟨hstopped, hsize, ?_⟩
  rw [offer, hopen, Array.getElem?_eq_getElem hknown]
  cases hlatest : mailbox.slots[frame.sourceId.toNat].latest with
  | none => simp [hlatest]
  | some old => simp [hlatest]

theorem grows_takeNow (mailbox : Mailbox) : mailbox.Grows 0 mailbox.takeNow.2 := by
  obtain ⟨hstopped, hsize⟩ := take_keeps mailbox
  obtain ⟨hpushed, -, -⟩ := Counts.take_keeps_counts mailbox
  have hleft : mailbox.takeNow.2 = mailbox.take.2 := by
    unfold takeNow
    split <;> rename_i htake <;> rw [htake]
  exact hleft ▸ ⟨hstopped, hsize, hpushed⟩

theorem grows_takeAll (count : Nat) (mailbox : Mailbox) :
    mailbox.Grows 0 (Roster.drain.takeAll count mailbox).2 := by
  induction count generalizing mailbox with
  | zero => exact .refl mailbox
  | succ count ih =>
    have hfirst := grows_takeNow mailbox
    rw [Roster.drain.takeAll]
    cases htake : mailbox.takeNow with
    | mk frame? left =>
      rw [htake] at hfirst
      cases frame? with
      | none => exact hfirst
      | some frame => exact hfirst.trans (ih left)

end Mailbox

namespace SenderConfig

theorem check_eq_ok_iff (config : SenderConfig) :
    config.check = .ok () ↔ config.bind ≠ "" ∧ config.sourceCount ≠ 0 ∧ config.captureFps ≠ 0 ∧
      config.payloadSize ≤ config.protocol.maxPayload.toNat := by
  unfold check
  by_cases hbind : config.bind = ""
  · simp [hbind]
  · by_cases hsources : config.sourceCount = 0
    · simp [hsources, hbind]
    · by_cases hcapture : config.captureFps = 0
      · simp [hcapture, hsources, hbind]
      · simp [hcapture, hsources, hbind]

/-- The time between two frames of a source is lost in rounding if there is more than one in a
nanosecond. -/
theorem captureInterval_ne_zero_iff (config : SenderConfig) :
    config.captureInterval ≠ 0 ↔ config.captureFps.toNat ≤ Time.second := by
  rw [captureInterval, Nat.div_ne_zero_iff, Time.second]
  omega

end SenderConfig

namespace Roster

variable {config : SenderConfig} {roster : Roster} {ticks : Nat}

-- ════════════════════════════════════════════════════════════════════════
-- One tick
-- ════════════════════════════════════════════════════════════════════════

/-- A source runs, and the mailbox knows it. -/
def Entry.Runs (sourceCount : Nat) (entry : Entry) : Prop :=
  entry.running = true ∧ entry.source.sourceId.toNat < sourceCount

theorem tickEntry_of_runs (moment : Nat) {mailbox : Mailbox} {entry : Entry}
    (hopen : mailbox.stopped = false) (hruns : entry.Runs mailbox.slots.size) :
    (tickEntry moment mailbox entry).1.Runs mailbox.slots.size ∧
      mailbox.Grows 1 (tickEntry moment mailbox entry).2.1 := by
  obtain ⟨hrunning, hknown⟩ := hruns
  simp only [tickEntry, hrunning, hopen, Bool.not_true, Bool.false_eq_true, if_false]
  exact ⟨⟨rfl, hknown⟩, Mailbox.grows_offer hopen hknown⟩

/-- Sources that run go on, and each has offered a frame that was accepted. -/
theorem tickEntries_of_runs (moment : Nat) {mailbox : Mailbox} {entries : List Entry}
    (hopen : mailbox.stopped = false) (hruns : ∀ entry ∈ entries, entry.Runs mailbox.slots.size) :
    let ticked := tickEntries moment mailbox entries
    ticked.1.length = entries.length ∧ (∀ entry ∈ ticked.1, entry.Runs mailbox.slots.size) ∧
      mailbox.Grows entries.length ticked.2.1 := by
  induction entries generalizing mailbox with
  | nil => exact ⟨rfl, nofun, .refl mailbox⟩
  | cons entry entries ih =>
    obtain ⟨hentry, hrest⟩ := List.forall_mem_cons.1 hruns
    obtain ⟨hfirst, hgrows⟩ := tickEntry_of_runs moment hopen hentry
    obtain ⟨hlength, hothers, hmore⟩ := ih (hgrows.stopped_eq.trans hopen) (hgrows.size_eq ▸ hrest)
    refine ⟨congrArg (· + 1) hlength, ?_, ?_⟩
    · exact List.forall_mem_cons.2 ⟨hfirst, hgrows.size_eq ▸ hothers⟩
    · rw [List.length_cons, Nat.add_comm]
      exact hgrows.trans hmore

-- ════════════════════════════════════════════════════════════════════════
-- Acts
-- ════════════════════════════════════════════════════════════════════════

/-- What can be done while sources run. -/
inductive Act where
  | sleep (span : Nat)
  | stop
  | drain
  deriving DecidableEq, Repr

/-- The sources after an act. -/
def act (roster : Roster) : Act → Roster
  | .sleep span => roster.sleep span
  | .stop => roster.stop
  | .drain => roster.drain.2

/-- The sources after several acts. -/
def after (roster : Roster) (acts : List Act) : Roster := acts.foldl act roster

/-- The time that passes in an act. -/
def Act.span : Act → Nat
  | sleep span => span
  | _ => 0

theorem now_act (roster : Roster) (next : Act) : (roster.act next).now = roster.now + next.span := by
  cases next <;> rfl

theorem now_after (roster : Roster) (acts : List Act) :
    (roster.after acts).now = roster.now + (acts.map Act.span).sum := by
  induction acts generalizing roster with
  | nil => rfl
  | cons next acts ih =>
    have hrest : (roster.after (next :: acts)).now = _ := ih (roster.act next)
    rw [hrest, now_act, List.map_cons, List.sum_cons, Nat.add_assoc]

-- ════════════════════════════════════════════════════════════════════════
-- A period that can be waited for
-- ════════════════════════════════════════════════════════════════════════

/-- All sources run, and each has offered a frame at each of its ticks so far. -/
structure Working (config : SenderConfig) (ticks : Nat) (roster : Roster) : Prop where
  length_eq : roster.entries.length = config.sourceCount.toNat
  runs : ∀ entry ∈ roster.entries, entry.Runs config.sourceCount.toNat
  size_eq : roster.mailbox.slots.size = config.sourceCount.toNat
  stopped_eq : roster.mailbox.stopped = false
  period_eq : roster.period = config.captureInterval
  nextTick_eq : roster.nextTick = ticks * config.captureInterval
  pushed_eq : roster.mailbox.pushed = ticks * config.sourceCount.toNat

theorem working_start (config : SenderConfig) : Working config 0 (start config) := by
  refine ⟨?_, ?_, ?_, rfl, rfl, (Nat.zero_mul _).symm, (Nat.zero_mul _).symm⟩
  · simp [start]
  · simp only [start, List.forall_mem_map, List.mem_range]
    intro sourceId hlt
    have hsmall : sourceId < UInt16.size := Nat.lt_trans hlt config.sourceCount.toNat_lt
    refine ⟨rfl, ?_⟩
    rwa [UInt16.toNat_ofNat_of_lt' hsmall]
  · simp [start, Mailbox.empty]

namespace Working

theorem running_eq (h : Working config ticks roster) : roster.running = config.sourceCount.toNat := by
  have hall : roster.entries.filter (·.running) = roster.entries :=
    List.filter_eq_self.2 fun entry hentry => (h.runs entry hentry).1
  rw [running, hall, h.length_eq]

/-- An act that neither ticks nor stops the mailbox does not disturb the sources. -/
theorem of_grows (h : Working config ticks roster) {mailbox : Mailbox}
    (hgrows : roster.mailbox.Grows 0 mailbox) :
    Working config ticks { roster with mailbox := mailbox } :=
  ⟨h.length_eq, h.runs, hgrows.size_eq.trans h.size_eq, hgrows.stopped_eq.trans h.stopped_eq,
    h.period_eq, h.nextTick_eq, hgrows.pushed_eq.trans h.pushed_eq⟩

theorem tick (h : Working config ticks roster) : Working config (ticks + 1) roster.tick := by
  have hruns : ∀ entry ∈ roster.entries, entry.Runs roster.mailbox.slots.size := h.size_eq ▸ h.runs
  obtain ⟨hlength, hstill, hgrows⟩ :=
    tickEntries_of_runs (Time.firesAt roster.nextTick) h.stopped_eq hruns
  refine ⟨hlength.trans h.length_eq, h.size_eq ▸ hstill, hgrows.size_eq.trans h.size_eq,
    hgrows.stopped_eq.trans h.stopped_eq, h.period_eq, ?_, ?_⟩
  · rw [nextTick_tick, h.nextTick_eq, h.period_eq, Nat.succ_mul]
  · exact hgrows.pushed_eq.trans (by rw [h.pushed_eq, h.length_eq, Nat.succ_mul])

/-- The sources tick until the next tick is not before the moment to wake at. -/
theorem advance (h : Working config ticks roster) (hperiod : config.captureInterval ≠ 0)
    (wake : Nat) :
    ∃ later, Working config later (roster.advance wake) ∧
      wake ≤ Time.firesAt (later * config.captureInterval) ∧
      ∀ tick, ticks ≤ tick → tick < later →
        Time.firesAt (tick * config.captureInterval) < wake := by
  fun_induction Roster.advance wake roster generalizing ticks with
  | case1 roster hbefore hzero => exact absurd (h.period_eq.symm.trans hzero) hperiod
  | case2 roster hbefore hnonzero ih =>
    obtain ⟨later, hworking, hwake, hticks⟩ := ih h.tick
    refine ⟨later, hworking, hwake, fun tick hle hlt => ?_⟩
    obtain rfl | hnext := Nat.eq_or_lt_of_le hle
    · rwa [← h.nextTick_eq]
    · exact hticks tick hnext hlt
  | case3 roster hnot =>
    rw [h.nextTick_eq] at hnot
    exact ⟨ticks, h, Nat.le_of_not_lt hnot, fun tick hle hlt => absurd hlt (Nat.not_lt.2 hle)⟩

end Working

/-- All sources run, and each has offered a frame at every moment of its period before now. -/
def UpToDate (config : SenderConfig) (roster : Roster) : Prop :=
  ∃ ticks, Working config ticks roster ∧
    ∀ tick, tick < ticks ↔ Time.firesAt (tick * config.captureInterval) < roster.now

namespace UpToDate

theorem sleep (h : UpToDate config roster) (hperiod : config.captureInterval ≠ 0) (span : Nat) :
    UpToDate config (roster.sleep span) := by
  obtain ⟨ticks, hworking, hdue⟩ := h
  obtain ⟨later, hlater, hwake, hticks⟩ := hworking.advance hperiod (roster.now + span)
  obtain ⟨hlength, hruns, hsize, hstopped, hperiod', hnext, hpushed⟩ := hlater
  refine ⟨later, ⟨hlength, hruns, hsize, hstopped, hperiod', hnext, hpushed⟩, fun tick => ?_⟩
  constructor
  · intro hlt
    by_cases hold : tick < ticks
    · exact Nat.lt_of_lt_of_le ((hdue tick).1 hold) (Nat.le_add_right _ _)
    · exact hticks tick (Nat.le_of_not_lt hold) hlt
  · intro hfires
    by_contra hge
    have hmul := Nat.mul_le_mul_right config.captureInterval (Nat.le_of_not_lt hge)
    have hlate := Nat.le_trans hwake (Time.firesAt_mono hmul)
    exact absurd hfires (Nat.not_lt.2 hlate)

theorem act (h : UpToDate config roster) (hperiod : config.captureInterval ≠ 0) {next : Act}
    (hnext : next ≠ .stop) : UpToDate config (roster.act next) := by
  cases next with
  | sleep span => exact h.sleep hperiod span
  | stop => exact absurd rfl hnext
  | drain =>
    obtain ⟨ticks, hworking, hdue⟩ := h
    exact ⟨ticks, hworking.of_grows (Mailbox.grows_takeAll _ _), hdue⟩

theorem after (h : UpToDate config roster) (hperiod : config.captureInterval ≠ 0) {acts : List Act}
    (hacts : .stop ∉ acts) : UpToDate config (roster.after acts) := by
  induction acts generalizing roster with
  | nil => exact h
  | cons next acts ih =>
    rw [List.mem_cons, not_or] at hacts
    exact ih (h.act hperiod (Ne.symm hacts.1)) hacts.2

end UpToDate

theorem upToDate_start (config : SenderConfig) : UpToDate config (start config) :=
  ⟨0, working_start config, fun _ => iff_of_false (Nat.not_lt_zero _) (Nat.not_lt_zero _)⟩

-- ════════════════════════════════════════════════════════════════════════
-- A period of zero
-- ════════════════════════════════════════════════════════════════════════

/-- No source has offered a frame, and none runs once time has passed. -/
structure Idle (roster : Roster) : Prop where
  period_eq : roster.period = 0
  nextTick_eq : roster.nextTick = 0
  pushed_eq : roster.mailbox.pushed = 0
  running_eq : 0 < roster.now → roster.running = 0

theorem idle_start (hperiod : config.captureInterval = 0) : (start config).Idle :=
  ⟨hperiod, rfl, rfl, fun h => absurd h (Nat.lt_irrefl 0)⟩

theorem running_abort (roster : Roster) : roster.abort.running = 0 := by
  simp [running, abort]

namespace Idle

theorem advance (h : roster.Idle) (wake : Nat) :
    roster.advance wake = if 0 < wake then roster.abort else roster := by
  rw [Roster.advance, h.nextTick_eq, dif_pos h.period_eq]
  exact dite_eq_ite

theorem act (h : roster.Idle) (next : Act) : (roster.act next).Idle := by
  obtain ⟨hperiod, hnext, hpushed, hrunning⟩ := h
  cases next with
  | sleep span =>
    simp only [Roster.act, Roster.sleep]
    rw [advance ⟨hperiod, hnext, hpushed, hrunning⟩]
    by_cases hpassed : 0 < roster.now + span
    · rw [if_pos hpassed]
      exact ⟨hperiod, hnext, hpushed, fun _ => running_abort roster⟩
    · rw [if_neg hpassed]
      exact ⟨hperiod, hnext, hpushed, fun hlate => absurd hlate hpassed⟩
  | stop => exact ⟨hperiod, hnext, hpushed, hrunning⟩
  | drain =>
    have hgrows := Mailbox.grows_takeAll roster.mailbox.pending.length roster.mailbox
    exact ⟨hperiod, hnext, hgrows.pushed_eq.trans hpushed, hrunning⟩

theorem after (h : roster.Idle) (acts : List Act) : (roster.after acts).Idle := by
  induction acts generalizing roster with
  | nil => exact h
  | cons next acts ih => exact ih (h.act next)

end Idle

/-- The check of the settings keeps the rate of capture from being zero, and puts no bound on it. The
period of accepted settings is not zero up to one frame in a nanosecond. Then all sources go on for as
long as the mailbox is not stopped, and have offered a frame at every multiple of the period before now.
At a higher rate they end as soon as they start, and none has offered a frame. -/
theorem sources_work_or_idle {config : SenderConfig} (hcheck : config.check = .ok ()) :
    (∀ rate ≠ 0, { config with captureFps := rate }.check = .ok ()) ∧
    (config.captureInterval ≠ 0 ↔ config.captureFps.toNat ≤ Time.second) ∧
    (config.captureInterval ≠ 0 → ∀ acts, .stop ∉ acts →
      let roster := (start config).after acts
      0 < roster.running ∧ roster.running = config.sourceCount.toNat ∧
        ∃ ticks, roster.mailbox.pushed = ticks * config.sourceCount.toNat ∧
          ∀ tick, tick < ticks ↔ Time.firesAt (tick * config.captureInterval) < roster.now) ∧
    (config.captureInterval = 0 → ∀ acts,
      let roster := (start config).after acts
      roster.mailbox.pushed = 0 ∧ (0 < roster.now → roster.running = 0)) := by
  obtain ⟨hbind, hsources, -, hpayload⟩ := config.check_eq_ok_iff.1 hcheck
  refine ⟨fun rate hrate => ?_, config.captureInterval_ne_zero_iff, fun hperiod acts hacts => ?_,
    fun hperiod acts => ?_⟩
  · exact (SenderConfig.check_eq_ok_iff _).2 ⟨hbind, hsources, hrate, hpayload⟩
  · obtain ⟨ticks, hworking, hdue⟩ := (upToDate_start config).after hperiod hacts
    have hpos : 0 < config.sourceCount.toNat :=
      Nat.pos_of_ne_zero fun hzero => hsources (UInt16.toNat_inj.1 hzero)
    exact ⟨hworking.running_eq ▸ hpos, hworking.running_eq, ticks, hworking.pushed_eq, hdue⟩
  · have hidle := (idle_start hperiod).after acts
    exact ⟨hidle.pushed_eq, hidle.running_eq⟩

/-- Three sources at 30 frames in a second have each offered three frames by 80 milliseconds, at 0, 34
and 67. At three frames in a nanosecond they are accepted too, and do nothing. -/
theorem sources_work_or_idle_of_three :
    let config : SenderConfig := { sourceCount := 3 }
    let fast : SenderConfig := { config with captureFps := 3000000000 }
    let acts : List Act := [.sleep 50000000, .drain, .sleep 30000000]
    let roster := (start config).after acts
    let ended := (start fast).after acts
    config.check = .ok () ∧ roster.running = 3 ∧ roster.mailbox.pushed = 9 ∧
      fast.check = .ok () ∧ ended.running = 0 ∧ ended.mailbox.pushed = 0 := by
  intro config fast acts roster ended
  have hcheck : config.check = .ok () := by decide
  have hnow : roster.now = 80000000 := (now_after (start config) acts).trans (by decide)
  have hlate : ended.now = 80000000 := (now_after (start fast) acts).trans (by decide)
  obtain ⟨hrates, -, hworks, -⟩ := sources_work_or_idle hcheck
  have hfast : fast.check = .ok () := hrates 3000000000 (by decide)
  obtain ⟨-, -, -, hidles⟩ := sources_work_or_idle hfast
  obtain ⟨-, hrunning, ticks, hpushed, hdue⟩ := hworks (by decide) acts (by decide)
  obtain ⟨hnone, hended⟩ := hidles (by decide) acts
  have htwo : 2 < ticks := (hdue 2).2 (by rw [hnow]; decide)
  have hthree : ¬3 < ticks := fun h => absurd ((hdue 3).1 h) (by rw [hnow]; decide)
  have hticks : ticks = 3 := by omega
  subst hticks
  exact ⟨hcheck, hrunning, hpushed, hfast, hended (by rw [hlate]; decide), hnone⟩

/-- At two frames in a nanosecond the settings pass their check, but the period between two frames is
zero, and the source has ended without a frame once a millisecond has passed. -/
theorem sources_end_at_two_in_a_nanosecond :
    let config : SenderConfig := { captureFps := 2000000000 }
    let roster := (start config).sleep Time.millisecond
    config.check = .ok () ∧ config.captureInterval = 0 ∧ roster.running = 0 ∧
      roster.mailbox.pushed = 0 := by
  intro config roster
  have hidle : roster.Idle := (idle_start (by decide)).act (.sleep Time.millisecond)
  exact ⟨by decide, by decide, hidle.running_eq (by decide), hidle.pushed_eq⟩

end Roster

end FramedVideo
