import FramedVideo.Proofs.Send.Ceiling
import FramedVideo.Send.Timeline

/-!
# A session on a clock, watched

Everything that a session does on a clock is a run of a service that keeps to that clock: the session
makes its steps one after the other, each when it wakes up, and a frame whose slot is open does not wait.
So what is known of watched services holds of it. In particular its frames are an interval apart. If time
passes in whole milliseconds, the interval is rounded up to one of these by the timer, and then a limit
of frames in a second is kept, whether or not it divides the second.

## Main definitions

- `Timeline.Act`, `Timeline.after` — what can be done to a session on a clock, and the session after it
- `Timeline.Follows` — a watched service that does the same
- `Timeline.inSecond` — how many frames are written within a second

Main statements: `Timeline.Follows.step`, `Timeline.Follows.advance`, `Timeline.follows_after`,
`Timeline.exists_service_after`, `Timeline.finish_ends`, `Timeline.inSecond_le`,
`Timeline.inSecond_le_limit`.
-/

namespace FramedVideo

open Transport (Gauge)

/-- The session takes its next step. -/
def Service.Act.isStep : Service.Act → Bool
  | .step _ => true
  | _ => false

namespace Timeline

/-- What can be done to a session on a clock. -/
inductive Act where
  /-- A source offers a frame. -/
  | offer (frame : Frame)
  /-- The mailbox is stopped. -/
  | stop
  /-- A span of time passes. -/
  | sleep (span : Nat)
  /-- Time passes until the session waits for a frame or has ended. -/
  | wait
  deriving DecidableEq, Repr

/-- The session after an act. -/
def act (timeline : Timeline) : Act → Timeline
  | .offer frame => (timeline.offer frame).2
  | .stop => timeline.stop
  | .sleep span => timeline.sleep span
  | .wait => timeline.advance none

/-- The session after several acts. -/
def after (timeline : Timeline) (acts : List Act) : Timeline := acts.foldl act timeline

/-- What an act does to the mailbox. -/
def Act.toMailbox : Act → List Service.Act
  | offer frame => [.offer frame]
  | stop => [.stop]
  | sleep _ | wait => []

/-- The mailbox and the session, without the clock. -/
def service (timeline : Timeline) : Service Gauge := ⟨timeline.mailbox, timeline.session⟩

theorem after_concat (timeline : Timeline) (acts : List Act) (last : Act) :
    timeline.after (acts ++ [last]) = (timeline.after acts).act last := List.foldl_concat _ _ _ _

variable {timeline : Timeline} {moment : Nat}

-- ════════════════════════════════════════════════════════════════════════
-- When a session wakes up
-- ════════════════════════════════════════════════════════════════════════

/-- A session does not wake up in the past, and if not now, then on a whole millisecond. -/
theorem wakesAt?_cases (h : timeline.wakesAt? = some moment) :
    moment = timeline.now ∨ timeline.now ≤ moment ∧ Time.millisecond ∣ moment := by
  unfold wakesAt? at h
  split at h
  · exact .inl (Option.some.inj h).symm
  · split at h
    · obtain ⟨opens, -, rfl⟩ := Option.map_eq_some_iff.1 h
      obtain hearly | hlate := Nat.le_total (Time.firesAt opens) timeline.now
      · exact .inl (Nat.max_eq_left hearly)
      · rw [Nat.max_eq_right hlate]
        exact .inr ⟨hlate, Time.millisecond_dvd_firesAt opens⟩
    · cases h

/-- A session whose frame may go now is awake. -/
theorem wakesAt?_of_released? (h : (timeline.session.released? timeline.now).isSome = true) :
    timeline.wakesAt? = some timeline.now := by
  refine if_pos ?_
  unfold SendSession.released? at h
  split at h
  · rename_i frame hphase
    simp only [SendSession.canStep, hphase]
    by_contra hclosed
    simp [hclosed] at h
  · cases h

/-- A session that does not wake up waits for a frame or has ended. -/
theorem wakesAt?_eq_none_iff :
    timeline.wakesAt? = none ↔
      (timeline.session.phase = .taking ∧ timeline.mailbox.stopped = false ∧
        timeline.mailbox.pending = []) ∨
      ∃ disconnect, timeline.session.phase = .ended disconnect := by
  unfold wakesAt? SendSession.canStep
  cases timeline.session.phase with
  | taking => simp
  | ended disconnect => simp
  | holding frame =>
    cases hopens : timeline.session.pacer.opensAt? with
    | none => simp [Pacer.isOpen, hopens]
    | some opens =>
      by_cases hopen : opens ≤ timeline.now <;> simp [Pacer.isOpen, hopens, hopen]

theorem advance_of_awake {until? : Option Nat} (hwakes : timeline.wakesAt? = some moment)
    (hbefore : until?.elim true (moment < ·) = true) :
    timeline.advance until? = ({ timeline with now := moment } : Timeline).step.advance until? := by
  rw [advance]
  split
  · simp_all
  · rename_i other hother
    obtain rfl : other = moment := Option.some.inj (hother.symm.trans hwakes)
    exact if_pos hbefore

theorem advance_of_asleep {until? : Option Nat} (hwakes : timeline.wakesAt? = none) :
    timeline.advance until? = timeline := by
  rw [advance]
  split
  · rfl
  · simp_all

/-- A frame that is taken and written at once takes no time. -/
theorem sleep_of_prompt {span : Nat} (hspan : 0 < span)
    (htakes : timeline.wakesAt? = some timeline.now)
    (hsends : timeline.step.wakesAt? = some timeline.now)
    (hrests : timeline.step.step.wakesAt? = none) :
    timeline.sleep span = { timeline.step.step with now := timeline.now + span } := by
  have hbefore : (some (timeline.now + span)).elim true (timeline.now < ·) = true :=
    decide_eq_true (Nat.lt_add_of_pos_right hspan)
  have hgone : timeline.advance (some (timeline.now + span)) = timeline.step.step :=
    (advance_of_awake htakes hbefore).trans
      ((advance_of_awake hsends hbefore).trans (advance_of_asleep hrests))
  rw [sleep, hgone]

/-- A session that has gone on up to a moment does not wake up before it. -/
theorem le_of_wakesAt?_advance (until? : Option Nat) (timeline : Timeline) :
    ∀ moment ∈ (timeline.advance until?).wakesAt?, ∃ wake ∈ until?, wake ≤ moment := by
  fun_induction Timeline.advance until? timeline with
  | case1 timeline hwakes => simp [hwakes]
  | case2 timeline moment hwakes hbefore ih => exact ih
  | case3 timeline moment hwakes hlate =>
    rw [hwakes]
    rintro _ ⟨⟩
    cases until? with
    | none => exact absurd rfl hlate
    | some wake => exact ⟨wake, rfl, by simpa using hlate⟩

theorem now_advance_le {wake : Nat} (timeline : Timeline) (h : timeline.now ≤ wake) :
    (timeline.advance (some wake)).now ≤ wake := by
  fun_induction Timeline.advance (some wake) timeline with
  | case1 timeline hwakes => exact h
  | case2 timeline moment hwakes hbefore ih => exact ih (Nat.le_of_lt (of_decide_eq_true hbefore))
  | case3 timeline moment hwakes hlate => exact h

/-- Each frame that is written is noted with the moment. -/
theorem flushed_step (timeline : Timeline) :
    timeline.step.flushed.map (·.1) = timeline.flushed.map (·.1) ++
      (timeline.session.wrote? timeline.now).toList.map fun _ => timeline.now := by
  have hsent := (timeline.session.moves timeline.now timeline.mailbox).sent
  unfold step flushed
  dsimp only
  cases hwrote : timeline.session.wrote? timeline.now with
  | none => simp [hsent, hwrote]
  | some frame => simp [hsent, hwrote]

-- ════════════════════════════════════════════════════════════════════════
-- The watched service
-- ════════════════════════════════════════════════════════════════════════

/-- A watched service does what a session on a clock has done, and keeps to the clock. The frames that
are written are some of those that went, at the same moments. All moments are multiples of a unit. -/
structure Follows (unit : Nat) (first : Watch Gauge) (acts : List Service.Act)
    (written : List Release) (timeline : Timeline) : Prop where
  timed : first.Timed acts
  service_eq : (first.after acts).service = timeline.service
  now_le : (first.after acts).now ≤ timeline.now
  /-- No time passes while a frame may go. -/
  prompt : (timeline.session.released? (first.after acts).now).isSome = true →
    timeline.now = (first.after acts).now
  written_sublist : written.Sublist (first.after acts).releases
  frames_eq : written.map (·.frame) = first.service.writes acts
  moments_eq : written.map (·.released) = timeline.flushed.map (·.1)
  unit_dvd_now : unit ∣ timeline.now
  unit_dvd : ∀ release ∈ written, unit ∣ release.released

theorem follows_start (unit : Nat) (config : SenderConfig) (client : Gauge) :
    Follows unit (config.watch (.empty config.sourceCount) client 0) [] [] (start config client) :=
  ⟨trivial, rfl, Nat.le_refl 0, nofun, .slnil, rfl, rfl, Nat.dvd_zero unit, nofun⟩

namespace Follows

variable {unit : Nat} {first : Watch Gauge} {acts : List Service.Act} {written : List Release}

/-- A session that wakes up and makes a step is followed by a step. -/
theorem step (h : Follows unit first acts written timeline) (hunit : unit ∣ Time.millisecond)
    (hwakes : timeline.wakesAt? = some moment) :
    ∃ written, Follows unit first (acts ++ [.step moment]) written
      ({ timeline with now := moment } : Timeline).step := by
  have hlater : timeline.now ≤ moment ∧ unit ∣ moment := by
    obtain rfl | ⟨hlater, hwhole⟩ := wakesAt?_cases hwakes
    · exact ⟨Nat.le_refl _, h.unit_dvd_now⟩
    · exact ⟨hlater, Nat.dvd_trans hunit hwhole⟩
  have hservice := h.service_eq
  let watch := first.after acts
  have hsession : watch.service.session = timeline.session := congrArg Service.session hservice
  have htime : watch.InTime (.step moment) := by
    refine ⟨h.now_le.trans hlater.1, fun hready => ?_⟩
    rw [hsession] at hready
    have hnow : timeline.now = watch.now := h.prompt hready
    rw [← hnow] at hready
    exact (Option.some.inj ((wakesAt?_of_released? hready).symm.trans hwakes)).symm.trans hnow
  let went (frame : Frame) : Release := ⟨frame, watch.checked, moment⟩
  let wrote := (timeline.session.wrote? moment).toList
  refine ⟨written ++ wrote.map went, ?_, ?_, ?_, ?_, ?_, ?_, ?_, hlater.2, ?_⟩
  · exact (Watch.timed_concat first acts _).2 ⟨h.timed, htime⟩
  · rw [Watch.after_concat, Watch.service_act, hservice]
    rfl
  · rw [Watch.after_concat]
    exact Nat.le_refl moment
  · rw [Watch.after_concat]
    exact fun _ => rfl
  · have hwent : wrote.Sublist (watch.service.session.released? moment).toList := by
      rw [hsession]
      exact (timeline.session.moves moment timeline.mailbox).wrote_sublist
    rw [Watch.after_concat, Watch.act, Option.toList_map]
    exact h.written_sublist.append (hwent.map went)
  · rw [List.map_append, h.frames_eq, Service.writes_concat, ← Watch.service_after, hservice,
      List.map_map]
    exact congrArg _ (List.map_id wrote)
  · rw [List.map_append, h.moments_eq, flushed_step, List.map_map]
    rfl
  · exact List.forall_mem_append.2 ⟨h.unit_dvd, List.forall_mem_map.2 fun _ _ => hlater.2⟩

/-- A session that goes on is followed by steps. -/
theorem advance (h : Follows unit first acts written timeline) (hunit : unit ∣ Time.millisecond)
    (until? : Option Nat) :
    ∃ more written, (∀ next ∈ more, next.isStep = true) ∧
      Follows unit first (acts ++ more) written (timeline.advance until?) := by
  fun_induction Timeline.advance until? timeline generalizing acts written with
  | case1 timeline hwakes => exact ⟨[], written, nofun, by rwa [List.append_nil]⟩
  | case2 timeline moment hwakes hbefore ih =>
    obtain ⟨next, hnext⟩ := h.step hunit hwakes
    obtain ⟨more, last, hsteps, hlast⟩ := ih hnext
    refine ⟨.step moment :: more, last, List.forall_mem_cons.2 ⟨rfl, hsteps⟩, ?_⟩
    rwa [List.append_assoc] at hlast
  | case3 timeline moment hwakes hlate => exact ⟨[], written, nofun, by rwa [List.append_nil]⟩

/-- What is done to the mailbox is followed by the same. -/
theorem mailbox (h : Follows unit first acts written timeline) {next : Service.Act}
    (hnext : next.isStep = false) :
    Follows unit first (acts ++ [next]) written
      { timeline with mailbox := (timeline.service.act next).mailbox } := by
  have hwatch : first.after (acts ++ [next]) =
      { first.after acts with service := timeline.service.act next } := by
    rw [Watch.after_concat, ← h.service_eq]
    cases next with
    | offer frame | stop => rfl
    | step moment => cases hnext
  have hquiet : (first.after acts).InTime next ∧ (first.service.after acts).wrote? next = none ∧
      (timeline.service.act next).session = timeline.session := by
    cases next with
    | offer frame | stop => exact ⟨trivial, rfl, rfl⟩
    | step moment => cases hnext
  obtain ⟨htime, hwrote, hsession⟩ := hquiet
  refine ⟨(Watch.timed_concat first acts next).2 ⟨h.timed, htime⟩, ?_, ?_, ?_, ?_, ?_, h.moments_eq,
    h.unit_dvd_now, h.unit_dvd⟩
  · rw [hwatch]
    exact congrArg (Service.mk _) hsession
  · exact hwatch ▸ h.now_le
  · exact hwatch ▸ h.prompt
  · exact hwatch ▸ h.written_sublist
  · rw [h.frames_eq, Service.writes_concat, hwrote]
    exact (List.append_nil _).symm

/-- A session that has gone on for as long as it could before a moment is followed until then. -/
theorem until_wake (h : Follows unit first acts written timeline) {wake : Nat}
    (hnow : timeline.now ≤ wake) (hwake : unit ∣ wake)
    (hrest : ∀ moment ∈ timeline.wakesAt?, wake ≤ moment) :
    Follows unit first acts written { timeline with now := wake } := by
  refine ⟨h.timed, h.service_eq, h.now_le.trans hnow, fun hready => ?_, h.written_sublist, h.frames_eq,
    h.moments_eq, hwake, h.unit_dvd⟩
  have hthen : timeline.now = (first.after acts).now := h.prompt hready
  rw [← hthen] at hready ⊢
  exact Nat.le_antisymm (hrest _ (wakesAt?_of_released? hready)) hnow

/-- An act is followed by what it does to the mailbox, or by steps. -/
theorem act (h : Follows unit first acts written timeline) (hunit : unit ∣ Time.millisecond)
    {next : Act} (hnext : ∀ span, next = .sleep span → unit ∣ span) :
    ∃ more written, more.filter (!·.isStep) = next.toMailbox ∧
      Follows unit first (acts ++ more) written (timeline.act next) := by
  have hnone {steps : List Service.Act} (hsteps : ∀ step ∈ steps, step.isStep = true) :
      steps.filter (!·.isStep) = [] :=
    List.filter_eq_nil_iff.2 fun step hstep => by simp [hsteps step hstep]
  cases next with
  | offer frame => exact ⟨[.offer frame], written, rfl, h.mailbox rfl⟩
  | stop => exact ⟨[.stop], written, rfl, h.mailbox rfl⟩
  | wait =>
    obtain ⟨more, last, hsteps, hlast⟩ := h.advance hunit none
    exact ⟨more, last, hnone hsteps, hlast⟩
  | sleep span =>
    let wake := timeline.now + span
    obtain ⟨more, last, hsteps, hlast⟩ := h.advance hunit (some wake)
    refine ⟨more, last, hnone hsteps, hlast.until_wake ?_ ?_ fun moment hmoment => ?_⟩
    · exact now_advance_le timeline (Nat.le_add_right _ _)
    · exact Nat.dvd_add h.unit_dvd_now (hnext span rfl)
    · obtain ⟨_, ⟨⟩, hle⟩ := le_of_wakesAt?_advance (some wake) timeline moment hmoment
      exact hle

end Follows

/-- Whatever is done to a session on a clock, there is a watched service that does the same, if the spans
of time are multiples of a unit: the frames are offered and the mailbox is stopped in the same order, and
in between the session makes its steps. -/
theorem follows_after {unit : Nat} (hunit : unit ∣ Time.millisecond) (config : SenderConfig)
    (client : Gauge) {acts : List Act} (hacts : ∀ span, .sleep span ∈ acts → unit ∣ span) :
    ∃ steps written, steps.filter (!·.isStep) = acts.flatMap Act.toMailbox ∧
      Follows unit (config.watch (.empty config.sourceCount) client 0) steps written
        ((start config client).after acts) := by
  induction acts using List.reverseRecOn with
  | nil => exact ⟨[], [], rfl, follows_start unit config client⟩
  | append_singleton acts last ih =>
    obtain ⟨steps, written, hsteps, h⟩ :=
      ih fun span hspan => hacts span (List.mem_append_left _ hspan)
    have hlast : ∀ span, last = .sleep span → unit ∣ span := fun span hspan =>
      hacts span (List.mem_append_right _ (hspan ▸ List.mem_singleton_self _))
    obtain ⟨more, later, hmore, hlater⟩ := h.act hunit hlast
    refine ⟨steps ++ more, later, ?_, after_concat _ acts last ▸ hlater⟩
    rw [List.filter_append, hsteps, hmore, List.flatMap_append, List.flatMap_singleton]

/-- Without its clock, a session on a clock is a service after some acts. -/
theorem exists_service_after (config : SenderConfig) (client : Gauge) (acts : List Act) :
    ∃ steps, steps.filter (!·.isStep) = acts.flatMap Act.toMailbox ∧
      ((start config client).after acts).service = (config.service client).after steps := by
  obtain ⟨steps, written, hsteps, h⟩ :=
    follows_after (Nat.one_dvd _) config client fun span (_ : .sleep span ∈ acts) => Nat.one_dvd span
  exact ⟨steps, hsteps, h.service_eq.symm.trans (Watch.service_after _ steps)⟩

-- ════════════════════════════════════════════════════════════════════════
-- The end
-- ════════════════════════════════════════════════════════════════════════

theorem stopped_advance (until? : Option Nat) (timeline : Timeline) :
    (timeline.advance until?).mailbox.stopped = timeline.mailbox.stopped := by
  fun_induction Timeline.advance until? timeline with
  | case1 timeline hwakes => rfl
  | case2 timeline moment hwakes hbefore ih =>
    obtain hsame | htaken := (timeline.session.moves moment timeline.mailbox).mailbox_eq
    · exact ih.trans (congrArg Mailbox.stopped hsame)
    · exact ih.trans ((congrArg Mailbox.stopped htaken).trans (Mailbox.take_keeps _).1)
  | case3 timeline moment hwakes hlate => rfl

/-- A session whose mailbox is stopped comes to its end, however long it must wait for its slot. -/
theorem finish_ends (timeline : Timeline) :
    ∃ disconnect, timeline.finish.session.phase = .ended disconnect := by
  have hstopped : timeline.finish.mailbox.stopped = true := stopped_advance none timeline.stop
  have hrest : timeline.finish.wakesAt? = none := by
    refine Option.eq_none_iff_forall_ne_some.2 fun moment hmoment => ?_
    obtain ⟨wake, hnone, -⟩ := le_of_wakesAt?_advance none timeline.stop moment hmoment
    cases hnone
  obtain ⟨-, hopen, -⟩ | hended := wakesAt?_eq_none_iff.1 hrest
  · cases hopen.symm.trans hstopped
  · exact hended

-- ════════════════════════════════════════════════════════════════════════
-- The limit on a clock
-- ════════════════════════════════════════════════════════════════════════

/-- How many frames are written within the second that starts at a moment. -/
def inSecond (start : Nat) (timeline : Timeline) : Nat :=
  (timeline.flushed.map (·.1)).countP fun moment => start ≤ moment ∧ moment < start + Time.second

section Limit

variable {config : SenderConfig} {interval unit : Nat} {acts : List Act}

/-- The frames are an interval apart, and all moments are multiples of the unit of time. -/
theorem flushed_spaced (hinterval : config.sendInterval? = some interval) (client : Gauge)
    (hunit : unit ∣ Time.millisecond) (hacts : ∀ span, .sleep span ∈ acts → unit ∣ span) :
    let moments := ((start config client).after acts).flushed.map (·.1)
    moments.Pairwise (· + interval ≤ ·) ∧ ∀ moment ∈ moments, unit ∣ moment := by
  intro moments
  obtain ⟨steps, written, -, h⟩ := follows_after hunit config client hacts
  have hpaced := Watch.paced_after config (.empty config.sourceCount) client 0 steps h.timed
  have hspaced := Watch.apart_of_spaced (hpaced.spaced interval hinterval)
  rw [show moments = _ from h.moments_eq.symm]
  exact ⟨hspaced.sublist (h.written_sublist.map _), List.forall_mem_map.2 h.unit_dvd⟩

/-- In no second there are more frames than an interval leaves room for. -/
theorem inSecond_le (hinterval : config.sendInterval? = some interval) (hpos : 0 < interval)
    (client : Gauge) (acts : List Act) (begin : Nat) :
    ((start config client).after acts).inSecond begin ≤ (Time.second - 1) / interval + 1 := by
  obtain ⟨hspaced, -⟩ :=
    flushed_spaced hinterval client (Nat.one_dvd _) fun span _ => Nat.one_dvd span
  exact Pacer.countP_second_le hpos hspaced begin

/-- An interval that is rounded up to whole milliseconds leaves no room for a frame more than the limit. -/
theorem second_le_mul_firesAt {limit : Nat} (hlimit : 0 < Time.second / limit) :
    Time.second ≤ limit * Time.firesAt (Time.second / limit) := by
  obtain ⟨count, hcount⟩ := Time.millisecond_dvd_firesAt (Time.second / limit)
  have hlate := Time.le_firesAt (Time.second / limit)
  rw [hcount] at hlate ⊢
  have hpos : 0 < limit := Nat.pos_of_ne_zero fun hzero => by simp [hzero] at hlimit
  have hcut : Time.second < limit * (Time.second / limit) + limit := Nat.lt_mul_div_succ _ hpos
  have hrounded := Nat.mul_le_mul_left limit hlate
  have hsome : limit ≤ limit * count :=
    Nat.le_mul_of_pos_right _ (Nat.pos_of_mul_pos_left (Nat.lt_of_lt_of_le hlimit hlate))
  rw [Nat.mul_left_comm] at hrounded ⊢
  -- fewer than a thousand milliseconds, and a nanosecond less for each frame, are less than a second
  by_contra hless
  simp only [Time.second, Time.millisecond] at *
  omega

/-- If time passes in whole milliseconds, a limit of frames in a second is kept. -/
theorem inSecond_le_limit (hlimit : config.maxFps ≠ 0) (hrate : config.maxFps.toNat ≤ Time.second)
    (client : Gauge) (hacts : ∀ span, .sleep span ∈ acts → Time.millisecond ∣ span) (begin : Nat) :
    ((start config client).after acts).inSecond begin ≤ config.maxFps.toNat := by
  let interval := Time.second / config.maxFps.toNat
  have hinterval : config.sendInterval? = some interval := if_neg hlimit
  have hpos : 0 < interval :=
    Nat.div_pos hrate (Nat.pos_of_ne_zero fun hzero => hlimit (UInt32.toNat_inj.1 hzero))
  have hrounded : 0 < Time.firesAt interval := Nat.lt_of_lt_of_le hpos (Time.le_firesAt interval)
  obtain ⟨hspaced, hwhole⟩ := flushed_spaced hinterval client (Nat.dvd_refl _) hacts
  -- two whole milliseconds that are an interval apart are the rounded interval apart
  have hrounds : (((start config client).after acts).flushed.map (·.1)).Pairwise
      (· + Time.firesAt interval ≤ ·) := by
    refine hspaced.imp_of_mem fun {earlier later} hearlier hlater hle => ?_
    have hdvd := Nat.dvd_sub (hwhole later hlater) (hwhole earlier hearlier)
    have hfires : Time.firesAt interval ≤ later - earlier := (Time.firesAt_le_iff hdvd).2 (by omega)
    omega
  refine (Pacer.countP_second_le hrounded hrounds begin).trans (Nat.div_lt_of_lt_mul ?_)
  have hroom : Time.second ≤ config.maxFps.toNat * Time.firesAt interval :=
    second_le_mul_firesAt hpos
  have hsecond : 0 < Time.second := by decide
  rw [Nat.mul_comm]
  omega

/-- Between whole milliseconds, with a limit of three frames in a second, four are written in a second:
each comes when its slot has just opened, and does not wait for a timer. -/
theorem four_between_milliseconds :
    let config : SenderConfig := { maxFps := 3 }
    let frame (frameId : UInt32) : Frame :=
      { sourceId := 0, frameId := frameId, timestamp := 0, payload := [] }
    let span := Time.second / 3
    let acts : List Act := [.offer (frame 1), .sleep span, .offer (frame 2), .sleep span,
      .offer (frame 3), .sleep span, .offer (frame 4), .sleep span]
    ((start config {}).after acts).inSecond 0 = config.maxFps.toNat + 1 := by
  intro config frame span acts
  let offered (timeline : Timeline) (frameId : UInt32) : Timeline := (timeline.offer (frame frameId)).2
  let later (timeline : Timeline) : Timeline := { timeline.step.step with now := timeline.now + span }
  let first := offered (start config {}) 1
  let second := offered (later first) 2
  let third := offered (later second) 3
  let fourth := offered (later third) 4
  have hprompt : ∀ timeline ∈ [first, second, third, fourth],
      timeline.wakesAt? = some timeline.now ∧ timeline.step.wakesAt? = some timeline.now ∧
        timeline.step.step.wakesAt? = none := by
    decide +kernel
  have hsleep : ∀ timeline ∈ [first, second, third, fourth],
      timeline.sleep span = later timeline := by
    intro timeline hmem
    obtain ⟨htakes, hsends, hrests⟩ := hprompt timeline hmem
    exact sleep_of_prompt (by decide) htakes hsends hrests
  have hsecond : offered (first.sleep span) 2 = second := by rw [hsleep first (by simp)]
  have hthird : offered (second.sleep span) 3 = third := by rw [hsleep second (by simp)]
  have hfourth : offered (third.sleep span) 4 = fourth := by rw [hsleep third (by simp)]
  have hafter : (start config {}).after acts = later fourth := by
    rw [← hsleep fourth (by simp), ← hfourth, ← hthird, ← hsecond]
    rfl
  rw [hafter]
  decide +kernel

end Limit

end Timeline

end FramedVideo
