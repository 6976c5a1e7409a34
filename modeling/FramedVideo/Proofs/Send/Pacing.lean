import FramedVideo.Proofs.Send.Broken
import FramedVideo.Proofs.Send.Fates
import Mathlib.Data.List.Chain

/-!
# Pacing

A clock runs while a session takes frames and writes them. A frame whose size is right may go when the
slot of the pacer is open, and the slot opens an interval after the frame before it went. It is assumed
that the clock does not go back, and that a frame that finds its slot open does not wait. Then the first
frame goes at once, and of the later ones each that comes an interval after its predecessor went. Frames
that are too large have no part in this.

## Main definitions

- `SendSession.released?` — the frame that the pacer lets go in a step
- `Release` — a frame that went, with the moments at which it was checked and went
- `Watch` — a service with its clock and the frames that went
- `Watch.Timed` — acts that keep to the clock
- `Watch.Paced` — how the frames that went are spaced

Main statements: `Pacer.length_le_of_spaced`, `SendSession.Moves.paces`, `Watch.Paced.step`,
`Watch.spaces_frames`.
-/

namespace FramedVideo

open Transport (Sink Gauge)

variable {ω : Type}

-- ════════════════════════════════════════════════════════════════════════
-- The pacer
-- ════════════════════════════════════════════════════════════════════════

namespace Pacer

theorem isOpen_iff (pacer : Pacer) (now : Nat) :
    pacer.isOpen now = true ↔ ∀ moment ∈ pacer.opensAt?, moment ≤ now := by
  unfold isOpen
  cases pacer.opensAt? <;> simp

/-- The first frame has no slot to wait for. -/
theorem opensAt?_first (interval : Option Nat) : opensAt? { interval := interval } = none := by
  cases interval <;> rfl

theorem interval_release (pacer : Pacer) (now : Nat) :
    (pacer.release now).interval = pacer.interval := by
  unfold release
  split <;> rfl

theorem opensAt?_release (pacer : Pacer) (now : Nat) :
    (pacer.release now).opensAt? = pacer.interval.map (now + ·) := by
  unfold release opensAt?
  cases hinterval : pacer.interval <;> simp [hinterval]

/-- Moments that are an interval apart are few in any span of time. -/
theorem length_le_of_spaced {interval : Nat} (hinterval : 0 < interval) {moments : List Nat}
    (hspaced : moments.Pairwise (· + interval ≤ ·)) {start finish : Nat}
    (hspan : ∀ moment ∈ moments, start ≤ moment ∧ moment ≤ finish) :
    moments.length ≤ (finish - start) / interval + 1 := by
  have hroom : moments.length * interval ≤ finish - start + interval := by
    induction moments generalizing start with
    | nil => simp
    | cons first rest ih =>
      obtain ⟨hfirst, hrest⟩ := List.pairwise_cons.1 hspaced
      obtain ⟨hspanFirst, hspanRest⟩ := List.forall_mem_cons.1 hspan
      have hlater := ih hrest fun moment hmoment =>
        ⟨hfirst moment hmoment, (hspanRest moment hmoment).2⟩
      rw [List.length_cons, Nat.succ_mul]
      cases rest with
      | nil => simp
      | cons second rest =>
        have hsecond := hfirst second List.mem_cons_self
        have hlast := (hspanRest second List.mem_cons_self).2
        omega
  rw [← Nat.add_div_right _ hinterval, Nat.le_div_iff_mul_le hinterval]
  exact hroom

theorem countP_le_of_spaced {interval : Nat} (hinterval : 0 < interval) {moments : List Nat}
    (hspaced : moments.Pairwise (· + interval ≤ ·)) (begin finish : Nat) :
    moments.countP (fun moment => begin ≤ moment ∧ moment ≤ finish) ≤
      (finish - begin) / interval + 1 := by
  rw [List.countP_eq_length_filter]
  exact length_le_of_spaced hinterval (hspaced.filter _) fun moment hmoment =>
    of_decide_eq_true (List.mem_filter.1 hmoment).2

end Pacer

-- ════════════════════════════════════════════════════════════════════════
-- What a step does to the pacer
-- ════════════════════════════════════════════════════════════════════════

namespace SendSession

/-- The frame that the pacer lets go to the writer in a step, if it lets one go. -/
def released? (now : Nat) (session : SendSession ω) : Option Frame :=
  match session.phase with
  | .holding frame => if session.pacer.isOpen now then some frame else none
  | _ => none

/-- What a step does to the pacer, with the frame that it takes and the frame that it lets go. -/
inductive Paces (now : Nat) (session : SendSession ω) :
    SendSession ω → Option Frame → Option Frame → Prop where
  /-- No frame is held. One that is taken is held then, if its size is right. -/
  | free {next took?} (hfree : Service.held session = []) (hpacer : next.pacer = session.pacer)
    (hheld : Service.held next = took?.toList.filter (·.Fits session.writer.protocol))
    (htaking : Service.held next ≠ [] → session.phase = .taking) :
    Paces now session next took? none
  /-- The slot is not open yet. -/
  | rests {frame} (hphase : session.phase = .holding frame)
    (hclosed : session.pacer.isOpen now = false) : Paces now session session none none
  /-- The frame that is held goes. -/
  | lets {frame next} (hphase : session.phase = .holding frame)
    (hopen : session.pacer.isOpen now = true)
    (hpacer : next.pacer = session.pacer.release now) (hheld : Service.held next = []) :
    Paces now session next none (some frame)

variable [Sink ω] {now : Nat} {mailbox : Mailbox} {session : SendSession ω} {stepped : Stepped ω}
  {took? wrote? : Option Frame}

theorem Moves.paces (h : session.Moves now mailbox stepped took? wrote?) :
    session.Paces now stepped.session took? (session.released? now) := by
  unfold released?
  cases h with
  | idle hphase =>
    rw [hphase]
    exact .free (by simp [Service.held, hphase]) rfl (by simp [Service.held, hphase])
      fun hheld => absurd (by simp [Service.held, hphase]) hheld
  | waits hphase htake =>
    rw [hphase]
    exact .free (by simp [Service.held, hphase]) rfl (by simp [Service.held, hphase])
      fun _ => hphase
  | closes hphase htake =>
    rw [hphase, close_fst]
    exact .free (by simp [Service.held, hphase]) rfl (by simp [Service.held]) fun _ => hphase
  | refuses hphase htake hheader =>
    rw [hphase]
    have hfits := Frame.not_fits_of_header hheader
    exact .free (by simp [Service.held, hphase]) rfl (by simp [Service.held, drop, hfits])
      fun _ => hphase
  | takes hphase htake hheader =>
    rw [hphase]
    have hfits := Frame.fits_of_header hheader
    exact .free (by simp [Service.held, hphase]) rfl (by simp [Service.held, hfits])
      fun _ => hphase
  | rests hphase hclosed =>
    simp only [hphase, hclosed]
    exact .rests hphase hclosed
  | sends hphase hopen hwrite hstats =>
    simp only [hphase, hopen, if_true]
    exact .lets hphase hopen rfl rfl
  | drops hphase hopen hwrite hdrop =>
    simp only [hphase, hopen, if_true]
    cases hdrop
    exact .lets hphase hopen rfl rfl
  | breaks hphase hopen hwrite =>
    simp only [hphase, hopen, if_true]
    exact .lets hphase hopen rfl rfl

/-- A frame that is taken is held or dropped at once, and the pacer is not asked. -/
theorem step_of_frame (now : Nat) {frame : Frame} (hphase : session.phase = .taking)
    (htake : mailbox.take.1 = .frame frame) :
    (session.step now mailbox).session.pacer = session.pacer ∧
      (session.step now mailbox).session.phase =
        if frame.Fits session.writer.protocol then .holding frame else .taking := by
  obtain ⟨left, hleft⟩ : ∃ left, mailbox.take = (.frame frame, left) := ⟨_, Prod.ext htake rfl⟩
  by_cases hfits : frame.Fits session.writer.protocol
  · obtain ⟨header, hheader, -⟩ := Frame.header_of_fits hfits
    simp [step, hphase, hleft, hheader, hfits]
  · simp [step, hphase, hleft, Frame.header_of_not_fits hfits, hfits, drop]

/-- A frame that is written has been let go. -/
theorem Moves.wrote_sublist (h : session.Moves now mailbox stepped took? wrote?) :
    wrote?.toList.Sublist (session.released? now).toList := by
  cases h with
  | sends hphase hopen hwrite hstats => simp [released?, hphase, hopen]
  | _ => exact List.nil_sublist _

end SendSession

-- ════════════════════════════════════════════════════════════════════════
-- A service with a clock
-- ════════════════════════════════════════════════════════════════════════

/-- A frame that went to the writer. -/
structure Release where
  frame : Frame
  /-- When its size was found right. -/
  checked : Nat
  /-- When the pacer let it go. -/
  released : Nat
  deriving DecidableEq, Repr

/-- The later of two frames went an interval after the earlier one, and without waiting if it was checked
by then. -/
def Release.Spaced (interval : Nat) (earlier later : Release) : Prop :=
  earlier.released + interval ≤ later.released ∧
    (earlier.released + interval ≤ later.checked → later.released = later.checked)

/-- A service with its clock, and the frames that went so far. -/
structure Watch (ω : Type) where
  service : Service ω
  /-- The moment of the last step. -/
  now : Nat
  /-- The moment at which a frame was last looked for; the frame that is held was checked then. -/
  checked : Nat := 0
  releases : List Release := []

/-- The watch over the session of a sender with a client, from a moment on. -/
def SenderConfig.watch (config : SenderConfig) (mailbox : Mailbox) (sink : ω) (start : Nat) :
    Watch ω where
  service := ⟨mailbox, config.session sink⟩
  now := start

namespace Watch

open Service (Act)

section Timed

variable [Sink ω]

/-- The service after one act, with the clock at its moment. -/
def act (watch : Watch ω) : Act → Watch ω
  | .step moment =>
    let session := watch.service.session
    let released := (session.released? moment).map (⟨·, watch.checked, moment⟩)
    { service := watch.service.act (.step moment)
      now := moment
      checked := if session.phase = .taking then moment else watch.checked
      releases := watch.releases ++ released.toList }
  | other => { watch with service := watch.service.act other }

/-- The service and the clock after several acts. -/
def after (watch : Watch ω) (acts : List Act) : Watch ω := acts.foldl act watch

/-- An act keeps to the clock: it does not go back, and a frame that may go now does not wait. -/
def InTime (watch : Watch ω) : Act → Prop
  | .step moment => watch.now ≤ moment ∧
    ((watch.service.session.released? watch.now).isSome = true → moment = watch.now)
  | _ => True

/-- Several acts keep to the clock. -/
def Timed (watch : Watch ω) : List Act → Prop
  | [] => True
  | next :: acts => watch.InTime next ∧ (watch.act next).Timed acts

instance (watch : Watch ω) (next : Act) : Decidable (watch.InTime next) :=
  match next with
  | .step _ => inferInstanceAs (Decidable (_ ∧ (_ → _)))
  | .offer _ => .isTrue trivial
  | .stop => .isTrue trivial

instance decidableTimed (watch : Watch ω) (acts : List Act) : Decidable (watch.Timed acts) :=
  match acts with
  | [] => .isTrue trivial
  | next :: acts =>
    have := decidableTimed (watch.act next) acts
    inferInstanceAs (Decidable (_ ∧ _))

theorem after_concat (watch : Watch ω) (acts : List Act) (last : Act) :
    watch.after (acts ++ [last]) = (watch.after acts).act last := List.foldl_concat _ _ _ _

theorem timed_concat (watch : Watch ω) (acts : List Act) (last : Act) :
    watch.Timed (acts ++ [last]) ↔ watch.Timed acts ∧ (watch.after acts).InTime last := by
  induction acts generalizing watch with
  | nil => exact and_comm
  | cons next acts ih => exact (and_congr_right fun _ => ih (watch.act next)).trans and_assoc.symm

theorem service_act (watch : Watch ω) (next : Act) :
    (watch.act next).service = watch.service.act next := by
  cases next <;> rfl

theorem service_after (watch : Watch ω) (acts : List Act) :
    (watch.after acts).service = watch.service.after acts := by
  induction acts using List.reverseRecOn with
  | nil => rfl
  | append_singleton acts last ih =>
    rw [after_concat, service_act, ih, Service.after_concat]

end Timed

/-- How the frames that went are spaced. Those that were taken and are not too large went, in order, and
the last of them may still be held; the slot of the pacer opens an interval after the last one that
went. -/
structure Paced (config : SenderConfig) (watch : Watch ω) (taken : List Frame) : Prop where
  agreed : watch.service.session.writer.protocol = config.protocol
  interval : watch.service.session.pacer.interval = config.sendInterval?
  slot : watch.service.session.pacer.opensAt? = config.sendInterval?.bind fun interval =>
    watch.releases.getLast?.map (·.released + interval)
  frames : taken.filter (·.Fits config.protocol) =
    watch.releases.map (·.frame) ++ Service.held watch.service.session
  /-- A frame that found its slot open when it was checked has not waited. -/
  prompt : Service.held watch.service.session ≠ [] → watch.checked ≤ watch.now ∧
    (watch.service.session.pacer.isOpen watch.checked = true → watch.now = watch.checked)
  checked : ∀ release ∈ watch.releases, release.checked ≤ release.released
  unlimited : config.sendInterval? = none →
    ∀ release ∈ watch.releases, release.released = release.checked
  first : ∀ release ∈ watch.releases.head?, release.released = release.checked
  spaced : ∀ interval, config.sendInterval? = some interval →
    watch.releases.IsChain (Release.Spaced interval)

namespace Paced

variable {config : SenderConfig} {watch : Watch ω} {taken : List Frame}

theorem start (config : SenderConfig) (mailbox : Mailbox) (sink : ω) (start : Nat) :
    (config.watch mailbox sink start).Paced config [] where
  agreed := rfl
  interval := rfl
  slot := (Pacer.opensAt?_first _).trans (by cases config.sendInterval? <;> rfl)
  frames := rfl
  prompt := fun h => absurd rfl h
  checked := nofun
  unlimited := fun _ => nofun
  first := nofun
  spaced := fun _ _ => .nil

/-- The slot that a frame waits for. -/
theorem isOpen_iff (h : watch.Paced config taken) (moment : Nat) :
    watch.service.session.pacer.isOpen moment = true ↔
      ∀ interval ∈ config.sendInterval?, ∀ earlier ∈ watch.releases.getLast?,
        earlier.released + interval ≤ moment := by
  rw [Pacer.isOpen_iff, h.slot]
  cases config.sendInterval? <;> cases watch.releases.getLast? <;> simp

theorem first_concat (h : watch.Paced config taken) {release : Release}
    (hprompt : watch.service.session.pacer.isOpen release.checked = true →
      release.released = release.checked) :
    ∀ first ∈ (watch.releases ++ [release]).head?, first.released = first.checked := by
  rw [h.isOpen_iff] at hprompt
  cases hreleases : watch.releases with
  | nil =>
    rintro _ ⟨⟩
    exact hprompt (by simp [hreleases])
  | cons head rest =>
    rintro _ ⟨⟩
    exact h.first head (by simp [hreleases])

theorem spaced_concat (h : watch.Paced config taken) {interval : Nat}
    (hinterval : config.sendInterval? = some interval) {release : Release}
    (hopen : watch.service.session.pacer.isOpen release.released = true)
    (hprompt : watch.service.session.pacer.isOpen release.checked = true →
      release.released = release.checked) :
    (watch.releases ++ [release]).IsChain (Release.Spaced interval) := by
  rw [h.isOpen_iff, hinterval] at hopen hprompt
  refine (h.spaced interval hinterval).append (.singleton _) ?_
  rintro earlier hearlier _ ⟨⟩
  refine ⟨hopen interval rfl earlier hearlier, fun hlate => hprompt ?_⟩
  rintro _ ⟨⟩ last hlast
  exact Option.mem_unique hearlier hlast ▸ hlate

/-- A frame that goes has not waited if its slot was open when it was checked. -/
theorem released_eq (h : watch.Paced config taken) {frame : Frame} {moment : Nat}
    (hphase : watch.service.session.phase = .holding frame) (htime : watch.InTime (.step moment)) :
    watch.checked ≤ moment ∧
      (watch.service.session.pacer.isOpen watch.checked = true → moment = watch.checked) := by
  obtain ⟨hclock, hready⟩ := htime
  obtain ⟨hchecked, hprompt⟩ := h.prompt (by simp [Service.held, hphase])
  refine ⟨hchecked.trans hclock, fun hopen => ?_⟩
  have hnow := hprompt hopen
  have hstill : (watch.service.session.released? watch.now).isSome = true := by
    rw [hnow]
    simp [SendSession.released?, hphase, hopen]
  exact (hready hstill).trans hnow

theorem with_mailbox (h : watch.Paced config taken) (mailbox : Mailbox) :
    Paced config { watch with service := { watch.service with mailbox := mailbox } } taken :=
  ⟨h.agreed, h.interval, h.slot, h.frames, h.prompt, h.checked, h.unlimited, h.first, h.spaced⟩

variable [Sink ω]

/-- A step that keeps to the clock keeps the frames spaced. -/
theorem step (h : watch.Paced config taken) {moment : Nat} (htime : watch.InTime (.step moment)) :
    (watch.act (.step moment)).Paced config
      (taken ++ (watch.service.session.took? watch.service.mailbox).toList) := by
  have hmoves := watch.service.session.moves moment watch.service.mailbox
  have hagreed := hmoves.protocol.trans h.agreed
  have hpaces := hmoves.paces
  rw [act, Service.act]
  generalize watch.service.session.step moment watch.service.mailbox = stepped at hpaces hagreed ⊢
  obtain ⟨next, left, log⟩ := stepped
  generalize watch.service.session.took? watch.service.mailbox = took? at hpaces ⊢
  generalize hreleased : watch.service.session.released? moment = released? at hpaces ⊢
  dsimp only at hagreed hpaces ⊢
  cases hpaces with
  | free hfree hpacer hheld htaking =>
    have hframes := h.frames
    rw [hfree, List.append_nil] at hframes
    rw [h.agreed] at hheld
    simp only [Option.map_none, Option.toList_none, List.append_nil]
    refine ⟨hagreed, hpacer ▸ h.interval, hpacer ▸ h.slot, ?_, fun hheld => ?_, h.checked,
      h.unlimited, h.first, h.spaced⟩
    · rw [List.filter_append, hframes, hheld]
    · rw [if_pos (htaking hheld)]
      exact ⟨Nat.le_refl _, fun _ => rfl⟩
  | @rests frame hphase hclosed =>
    simp only [Option.map_none, Option.toList_none, List.append_nil, hphase, reduceCtorEq, if_false]
    exact ⟨h.agreed, h.interval, h.slot, h.frames, fun _ => h.released_eq hphase htime, h.checked,
      h.unlimited, h.first, h.spaced⟩
  | @lets frame _ hphase hopen hpacer hheld =>
    obtain ⟨hchecked, hprompt⟩ := h.released_eq hphase htime
    simp only [Option.map_some, Option.toList_some, Option.toList_none, List.append_nil]
    refine ⟨hagreed, ?_, ?_, ?_, fun hne => absurd hheld hne, ?_, fun hnone => ?_, ?_,
      fun interval hinterval => ?_⟩
    · rw [hpacer, Pacer.interval_release, h.interval]
    · rw [hpacer, Pacer.opensAt?_release, h.interval]
      cases config.sendInterval? <;> simp
    · rw [h.frames, hheld, Service.held, hphase, List.map_append, List.append_nil]
      rfl
    · exact List.forall_mem_append.2 ⟨h.checked, List.forall_mem_singleton.2 hchecked⟩
    · refine List.forall_mem_append.2 ⟨h.unlimited hnone, List.forall_mem_singleton.2 (hprompt ?_)⟩
      rw [h.isOpen_iff, hnone]
      rintro interval ⟨⟩
    · exact h.first_concat hprompt
    · exact h.spaced_concat hinterval hopen hprompt

end Paced

variable [Sink ω]

theorem paced_after (config : SenderConfig) (mailbox : Mailbox) (sink : ω) (start : Nat)
    (acts : List Act) (htimed : (config.watch mailbox sink start).Timed acts) :
    let first := config.watch mailbox sink start
    (first.after acts).Paced config (first.service.takes acts) := by
  intro first
  induction acts using List.reverseRecOn with
  | nil => exact .start config mailbox sink start
  | append_singleton acts last ih =>
    obtain ⟨hbefore, hlast⟩ := (timed_concat first acts last).1 htimed
    have hpaced := ih hbefore
    rw [after_concat, Service.takes_concat, ← service_after]
    cases last with
    | offer frame | stop =>
      simp only [Service.took?, Option.toList_none, List.append_nil]
      exact hpaced.with_mailbox _
    | step moment => exact hpaced.step hlast

/-- Every frame that is written has been let go before. -/
theorem writes_sublist (first : Watch ω) (acts : List Act) :
    (first.service.writes acts).Sublist ((first.after acts).releases.map (·.frame)) := by
  induction acts using List.reverseRecOn with
  | nil => exact List.nil_sublist _
  | append_singleton acts last ih =>
    rw [after_concat, Service.writes_concat, ← service_after]
    cases last with
    | offer frame | stop => simpa [Service.wrote?, act] using ih
    | step moment =>
      have hmoves := (first.after acts).service.session.moves moment (first.after acts).service.mailbox
      rw [act, List.map_append]
      refine ih.append (hmoves.wrote_sublist.trans ?_)
      cases (first.after acts).service.session.released? moment <;> simp

theorem apart_of_spaced {interval : Nat} {releases : List Release}
    (hspaced : releases.IsChain (Release.Spaced interval)) :
    (releases.map (·.released)).Pairwise (· + interval ≤ ·) := by
  let Apart (earlier later : Release) : Prop := earlier.released + interval ≤ later.released
  have htrans : Trans Apart Apart Apart := ⟨fun hab hbc => by dsimp only [Apart] at *; omega⟩
  have hpairs : releases.Pairwise Apart := List.IsChain.pairwise (hspaced.imp fun _ _ h => h.1)
  exact List.pairwise_map.2 hpairs

/-- In any span of time few frames go. -/
theorem count_le_of_spaced {interval : Nat} (hinterval : 0 < interval) {releases : List Release}
    (hspaced : releases.IsChain (Release.Spaced interval)) (begin finish : Nat) :
    releases.countP (fun release => begin ≤ release.released ∧ release.released ≤ finish) ≤
      (finish - begin) / interval + 1 := by
  have hcount := Pacer.countP_le_of_spaced hinterval (apart_of_spaced hspaced) begin finish
  rwa [List.countP_map] at hcount

/-- How frames are spaced, whatever is offered, however long the writes take, and however late the timer
is. The frames that go are those that are taken and not too large, in order. Without a limit none waits.
With one the first goes at once; a later one goes an interval after its predecessor or later, and without
waiting if it was checked by then; so in any span of time few go, and no idle time is made up for. A frame
that is held goes as soon as its slot is open. One that is too large is dropped in the step that takes it,
and leaves the slot where it is. -/
theorem spaces_frames (config : SenderConfig) (mailbox : Mailbox) (sink : ω) (start : Nat)
    (acts : List Act) (htimed : (config.watch mailbox sink start).Timed acts) :
    let first := config.watch mailbox sink start
    let watch := first.after acts
    let session := watch.service.session
    let releases := watch.releases
    (first.service.takes acts).filter (·.Fits config.protocol) =
      releases.map (·.frame) ++ Service.held session ∧
    (first.service.writes acts).Sublist (releases.map (·.frame)) ∧
    (∀ release ∈ releases, release.checked ≤ release.released) ∧
    (config.maxFps = 0 → ∀ release ∈ releases, release.released = release.checked) ∧
    (∀ interval, config.sendInterval? = some interval →
      (∀ release ∈ releases.head?, release.released = release.checked) ∧
      releases.IsChain (Release.Spaced interval) ∧
      (0 < interval → ∀ begin finish,
        releases.countP (fun release => begin ≤ release.released ∧ release.released ≤ finish) ≤
          (finish - begin) / interval + 1)) ∧
    (∀ frame, session.phase = .holding frame → ∀ moment,
      (∀ interval ∈ config.sendInterval?, ∀ earlier ∈ releases.getLast?,
        earlier.released + interval ≤ moment) →
      (watch.act (.step moment)).releases = releases ++ [⟨frame, watch.checked, moment⟩]) ∧
    ∀ frame, session.phase = .taking → watch.service.mailbox.take.1 = .frame frame → ∀ moment,
      let next := watch.act (.step moment)
      next.service.session.phase =
        (if frame.Fits config.protocol then .holding frame else .taking) ∧
      next.service.session.pacer = session.pacer ∧ next.checked = moment ∧
      next.releases = releases := by
  intro first watch session releases
  have hpaced : watch.Paced config (first.service.takes acts) :=
    paced_after config mailbox sink start acts htimed
  refine ⟨hpaced.frames, writes_sublist first acts, hpaced.checked, fun hzero => ?_,
    fun interval hinterval => ?_, fun frame hphase moment hslot => ?_,
    fun frame hphase htake moment => ?_⟩
  · exact hpaced.unlimited (if_pos hzero)
  · have hspaced := hpaced.spaced interval hinterval
    exact ⟨hpaced.first, hspaced, fun hpos => count_le_of_spaced hpos hspaced⟩
  · have hopen := (hpaced.isOpen_iff moment).2 hslot
    simp [act, SendSession.released?, show watch.service.session.phase = _ from hphase, hopen, releases]
  · obtain ⟨hpacer, hnext⟩ := SendSession.step_of_frame moment hphase htake
    rw [hpaced.agreed] at hnext
    refine ⟨hnext, hpacer, if_pos hphase, ?_⟩
    simp [act, SendSession.released?, show watch.service.session.phase = _ from hphase, releases]

/-- Two frames in a second at most. The second frame that may go waits for its slot, and goes a little
later; one that is too large comes before it. The third comes after a long time and goes at once. -/
theorem spaces_frames_of_three :
    let frame (sourceId : UInt16) (frameId : UInt32) (payload : Bytes) : Frame :=
      { sourceId := sourceId, frameId := frameId, timestamp := 0, payload := payload }
    let config : SenderConfig := { sourceCount := 2, maxFps := 2, protocol := { maxPayload := 1 } }
    let first : Watch Gauge := config.watch (.empty 2) {} 0
    let acts : List Act := [.offer (frame 0 1 []), .offer (frame 1 2 [7, 8]), .step 0, .step 0,
      .step 100, .offer (frame 0 3 []), .step 200, .step 300, .step 500000050,
      .offer (frame 1 4 [9]), .step 3000000000, .step 3000000000]
    first.Timed acts ∧
      (first.after acts).releases = [⟨frame 0 1 [], 0, 0⟩, ⟨frame 0 3 [], 200, 500000050⟩,
        ⟨frame 1 4 [9], 3000000000, 3000000000⟩] ∧
      (first.after acts).releases.IsChain (Release.Spaced 500000000) := by
  intro frame config first acts
  have htimed : first.Timed acts := by decide +kernel
  obtain ⟨-, -, -, -, hlimit, -⟩ := spaces_frames config (.empty 2) ({} : Gauge) 0 acts htimed
  exact ⟨htimed, by decide +kernel, (hlimit 500000000 (by decide)).2.1⟩

end Watch

end FramedVideo
