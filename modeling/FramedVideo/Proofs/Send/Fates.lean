import FramedVideo.Proofs.Send.Pushes

/-!
# What becomes of a push

Every frame that is pushed into a mailbox that is served is written, held by the session, waiting in
the mailbox, or lost for a reason. An act moves pushes from one place to the next and lets none
disappear, and those of one source keep the order in which they were pushed.

## Main definitions

- `Service.Kept` — where the pushes are that are not lost

Main statements: `Service.kept_after`, `Service.writes_of_ended`.
-/

namespace FramedVideo.Service

open Transport (Sink Recorded Reliable)

variable {ω : Type} [Sink ω]

/-- The frame that a session holds, if it holds one. -/
def held (session : SendSession ω) : List Frame :=
  match session.phase with
  | .holding frame => [frame]
  | _ => []

/-- Where the pushes are that are not lost: written, held by the session, or waiting. Those of one
source were pushed in this order. -/
structure Kept (config : SenderConfig) (first : Service ω) (acts : List Act)
    (sent hand queue : List Push) : Prop where
  written : sent.map (·.frame) = first.writes acts
  holding : hand.map (·.frame) = held (first.after acts).session
  holds : (first.after acts).mailbox.Holds (queue.map (·.frame))
  stopped : (first.after acts).session.phase = .ended none →
    (first.after acts).mailbox.stopped = true
  waits : ∀ push ∈ queue, Waits first acts push
  ordered : ∀ sourceId, (Push.ofSource sourceId (sent ++ hand ++ queue)).Sublist
    (Push.ofSource sourceId (pushes acts))
  accounted : ∀ push ∈ pushes acts, push ∈ sent ++ hand ++ queue ∨ Lost config first acts push

theorem kept_nil (config : SenderConfig) (sink : ω) :
    Kept config (config.service sink) [] [] [] [] :=
  ⟨rfl, rfl, Mailbox.holds_empty config.sourceCount, nofun, nofun, fun _ => .slnil, nofun⟩

section Offer

variable {config : SenderConfig} {first : Service ω} {acts : List Act} {sent hand queue : List Push}

/-- A push that waits goes on to wait if it is still in the queue, and no other push of its source
came in. -/
theorem Kept.waits_concat (h : Kept config first acts sent hand queue) {last : Act} {push : Push}
    {queue' : List Push}
    (hholds : (first.after (acts ++ [last])).mailbox.Holds (queue'.map (·.frame)))
    (hpush : push ∈ queue) (hstill : push ∈ queue')
    (hother : ∀ newer, last = .offer newer → newer.sourceId = push.frame.sourceId →
      ((first.after acts).mailbox.offer newer).1 = .ignored) :
    Waits first (acts ++ [last]) push :=
  .stays (h.waits push hpush) ((hholds.waiting _ _).2 ⟨List.mem_map_of_mem hstill, rfl⟩) hother

/-- What an offer leaves untouched, and what remains to be shown of it. -/
theorem Kept.concat_offer (h : Kept config first acts sent hand queue) (frame : Frame)
    {left : Mailbox} {queue' : List Push}
    (hleft : ((first.after acts).mailbox.offer frame).2 = left)
    (hholds : left.Holds (queue'.map (·.frame)))
    (hwaits : ∀ push ∈ queue', Waits first (acts ++ [.offer frame]) push)
    (hordered : ∀ sourceId, (Push.ofSource sourceId (sent ++ hand ++ queue')).Sublist
      (Push.ofSource sourceId (pushes acts ++ [⟨acts.length, frame⟩])))
    (haccounted : ∀ push ∈ pushes acts ++ [⟨acts.length, frame⟩],
      push ∈ sent ++ hand ++ queue' ∨ Lost config first (acts ++ [.offer frame]) push) :
    Kept config first (acts ++ [.offer frame]) sent hand queue' := by
  have hpushes : pushes (acts ++ [.offer frame]) = pushes acts ++ [⟨acts.length, frame⟩] :=
    pushes_concat acts (.offer frame)
  refine ⟨?_, ?_, ?_, ?_, hwaits, hpushes ▸ hordered, hpushes ▸ haccounted⟩
  · rw [h.written, writes_concat]
    exact (List.append_nil _).symm
  · rw [h.holding, after_concat]
    rfl
  · rw [after_concat, act, hleft]
    exact hholds
  · rw [after_concat]
    exact fun hended => (mailbox_act _ _).1.2 (.inl (h.stopped hended))

theorem Kept.offer_ignored (h : Kept config first acts sent hand queue) (frame : Frame)
    (hoffer : (first.after acts).mailbox.offer frame = (.ignored, (first.after acts).mailbox))
    (hreason : .stop ∈ acts ∨ config.sourceCount ≤ frame.sourceId) :
    Kept config first (acts ++ [.offer frame]) sent hand queue := by
  have houtcome : ((first.after acts).mailbox.offer frame).1 = .ignored := congrArg Prod.fst hoffer
  have hleft : (first.after (acts ++ [.offer frame])).mailbox = (first.after acts).mailbox := by
    rw [after_concat, act, hoffer]
  refine h.concat_offer frame (congrArg Prod.snd hoffer) h.holds ?_ ?_ ?_
  · intro push hpush
    refine h.waits_concat (hleft ▸ h.holds) hpush hpush ?_
    rintro newer ⟨⟩ -
    exact houtcome
  · intro sourceId
    rw [Push.ofSource_append (pushes acts)]
    exact (h.ordered sourceId).trans (List.sublist_append_left _ _)
  · intro push hpush
    obtain hbefore | hlast := List.mem_append.1 hpush
    · exact (h.accounted push hbefore).imp_right (·.concat _)
    · rw [List.mem_singleton.1 hlast]
      exact .inr (.ignored rfl rfl houtcome hreason)

/-- An offer that is accepted comes into the queue, perhaps in the place of an older push of its
source. -/
theorem Kept.offer_accepted {before olds after : List Push}
    (h : Kept config first acts sent hand (before ++ olds ++ after)) (frame : Frame)
    (haccepted : ((first.after acts).mailbox.offer frame).1 ≠ .ignored)
    (hholds : ((first.after acts).mailbox.offer frame).2.Holds
      ((before ++ ⟨acts.length, frame⟩ :: after).map (·.frame)))
    (hsource : ∀ old ∈ olds, old.frame.sourceId = frame.sourceId)
    (hlost : ∀ old ∈ olds, Lost config first (acts ++ [.offer frame]) old) :
    Kept config first (acts ++ [.offer frame]) sent hand
      (before ++ ⟨acts.length, frame⟩ :: after) := by
  let new : Push := ⟨acts.length, frame⟩
  have hafter : (first.after (acts ++ [.offer frame])).mailbox.Holds
      ((before ++ new :: after).map (·.frame)) := by
    rw [after_concat]
    exact hholds
  have hsides : ∀ push, push ∈ before ∨ push ∈ after → push.frame.sourceId ≠ frame.sourceId := by
    intro push hpush
    have hnodup := hholds.nodup
    rw [List.map_append, List.map_cons] at hnodup
    exact Mailbox.Holds.source_ne_of_split hnodup (hpush.imp List.mem_map_of_mem List.mem_map_of_mem)
  refine h.concat_offer frame rfl hholds ?_ ?_ ?_
  · intro push hpush
    obtain hbefore | hnew | hbehind := by simpa only [List.mem_append, List.mem_cons] using hpush
    · refine h.waits_concat hafter (by simp [hbefore]) hpush ?_
      rintro newer ⟨⟩ hsame
      exact absurd hsame.symm (hsides push (.inl hbefore))
    · rw [hnew]
      exact .offered haccepted ((hafter.waiting _ _).2 ⟨by simp [new], rfl⟩)
    · refine h.waits_concat hafter (by simp [hbehind]) hpush ?_
      rintro newer ⟨⟩ hsame
      exact absurd hsame.symm (hsides push (.inr hbehind))
  · intro sourceId
    have hordered := h.ordered sourceId
    simp only [Push.ofSource_append] at hordered ⊢
    by_cases hsame : frame.sourceId = sourceId
    · have hbefore : Push.ofSource sourceId before = [] :=
        Push.ofSource_eq_nil fun push hpush => hsame ▸ hsides push (.inl hpush)
      have hbehind : Push.ofSource sourceId after = [] :=
        Push.ofSource_eq_nil fun push hpush => hsame ▸ hsides push (.inr hpush)
      rw [Push.ofSource_cons_self after hsame, Push.ofSource_cons_self [] hsame, hbefore, hbehind]
      exact ((List.sublist_append_left _ _).trans hordered).append (.refl _)
    · have hnew : Push.ofSource sourceId [new] = [] :=
        Push.ofSource_eq_nil fun push hpush => List.mem_singleton.1 hpush ▸ hsame
      have holds : Push.ofSource sourceId olds = [] :=
        Push.ofSource_eq_nil fun old hold => (hsource old hold).symm ▸ hsame
      have hqueue : Push.ofSource sourceId (new :: after) = Push.ofSource sourceId after := by
        rw [← List.singleton_append, Push.ofSource_append, hnew, List.nil_append]
      rw [hqueue, hnew, List.append_nil]
      rw [holds, List.append_nil] at hordered
      exact hordered
  · intro push hpush
    obtain hbefore | hlast := List.mem_append.1 hpush
    · obtain hkept | hlost' := h.accounted push hbefore
      · by_cases hold : push ∈ olds
        · exact .inr (hlost push hold)
        · left
          simp only [List.mem_append, List.mem_cons] at hkept ⊢
          tauto
      · exact .inr (hlost'.concat _)
    · left
      rw [List.mem_singleton.1 hlast]
      simp

theorem Kept.offer (h : Kept config first acts sent hand queue) (frame : Frame)
    (hstopped : (first.after acts).mailbox.stopped = true → .stop ∈ acts)
    (hsize : (first.after acts).mailbox.slots.size = config.sourceCount.toNat) :
    ∃ queue', Kept config first (acts ++ [.offer frame]) sent hand queue' := by
  have hoffered := h.holds.offer_cases frame
  cases hoffer : (first.after acts).mailbox.offer frame with
  | mk outcome left =>
    have haccepted (hne : outcome ≠ .ignored) :
        ((first.after acts).mailbox.offer frame).1 ≠ .ignored := hoffer ▸ hne
    rw [hoffer] at hoffered
    cases hoffered with
    | ignored hreason =>
      refine ⟨queue, h.offer_ignored frame hoffer (hreason.imp hstopped fun hunknown => ?_)⟩
      rw [UInt16.le_iff_toNat_le, ← hsize]
      exact hunknown
    | queued hholds =>
      refine ⟨queue ++ [⟨acts.length, frame⟩], ?_⟩
      have h' : Kept config first acts sent hand (queue ++ [] ++ []) := by
        rw [List.append_nil, List.append_nil]
        exact h
      refine h'.offer_accepted frame (haccepted nofun) ?_ nofun nofun
      rw [hoffer, List.map_append]
      exact hholds
    | replaced hqueue hsource hholds =>
      obtain ⟨before, rest, rfl, rfl, hrest⟩ := List.map_eq_append_iff.1 hqueue
      obtain ⟨old, after, rfl, rfl, rfl⟩ := List.map_eq_cons_iff.1 hrest
      refine ⟨before ++ ⟨acts.length, frame⟩ :: after, ?_⟩
      have h' : Kept config first acts sent hand (before ++ [old] ++ after) := by
        rw [List.append_assoc]
        exact h
      refine h'.offer_accepted frame (haccepted nofun) ?_ ?_ ?_
      · rw [hoffer, List.map_append, List.map_cons]
        exact hholds
      · intro other hother
        rw [List.mem_singleton.1 hother]
        exact hsource
      · intro other hother
        rw [List.mem_singleton.1 hother]
        exact .replaced rfl (h.waits old (by simp)) hsource.symm (congrArg Prod.fst hoffer)

end Offer

-- ════════════════════════════════════════════════════════════════════════
-- Stops and steps
-- ════════════════════════════════════════════════════════════════════════

section Step

variable {config : SenderConfig} {first : Service ω} {acts : List Act}
  {sent hand queue sent' hand' queue' : List Push}

/-- An act that pushes nothing brings the pushes on, or loses some of them. -/
theorem Kept.concat_quiet (h : Kept config first acts sent hand queue) {last : Act}
    {next : Service ω} {frame? : Option Frame} (hquiet : ∀ frame, last ≠ .offer frame)
    (hact : (first.after acts).act last = next) (hframe : (first.after acts).wrote? last = frame?)
    (hwritten : sent'.map (·.frame) = sent.map (·.frame) ++ frame?.toList)
    (hholding : hand'.map (·.frame) = held next.session)
    (hholds : next.mailbox.Holds (queue'.map (·.frame)))
    (hstopped : next.session.phase = .ended none → next.mailbox.stopped = true)
    (hstill : queue' ⊆ queue)
    (hchain : (sent' ++ hand' ++ queue').Sublist (sent ++ hand ++ queue))
    (haccounted : ∀ push ∈ sent ++ hand ++ queue,
      push ∈ sent' ++ hand' ++ queue' ∨ Lost config first (acts ++ [last]) push) :
    Kept config first (acts ++ [last]) sent' hand' queue' := by
  have hpushes : pushes (acts ++ [last]) = pushes acts := by
    rw [pushes_concat]
    cases last with
    | offer frame => exact absurd rfl (hquiet frame)
    | stop => exact List.append_nil _
    | step now => exact List.append_nil _
  rw [← hact, ← after_concat] at hholding hholds hstopped
  refine ⟨?_, hholding, hholds, hstopped, ?_, ?_, ?_⟩
  · rw [hwritten, h.written, writes_concat, hframe]
  · intro push hpush
    exact h.waits_concat hholds (hstill hpush) hpush fun newer hoffer => absurd hoffer (hquiet newer)
  · intro sourceId
    rw [hpushes]
    exact (hchain.filter _).trans (h.ordered sourceId)
  · intro push hpush
    obtain hkept | hlost := h.accounted push (hpushes ▸ hpush)
    · exact haccounted push hkept
    · exact .inr (hlost.concat last)

/-- An act may also leave all pushes where they are. -/
theorem Kept.concat_same (h : Kept config first acts sent hand queue) {last : Act}
    {next : Service ω} (hquiet : ∀ frame, last ≠ .offer frame)
    (hact : (first.after acts).act last = next) (hframe : (first.after acts).wrote? last = none)
    (hholding : hand.map (·.frame) = held next.session)
    (hholds : next.mailbox.Holds (queue.map (·.frame)))
    (hstopped : next.session.phase = .ended none → next.mailbox.stopped = true) :
    Kept config first (acts ++ [last]) sent hand queue :=
  h.concat_quiet hquiet hact hframe (List.append_nil _).symm hholding hholds hstopped
    (List.Subset.refl queue) (.refl _) fun _ hpush => .inl hpush

theorem Kept.stop (h : Kept config first acts sent hand queue) :
    Kept config first (acts ++ [.stop]) sent hand queue :=
  h.concat_same nofun rfl rfl h.holding ⟨h.holds.pending, h.holds.nodup, h.holds.waiting⟩
    fun _ => rfl

theorem Kept.hand_eq_nil (h : Kept config first acts sent hand queue)
    (hphase : ∀ frame, (first.after acts).session.phase ≠ .holding frame) : hand = [] := by
  have hholding := h.holding
  rw [held] at hholding
  split at hholding <;> rename_i hheld
  · exact absurd hheld (hphase _)
  · exact List.map_eq_nil_iff.1 hholding

/-- A step brings a push on to the next place, or finds it too large. -/
theorem Kept.step {first : Service (Recorded ω)} (h : Kept config first acts sent hand queue)
    (hwrote : (first.after acts).session.Wrote config.protocol (first.writes acts)) (now : Nat) :
    ∃ sent' hand' queue', Kept config first (acts ++ [.step now]) sent' hand' queue' := by
  have hdid := SendSession.step_cases hwrote now (first.after acts).mailbox
  have htaken := h.holds.take_cases
  have hquiet : ∀ frame, Act.step now ≠ .offer frame := nofun
  generalize hframes : queue.map (·.frame) = frames at htaken
  generalize hnext : ((first.after acts).session.step now (first.after acts).mailbox).session = next
    at hdid
  generalize hleft : ((first.after acts).session.step now (first.after acts).mailbox).mailbox = left
    at hdid
  generalize hframe? : (first.after acts).session.wrote? now = frame? at hdid
  have hact : (first.after acts).act (.step now) = ⟨left, next⟩ := by
    rw [← hleft, ← hnext]
    rfl
  cases hdid with
  | idle hphase =>
    exact ⟨sent, hand, queue, h.concat_same hquiet hact hframe? h.holding h.holds h.stopped⟩
  | waited hphase htake =>
    rw [htake] at htaken
    cases htaken with
    | nothingYet hrunning =>
      exact ⟨sent, hand, queue, h.concat_same hquiet hact hframe? h.holding h.holds h.stopped⟩
  | closed hphase htake hprotocol hbytes =>
    have hhand := h.hand_eq_nil (hphase ▸ nofun)
    rw [htake] at htaken
    cases htaken with
    | ended hstopped =>
      exact ⟨sent, hand, queue,
        h.concat_same hquiet hact hframe? (hhand ▸ rfl) h.holds fun _ => hstopped⟩
  | @refused frame _ _ hphase htake hfits hsent hpayload =>
    have hhand := h.hand_eq_nil (hphase ▸ nofun)
    rw [htake] at htaken
    cases htaken with
    | frame hrunning hholds =>
      obtain ⟨push, rest, rfl, rfl, rfl⟩ := List.map_eq_cons_iff.1 hframes
      have hlost : Lost config first (acts ++ [.step now]) push :=
        .refused rfl (h.waits push List.mem_cons_self) hphase (congrArg Prod.fst htake)
          (Frame.header_of_not_fits hfits)
      refine ⟨sent, hand, rest, h.concat_quiet hquiet hact hframe? (List.append_nil _).symm
        (hhand ▸ rfl) hholds nofun (List.subset_cons_self push rest)
        ((List.Sublist.refl _).append (List.sublist_cons_self push rest)) ?_⟩
      intro other hother
      by_cases hsame : other = push
      · exact .inr (hsame ▸ hlost)
      · left
        simp only [List.mem_append, List.mem_cons] at hother ⊢
        tauto
  | @took frame _ hphase htake hfits =>
    have hhand := h.hand_eq_nil (hphase ▸ nofun)
    rw [htake] at htaken
    cases htaken with
    | frame hrunning hholds =>
      obtain ⟨push, rest, rfl, rfl, rfl⟩ := List.map_eq_cons_iff.1 hframes
      have hchain : sent ++ [push] ++ rest = sent ++ hand ++ push :: rest := by
        rw [hhand, List.append_nil, List.append_assoc, List.singleton_append]
      exact ⟨sent, [push], rest, h.concat_quiet hquiet hact hframe? (List.append_nil _).symm rfl
        hholds nofun (List.subset_cons_self push rest) (hchain ▸ .refl _)
        fun _ hother => .inl (hchain ▸ hother)⟩
  | @wrote frame _ _ _ hphase hreliable =>
    have hholding := h.holding
    rw [held, hphase] at hholding
    obtain ⟨push, rfl, rfl⟩ := List.map_eq_singleton_iff.1 hholding
    have hchain : sent ++ [push] ++ [] ++ queue = sent ++ [push] ++ queue := by
      rw [List.append_nil]
    refine ⟨sent ++ [push], [], queue, h.concat_quiet hquiet hact hframe? ?_ rfl h.holds
      nofun (List.Subset.refl queue) (hchain ▸ .refl _) fun _ hother => .inl (hchain ▸ hother)⟩
    rw [List.map_append]
    rfl

end Step

-- ════════════════════════════════════════════════════════════════════════
-- Whole sessions
-- ════════════════════════════════════════════════════════════════════════

/-- After any acts, every push is written, held, waiting or lost. -/
theorem kept_after (config : SenderConfig) (sink : ω) (hsink : Reliable sink) (acts : List Act) :
    ∃ sent hand queue,
      Kept config (config.service (⟨sink, []⟩ : Recorded ω)) acts sent hand queue := by
  induction acts using List.reverseRecOn with
  | nil => exact ⟨[], [], [], kept_nil config _⟩
  | append_singleton acts last ih =>
    obtain ⟨sent, hand, queue, h⟩ := ih
    cases last with
    | offer frame =>
      obtain ⟨queue', h'⟩ :=
        h.offer frame (stop_mem_of_stopped config _ acts) (size_after config _ acts)
      exact ⟨sent, hand, queue', h'⟩
    | stop => exact ⟨sent, hand, queue, h.stop⟩
    | step now => exact h.step (wrote_after config sink hsink acts) now

/-- A session that was ended by a stop has written the frames of some pushes, those of one source in
the order of the pushes; all the others are lost. -/
theorem writes_of_ended (config : SenderConfig) (sink : ω) (hsink : Reliable sink) (acts : List Act)
    (hended : ((config.service (⟨sink, []⟩ : Recorded ω)).after acts).session.phase = .ended none) :
    let first := config.service (⟨sink, []⟩ : Recorded ω)
    ∃ sent : List Push, sent.map (·.frame) = first.writes acts ∧ sent.Nodup ∧
      (∀ sourceId, (Push.ofSource sourceId sent).Sublist (Push.ofSource sourceId (pushes acts))) ∧
      ∀ push ∈ pushes acts, push ∈ sent ∨ Lost config first acts push := by
  intro first
  obtain ⟨sent, hand, queue, h⟩ := kept_after config sink hsink acts
  have hhand : hand = [] := h.hand_eq_nil (hended ▸ nofun)
  have hordered : ∀ sourceId,
      (Push.ofSource sourceId sent).Sublist (Push.ofSource sourceId (pushes acts)) := by
    intro sourceId
    have hall := h.ordered sourceId
    rw [hhand, List.append_nil, Push.ofSource_append] at hall
    exact (List.sublist_append_left _ _).trans hall
  refine ⟨sent, h.written, ?_, hordered, fun push hpush => ?_⟩
  · -- a push that comes twice would come twice among those of its source
    rw [List.nodup_iff_sublist]
    intro push htwice
    have hsource : Push.ofSource push.frame.sourceId [push, push] = [push, push] := by
      simp [Push.ofSource]
    have hpushed := (htwice.filter _).trans (hordered push.frame.sourceId)
    exact List.nodup_iff_sublist.1 (nodup_pushes acts) push
      (hsource ▸ hpushed.trans List.filter_sublist)
  · obtain hkept | hlost := h.accounted push hpush
    · rw [hhand, List.append_nil, List.mem_append] at hkept
      exact hkept.imp_right fun hqueue => (h.waits push hqueue).stranded (h.stopped hended)
    · exact .inr hlost

end FramedVideo.Service
