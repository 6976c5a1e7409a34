import FramedVideo.Proofs.Send.Service

/-!
# Pushes and their ends

A push is an offer of a frame at its place in a history of acts. Its frame may wait in the slot of
its source, and it may be lost there: the mailbox ignored it, a newer frame of its source replaced it
while it waited, it was taken and found too large, or it still waited when the mailbox was stopped.

## Main definitions

- `Push` — an offered frame, by its place among the acts
- `Service.pushes` — the pushes among some acts
- `Service.Waits` — the frame of a push lies in its slot
- `Service.Lost` — why a push was not written

Main statements: `Service.nodup_pushes`, `Service.Lost.concat`, `Service.Waits.stranded`.
-/

namespace FramedVideo

open Transport (Sink Recorded Reliable)

/-- An offered frame, by its place among the acts. Two offers of equal frames are two pushes. -/
structure Push where
  position : Nat
  frame : Frame
  deriving DecidableEq, Repr

/-- The pushes among some that are of one source. -/
def Push.ofSource (sourceId : UInt16) (pushes : List Push) : List Push :=
  pushes.filter fun push => push.frame.sourceId = sourceId

namespace Push

variable {sourceId : UInt16}

@[simp]
theorem ofSource_append (front back : List Push) :
    ofSource sourceId (front ++ back) = ofSource sourceId front ++ ofSource sourceId back :=
  List.filter_append front back

theorem ofSource_cons_self {push : Push} (pushes : List Push) (h : push.frame.sourceId = sourceId) :
    ofSource sourceId (push :: pushes) = push :: ofSource sourceId pushes := by
  rw [ofSource, List.filter_cons_of_pos (by simpa using h), ofSource]

theorem ofSource_eq_nil {pushes : List Push}
    (h : ∀ push ∈ pushes, push.frame.sourceId ≠ sourceId) : ofSource sourceId pushes = [] := by
  rw [ofSource, List.filter_eq_nil_iff]
  intro push hpush
  simpa using h push hpush

end Push

namespace Service

variable {ω : Type} [Sink ω]

-- ════════════════════════════════════════════════════════════════════════
-- Pushes
-- ════════════════════════════════════════════════════════════════════════

/-- The push that an act is, at a position. -/
def Act.push? (position : Nat) : Act → Option Push
  | .offer frame => some ⟨position, frame⟩
  | .stop => none
  | .step _ => none

/-- The pushes among some acts, in order. -/
def pushes (acts : List Act) : List Push :=
  acts.zipIdx.filterMap fun (act, position) => act.push? position

theorem pushes_concat (acts : List Act) (last : Act) :
    pushes (acts ++ [last]) = pushes acts ++ (last.push? acts.length).toList := by
  rw [pushes, List.zipIdx_append, List.filterMap_append, pushes]
  simp only [List.zipIdx_cons, List.zipIdx_nil, Nat.zero_add, List.filterMap_cons, List.filterMap_nil]
  cases last.push? acts.length with
  | none => rfl
  | some push => rfl

theorem position_lt_of_mem_pushes {acts : List Act} {push : Push} (h : push ∈ pushes acts) :
    push.position < acts.length := by
  obtain ⟨⟨act, position⟩, hmem, hpush⟩ := List.mem_filterMap.1 h
  have hlt := List.snd_lt_of_mem_zipIdx hmem
  cases act with
  | offer frame =>
    cases hpush
    exact hlt
  | stop => cases hpush
  | step now => cases hpush

theorem nodup_pushes (acts : List Act) : (pushes acts).Nodup := by
  induction acts using List.reverseRecOn with
  | nil => exact List.nodup_nil
  | append_singleton acts last ih =>
    rw [pushes_concat]
    cases last with
    | offer frame =>
      simp only [Act.push?, Option.toList_some, List.nodup_append, List.nodup_singleton, true_and]
      refine ⟨ih, ?_⟩
      rintro push hpush _ hlast rfl
      have hlt := position_lt_of_mem_pushes hpush
      rw [List.mem_singleton.1 hlast] at hlt
      exact Nat.lt_irrefl _ hlt
    | stop => simpa [Act.push?] using ih
    | step now => simpa [Act.push?] using ih

-- ════════════════════════════════════════════════════════════════════════
-- Fates
-- ════════════════════════════════════════════════════════════════════════

/-- The frame of a push lies in the slot of its source, and has lain there since the push. -/
inductive Waits (first : Service ω) : List Act → Push → Prop where
  | offered {acts frame} (haccepted : ((first.after acts).mailbox.offer frame).1 ≠ .ignored)
    (hslot : (first.after (acts ++ [.offer frame])).mailbox.waiting? frame.sourceId = some frame) :
    Waits first (acts ++ [.offer frame]) ⟨acts.length, frame⟩
  | stays {acts last push} (hwaits : Waits first acts push)
    (hslot : (first.after (acts ++ [last])).mailbox.waiting? push.frame.sourceId = some push.frame)
    (hother : ∀ newer, last = .offer newer → newer.sourceId = push.frame.sourceId →
      ((first.after acts).mailbox.offer newer).1 = .ignored) :
    Waits first (acts ++ [last]) push

/-- Why a push was not written. -/
inductive Lost (config : SenderConfig) (first : Service ω) (acts : List Act) (push : Push) :
    Prop where
  /-- The mailbox ignored it: it was stopped before, or its source is unknown. -/
  | ignored {earlier later} (hacts : acts = earlier ++ .offer push.frame :: later)
    (hposition : earlier.length = push.position)
    (houtcome : ((first.after earlier).mailbox.offer push.frame).1 = .ignored)
    (hreason : .stop ∈ earlier ∨ config.sourceCount ≤ push.frame.sourceId)
  /-- A newer frame of its source replaced it while it waited. -/
  | replaced {earlier later newer} (hacts : acts = earlier ++ .offer newer :: later)
    (hwaits : Waits first earlier push) (hsource : newer.sourceId = push.frame.sourceId)
    (houtcome : ((first.after earlier).mailbox.offer newer).1 = .replaced)
  /-- The session took it and found it too large. -/
  | refused {earlier later now fault} (hacts : acts = earlier ++ .step now :: later)
    (hwaits : Waits first earlier push) (hphase : (first.after earlier).session.phase = .taking)
    (htake : (first.after earlier).mailbox.take.1 = .frame push.frame)
    (hfault : push.frame.header config.protocol = .error fault)
  /-- It still waited when the mailbox was stopped. -/
  | stranded {earlier later} (hacts : acts = earlier ++ .stop :: later)
    (hwaits : Waits first earlier push)

private theorem split_concat {acts earlier later : List Act} {act : Act}
    (h : acts = earlier ++ act :: later) (last : Act) :
    acts ++ [last] = earlier ++ act :: (later ++ [last]) := by
  rw [h, List.append_assoc, List.cons_append]

/-- What became of a push does not change any more. -/
theorem Lost.concat {config : SenderConfig} {first : Service ω} {acts : List Act} {push : Push}
    (h : Lost config first acts push) (last : Act) : Lost config first (acts ++ [last]) push := by
  cases h with
  | ignored hacts hposition houtcome hreason =>
    exact .ignored (split_concat hacts last) hposition houtcome hreason
  | replaced hacts hwaits hsource houtcome =>
    exact .replaced (split_concat hacts last) hwaits hsource houtcome
  | refused hacts hwaits hphase htake hfault =>
    exact .refused (split_concat hacts last) hwaits hphase htake hfault
  | stranded hacts hwaits => exact .stranded (split_concat hacts last) hwaits

-- ════════════════════════════════════════════════════════════════════════
-- The mailbox over time
-- ════════════════════════════════════════════════════════════════════════

/-- A stop stops the mailbox for ever, nothing else does, and nothing adds a slot. -/
theorem mailbox_act (service : Service ω) (last : Act) :
    ((service.act last).mailbox.stopped = true ↔ service.mailbox.stopped = true ∨ last = .stop) ∧
      (service.act last).mailbox.slots.size = service.mailbox.slots.size := by
  cases last with
  | offer frame => simpa [act, Mailbox.act] using service.mailbox.act_keeps (.offer frame)
  | stop => simpa [act, Mailbox.act] using service.mailbox.act_keeps .stop
  | step now =>
    obtain hsame | htaken := (service.session.moves now service.mailbox).mailbox_eq
    · simp only [act, hsame, reduceCtorEq, or_false, and_self]
    · simpa [act, Mailbox.act, htaken] using service.mailbox.act_keeps .take

theorem stopped_after (first : Service ω) (acts : List Act) :
    (first.after acts).mailbox.stopped = true ↔ first.mailbox.stopped = true ∨ .stop ∈ acts := by
  induction acts using List.reverseRecOn with
  | nil => simp
  | append_singleton acts last ih =>
    rw [after_concat, (mailbox_act _ last).1, ih, List.mem_append, List.mem_singleton, or_assoc,
      eq_comm (a := last)]

theorem stop_mem_of_stopped (config : SenderConfig) (sink : ω) (acts : List Act)
    (h : ((config.service sink).after acts).mailbox.stopped = true) : .stop ∈ acts :=
  ((stopped_after _ acts).1 h).resolve_left Bool.false_ne_true

theorem size_after (config : SenderConfig) (sink : ω) (acts : List Act) :
    ((config.service sink).after acts).mailbox.slots.size = config.sourceCount.toNat := by
  induction acts using List.reverseRecOn with
  | nil => exact Array.size_replicate
  | append_singleton acts last ih => rw [after_concat, (mailbox_act _ last).2, ih]

/-- A push that waits in a stopped mailbox waited when it was stopped. -/
theorem Waits.stranded {config : SenderConfig} {first : Service ω} {acts : List Act} {push : Push}
    (h : Waits first acts push) (hstopped : (first.after acts).mailbox.stopped = true) :
    Lost config first acts push := by
  induction h with
  | @offered acts frame haccepted hslot =>
    -- a stopped mailbox would have ignored the offer
    rw [after_concat] at hstopped
    have hbefore : (first.after acts).mailbox.stopped = true :=
      ((first.after acts).mailbox.offer_keeps frame).1 ▸ hstopped
    exact absurd (by rw [Mailbox.offer, if_pos hbefore]) haccepted
  | @stays acts last push hwaits hslot hother ih =>
    rw [after_concat] at hstopped
    obtain hbefore | hlast := (mailbox_act _ last).1.1 hstopped
    · exact (ih hbefore).concat last
    · exact .stranded (congrArg (acts ++ [·]) hlast) hwaits

end Service

end FramedVideo
