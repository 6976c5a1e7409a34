import FramedVideo.Proofs.Receive.Tally
import FramedVideo.Proofs.Send.Clients
import FramedVideo.Receive.Session
import FramedVideo.Transport.Script

/-!
# Periodic reports

Both ends report their totals each time when a count has come to a multiple of a given number: the
receiver when it has counted a frame, before it hands it on, and the sender when it has written one. A
frame that the sender drops moves no count, and so makes no report. So there is one report for each
multiple that the count has reached, and none if the number is zero.

## Main definitions

- `Log.multiples` — the counts at which a report is due
- `Log.Quiet` — lines that are not the totals of a receiver
- `Receiver.Told` — what a session reports, frame by frame
- `SendSession.Reported` — what a step reports, by the count that it comes to
- `SendSession.serve` — several steps of a session, and what they report

Main statements: `Log.multiples_succ`, `Log.exists_received_eq`, `Receiver.proceed_told`,
`Receiver.run_totals`, `SendSession.serve_reports`, `Service.report_balances`, `Log.reports_law`.
-/

namespace FramedVideo

open Transport (Source Sink PartialRead Script Gauge)

-- ════════════════════════════════════════════════════════════════════════
-- When a report is due
-- ════════════════════════════════════════════════════════════════════════

namespace Log

/-- The counts, up to a given one, at which a report is due. -/
def multiples (every count : Nat) : List Nat :=
  (List.range (count / every)).map fun turn => (turn + 1) * every

@[simp]
theorem length_multiples (every count : Nat) : (multiples every count).length = count / every := by
  simp [multiples]

@[simp]
theorem multiples_zero (every : Nat) : multiples every 0 = [] := by simp [multiples]

theorem isDue_succ (every count : Nat) :
    isDue every (count + 1) = true ↔ 0 < every ∧ (count + 1) % every = 0 := by
  simp [isDue]

/-- A count that grows by one comes to the next multiple just when a report is due. -/
theorem multiples_succ (every count : Nat) :
    multiples every (count + 1) =
      multiples every count ++ if isDue every (count + 1) then [count + 1] else [] := by
  by_cases hdue : isDue every (count + 1) = true
  · obtain ⟨hpos, hmod⟩ := (isDue_succ every count).1 hdue
    have hlast : (count / every + 1) * every = count + 1 := by
      rw [← Nat.succ_div_of_mod_eq_zero hmod]
      exact Nat.div_mul_cancel (Nat.dvd_of_mod_eq_zero hmod)
    rw [if_pos hdue, multiples, Nat.succ_div_of_mod_eq_zero hmod, List.range_succ, List.map_append,
      List.map_singleton, hlast]
    rfl
  · have hsame : (count + 1) / every = count / every := by
      rcases Nat.eq_zero_or_pos every with rfl | hpos
      · rw [Nat.div_zero, Nat.div_zero]
      · exact Nat.succ_div_of_mod_ne_zero fun hmod => hdue ((isDue_succ every count).2 ⟨hpos, hmod⟩)
    rw [if_neg hdue, List.append_nil, multiples, hsame]
    rfl

theorem multiples_eq_filter (every count : Nat) :
    multiples every count = (List.range' 1 count).filter (isDue every) := by
  induction count with
  | zero => exact multiples_zero every
  | succ count ih =>
    rw [multiples_succ, ih, List.range'_1_concat, List.filter_append, Nat.add_comm 1, List.filter_cons,
      List.filter_nil]

theorem bounds_of_mem_multiples {every count total : Nat} (h : count ∈ multiples every total) :
    0 < count ∧ count ≤ total := by
  rw [multiples_eq_filter] at h
  have hrange := List.mem_range'_1.1 (List.mem_filter.1 h).1
  omega

/-- The line has the totals of a receiver. -/
def Line.isTotals (line : Line) : Bool :=
  line.level = .info && "frames=".toList.isPrefixOf line.message.toList

@[simp]
theorem isTotals_received (stats : Stats) : (Log.received none stats).isTotals = true := by
  have hfront : "frames=".toList <+: (stats.describe "_").toList := by
    unfold Stats.describe
    cases stats.last with
    | none => simp [String.toList_append, List.append_assoc]
    | some last => simp [String.toList_append, List.append_assoc]
  simpa [Line.isTotals, Log.received] using hfront

/-- The totals of some frames say how many there are and which is the last. -/
theorem exists_received_eq {frames : List Frame} {count : Nat} (hpos : 0 < count)
    (hle : count ≤ frames.length) :
    ∃ last, frames[count - 1]? = some last ∧
      Log.received none (Stats.recordAll (frames.take count) {}) = {
        level := .info
        message := "frames=" ++ toString count ++ " fps=_ last_source=" ++
          toString last.sourceId.toNat ++ " last_frame_id=" ++ toString last.frameId.toNat ++
          " timestamp_us=" ++ toString last.timestamp.toNat } := by
  have hlast : count - 1 < frames.length := by omega
  refine ⟨frames[count - 1], List.getElem?_eq_getElem hlast, ?_⟩
  have htotals := Stats.totals_recordAll 0 (frames.take count)
  have hcount := htotals.count
  have hseen := htotals.last
  rw [List.length_take, Nat.min_eq_left hle] at hcount
  rw [List.getLast?_take, if_neg (Nat.ne_of_gt hpos), List.getElem?_eq_getElem hlast] at hseen
  have htext : " fps=_ last_source=" = " fps=" ++ ("_" ++ " last_source=") := by decide
  simp only [Log.received, Stats.describe, hcount, hseen, Option.some_or, Option.map_some, Frame.seen,
    htext, String.append_assoc]

@[simp]
theorem isTotals_sessionEnd (reason : StopReason) : (Log.sessionEnd reason).isTotals = false := by
  cases reason <;> decide

/-- Some lines are not the totals of a receiver. -/
def Quiet (lines : List Line) : Prop := ∀ line ∈ lines, line.isTotals = false

theorem Quiet.append {front back : List Line} (hfront : Quiet front) (hback : Quiet back) :
    Quiet (front ++ back) := fun line hline =>
  (List.mem_append.1 hline).elim (hfront line) (hback line)

theorem Quiet.filter_eq_nil {lines : List Line} (h : Quiet lines) :
    lines.filter Line.isTotals = [] := by
  rw [List.filter_eq_nil_iff]
  intro line hline
  rw [h line hline]
  exact Bool.false_ne_true

theorem quiet_nil : Quiet [] := nofun

end Log

-- ════════════════════════════════════════════════════════════════════════
-- A receiver
-- ════════════════════════════════════════════════════════════════════════

namespace Decoder

open Log (Quiet quiet_nil)

variable {σ : Type} [Source σ]

theorem quiet_pollPayload (header : Header) (reading : PartialRead) (decoder : Decoder σ) :
    Quiet (pollPayload header reading decoder).log := by
  unfold pollPayload
  split
  · exact quiet_nil
  · exact quiet_nil
  · rintro line (_ | ⟨_, ⟨⟩⟩)
    rfl

theorem quiet_pollSearch (fault : Fault) (window : Window) (reading : PartialRead)
    (decoder : Decoder σ) : Quiet (pollSearch fault window reading decoder).log := by
  fun_induction pollSearch fault window reading decoder with
  | case1 => exact quiet_nil
  | case2 => exact quiet_nil
  | case3 window reading decoder reading' left hpoll moved header hfound polled =>
    have hfirst : Quiet [Log.resynchronized fault moved.skipped] := by
      rintro line (_ | ⟨_, ⟨⟩⟩)
      rfl
    exact hfirst.append (quiet_pollPayload header _ _)
  | case4 => exact quiet_nil
  | case5 window reading decoder reading' left hpoll moved hnone hroom ih => exact ih

theorem quiet_pollRecover (fault : Fault) (rejected : Bytes) (reading : PartialRead)
    (decoder : Decoder σ) : Quiet (pollRecover fault rejected reading decoder).log := by
  unfold pollRecover
  split
  · exact quiet_nil
  · dsimp only
    split
    · exact quiet_nil
    · exact quiet_pollSearch _ _ _ _

theorem quiet_pollHeader (reading : PartialRead) (decoder : Decoder σ) :
    Quiet (pollHeader reading decoder).log := by
  unfold pollHeader
  split
  · exact quiet_nil
  · exact quiet_nil
  · split
    · exact quiet_pollPayload _ _ _
    · exact quiet_pollRecover _ _ _ _

theorem quiet_poll (call : Call) (decoder : Decoder σ) : Quiet (poll call decoder).log := by
  cases call with
  | header reading => exact quiet_pollHeader reading decoder
  | search fault window reading => exact quiet_pollSearch fault window reading decoder
  | payload header reading => exact quiet_pollPayload header reading decoder

/-- What a decoder reports is not the totals of its receiver. -/
theorem quiet_await (shutdown : Shutdown) (looks : Nat) (call : Call) (decoder : Decoder σ) :
    Quiet (decoder.await shutdown looks call).log := by
  fun_induction await shutdown looks call decoder with
  | case1 => exact quiet_nil
  | case2 looks call decoder hrunning answer call' left log hpoll =>
    have hquiet := quiet_poll call decoder
    rwa [hpoll] at hquiet
  | case3 looks call decoder hrunning call' left log hpoll later ih =>
    have hquiet := quiet_poll call decoder
    rw [hpoll] at hquiet
    exact hquiet.append ih

end Decoder

namespace Receiver

open Log (Quiet quiet_nil)

variable {σ κ : Type} [Consumer κ]

/-- The report that is made when a frame was counted, if it is due. -/
def reportOf (every : Nat) (stats : Stats) : List Log.Line :=
  if Log.isDue every stats.frames then [Log.received none stats] else []

/-- What a session reports, with totals so far, if it hands on some frames. When it has counted a frame it
reports the totals if that is due, and after that its consumer reports what it does with the frame. -/
inductive Told (every : Nat) : Stats → κ → List Frame → List Log.Line → Prop where
  | last {stats : Stats} {consumer : κ} {quiet : List Log.Line} (hquiet : Quiet quiet) :
    Told every stats consumer [] quiet
  | frame {stats : Stats} {consumer : κ} {frame : Frame} {frames : List Frame}
    {quiet rest : List Log.Line} (hquiet : Quiet quiet)
    (later : Told every (stats.record frame) (Consumer.handle frame consumer).consumer frames rest) :
    Told every stats consumer (frame :: frames)
      (quiet ++ ((reportOf every (stats.record frame) ++ (Consumer.handle frame consumer).log) ++ rest))

omit [Consumer κ] in
theorem quiet_ending (reason : StopReason) (stats : Stats) (consumer : κ) (receiver : Receiver σ)
    {log : List Log.Line} (hlog : Quiet log) :
    Quiet (ending reason stats consumer receiver log).log := by
  refine hlog.append ?_
  rintro line (_ | ⟨_, ⟨⟩⟩)
  exact Log.isTotals_sessionEnd reason

variable [Source σ]

/-- A session reports its totals when they are due, and at no other time. -/
theorem proceed_told (shutdown : Shutdown) (looks : Nat) (stats : Stats) (consumer : κ)
    (receiver : Receiver σ) :
    let run := receiver.proceed shutdown looks stats consumer
    Told receiver.logEvery stats consumer run.handed run.log := by
  have hquiet {looks : Nat} {decoder left : Decoder σ} {looks' : Nat} {log : List Log.Line}
      {answer : Option (Except DecodeFailure Frame)}
      (hawait : decoder.await shutdown looks .start = ⟨answer, left, looks', log⟩) : Quiet log := by
    have hlog := decoder.quiet_await shutdown looks .start
    rwa [hawait] at hlog
  fun_induction proceed shutdown looks stats consumer receiver with
  | case1 looks stats consumer receiver left looks' log hawait =>
    exact .last (quiet_ending _ _ _ _ (hquiet hawait))
  | case2 looks stats consumer receiver failure left looks' log hawait =>
    unfold failing
    split
    · exact .last (quiet_ending _ _ _ _ (hquiet hawait))
    · exact .last (hquiet hawait)
  | case3 looks stats consumer receiver frame left looks' log hawait later ih =>
    cases hverdict : (Consumer.handle frame consumer).verdict with
    | stop =>
      simp only [later, attend, hverdict]
      have hending := quiet_ending .consumerStopped stats consumer receiver quiet_nil
      exact .frame (hquiet hawait) (.last hending)
    | goOn =>
      simp only [later, attend, hverdict]
      exact .frame (hquiet hawait) (ih _ _)

theorem filter_reportOf (every : Nat) (stats : Stats) :
    (reportOf every stats).filter Log.Line.isTotals = reportOf every stats := by
  unfold reportOf
  split
  · simp
  · rfl

/-- The totals are reported once for each count at which a report is due, and are those of the frames up to
there, if the consumer does not write such lines itself. -/
theorem Told.totals {every : Nat} {stats : Stats} {consumer : κ} {frames : List Frame}
    {log : List Log.Line} (h : Told every stats consumer frames log)
    (hconsumer : ∀ (frame : Frame) (consumer : κ), Quiet (Consumer.handle frame consumer).log) :
    log.filter Log.Line.isTotals =
      ((List.range' (stats.frames + 1) frames.length).filter (Log.isDue every)).map fun count =>
        Log.received none (stats.recordAll (frames.take (count - stats.frames))) := by
  induction h with
  | last hquiet => exact hquiet.filter_eq_nil
  | @frame stats consumer frame frames quiet rest hquiet later ih =>
    have hlater : ∀ count ∈ (List.range' (stats.frames + 1 + 1) frames.length).filter (Log.isDue every),
        Log.received none ((stats.record frame).recordAll (frames.take (count - (stats.frames + 1)))) =
          Log.received none (stats.recordAll ((frame :: frames).take (count - stats.frames))) := by
      intro count hcount
      have hlt := (List.mem_range'_1.1 (List.mem_filter.1 hcount).1).1
      have hnext : count - stats.frames = count - (stats.frames + 1) + 1 := by omega
      rw [hnext, List.take_succ_cons]
      rfl
    have hframes : (stats.record frame).frames = stats.frames + 1 := rfl
    have hone : (frame :: frames).take (stats.frames + 1 - stats.frames) = [frame] := by
      rw [Nat.add_sub_cancel_left, List.take_succ_cons, List.take_zero]
    -- of all these lines, only the report of this frame and those of later frames are totals
    have hlog : (quiet ++ ((reportOf every (stats.record frame) ++ (Consumer.handle frame consumer).log) ++
          rest)).filter Log.Line.isTotals =
        reportOf every (stats.record frame) ++ rest.filter Log.Line.isTotals := by
      rw [List.filter_append, List.filter_append, List.filter_append, hquiet.filter_eq_nil,
        (hconsumer frame consumer).filter_eq_nil, filter_reportOf, List.nil_append, List.append_nil]
    rw [hlog, ih, List.length_cons, List.range'_succ, List.filter_cons, hframes,
      List.map_congr_left hlater]
    unfold reportOf
    rw [hframes]
    split
    · rw [List.map_cons, hone]
      rfl
    · rfl

/-- So it is for a whole session. -/
theorem run_totals (shutdown : Shutdown) (consumer : κ) (receiver : Receiver σ)
    (hconsumer : ∀ (frame : Frame) (consumer : κ), Quiet (Consumer.handle frame consumer).log) :
    let run := receiver.run shutdown consumer
    run.log.filter Log.Line.isTotals =
      (Log.multiples receiver.logEvery run.handed.length).map fun count =>
        Log.received none (Stats.recordAll (run.handed.take count) {}) := by
  intro run
  have htotals := (receiver.proceed_told shutdown 0 {} consumer).totals hconsumer
  rw [Log.multiples_eq_filter]
  exact htotals

end Receiver

-- ════════════════════════════════════════════════════════════════════════
-- A sender
-- ════════════════════════════════════════════════════════════════════════

namespace Log

/-- The line has the totals of a sender. -/
def Line.isSent (line : Line) : Bool := line.message = "send stats"

@[simp]
theorem isSent_sent (mailbox : Mailbox) (stats : SendStats) :
    (Log.sent mailbox stats).isSent = true := decide_eq_true rfl

theorem lookup_sent (mailbox : Mailbox) (stats : SendStats) :
    (Log.sent mailbox stats).fields.lookup "sent" = some (toString stats.sent) := rfl

@[simp]
theorem isSent_wroteFrame (frame : Frame) : (Log.wroteFrame frame).isSent = false := by
  simp [Line.isSent, Log.wroteFrame]

@[simp]
theorem isSent_droppedFrame (frame : Frame) (fault : Fault) :
    (Log.droppedFrame frame fault).isSent = false := by simp [Line.isSent, Log.droppedFrame]

@[simp]
theorem isSent_disconnected (failure : Transport.Failure) (stats : SendStats) :
    (Log.disconnected failure stats).isSent = false := by simp [Line.isSent, Log.disconnected]

@[simp]
theorem isSent_shutdownFailed (failure : Transport.Failure) :
    (Log.shutdownFailed failure).isSent = false := by simp [Line.isSent, Log.shutdownFailed]

end Log

namespace SendSession

variable {ω : Type} [Sink ω] {now : Nat} {mailbox : Mailbox} {session : SendSession ω}
  {stepped : Stepped ω} {took? wrote? : Option Frame}

theorem filter_close (session : SendSession ω) : session.close.2.filter Log.Line.isSent = [] := by
  unfold close
  split
  · rfl
  · simp

theorem Moves.logEvery (h : session.Moves now mailbox stepped took? wrote?) :
    stepped.session.logEvery = session.logEvery := by
  cases h with
  | closes hphase htake => rw [close_fst]
  | drops hphase hopen hwrite hdrop =>
    cases hdrop
    rfl
  | _ => rfl

/-- What a step reports. If it comes to a count at which that is due it reports the totals, from the
mailbox as it finds it, and then it has written a frame and holds none. -/
inductive Reported (mailbox : Mailbox) (session : SendSession ω) (stepped : Stepped ω) : Prop where
  | nothing (hlog : stepped.log.filter Log.Line.isSent = [])
    (hcounts : Log.multiples session.logEvery stepped.session.stats.sent =
      Log.multiples session.logEvery session.stats.sent)
  | totals (hlog : stepped.log.filter Log.Line.isSent = [Log.sent mailbox stepped.session.stats])
    (hcounts : Log.multiples session.logEvery stepped.session.stats.sent =
      Log.multiples session.logEvery session.stats.sent ++ [stepped.session.stats.sent])
    (hsame : stepped.mailbox = mailbox) (hphase : stepped.session.phase = .taking)

/-- A step that drops a frame, or does nothing, leaves the count as it was, and the report of that count is
not made again. -/
theorem Moves.reported (h : session.Moves now mailbox stepped took? wrote?) :
    Reported mailbox session stepped := by
  have hsent := h.sent
  cases h with
  | idle _ | waits _ _ | takes _ _ _ | rests _ _ => exact .nothing rfl rfl
  | closes hphase htake => exact .nothing (filter_close session) (congrArg _ hsent)
  | refuses hphase htake hheader => exact .nothing (by simp [drop]) (congrArg _ hsent)
  | breaks hphase hopen hwrite => exact .nothing (by simp) (congrArg _ hsent)
  | drops hphase hopen hwrite hdrop =>
    cases hdrop
    exact .nothing (by simp) (congrArg _ hsent)
  | @sends frame writer stats hphase hopen hwrite hstats =>
    have hmultiples : Log.multiples session.logEvery stats.sent =
        Log.multiples session.logEvery session.stats.sent ++
          if Log.isDue session.logEvery stats.sent then [stats.sent] else [] := by
      have hnext : stats.sent = session.stats.sent + 1 := hsent
      rw [hnext]
      exact Log.multiples_succ _ _
    by_cases hdue : Log.isDue session.logEvery stats.sent = true
    · rw [if_pos hdue] at hmultiples
      exact .totals (by simp [hdue]) hmultiples rfl rfl
    · rw [if_neg hdue, List.append_nil] at hmultiples
      exact .nothing (by simp [hdue]) hmultiples

/-- Several steps of a session, each at its moment and with the mailbox as it finds it, and what they
report. -/
def serve (session : SendSession ω) : List (Nat × Mailbox) → SendSession ω × List Log.Line
  | [] => (session, [])
  | (now, mailbox) :: turns =>
    let stepped := session.step now mailbox
    let (last, log) := stepped.session.serve turns
    (last, stepped.log ++ log)

/-- Between two counts of frames, a session reports its totals once for each count at which that is due,
whatever else happens to the mailbox. -/
theorem serve_reports (session : SendSession ω) (turns : List (Nat × Mailbox)) :
    ∃ reports : List (Mailbox × SendStats),
      (session.serve turns).2.filter Log.Line.isSent =
        reports.map (fun report => Log.sent report.1 report.2) ∧
      Log.multiples session.logEvery session.stats.sent ++ reports.map (·.2.sent) =
        Log.multiples session.logEvery (session.serve turns).1.stats.sent := by
  induction turns generalizing session with
  | nil => exact ⟨[], rfl, List.append_nil _⟩
  | cons turn turns ih =>
    obtain ⟨now, mailbox⟩ := turn
    have hmoves := session.moves now mailbox
    obtain ⟨reports, hlog, hrest⟩ := ih (session.step now mailbox).session
    rw [hmoves.logEvery] at hrest
    simp only [serve, List.filter_append]
    cases hmoves.reported with
    | nothing hnone hcounts => exact ⟨reports, by rw [hnone, hlog]; rfl, by rw [← hcounts, hrest]⟩
    | totals hone hcounts hsame hphase =>
      refine ⟨(mailbox, (session.step now mailbox).session.stats) :: reports, ?_, ?_⟩
      · rw [hone, hlog]
        rfl
      · rw [← hrest, hcounts, List.append_assoc]
        rfl

end SendSession

-- ════════════════════════════════════════════════════════════════════════
-- A mailbox of one sender
-- ════════════════════════════════════════════════════════════════════════

namespace Service

variable {ω : Type} [Sink ω] {service : Service ω}

/-- The session takes all that is taken from the mailbox. -/
theorem act_counts (h : service.mailbox.Counts service.session.spent) {queue : List Frame}
    (hholds : service.mailbox.Holds queue) (next : Act) :
    (service.act next).mailbox.Counts (service.act next).session.spent ∧
      ∃ queue', (service.act next).mailbox.Holds queue' := by
  cases next with
  | offer frame =>
    obtain ⟨queue', hholds', -⟩ := hholds.act (.offer frame)
    exact ⟨h.offer frame, queue', hholds'⟩
  | stop => exact ⟨⟨h.replaced, h.accepted⟩, queue, hholds.pending, hholds.nodup, hholds.waiting⟩
  | step now =>
    have hmoves := service.session.moves now service.mailbox
    obtain ⟨hmailbox, htook⟩ := hmoves.use
    obtain ⟨queue', hholds', -⟩ := hholds.after service.session.mailboxAct?.toList
    simp only [Service.act]
    rw [hmoves.spent, htook, hmailbox]
    refine ⟨?_, queue', hholds'⟩
    cases service.session.mailboxAct? with
    | none => exact h
    | some act => exact h.act hholds act

theorem counts_after (config : SenderConfig) (sink : ω) (acts : List Act) :
    let service := (config.service sink).after acts
    service.mailbox.Counts service.session.spent ∧ ∃ queue, service.mailbox.Holds queue := by
  induction acts using List.reverseRecOn with
  | nil => exact ⟨Mailbox.counts_empty config.sourceCount, [], Mailbox.holds_empty _⟩
  | append_singleton acts last ih =>
    obtain ⟨hcounts, queue, hholds⟩ := ih
    rw [after_concat]
    exact act_counts hcounts hholds last

/-- A session reports the totals of its mailbox and its own, and they account for every frame that the
mailbox accepted, if no other one takes from it. -/
theorem report_balances (config : SenderConfig) (sink : ω) (acts : List Act) (now : Nat) :
    let service := (config.service sink).after acts
    let stepped := service.session.step now service.mailbox
    let stats := stepped.session.stats
    ∀ line ∈ stepped.log, line.isSent = true →
      line = {
        level := .info
        message := "send stats"
        fields := [("captured", toString service.mailbox.pushed), ("sent", toString stats.sent),
          ("overwritten", toString service.mailbox.dropped),
          ("oversize", toString stats.oversize)] } ∧
      service.mailbox.pushed =
        stats.sent + stats.oversize + service.mailbox.dropped + service.mailbox.pending.length := by
  intro service stepped stats line hline hsent
  have hmem : line ∈ stepped.log.filter Log.Line.isSent := List.mem_filter.2 ⟨hline, hsent⟩
  obtain ⟨hlog, -⟩ | ⟨hlog, -, hsame, hphase⟩ :=
    (service.session.moves now service.mailbox).reported
  · rw [hlog] at hmem
    exact absurd hmem List.not_mem_nil
  rw [hlog] at hmem
  obtain ⟨hcounts, -⟩ := counts_after config sink (acts ++ [.step now])
  have haccepted := hcounts.accepted
  simp only [after_concat] at haccepted
  change stepped.mailbox.pushed = stepped.mailbox.dropped +
    (stats.sent + stats.oversize + stepped.session.phase.inHand) + stepped.mailbox.pending.length
    at haccepted
  rw [hsame, hphase] at haccepted
  refine ⟨List.mem_singleton.1 hmem, haccepted.trans ?_⟩
  simp only [SendSession.Phase.inHand]
  omega

end Service

-- ════════════════════════════════════════════════════════════════════════
-- Both ends
-- ════════════════════════════════════════════════════════════════════════

/-- Both ends report their totals once for each count at which that is due, and at no other time; so there
are as many reports as the number goes into the count, and none if it is zero. A receiver makes its report
when it has counted the frame and its consumer does not have it yet, and says how many frames came and
which was the last. Whatever happens to the mailbox between the steps of a sender, and whatever it drops
between two frames that it sends, no report is missing and none is made twice: they say the counts at
which they are due, one after the other. If no other sender takes from its mailbox, the totals that it
reports account for every frame that was captured. -/
theorem Log.reports_law {σ κ ω : Type} [Source σ] [Consumer κ] [Sink ω] (shutdown : Shutdown)
    (consumer : κ) (receiver : Receiver σ) (config : SenderConfig) (sink : ω) :
    (let run := receiver.run shutdown consumer
    let counts := multiples receiver.logEvery run.handed.length
    let received (count : Nat) := Log.received none (Stats.recordAll (run.handed.take count) {})
    Receiver.Told receiver.logEvery {} consumer run.handed run.log ∧
      ((∀ (frame : Frame) (consumer : κ), Quiet (Consumer.handle frame consumer).log) →
        run.log.filter Line.isTotals = counts.map received ∧
          (run.log.filter Line.isTotals).length = run.handed.length / receiver.logEvery) ∧
      ∀ count ∈ counts, ∃ last, run.handed[count - 1]? = some last ∧
        received count = {
          level := .info
          message := "frames=" ++ toString count ++ " fps=_ last_source=" ++
            toString last.sourceId.toNat ++ " last_frame_id=" ++ toString last.frameId.toNat ++
            " timestamp_us=" ++ toString last.timestamp.toNat }) ∧
    (∀ turns : List (Nat × Mailbox),
      let served := (config.session sink).serve turns
      let counts := multiples config.logEvery served.1.stats.sent
      ∃ reports : List (Mailbox × SendStats),
        served.2.filter Line.isSent =
            reports.map (fun report => Log.sent report.1 report.2) ∧
          reports.map (·.2.sent) = counts ∧
          reports.length = served.1.stats.sent / config.logEvery ∧
          (served.2.filter Line.isSent).map (·.fields.lookup "sent") =
            counts.map (fun count => some (toString count))) ∧
    ∀ (acts : List Service.Act) (now : Nat),
      let service := (config.service sink).after acts
      let stepped := service.session.step now service.mailbox
      let stats := stepped.session.stats
      ∀ line ∈ stepped.log, line.isSent = true →
        line = {
          level := .info
          message := "send stats"
          fields := [("captured", toString service.mailbox.pushed), ("sent", toString stats.sent),
            ("overwritten", toString service.mailbox.dropped),
            ("oversize", toString stats.oversize)] } ∧
        service.mailbox.pushed =
          stats.sent + stats.oversize + service.mailbox.dropped + service.mailbox.pending.length := by
  refine ⟨⟨receiver.proceed_told shutdown 0 {} consumer, fun hconsumer => ?_, fun count hcount => ?_⟩,
    fun turns => ?_, Service.report_balances config sink⟩
  · have htotals := receiver.run_totals shutdown consumer hconsumer
    refine ⟨htotals, ?_⟩
    rw [htotals, List.length_map, length_multiples]
  · obtain ⟨hpos, hle⟩ := bounds_of_mem_multiples hcount
    exact exists_received_eq hpos hle
  · obtain ⟨reports, hlog, hcounts⟩ := (config.session sink).serve_reports turns
    have hfirst : multiples (config.session sink).logEvery (config.session sink).stats.sent = [] :=
      multiples_zero config.logEvery
    rw [hfirst, List.nil_append] at hcounts
    change _ = multiples config.logEvery _ at hcounts
    refine ⟨reports, hlog, hcounts, ?_, ?_⟩
    · have hlength := congrArg List.length hcounts
      rwa [List.length_map, length_multiples] at hlength
    · rw [hlog, List.map_map, ← hcounts, List.map_map]
      exact List.map_congr_left fun report _ => lookup_sent report.1 report.2

/-- Both ends report after every second frame. The receiver gets three frames. The sender replaces one frame,
sends one, drops one that is too large, and sends another one while one waits. -/
theorem Log.reports_law_at_two :
    let frame (sourceId : UInt16) (frameId : UInt32) (payload : Bytes) : Frame :=
      { sourceId := sourceId, frameId := frameId, timestamp := 9, payload := payload }
    let frames : List Frame := [frame 0 1 [7], frame 1 2 [], frame 0 3 []]
    let script : Script := { events := [.data (frames.flatMap (·.onWire {}))] }
    let receiver := ReceiverConfig.receiver { logEvery := 2 } script
    let run := receiver.run none ({} : PictureLog)
    let config : SenderConfig := { sourceCount := 2, logEvery := 2, protocol := { maxPayload := 1 } }
    let acts : List Service.Act := [.offer (frame 0 1 []), .offer (frame 0 2 []),
      .offer (frame 1 3 [7, 8]), .step 0, .step 0, .step 0, .offer (frame 0 4 [9]), .step 0,
      .offer (frame 1 5 [])]
    let service := (config.service ({} : Gauge)).after acts
    let stepped := service.session.step 0 service.mailbox
    let full := ((Mailbox.empty 2).offer (frame 0 1 [])).2
    let served := (config.session ({} : Gauge)).serve (List.replicate 9 (0, full))
    run.log.filter Line.isTotals = [{
        level := .info
        message := "frames=2 fps=_ last_source=1 last_frame_id=2 timestamp_us=9" }] ∧
      served.1.stats.sent = 4 ∧
      (served.2.filter Line.isSent).map (·.fields.lookup "sent") = [some "2", some "4"] ∧
      (∃ line ∈ stepped.log, line.isSent = true ∧
        line.fields =
          [("captured", "5"), ("sent", "2"), ("overwritten", "1"), ("oversize", "1")]) ∧
      service.mailbox.pushed = 2 + 1 + 1 + 1 := by
  intro frame frames script receiver run config acts service stepped full served
  have hhanded : run.handed = frames := by decide +kernel
  have hquiet (frame : Frame) (consumer : PictureLog) :
      Quiet (Consumer.handle frame consumer).log := by
    change Quiet (PictureLog.handle frame consumer).log
    unfold PictureLog.handle
    split
    · rintro line (_ | ⟨_, ⟨⟩⟩)
      rfl
    · rintro line (_ | ⟨_, ⟨⟩⟩)
      rfl
  obtain ⟨⟨-, htotals, hreceived⟩, hserved, hbalance⟩ :=
    Log.reports_law none ({} : PictureLog) receiver config ({} : Gauge)
  obtain ⟨hlog, -⟩ := htotals hquiet
  obtain ⟨reports, -, -, -, hnumbers⟩ := hserved (List.replicate 9 (0, full))
  have hcounts : multiples receiver.logEvery run.handed.length = [2] := by
    rw [hhanded]
    decide
  obtain ⟨last, hlast, htext⟩ := hreceived 2 (hcounts ▸ List.mem_singleton_self 2)
  have hsent : served.1.stats.sent = 4 := by decide +kernel
  have hstats : stepped.session.stats = ⟨2, 1, 1⟩ := by decide +kernel
  have hdropped : service.mailbox.dropped = 1 := by decide +kernel
  have hpending : service.mailbox.pending = [1] := by decide +kernel
  have hline : Log.sent service.mailbox stepped.session.stats ∈ stepped.log := by decide +kernel
  obtain ⟨hfields, hpushed⟩ := hbalance acts 0 _ hline (Log.isSent_sent _ _)
  rw [hstats, hdropped, hpending] at hpushed
  refine ⟨?_, hsent, ?_, ⟨_, hline, Log.isSent_sent _ _, ?_⟩, hpushed⟩
  · rw [hhanded] at hlast
    cases hlast
    refine hlog.trans ?_
    rw [hcounts]
    exact congrArg ([·]) (htext.trans (by decide))
  · rw [hnumbers]
    change (multiples 2 served.1.stats.sent).map _ = _
    rw [hsent]
    decide
  · rw [hfields, hpushed, hstats, hdropped]
    decide

end FramedVideo
