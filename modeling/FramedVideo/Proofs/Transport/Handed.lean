import FramedVideo.Proofs.Transport.Scripts

/-!
# The bytes that a script has handed out

Reads and polls take the bytes of a script from its front, piece by piece, and go past interruptions and
moments at which nothing is ready. What they leave is the rest of the script. An exact read that is not
over has all the bytes that its polls got, and these are all the bytes that left the script.

## Main definitions

- `Script.Passes` — what is left of some events once bytes were taken from them
- `Script.HandsOut` — a script hands out bytes, and counts them
- `PartialRead.Grows` — an exact read gets bytes

Main statements: `Script.Passes.wire_eq`, `PartialRead.poll_handsOut`.
-/

namespace FramedVideo.Transport

namespace Script

/-- Bytes were taken from some events, and others are left. A piece of which only the front was taken
keeps its back. Interruptions and moments at which nothing is ready bring no bytes. -/
inductive Passes : List Event → Bytes → List Event → Prop where
  | none (events : List Event) : Passes events [] events
  | notReady {events left : List Event} {delivered : Bytes} (later : Passes events delivered left) :
    Passes (.notReady :: events) delivered left
  | interrupted {events left : List Event} {delivered : Bytes} {failure : Failure}
    (hkind : failure.kind = .interrupted) (later : Passes events delivered left) :
    Passes (.fail failure :: events) delivered left
  | whole {events left : List Event} {delivered bytes : Bytes} (hne : bytes ≠ [])
    (later : Passes events delivered left) :
    Passes (.data bytes :: events) (bytes ++ delivered) left
  | front {events left : List Event} {delivered front back : Bytes} (hfront : front ≠ [])
    (hback : back ≠ []) (later : Passes (.data back :: events) delivered left) :
    Passes (.data (front ++ back) :: events) (front ++ delivered) left

theorem Passes.trans {events later left : List Event} {delivered more : Bytes}
    (h : Passes events delivered later) (hmore : Passes later more left) :
    Passes events (delivered ++ more) left := by
  induction h with
  | none => exact hmore
  | notReady _ ih => exact .notReady (ih hmore)
  | interrupted hkind _ ih => exact .interrupted hkind (ih hmore)
  | whole hne _ ih =>
    rw [List.append_assoc]
    exact .whole hne (ih hmore)
  | front hfront hback _ ih =>
    rw [List.append_assoc]
    exact .front hfront hback (ih hmore)

/-- What is left brings what the script brought, but for the bytes that were taken. -/
theorem Passes.wire_eq {events left : List Event} {delivered : Bytes}
    (h : Passes events delivered left) : wire events = Wire.ofBytes delivered ++ wire left := by
  induction h with
  | none => rfl
  | notReady _ ih => exact ih
  | interrupted hkind _ ih => rw [wire_cons, Event.signals, if_pos hkind, List.nil_append, ih]
  | whole hne _ ih => rw [wire_cons, signals_data hne, ih, Wire.ofBytes_append, List.append_assoc]
  | front hfront hback _ ih =>
    have hwhole := List.append_ne_nil_of_left_ne_nil hfront
    rw [wire_cons, signals_data hback] at ih
    rw [wire_cons, signals_data (hwhole _), Wire.ofBytes_append, Wire.ofBytes_append,
      List.append_assoc, List.append_assoc, ih]

/-- A script has handed out some bytes, and has come to stand behind them. -/
structure HandsOut (script : Script) (delivered : Bytes) (left : Script) : Prop where
  passes : Passes script.events delivered left.events
  position : left.position = script.position + delivered.length

theorem HandsOut.none (script : Script) : HandsOut script [] script := ⟨.none script.events, rfl⟩

theorem HandsOut.trans {script later left : Script} {delivered more : Bytes}
    (h : HandsOut script delivered later) (hmore : HandsOut later more left) :
    HandsOut script (delivered ++ more) left := by
  refine ⟨h.passes.trans hmore.passes, ?_⟩
  rw [hmore.position, h.position, List.length_append, Nat.add_assoc]

theorem handsOut_of_notReady {script left : Script} {wanted : Nat}
    (hpoll : Source.poll wanted script = (none, left)) : HandsOut script [] left := by
  obtain ⟨events, position, reads⟩ := script
  cases events with
  | nil => cases hpoll
  | cons event events =>
    cases event with
    | data bytes => cases hpoll
    | fail failure => cases hpoll
    | notReady =>
      cases hpoll
      exact ⟨.notReady (.none events), rfl⟩

theorem handsOut_of_interrupted {script left : Script} {wanted : Nat} {failure : Failure}
    (hkind : failure.kind = .interrupted)
    (hpoll : Source.poll wanted script = (some (.error failure), left)) :
    HandsOut script [] left := by
  obtain ⟨events, position, reads⟩ := script
  cases events with
  | nil => cases hpoll
  | cons event events =>
    cases event with
    | data bytes => cases hpoll
    | notReady => cases hpoll
    | fail failure =>
      cases hpoll
      exact ⟨.interrupted hkind (.none events), rfl⟩

/-- A poll that is answered with bytes takes them from the front. -/
theorem handsOut_of_piece {script left : Script} {wanted : Nat} {piece : Bytes} (hne : piece ≠ [])
    (hpoll : Source.poll wanted script = (some (.ok piece), left)) :
    HandsOut script piece left ∧ piece.length ≤ wanted := by
  obtain ⟨events, position, reads⟩ := script
  cases events with
  | nil =>
    cases hpoll
    contradiction
  | cons event events =>
    cases event with
    | fail failure => cases hpoll
    | notReady => cases hpoll
    | data bytes =>
      cases hpoll
      refine ⟨⟨?_, rfl⟩, List.length_take_le wanted bytes⟩
      have hcut := List.take_append_drop wanted bytes
      by_cases hback : bytes.drop wanted = []
      · rw [hback, List.append_nil] at hcut
        have hwhole := Passes.whole hne (.none events)
        rw [List.append_nil, hcut] at hwhole
        simpa [hback, hcut] using hwhole
      · have hfront := Passes.front hne hback (.none (.data (bytes.drop wanted) :: events))
        rw [List.append_nil, hcut] at hfront
        simpa [hback] using hfront

end Script

-- ════════════════════════════════════════════════════════════════════════
-- Exact reads
-- ════════════════════════════════════════════════════════════════════════

namespace PartialRead

section Source

variable {σ : Type} [Source σ] {reading : PartialRead} {source left : σ}

theorem poll_of_zero (source : σ) (hzero : reading.wanted = 0) :
    reading.poll source = ⟨some (.ok ()), reading, source⟩ := by
  rw [poll, if_pos hzero]

theorem poll_of_notReady (hne : reading.wanted ≠ 0)
    (hpoll : Source.poll reading.wanted source = (none, left)) :
    reading.poll source = ⟨none, reading, left⟩ := by
  rw [poll, if_neg hne]
  split <;> rename_i h <;> cases hpoll.symm.trans h
  rfl

theorem poll_of_closed (hne : reading.wanted ≠ 0)
    (hpoll : Source.poll reading.wanted source = (some (.ok []), left)) :
    reading.poll source =
      ⟨some (.error (.closed reading.behind.length reading.expected)), reading, left⟩ := by
  rw [poll, if_neg hne]
  split <;> rename_i h <;> cases hpoll.symm.trans h
  rfl

theorem poll_of_piece {byte : UInt8} {bytes : Bytes} (hne : reading.wanted ≠ 0)
    (hpoll : Source.poll reading.wanted source = (some (.ok (byte :: bytes)), left)) :
    reading.poll source = (reading.receive (byte :: bytes)).poll left := by
  rw [poll, if_neg hne]
  split <;> rename_i h <;> cases hpoll.symm.trans h
  rfl

theorem poll_of_interrupted {failure : Failure} (hne : reading.wanted ≠ 0)
    (hpoll : Source.poll reading.wanted source = (some (.error failure), left))
    (hmoved : failure.kind = .interrupted ∧ Source.extent left < Source.extent source) :
    reading.poll source = reading.poll left := by
  rw [poll, if_neg hne]
  split <;> rename_i h <;> cases hpoll.symm.trans h
  exact if_pos hmoved

theorem poll_of_failed {failure : Failure} (hne : reading.wanted ≠ 0)
    (hpoll : Source.poll reading.wanted source = (some (.error failure), left))
    (hstuck : ¬(failure.kind = .interrupted ∧ Source.extent left < Source.extent source)) :
    reading.poll source = ⟨some (.error (.transport failure)), reading, left⟩ := by
  rw [poll, if_neg hne]
  split <;> rename_i h <;> cases hpoll.symm.trans h
  exact if_neg hstuck

end Source

/-- An exact read has got some bytes, and wants as many less. -/
structure Grows (reading : PartialRead) (delivered : Bytes) (later : PartialRead) : Prop where
  bytes : later.bytes = reading.bytes ++ delivered
  wanted : later.wanted + delivered.length = reading.wanted

theorem Grows.none (reading : PartialRead) : reading.Grows [] reading :=
  ⟨(List.append_nil _).symm, rfl⟩

theorem Grows.trans {reading later last : PartialRead} {delivered more : Bytes}
    (h : reading.Grows delivered later) (hmore : later.Grows more last) :
    reading.Grows (delivered ++ more) last := by
  constructor
  · rw [hmore.bytes, h.bytes, List.append_assoc]
  · have hfirst := h.wanted
    have hsecond := hmore.wanted
    rw [List.length_append]
    omega

theorem Grows.eq_of_nothing {reading later : PartialRead} (h : reading.Grows [] later) :
    later = reading := by
  obtain ⟨wanted, behind⟩ := reading
  obtain ⟨wanted', behind'⟩ := later
  have hbytes : behind'.reverse = behind.reverse := h.bytes.trans (List.append_nil _)
  have hwanted : wanted' = wanted := h.wanted
  rw [List.reverse_inj.1 hbytes, hwanted]

theorem grows_receive (reading : PartialRead) {piece : Bytes} (hle : piece.length ≤ reading.wanted) :
    reading.Grows piece (reading.receive piece) := by
  constructor
  · simp [bytes, receive, List.reverseAux_eq]
  · exact Nat.sub_add_cancel hle

/-- Unless it fails, a poll of an exact read gets the bytes that the script hands out, and it is over
just when it has all of them. -/
theorem poll_handsOut (reading : PartialRead) (script : Script)
    (hwell : ∀ failure, (reading.poll script).ended ≠ some (.error failure)) :
    let polled := reading.poll script
    ∃ delivered, script.HandsOut delivered polled.source ∧ reading.Grows delivered polled.reading ∧
      (polled.ended = none ↔ polled.reading.wanted ≠ 0) := by
  fun_induction poll reading script with
  | case1 reading script hzero => exact ⟨[], .none script, .none reading, by simp [hzero]⟩
  | case2 reading script hne left hpoll =>
    exact ⟨[], Script.handsOut_of_notReady hpoll, .none reading, by simp [hne]⟩
  | case3 => exact absurd rfl (hwell _)
  | case4 reading script hne byte bytes left hpoll ih =>
    obtain ⟨hpiece, hle⟩ := Script.handsOut_of_piece (List.cons_ne_nil byte bytes) hpoll
    obtain ⟨more, hmore, hgrows, hended⟩ := ih hwell
    exact ⟨_, hpiece.trans hmore, (reading.grows_receive hle).trans hgrows, hended⟩
  | case5 reading script hne failure left hpoll hmoved ih =>
    obtain ⟨more, hmore, hgrows, hended⟩ := ih hwell
    exact ⟨more, (Script.handsOut_of_interrupted hmoved.1 hpoll).trans hmore, hgrows, hended⟩
  | case6 => exact absurd rfl (hwell _)

end PartialRead

end FramedVideo.Transport
