import FramedVideo.Proofs.Transport.Stops
import FramedVideo.Proofs.Transport.Watched

/-!
# Exact reads of a script

An exact read takes the bytes of a script up to the last one that it wants, and goes past interruptions,
or it ends at the first event that stops it. It asks once for each piece, once for each interruption, and
once for the event that stops it.

## Main definitions

- `Script.Event.stop?` — whether an event ends an exact read
- `Script.flow`, `Script.fromStop`, `Script.stop` — the events in front of the first stop, and from it on
- `Script.cut` — events that are cut behind a number of bytes
- `Form.asks` — the question that an event answers

Main statements: `Script.loop_passed`, `Script.loop_flow`, `Script.reads_exactly`.
-/

namespace FramedVideo.Transport

-- ════════════════════════════════════════════════════════════════════════
-- The events of a script
-- ════════════════════════════════════════════════════════════════════════

/-- What a stop answers to one who asks for bytes. -/
def Stop.answer : Stop → Except Failure Bytes
  | close => .ok []
  | fail failure _ => .error failure

namespace Script

/-- The stop that an event is for an exact read, if it is one. -/
def Event.stop? : Event → Option Stop
  | data [] => some .close
  | data (_ :: _) => none
  | fail failure => if h : failure.kind = .interrupted then none else some (.fail failure h)
  | notReady => none

/-- The answer to one who asks for no fewer bytes than the event has. -/
def Event.answer : Event → Option (Except Failure Bytes)
  | data bytes => some (.ok bytes)
  | fail failure => some (.error failure)
  | notReady => none

/-- The events in front of the first stop. -/
def flow (events : List Event) : List Event := events.takeWhile (·.stop?.isNone)

/-- The events from the first stop on. -/
def fromStop (events : List Event) : List Event := events.dropWhile (·.stop?.isNone)

/-- The first stop. After all events the peer has closed. -/
def stop (events : List Event) : Stop := (events.findSome? Event.stop?).getD .close

/-- The events up to the last of a number of bytes, and those behind it. An event that brings more bytes
than are missing is cut in two. -/
def cut : Nat → List Event → List Event × List Event
  | _, [] => ([], [])
  | wanted, event :: events =>
    if wanted = 0 then
      ([], event :: events)
    else if event.bytes.length ≤ wanted then
      let later := cut (wanted - event.bytes.length) events
      (event :: later.1, later.2)
    else
      ([.data (event.bytes.take wanted)], .data (event.bytes.drop wanted) :: events)

theorem fromStop_cases (events : List Event) :
    (fromStop events = [] ∧ stop events = .close) ∨
      ∃ event after, fromStop events = event :: after ∧ event.stop? = some (stop events) := by
  induction events with
  | nil => exact .inl ⟨rfl, rfl⟩
  | cons event events ih =>
    cases hstop : event.stop? with
    | none => simpa [fromStop, stop, hstop] using ih
    | some stop =>
      refine .inr ⟨event, events, ?_, ?_⟩
      · simp [fromStop, hstop]
      · simp [Script.stop, hstop]

theorem flow_append_fromStop (events : List Event) : flow events ++ fromStop events = events :=
  List.takeWhile_append_dropWhile

theorem stop?_of_mem_flow (events : List Event) : ∀ event ∈ flow events, event.stop? = none := by
  intro event hmem
  have hall := List.all_eq_true.1 List.all_takeWhile event hmem
  exact Option.isNone_iff_eq_none.1 hall

theorem eq_data_of_lt {event : Event} {wanted : Nat} (hlt : wanted < event.bytes.length) :
    ∃ bytes, event = .data bytes := by
  cases event with
  | data bytes => exact ⟨bytes, rfl⟩
  | fail failure => exact absurd hlt (Nat.not_lt_zero wanted)
  | notReady => exact absurd hlt (Nat.not_lt_zero wanted)

theorem cut_zero (events : List Event) : cut 0 events = ([], events) := by
  cases events with
  | nil => rfl
  | cons event events => exact if_pos rfl

theorem cut_of_le {wanted : Nat} {event : Event} (events : List Event) (hne : wanted ≠ 0)
    (hle : event.bytes.length ≤ wanted) :
    cut wanted (event :: events) =
      (event :: (cut (wanted - event.bytes.length) events).1,
        (cut (wanted - event.bytes.length) events).2) := by
  rw [cut, if_neg hne, if_pos hle]

theorem cut_of_lt {wanted : Nat} {event : Event} (events : List Event) (hne : wanted ≠ 0)
    (hlt : wanted < event.bytes.length) :
    cut wanted (event :: events) =
      ([.data (event.bytes.take wanted)], .data (event.bytes.drop wanted) :: events) := by
  rw [cut, if_neg hne, if_neg (by omega)]

/-- Events that bring fewer bytes are not cut. -/
theorem cut_of_short {wanted : Nat} {events : List Event}
    (hlt : (events.flatMap Event.bytes).length < wanted) : cut wanted events = (events, []) := by
  induction events generalizing wanted with
  | nil => rfl
  | cons event events ih =>
    rw [List.flatMap_cons, List.length_append] at hlt
    rw [cut_of_le events (by omega) (by omega), ih (by omega)]

theorem length_cut_le (wanted : Nat) (events : List Event) :
    (cut wanted events).1.length ≤ events.length := by
  fun_induction cut wanted events with
  | case1 => exact Nat.le_refl _
  | case2 => exact Nat.zero_le _
  | case3 wanted event events hne hle later ih => exact Nat.succ_le_succ ih
  | case4 => simp

-- ════════════════════════════════════════════════════════════════════════
-- One event
-- ════════════════════════════════════════════════════════════════════════

end Script

/-- A read that waits does not meet the moments at which nothing is ready. -/
def Form.meets : Form → Script.Event → Bool
  | blocking, event => event ≠ .notReady
  | polled, _ => true

/-- The question of one who wants a number of bytes, if the event is met. -/
def Form.asks (form : Form) (wanted : Nat) (event : Script.Event) : List Query :=
  if form.meets event then [⟨wanted, event.answer⟩] else []

namespace Form

theorem asks_eq (form : Form) (wanted : Nat) (event : Script.Event) :
    form.asks wanted event = [⟨wanted, event.answer⟩] ∨
      form.asks wanted event = [] ∧ form.meets event = false ∧ event.bytes = [] := by
  cases hmeets : form.meets event with
  | true => exact .inl (if_pos hmeets)
  | false =>
    refine .inr ⟨if_neg (by simp [hmeets]), rfl, ?_⟩
    cases form <;> cases event <;> first | rfl | cases hmeets

theorem map_answer_asks (form : Form) (wanted : Nat) (event : Script.Event) :
    (form.asks wanted event).map Query.answer =
      ([event].filter form.meets).map Script.Event.answer := by
  rw [asks, List.filter_cons]
  split <;> rfl

theorem flatMap_bytes_asks (form : Form) (wanted : Nat) (event : Script.Event) :
    (form.asks wanted event).flatMap Query.bytes = event.bytes := by
  rcases form.asks_eq wanted event with hasks | ⟨hasks, -, hbytes⟩
  · rw [hasks, List.flatMap_singleton]
    cases event <;> rfl
  · rw [hasks, hbytes, List.flatMap_nil]

theorem outstanding_asks_append (form : Form) {wanted : Nat} {event : Script.Event}
    {queries : List Query} (hne : wanted ≠ 0) (hle : event.bytes.length ≤ wanted)
    (h : Outstanding (wanted - event.bytes.length) queries) :
    Outstanding wanted (form.asks wanted event ++ queries) := by
  have hbytes := form.flatMap_bytes_asks wanted event
  rcases form.asks_eq wanted event with hasks | ⟨hasks, -, hnothing⟩
  · rw [hasks, List.flatMap_singleton] at hbytes
    rw [hasks]
    exact .cons rfl hne (hbytes ▸ hle) (hbytes ▸ h)
  · rw [hnothing] at h
    rw [hasks]
    exact h

end Form

namespace Script

variable {form : Form} {wanted : Nat} {events : List Event} {position reads : Nat}

theorem ask_cons {event : Event} (hready : event ≠ .notReady) :
    form.ask wanted (⟨event :: events, position, reads⟩ : Script) =
      serve wanted ⟨event :: events, position, reads⟩ := by
  cases form with
  | polled => rfl
  | blocking =>
    have hread := read_eq_serve wanted ⟨event :: events, position, reads⟩
    cases event with
    | notReady => contradiction
    | data bytes => exact hread
    | fail failure => exact hread

theorem ask_nil : form.ask wanted (⟨[], position, reads⟩ : Script) =
    (some (.ok []), ⟨[], position, reads + 1⟩) := by
  cases form <;> rfl

theorem extent_ask_failed {script left : Script} {failure : Failure}
    (hask : form.ask wanted script = (some (.error failure), left)) :
    Source.extent left < Source.extent script := by
  cases form with
  | polled => exact extent_poll_error hask
  | blocking =>
    have hserve := (read_eq_serve wanted script).symm.trans hask
    exact Nat.lt_of_lt_of_le (extent_poll_error hserve) (weight_ready_le script.events)

/-- One who waits does not notice the moments at which nothing is ready. -/
theorem gather_notReady (hne : wanted ≠ 0) (behind : Bytes) (queries : List Query) :
    Form.blocking.loop wanted behind
        (⟨⟨.notReady :: events, position, reads⟩, queries⟩ : Watched Script) =
      Form.blocking.loop wanted behind ⟨⟨events, position, reads⟩, queries⟩ := by
  rcases hask : Form.blocking.ask wanted (⟨events, position, reads⟩ : Script) with
    ⟨_ | (failure | piece), left⟩
  · exact absurd (congrArg Prod.fst hask) Form.ask_blocking_ne_none
  all_goals
    have hsame : Form.blocking.ask wanted (⟨.notReady :: events, position, reads⟩ : Script) = _ :=
      hask
    have hearly := Watched.ask_of_ask queries hsame
    have hlate := Watched.ask_of_ask queries hask
  · by_cases hkind : failure.kind = .interrupted
    · rw [Form.loop_of_interrupted behind hne hearly hkind (extent_ask_failed hsame),
        Form.loop_of_interrupted behind hne hlate hkind (extent_ask_failed hask)]
    · rw [Form.loop_of_failed behind hne hearly fun h => hkind h.1,
        Form.loop_of_failed behind hne hlate fun h => hkind h.1]
  · by_cases hpiece : piece = []
    · subst hpiece
      rw [Form.loop_of_closed behind hne hearly, Form.loop_of_closed behind hne hlate]
    · rw [Form.loop_of_piece behind hne hpiece hearly, Form.loop_of_piece behind hne hpiece hlate]

/-- An event that is no stop, and brings no more bytes than are wanted, is passed. -/
theorem loop_passed {event : Event} (hgoes : event.stop? = none) (hne : wanted ≠ 0)
    (hle : event.bytes.length ≤ wanted) (behind : Bytes) (queries : List Query) :
    form.loop wanted behind (⟨⟨event :: events, position, reads⟩, queries⟩ : Watched Script) =
      form.loop (wanted - event.bytes.length) (event.bytes.reverseAux behind)
        ⟨⟨events, position + event.bytes.length, reads + (form.asks wanted event).length⟩,
          queries ++ form.asks wanted event⟩ := by
  cases event with
  | data bytes =>
    have htake : bytes.take wanted = bytes := List.take_of_length_le hle
    have hdrop : bytes.drop wanted = [] := List.drop_of_length_le hle
    have hask : form.ask wanted (⟨.data bytes :: events, position, reads⟩ : Script) =
        (some (.ok bytes), ⟨events, position + bytes.length, reads + 1⟩) := by
      rw [ask_cons (by simp), serve]
      simp only [htake, hdrop, List.isEmpty_nil, if_true]
    have hbytes : bytes ≠ [] := by
      rintro rfl
      cases hgoes
    have hasks : form.asks wanted (.data bytes) = [⟨wanted, some (.ok bytes)⟩] := by
      cases form <;> rfl
    rw [Form.loop_of_piece behind hne hbytes (Watched.ask_of_ask queries hask), hasks]
    rfl
  | fail failure =>
    have hask : form.ask wanted (⟨.fail failure :: events, position, reads⟩ : Script) =
        (some (.error failure), ⟨events, position, reads + 1⟩) := by
      rw [ask_cons (by simp), serve]
    have hkind : failure.kind = .interrupted :=
      Decidable.byContradiction fun hother => by simp [Event.stop?, hother] at hgoes
    have hasks : form.asks wanted (.fail failure) = [⟨wanted, some (.error failure)⟩] := by
      cases form <;> rfl
    rw [Form.loop_of_interrupted behind hne (Watched.ask_of_ask queries hask) hkind
      (extent_ask_failed hask), hasks]
    rfl
  | notReady =>
    cases form with
    | blocking =>
      rw [gather_notReady hne]
      simp [Form.asks, Form.meets, Event.bytes]
    | polled =>
      have hask : Form.polled.ask wanted (⟨.notReady :: events, position, reads⟩ : Script) =
          (none, ⟨events, position, reads + 1⟩) := rfl
      rw [Form.loop_of_notReady behind hne (Watched.ask_of_ask queries hask)]
      rfl

/-- Of bytes that are more than are wanted, the front ends the read. -/
theorem loop_cut {bytes : Bytes} (hne : wanted ≠ 0) (hlt : wanted < bytes.length) (behind : Bytes)
    (queries : List Query) :
    form.loop wanted behind (⟨⟨.data bytes :: events, position, reads⟩, queries⟩ : Watched Script) =
      ⟨.ok (), (bytes.take wanted).reverseAux behind,
        ⟨⟨.data (bytes.drop wanted) :: events, position + wanted, reads + 1⟩,
          queries ++ [⟨wanted, some (.ok (bytes.take wanted))⟩]⟩⟩ := by
  have hfront : (bytes.take wanted).length = wanted := List.length_take_of_le (Nat.le_of_lt hlt)
  have hback : (bytes.drop wanted).isEmpty = false := by
    rw [List.isEmpty_eq_false_iff, ne_eq, List.drop_eq_nil_iff]
    omega
  have hask : form.ask wanted (⟨.data bytes :: events, position, reads⟩ : Script) =
      (some (.ok (bytes.take wanted)),
        ⟨.data (bytes.drop wanted) :: events, position + wanted, reads + 1⟩) := by
    rw [ask_cons (by simp), serve]
    simp only [hfront, hback, Bool.false_eq_true, if_false]
  have hpiece : bytes.take wanted ≠ [] := by
    rw [← List.length_pos_iff, hfront]
    omega
  rw [Form.loop_of_piece behind hne hpiece (Watched.ask_of_ask queries hask), hfront, Nat.sub_self,
    Form.loop_zero]

/-- A stop ends the read, and is gone. -/
theorem loop_stopped {event : Event} {stop : Stop} (hstop : event.stop? = some stop)
    (hne : wanted ≠ 0) (behind : Bytes) (queries : List Query) :
    form.loop wanted behind (⟨⟨event :: events, position, reads⟩, queries⟩ : Watched Script) =
      ⟨.error (stop.failure behind.length (behind.length + wanted)), behind,
        ⟨⟨events, position, reads + 1⟩, queries ++ [⟨wanted, some stop.answer⟩]⟩⟩ := by
  cases event with
  | notReady => cases hstop
  | data bytes =>
    cases bytes with
    | cons byte bytes => cases hstop
    | nil =>
      cases hstop
      have hask : form.ask wanted (⟨.data [] :: events, position, reads⟩ : Script) =
          (some (.ok []), ⟨events, position, reads + 1⟩) := by
        rw [ask_cons (by simp), serve]
        simp
      rw [Form.loop_of_closed behind hne (Watched.ask_of_ask queries hask)]
      rfl
  | fail failure =>
    have hask : form.ask wanted (⟨.fail failure :: events, position, reads⟩ : Script) =
        (some (.error failure), ⟨events, position, reads + 1⟩) := by
      rw [ask_cons (by simp), serve]
    by_cases hkind : failure.kind = .interrupted
    · simp [Event.stop?, hkind] at hstop
    · simp only [Event.stop?, hkind, dite_false, Option.some.injEq] at hstop
      subst hstop
      rw [Form.loop_of_failed behind hne (Watched.ask_of_ask queries hask) fun h => hkind h.1]
      rfl

/-- Behind the last event the peer has closed. -/
theorem loop_end (hne : wanted ≠ 0) (behind : Bytes) (queries : List Query) :
    form.loop wanted behind (⟨⟨[], position, reads⟩, queries⟩ : Watched Script) =
      ⟨.error (.closed behind.length (behind.length + wanted)), behind,
        ⟨⟨[], position, reads + 1⟩, queries ++ [⟨wanted, some (.ok [])⟩]⟩⟩ :=
  Form.loop_of_closed behind hne (Watched.ask_of_ask queries ask_nil)

-- ════════════════════════════════════════════════════════════════════════
-- All events
-- ════════════════════════════════════════════════════════════════════════

/-- A loop over reads takes what it wants of the events that do not stop it, and asks for each of their
pieces and interruptions. -/
theorem loop_flow (form : Form) {flow : List Event} (hflow : ∀ event ∈ flow, event.stop? = none)
    (rest : List Event) (wanted : Nat) (behind : Bytes) (position reads : Nat) (queries : List Query) :
    let bytes := flow.flatMap Event.bytes
    ∃ asked : List Query,
      form.loop wanted behind (⟨⟨flow ++ rest, position, reads⟩, queries⟩ : Watched Script) =
        form.loop (wanted - bytes.length) ((bytes.take wanted).reverseAux behind)
          ⟨⟨(cut wanted flow).2 ++ rest, position + (bytes.take wanted).length,
            reads + asked.length⟩, queries ++ asked⟩ ∧
      asked.map Query.answer = ((cut wanted flow).1.filter form.meets).map Event.answer ∧
      asked.flatMap Query.bytes = bytes.take wanted ∧ Outstanding wanted asked := by
  induction flow generalizing wanted behind position reads queries with
  | nil => exact ⟨[], by simp [cut], by simp [cut], by simp, outstanding_nil wanted⟩
  | cons event flow ih =>
    rw [List.flatMap_cons]
    generalize hlater : flow.flatMap Event.bytes = later at ih
    by_cases hne : wanted = 0
    · subst hne
      exact ⟨[], by simp [cut_zero], by simp [cut_zero], by simp, outstanding_nil 0⟩
    by_cases hle : event.bytes.length ≤ wanted
    · have htake : (event.bytes ++ later).take wanted =
          event.bytes ++ later.take (wanted - event.bytes.length) := by
        rw [List.take_append, List.take_of_length_le hle]
      obtain ⟨asked, hloop, hanswers, hbytes, houtstanding⟩ :=
        ih (fun event h => hflow event (List.mem_cons_of_mem _ h)) (wanted - event.bytes.length)
          (event.bytes.reverseAux behind) (position + event.bytes.length)
          (reads + (form.asks wanted event).length) (queries ++ form.asks wanted event)
      have hbehind : (later.take (wanted - event.bytes.length)).reverseAux
          (event.bytes.reverseAux behind) = ((event.bytes ++ later).take wanted).reverseAux behind := by
        rw [htake]
        simp only [List.reverseAux_eq, List.reverse_append, List.append_assoc]
      refine ⟨form.asks wanted event ++ asked, ?_, ?_, ?_,
        form.outstanding_asks_append hne hle houtstanding⟩
      · rw [List.cons_append, loop_passed (hflow event List.mem_cons_self) hne hle, hloop, hbehind,
          cut_of_le flow hne hle, htake, List.length_append, List.length_append, List.length_append,
          Nat.sub_sub, Nat.add_assoc, Nat.add_assoc, List.append_assoc]
      · rw [cut_of_le flow hne hle, List.map_append, form.map_answer_asks, hanswers,
          ← List.map_append, ← List.filter_append, List.singleton_append]
      · rw [List.flatMap_append, form.flatMap_bytes_asks, hbytes, htake]
    · have hlt : wanted < event.bytes.length := Nat.lt_of_not_le hle
      obtain ⟨bytes, rfl⟩ := eq_data_of_lt hlt
      have hlong : wanted < bytes.length := hlt
      have htake : (bytes ++ later).take wanted = bytes.take wanted :=
        List.take_append_of_le_length (Nat.le_of_lt hlong)
      have hfront : (bytes.take wanted).length = wanted :=
        List.length_take_of_le (Nat.le_of_lt hlong)
      have hover : wanted - (bytes ++ later).length = 0 := by
        rw [List.length_append]
        omega
      refine ⟨[⟨wanted, some (.ok (bytes.take wanted))⟩], ?_, ?_, ?_, ?_⟩
      · rw [List.cons_append, loop_cut hne hlong, cut_of_lt flow hne hlt]
        simp only [Event.bytes, hover, htake, hfront, Form.loop_zero]
        rfl
      · rw [cut_of_lt flow hne hlt]
        cases form <;> rfl
      · exact (List.append_nil _).trans htake.symm
      · exact .cons rfl hne (Nat.le_of_eq hfront) (outstanding_nil _)

/-- A loop over reads that has come to the first stop ends there. -/
theorem loop_fromStop (events : List Event) (hne : wanted ≠ 0) (behind : Bytes)
    (queries : List Query) :
    form.loop wanted behind (⟨⟨fromStop events, position, reads⟩, queries⟩ : Watched Script) =
      ⟨.error ((stop events).failure behind.length (behind.length + wanted)), behind,
        ⟨⟨(fromStop events).tail, position, reads + 1⟩,
          queries ++ [⟨wanted, some (stop events).answer⟩]⟩⟩ := by
  rcases fromStop_cases events with ⟨hnone, hclose⟩ | ⟨event, after, hfront, hstop⟩
  · rw [hnone, hclose]
    exact loop_end hne behind queries
  · rw [hfront]
    exact loop_stopped hstop hne behind queries

/-- With enough bytes in front of the first stop, a loop over reads ends well. -/
theorem loop_of_enough (form : Form) (script : Script)
    (hle : wanted ≤ ((flow script.events).flatMap Event.bytes).length) :
    ∃ asked : List Query,
      form.loop wanted [] (⟨script, []⟩ : Watched Script) =
        ⟨.ok (), (((flow script.events).flatMap Event.bytes).take wanted).reverse,
          ⟨⟨(cut wanted (flow script.events)).2 ++ fromStop script.events, script.position + wanted,
            script.reads + asked.length⟩, asked⟩⟩ ∧
      asked.map Query.answer =
        ((cut wanted (flow script.events)).1.filter form.meets).map Event.answer ∧
      Outstanding wanted asked := by
  obtain ⟨asked, hloop, hanswers, -, houtstanding⟩ :=
    loop_flow form (stop?_of_mem_flow script.events) (fromStop script.events) wanted []
      script.position script.reads []
  have hdone := Nat.sub_eq_zero_of_le hle
  have hall := List.length_take_of_le hle
  refine ⟨asked, ?_, hanswers, houtstanding⟩
  rwa [flow_append_fromStop, hdone, hall, Form.loop_zero, List.nil_append, List.reverseAux_eq,
    List.append_nil] at hloop

/-- With fewer, it reports the first stop. -/
theorem loop_of_short (form : Form) (script : Script)
    (hlt : ((flow script.events).flatMap Event.bytes).length < wanted) :
    ∃ asked : List Query,
      form.loop wanted [] (⟨script, []⟩ : Watched Script) =
        ⟨.error ((stop script.events).failure ((flow script.events).flatMap Event.bytes).length wanted),
          ((flow script.events).flatMap Event.bytes).reverse,
          ⟨⟨(fromStop script.events).tail,
            script.position + ((flow script.events).flatMap Event.bytes).length,
            script.reads + asked.length⟩, asked⟩⟩ ∧
      asked.map Query.answer = ((flow script.events).filter form.meets).map Event.answer ++
        [some (stop script.events).answer] ∧
      Outstanding wanted asked := by
  obtain ⟨asked, hloop, hanswers, hbytes, houtstanding⟩ :=
    loop_flow form (stop?_of_mem_flow script.events) (fromStop script.events) wanted []
      script.position script.reads []
  generalize hflow : (flow script.events).flatMap Event.bytes = bytes at *
  have hmissing : wanted - bytes.length ≠ 0 := by omega
  have htake := List.take_of_length_le (Nat.le_of_lt hlt)
  have hexpected : bytes.reverse.length + (wanted - bytes.length) = wanted := by
    rw [List.length_reverse]
    omega
  refine ⟨asked ++ [⟨wanted - bytes.length, some (stop script.events).answer⟩], ?_, ?_,
    houtstanding.concat hmissing ?_⟩
  · rw [flow_append_fromStop, cut_of_short (hflow.symm ▸ hlt), htake, List.nil_append,
      List.nil_append, List.reverseAux_eq, List.append_nil, loop_fromStop _ hmissing, hexpected,
      List.length_reverse] at hloop
    rwa [List.length_append, List.length_singleton, ← Nat.add_assoc]
  · rw [List.map_append, hanswers, cut_of_short (hflow.symm ▸ hlt)]
    rfl
  · rw [hbytes, htake]
    exact Nat.sub_add_cancel (Nat.le_of_lt hlt)

end Script

/-- A loop over watched reads tells what an exact read comes to, watched or not. -/
theorem Form.fill_of_loop {form : Form} {script left : Script} {buffer behind : Bytes}
    {ended : Except ReadFailure Unit} {queries : List Query}
    (hloop : form.loop buffer.length [] (⟨script, []⟩ : Watched Script) =
      ⟨ended, behind, ⟨left, queries⟩⟩) :
    form.fill buffer (⟨script, []⟩ : Watched Script) =
        (ended, overwrite behind.reverse buffer, ⟨left, queries⟩) ∧
      form.fill buffer script = (ended, overwrite behind.reverse buffer, left) := by
  have hsource := Watched.loop_source form buffer.length [] ⟨script, []⟩
  rw [hloop] at hsource
  rw [fill_eq, fill_eq, hloop, hsource]
  exact ⟨rfl, rfl⟩

namespace Script

/-- With enough bytes in front of the first stop, an exact read fills its buffer with the first of them
and leaves everything behind them. With fewer it reports the stop, which is gone with all that is in front
of it, and the buffer has the bytes at its front and is unchanged behind them. It asks once for each piece,
interruption and stop that it meets, and always for just the bytes that are missing. -/
theorem reads_exactly (form : Form) (script : Script) (buffer : Bytes) :
    let front := flow script.events
    let bytes := front.flatMap Event.bytes
    let taken := (cut buffer.length front).1
    let kept := (cut buffer.length front).2
    ∃ ended filled left queries,
      form.fill buffer (⟨script, []⟩ : Watched Script) = (ended, filled, ⟨left, queries⟩) ∧
      form.fill buffer script = (ended, filled, left) ∧
      (buffer.length ≤ bytes.length →
        ended = .ok () ∧ filled = bytes.take buffer.length ∧
        left.events = kept ++ fromStop script.events ∧
        queries.map Query.answer = (taken.filter form.meets).map Event.answer) ∧
      (bytes.length < buffer.length →
        ended = .error ((stop script.events).failure bytes.length buffer.length) ∧
        filled = bytes ++ buffer.drop bytes.length ∧
        left.events = (fromStop script.events).tail ∧
        queries.map Query.answer =
          (front.filter form.meets).map Event.answer ++ [some (stop script.events).answer]) ∧
      Outstanding buffer.length queries ∧ (buffer = [] → queries = [] ∧ left = script) ∧
      left.position = script.position + min bytes.length buffer.length ∧
      left.reads = script.reads + queries.length ∧ queries.length ≤ script.events.length + 1 := by
  intro front bytes taken kept
  have hflow : front.length ≤ script.events.length := (List.takeWhile_sublist _).length_le
  by_cases hle : buffer.length ≤ bytes.length
  · obtain ⟨asked, hloop, hanswers, houtstanding⟩ := loop_of_enough form script hle
    obtain ⟨hwatched, hfill⟩ := Form.fill_of_loop hloop
    have hwhole : (bytes.take buffer.length).length = buffer.length := List.length_take_of_le hle
    have hfilled : overwrite (bytes.take buffer.length).reverse.reverse buffer =
        bytes.take buffer.length := by
      rw [List.reverse_reverse, overwrite, hwhole, List.drop_length, List.append_nil]
    have hcount : asked.length = (taken.filter form.meets).length := by
      rw [← List.length_map Query.answer, hanswers, List.length_map]
    have htaken : (taken.filter form.meets).length ≤ front.length :=
      Nat.le_trans (List.length_filter_le _ _) (length_cut_le _ _)
    rw [hfilled] at hwatched hfill
    refine ⟨_, _, _, asked, hwatched, hfill, fun _ => ⟨rfl, rfl, rfl, hanswers⟩, ?_, houtstanding,
      ?_, ?_, rfl, by omega⟩
    · intro hlt
      exact absurd hle (Nat.not_le_of_lt hlt)
    · rintro rfl
      have hsame := (Form.loop_zero form [] _).symm.trans hloop
      simp only [Gathered.mk.injEq, Watched.mk.injEq] at hsame
      exact ⟨hsame.2.2.2.symm, hsame.2.2.1.symm⟩
    · rw [Nat.min_eq_right hle]
  · have hlt : bytes.length < buffer.length := Nat.lt_of_not_le hle
    obtain ⟨asked, hloop, hanswers, houtstanding⟩ := loop_of_short form script hlt
    obtain ⟨hwatched, hfill⟩ := Form.fill_of_loop hloop
    have hcount : asked.length = (front.filter form.meets).length + 1 := by
      rw [← List.length_map Query.answer, hanswers, List.length_append, List.length_map]
      rfl
    have hmet : (front.filter form.meets).length ≤ front.length := List.length_filter_le _ _
    rw [List.reverse_reverse] at hwatched hfill
    refine ⟨_, _, _, asked, hwatched, hfill, fun h => absurd h hle, fun _ => ⟨rfl, rfl, rfl, hanswers⟩,
      houtstanding, ?_, ?_, rfl, by omega⟩
    · rintro rfl
      exact absurd hlt (Nat.not_lt_zero _)
    · rw [Nat.min_eq_left (Nat.le_of_lt hlt)]

/-- Five bytes are read from a script that is not ready, brings two, is interrupted, and brings four. Of
another that closes after the two, the buffer keeps its last three bytes. -/
theorem reads_exactly_of_five :
    let interrupted : Failure := { kind := .interrupted }
    let script : Script := ⟨[.notReady, .data [1, 2], .fail interrupted, .data [3, 4, 5, 6]], 0, 0⟩
    let closed : Script := ⟨[.data [1, 2], .data [], .data [3]], 0, 0⟩
    (∃ left queries,
      Form.polled.fill [0, 0, 0, 0, 0] (⟨script, []⟩ : Watched Script) =
        (.ok (), [1, 2, 3, 4, 5], ⟨left, queries⟩) ∧
      left.events = [.data [6]] ∧
      queries.map Query.answer =
        [none, some (.ok [1, 2]), some (.error interrupted), some (.ok [3, 4, 5])]) ∧
    ∃ left queries,
      Form.blocking.fill [0, 0, 7, 8, 9] (⟨closed, []⟩ : Watched Script) =
        (.error (.closed 2 5), [1, 2, 7, 8, 9], ⟨left, queries⟩) ∧
      left.events = [.data [3]] ∧
      queries.map Query.answer = [some (.ok [1, 2]), some (.ok [])] := by
  intro interrupted script closed
  constructor
  · obtain ⟨ended, filled, left, queries, hfill, -, henough, -⟩ :=
      reads_exactly .polled script [0, 0, 0, 0, 0]
    obtain ⟨rfl, rfl, hleft, hanswers⟩ := henough (by decide)
    exact ⟨left, queries, hfill, hleft, hanswers⟩
  · obtain ⟨ended, filled, left, queries, hfill, -, -, hshort, -⟩ :=
      reads_exactly .blocking closed [0, 0, 7, 8, 9]
    obtain ⟨rfl, rfl, hleft, hanswers⟩ := hshort (by decide)
    exact ⟨left, queries, hfill, hleft, hanswers⟩

end Script

end FramedVideo.Transport
