import FramedVideo.Proofs.Transport.Alike
import FramedVideo.Transport.Script
import Mathlib.Logic.Relation

/-!
# Scripts and their wires

What a script brings is a function of its events: the bytes one by one, the closes, and the failures
that are not interruptions. The bytes that a script has handed out and those that are to come are
always the same number together.

## Main definitions

- `Script.wire` — what the events of a script bring
- `Script.Rearranged` — the same events, but for interruptions and the cutting of the bytes
- `Script.Tracks` — a script that brings a wire and has a total number of bytes
- `Script.prompt` — a script without the moments at which nothing is ready

Main statements: `Script.keptByReads_tracks`, `Script.keptByPolls_tracks`, `Script.meter`,
`Script.pollsAlike_prompt`.
-/

namespace FramedVideo.Transport.Script

/-- What an event brings. Bytes that are none are a close. -/
def Event.signals : Event → Wire
  | data [] => [.close]
  | data (byte :: bytes) => Wire.ofBytes (byte :: bytes)
  | fail failure => if failure.kind = .interrupted then [] else [.fail failure]
  | notReady => []

/-- What the events of a script bring. -/
def wire (events : List Event) : Wire := events.flatMap Event.signals

@[simp]
theorem wire_cons (event : Event) (events : List Event) :
    wire (event :: events) = event.signals ++ wire events := rfl

@[simp]
theorem wire_append (front back : List Event) : wire (front ++ back) = wire front ++ wire back :=
  List.flatMap_append

theorem signals_data {bytes : Bytes} (hne : bytes ≠ []) :
    (Event.data bytes).signals = Wire.ofBytes bytes := by
  cases bytes with
  | nil => contradiction
  | cons byte bytes => rfl

theorem wire_ready (events : List Event) : wire (ready events) = wire events := by
  fun_induction ready events with
  | case1 events ih => rw [ih, wire_cons, Event.signals, List.nil_append]
  | case2 => rfl

theorem wire_rest (left : Bytes) (events : List Event) :
    wire (if left.isEmpty then events else .data left :: events) =
      Wire.ofBytes left ++ wire events := by
  cases left with
  | nil => rfl
  | cons byte bytes => rfl

-- ════════════════════════════════════════════════════════════════════════
-- Rearrangements
-- ════════════════════════════════════════════════════════════════════════

/-- One change to the events of a script that leaves alone what they bring. -/
inductive Change : List Event → List Event → Prop where
  /-- Bytes that arrive together arrive in two pieces. -/
  | split (before after : List Event) (front back : Bytes) (hfront : front ≠ []) (hback : back ≠ []) :
    Change (before ++ .data (front ++ back) :: after)
      (before ++ .data front :: .data back :: after)
  /-- The script is interrupted once more. -/
  | interrupt (before after : List Event) (failure : Failure) (hkind : failure.kind = .interrupted) :
    Change (before ++ after) (before ++ .fail failure :: after)

/-- The one list of events comes from the other by any number of changes and their reversals. -/
def Rearranged : List Event → List Event → Prop := Relation.EqvGen Change

theorem Change.wire_eq {first second : List Event} (h : Change first second) :
    wire first = wire second := by
  cases h with
  | split before after front back hfront hback =>
    have hwhole : front ++ back ≠ [] := List.append_ne_nil_of_left_ne_nil hfront back
    simp only [wire_append, wire_cons, signals_data hwhole, signals_data hfront, signals_data hback,
      Wire.ofBytes_append, List.append_assoc]
  | interrupt before after failure hkind =>
    simp only [wire_append, wire_cons, Event.signals, if_pos hkind, List.nil_append]

theorem Rearranged.wire_eq {first second : List Event} (h : Rearranged first second) :
    wire first = wire second := by
  induction h with
  | rel first second hchange => exact hchange.wire_eq
  | refl events => rfl
  | symm first second _ ih => exact ih.symm
  | trans first second third _ _ ih ih' => exact ih.trans ih'

-- ════════════════════════════════════════════════════════════════════════
-- Reads and polls
-- ════════════════════════════════════════════════════════════════════════

/-- The script brings the wire, and has a total number of bytes, handed out or not. -/
def Tracks (total : Nat) (script : Script) (carried : Wire) : Prop :=
  wire script.events = carried ∧ script.position + carried.bytesLeft = total

theorem tracks_wire (script : Script) :
    Tracks (script.position + (wire script.events).bytesLeft) script (wire script.events) :=
  ⟨rfl, rfl⟩

theorem keptByPolls_tracks (total : Nat) : KeptByPolls (Tracks total) := by
  rintro ⟨events, position, reads⟩ carried wanted ⟨rfl, htotal⟩ hne
  cases events with
  | nil => exact .ended ⟨rfl, htotal⟩
  | cons event events =>
    cases event with
    | notReady => exact .notReady ⟨rfl, htotal⟩
    | fail failure =>
      by_cases hkind : failure.kind = .interrupted
      · refine .interrupted hkind ?_ ⟨?_, htotal⟩
        · show weight events < weight (.fail failure :: events)
          simp only [weight]
          omega
        · simp [Event.signals, hkind]
      · simp only [wire_cons, Event.signals, if_neg hkind, List.singleton_append,
          Wire.bytesLeft_fail] at htotal ⊢
        exact .failed hkind ⟨rfl, htotal⟩
    | data bytes =>
      cases bytes with
      | nil =>
        simp only [wire_cons, Event.signals, List.singleton_append, Wire.bytesLeft_close] at htotal ⊢
        have hserved : Source.poll wanted (⟨.data [] :: events, position, reads⟩ : Script) =
            (some (.ok []), ⟨events, position, reads + 1⟩) := by
          simp [Source.poll, serve]
        rw [hserved]
        exact .closed ⟨rfl, htotal⟩
      | cons byte bytes =>
        have hcut : (byte :: bytes).take wanted ++ (byte :: bytes).drop wanted = byte :: bytes :=
          List.take_append_drop wanted (byte :: bytes)
        have hpiece : (byte :: bytes).take wanted ≠ [] := by simp [hne]
        rw [wire_cons, signals_data (List.cons_ne_nil byte bytes), ← hcut, Wire.ofBytes_append,
          List.append_assoc] at htotal ⊢
        simp only [Wire.bytesLeft_ofBytes_append] at htotal
        rw [hcut]
        refine .piece hpiece (List.length_take_le wanted _) ⟨wire_rest _ events, ?_⟩
        simp only [Wire.bytesLeft_ofBytes_append]
        omega

theorem read_eq_serve (wanted : Nat) (script : Script) :
    (Source.read wanted script).map some id =
      serve wanted { script with events := ready script.events } := by
  have hready := serve_ready_ne_none wanted script.position script.reads script.events
  show (read wanted script).map some id = _
  unfold read
  split <;> rename_i hserve
  · rw [hserve]
    rfl
  · rw [hserve] at hready
    contradiction

theorem keptByReads_tracks (total : Nat) : KeptByReads (Tracks total) := by
  rintro script carried wanted ⟨hwire, htotal⟩ hne
  have hpolled := keptByPolls_tracks total { script with events := ready script.events } carried
    wanted ⟨(wire_ready script.events).trans hwire, htotal⟩ hne
  rw [read_eq_serve]
  exact hpolled.of_extent_le (weight_ready_le script.events)

theorem carries (script : Script) : Carries script (wire script.events) :=
  ⟨_, keptByReads_tracks _, tracks_wire script⟩

theorem carriesPolled (script : Script) : CarriesPolled script (wire script.events) :=
  ⟨_, keptByPolls_tracks _, tracks_wire script⟩

theorem bytesLeft_signals (event : Event) (rest : Wire) :
    Wire.bytesLeft (event.signals ++ rest) = event.bytes.length + rest.bytesLeft := by
  cases event with
  | data bytes =>
    cases bytes with
    | nil => exact (Wire.bytesLeft_close rest).trans (Nat.zero_add _).symm
    | cons byte bytes => exact Wire.bytesLeft_ofBytes_append (byte :: bytes) rest
  | fail failure =>
    rw [Event.signals, Event.bytes, List.length_nil, Nat.zero_add]
    split
    · rfl
    · exact Wire.bytesLeft_fail failure rest
  | notReady => exact (Nat.zero_add _).symm

theorem remaining_eq (script : Script) : script.remaining = (wire script.events).bytesLeft := by
  have hsum (events : List Event) (total : Nat) :
      events.foldl (fun total event => total + event.bytes.length) total =
        total + (wire events).bytesLeft := by
    induction events generalizing total with
    | nil => rfl
    | cons event events ih =>
      rw [List.foldl_cons, ih, wire_cons, bytesLeft_signals, Nat.add_assoc]
  exact (hsum script.events 0).trans (Nat.zero_add _)

/-- A script hands out the bytes of its events. -/
theorem meter : Meter remaining := by
  have hserved {wanted : Nat} (script : Script) (hne : wanted ≠ 0) :=
    keptByReads_tracks _ script _ wanted (tracks_wire script) hne
  constructor
  · intro wanted script left bytes hne hread
    have h := hserved script hne
    rw [hread] at h
    generalize wire script.events = carried at h
    cases h with
    | piece hbytes hle hleft => exact hle
    | closed hleft => exact Nat.zero_le _
    | ended hleft => exact Nat.zero_le _
  · intro wanted script left bytes hne hread
    have h := hserved script hne
    rw [hread] at h
    rw [remaining_eq, remaining_eq]
    generalize wire script.events = carried at h ⊢
    cases h with
    | piece hbytes hle hleft =>
      obtain ⟨rfl, -⟩ := hleft
      exact (Wire.bytesLeft_ofBytes_append bytes _).symm
    | closed hleft =>
      obtain ⟨rfl, -⟩ := hleft
      exact (Nat.zero_add _).trans (Wire.bytesLeft_close _).symm
    | ended hleft =>
      have hwire : wire left.events = [] := hleft.1
      rw [hwire]
      rfl
  · intro wanted script left failure hne hread
    have h := hserved script hne
    rw [hread] at h
    rw [remaining_eq, remaining_eq]
    generalize wire script.events = carried at h ⊢
    cases h with
    | failed hkind hleft =>
      obtain ⟨rfl, -⟩ := hleft
      exact (Wire.bytesLeft_fail failure _).symm
    | interrupted hkind hlt hleft =>
      obtain ⟨rfl, -⟩ := hleft
      rfl

-- ════════════════════════════════════════════════════════════════════════
-- Scripts that are always ready
-- ════════════════════════════════════════════════════════════════════════

/-- The script without the moments at which nothing is ready. -/
def prompt (script : Script) : Script :=
  { script with events := script.events.filter (· ≠ .notReady) }

/-- The other script is the prompt one, whatever reads and polls it has counted. -/
def Prompts (script other : Script) : Prop :=
  other.events = script.prompt.events ∧ other.position = script.position

theorem prompts_prompt (script : Script) : Prompts script script.prompt := ⟨rfl, rfl⟩

theorem extent_poll_error {script left : Script} {wanted : Nat} {failure : Failure}
    (hpoll : Source.poll wanted script = (some (.error failure), left)) :
    Source.extent left < Source.extent script := by
  obtain ⟨events, position, reads⟩ := script
  cases events with
  | nil => cases hpoll
  | cons event events =>
    cases event with
    | data bytes => cases hpoll
    | notReady => cases hpoll
    | fail failure =>
      cases hpoll
      show weight events < weight (.fail failure :: events)
      simp only [weight]
      omega

theorem Prompts.of_notReady {script left other : Script} {wanted : Nat} (h : Prompts script other)
    (hpoll : Source.poll wanted script = (none, left)) : Prompts left other := by
  obtain ⟨events, position, reads⟩ := script
  cases events with
  | nil => cases hpoll
  | cons event events =>
    cases event with
    | data bytes => cases hpoll
    | fail failure => cases hpoll
    | notReady =>
      cases hpoll
      exact h

/-- A poll that is answered is answered alike by the prompt script, to one who waits. -/
theorem read_prompt {script left other : Script} {wanted : Nat} {answer : Except Failure Bytes}
    (h : Prompts script other) (hpoll : Source.poll wanted script = (some answer, left)) :
    ∃ right, Source.read wanted other = (answer, right) ∧ Prompts left right ∧
      ∀ failure, answer = .error failure → Source.extent right < Source.extent other := by
  obtain ⟨events, position, reads⟩ := script
  obtain ⟨events', position', reads'⟩ := other
  obtain ⟨hevents, hposition⟩ := h
  simp only [prompt] at hevents hposition
  subst hevents hposition
  cases events with
  | nil =>
    cases hpoll
    refine ⟨_, rfl, ⟨rfl, rfl⟩, ?_⟩
    rintro failure ⟨⟩
  | cons event events =>
    cases event with
    | notReady => cases hpoll
    | fail failure =>
      cases hpoll
      let later := events.filter (· ≠ .notReady)
      refine ⟨⟨later, position', reads' + 1⟩, rfl, ⟨rfl, rfl⟩, fun _ _ => ?_⟩
      show weight later < weight (.fail failure :: later)
      simp only [weight]
      omega
    | data bytes =>
      cases hpoll
      refine ⟨_, rfl, ⟨?_, rfl⟩, ?_⟩
      · by_cases hempty : (bytes.drop wanted).isEmpty = true
        · simp only [prompt, hempty, if_true]
        · simp only [prompt, hempty]
          rfl
      · rintro failure ⟨⟩

/-- A script that is polled reads like the prompt one to one who waits. -/
theorem pollsAlike_prompt : PollsAlike Prompts := by
  intro reading script other h
  fun_induction PartialRead.poll reading script generalizing other with
  | case1 reading script hzero =>
    refine ⟨other, h, ?_⟩
    rw [hzero, gather_zero]
  | case2 reading script hne left hpoll =>
    exact ⟨other, h.of_notReady hpoll, rfl⟩
  | case3 reading script hne left hpoll =>
    obtain ⟨right, hread, hright, -⟩ := read_prompt h hpoll
    exact ⟨right, hright, gather_of_closed reading.behind hne hread⟩
  | case4 reading script hne byte bytes left hpoll ih =>
    obtain ⟨right, hread, hright, -⟩ := read_prompt h hpoll
    rw [gather_of_piece reading.behind hne hread]
    exact ih right hright
  | case5 reading script hne failure left hpoll hmoved ih =>
    obtain ⟨right, hread, hright, hlt⟩ := read_prompt h hpoll
    rw [gather_of_interrupted reading.behind hne hread hmoved.1 (hlt failure rfl)]
    exact ih right hright
  | case6 reading script hne failure left hpoll hstuck =>
    obtain ⟨right, hread, hright, -⟩ := read_prompt h hpoll
    have hkind : failure.kind ≠ .interrupted := fun hkind => hstuck ⟨hkind, extent_poll_error hpoll⟩
    exact ⟨right, hright, gather_of_failed reading.behind hne hread fun h => hkind h.1⟩

end FramedVideo.Transport.Script
