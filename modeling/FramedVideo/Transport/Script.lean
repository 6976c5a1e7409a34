import FramedVideo.Transport.Source

/-!
# Scripted sources

A script is a list of events, met one after the other by reads: bytes that arrive together, a
failure, or a moment at which nothing is ready. After the last event the peer has closed.

A piece of bytes is handed out up to the size of the read, and the rest stays in front. An empty
piece hands out no bytes, once, so a script can close and go on afterwards.

## Main definitions

- `Script.Event` — what a read can meet
- `Script` — events to come, with counts of the bytes and reads so far
-/

namespace FramedVideo.Transport

/-- What a read can meet. -/
inductive Script.Event where
  /-- Bytes that arrive together. -/
  | data (bytes : Bytes)
  /-- A failure, met once. -/
  | fail (failure : Failure)
  /-- A moment at which nothing is ready; a read that waits passes over it. -/
  | notReady
  deriving DecidableEq, Repr

/-- A source that follows a script. -/
structure Script where
  events : List Script.Event
  /-- Bytes handed out. -/
  position : Nat := 0
  /-- Reads and polls served. -/
  reads : Nat := 0
  deriving DecidableEq, Repr

namespace Script

/-- The bytes that an event delivers. -/
def Event.bytes : Event → Bytes
  | data bytes => bytes
  | fail _ => []
  | notReady => []

/-- The bytes that are not handed out yet. -/
def remaining (script : Script) : Nat :=
  script.events.foldl (fun total event => total + event.bytes.length) 0

/-- The events that a read which waits can meet. -/
def ready : List Event → List Event
  | .notReady :: events => ready events
  | events => events

/-- Serves a read of at most `wanted` bytes from the event in front. -/
def serve (wanted : Nat) (script : Script) : Option (Except Failure Bytes) × Script :=
  match script.events with
  | [] => (some (.ok []), { script with reads := script.reads + 1 })
  | .data bytes :: events =>
    let piece := bytes.take wanted
    let left := bytes.drop wanted
    (some (.ok piece),
      { events := if left.isEmpty then events else .data left :: events
        position := script.position + piece.length
        reads := script.reads + 1 })
  | .fail failure :: events =>
    (some (.error failure), { script with events := events, reads := script.reads + 1 })
  | .notReady :: events => (none, { script with events := events, reads := script.reads + 1 })

/-- Serves a read that waits. -/
def read (wanted : Nat) (script : Script) : Except Failure Bytes × Script :=
  match serve wanted { script with events := ready script.events } with
  | (some answer, left) => (answer, left)
  | (none, left) => (.ok [], left)

/-- One for each event, and one for each byte. -/
def weight : List Event → Nat
  | [] => 0
  | event :: events => event.bytes.length + 1 + weight events

theorem weight_ready_le (events : List Event) : weight (ready events) ≤ weight events := by
  fun_induction ready events with
  | case1 events ih => simp only [weight]; omega
  | case2 => exact Nat.le_refl _

/-- A read that waits always gets an answer. -/
theorem serve_ready_ne_none (wanted position reads : Nat) (events : List Event) :
    (serve wanted ⟨ready events, position, reads⟩).1 ≠ none := by
  fun_induction ready events with
  | case1 events ih => exact ih
  | case2 events h =>
    unfold serve
    split <;> simp_all

theorem weight_serve_le (wanted : Nat) (script : Script) :
    weight (serve wanted script).2.events ≤ weight script.events := by
  unfold serve
  split
  · exact Nat.le_refl _
  · rename_i bytes events h
    simp only [h]
    split <;> simp only [weight, Event.bytes, List.length_drop] <;> omega
  · rename_i events h
    simp only [h, weight]; omega
  · rename_i events h
    simp only [h, weight]; omega

theorem weight_serve_lt (wanted : Nat) (script : Script) (bytes : Bytes)
    (h : (serve wanted script).1 = some (.ok bytes)) (hne : bytes ≠ []) :
    weight (serve wanted script).2.events < weight script.events := by
  unfold serve at h ⊢
  split at h
  · simp_all
  · rename_i front events hevents
    simp only [Option.some.injEq, Except.ok.injEq] at h
    have hpos : 0 < (front.take wanted).length := by
      rw [h]; exact List.length_pos_iff.2 hne
    simp only [List.length_take] at hpos
    simp only [hevents]
    split <;> simp only [weight, Event.bytes, List.length_drop] <;> omega
  · simp at h
  · simp at h

theorem weight_serve_none (wanted : Nat) (script : Script)
    (h : (serve wanted script).1 = none) :
    weight (serve wanted script).2.events < weight script.events := by
  unfold serve at h ⊢
  split at h
  · simp at h
  · simp at h
  · simp at h
  · rename_i events hevents
    simp only [hevents, weight]; omega

theorem read_eq (wanted : Nat) (script : Script) (answer : Except Failure Bytes) :
    (read wanted script).1 = answer ↔
      (serve wanted { script with events := ready script.events }).1 = some answer := by
  have hsome := serve_ready_ne_none wanted script.position script.reads script.events
  unfold read
  split <;> simp_all

theorem read_events (wanted : Nat) (script : Script) :
    (read wanted script).2 = (serve wanted { script with events := ready script.events }).2 := by
  unfold read
  split <;> simp_all

instance : Source Script where
  read := read
  poll := serve
  extent script := weight script.events
  extent_read_le wanted script := by
    rw [read_events]
    exact Nat.le_trans (weight_serve_le _ _) (weight_ready_le _)
  extent_read_lt wanted script bytes h hne := by
    rw [read_events]
    exact Nat.lt_of_lt_of_le (weight_serve_lt _ _ bytes ((read_eq _ _ _).1 h) hne)
      (weight_ready_le _)
  extent_poll_le := weight_serve_le
  extent_poll_lt := weight_serve_lt
  extent_poll_none := weight_serve_none

end Script

end FramedVideo.Transport
