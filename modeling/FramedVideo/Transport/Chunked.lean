import FramedVideo.Transport.Source

/-!
# Sources that hand out planned pieces

A chunked source holds all its bytes from the start. A plan limits how many of them a read gets,
and the source may be told to fail once it has handed out a given number of bytes.

Each read that asks for something, and that does not fail, draws the next limit from the plan, at
the end of the bytes too.

## Main definitions

- `Chunked.Plan` — the limits, read by read
- `Chunked` — the bytes to come, the plan, and where to fail
-/

namespace FramedVideo.Transport

/-- The most bytes that each read gets. -/
inductive Chunked.Plan where
  /-- All that is asked for. -/
  | whole
  /-- The same limit for every read. -/
  | fixed (size : Nat)
  /-- Limits that come round again and again; none at all means no limit. -/
  | cycle (sizes : List Nat)
  /-- Limits drawn from somewhere, each between one and `max`. -/
  | drawn (max : Nat) (draw : Nat → Nat)

/-- The limit for the read that draws for the `turn`-th time, counting from 0. A limit of 0 counts
as 1, so that a read always gets on. -/
def Chunked.Plan.limit? (turn : Nat) : Chunked.Plan → Option Nat
  | whole => none
  | fixed size => some (max 1 size)
  | cycle sizes => (sizes[turn % sizes.length]?).map (max 1)
  | drawn most draw => some (max 1 (min most (draw turn)))

theorem Chunked.Plan.limit?_pos {plan : Plan} {turn limit : Nat}
    (h : plan.limit? turn = some limit) : 0 < limit := by
  cases plan with
  | whole => simp [limit?] at h
  | fixed size => simp [limit?] at h; omega
  | cycle sizes =>
    obtain ⟨size, -, rfl⟩ := Option.map_eq_some_iff.1 h
    omega
  | drawn most draw => simp [limit?] at h; omega

/-- A source that hands out planned pieces. -/
structure Chunked where
  /-- Bytes that are not handed out yet. -/
  rest : Bytes
  plan : Chunked.Plan := .whole
  /-- The number of bytes after which every read fails, and how. -/
  failAt : Option (Nat × Kind) := none
  /-- Bytes handed out. -/
  position : Nat := 0
  /-- Limits drawn from the plan. -/
  turn : Nat := 0
  /-- Reads served. -/
  reads : Nat := 0

namespace Chunked

/-- The bytes that are not handed out yet. -/
def remaining (source : Chunked) : Nat := source.rest.length

/-- The failure that this source was told to meet. -/
def injected (kind : Kind) : Failure := ⟨kind, some "injected transport failure"⟩

/-- The failure that a read meets here, if it asks for something. -/
def failureHere? (source : Chunked) : Option Failure :=
  match source.failAt with
  | some (offset, kind) => if offset ≤ source.position then some (injected kind) else none
  | none => none

/-- The most bytes that a read of `wanted` bytes gets here. -/
def allowance (wanted : Nat) (source : Chunked) : Nat :=
  let planned := match source.plan.limit? source.turn with
    | some limit => min wanted limit
    | none => wanted
  match source.failAt with
  | some (offset, _) => min planned (offset - source.position)
  | none => planned

/-- Serves a read of at most `wanted` bytes. -/
def read (wanted : Nat) (source : Chunked) : Except Failure Bytes × Chunked :=
  let counted := { source with reads := source.reads + 1 }
  if wanted = 0 then
    (.ok [], counted)
  else
    match source.failureHere? with
    | some failure => (.error failure, counted)
    | none =>
      let piece := source.rest.take (source.allowance wanted)
      (.ok piece,
        { counted with
          rest := source.rest.drop (source.allowance wanted)
          position := source.position + piece.length
          turn := source.turn + 1 })

theorem rest_read_le (wanted : Nat) (source : Chunked) :
    (read wanted source).2.rest.length ≤ source.rest.length := by
  unfold read
  split
  · exact Nat.le_refl _
  · split
    · exact Nat.le_refl _
    · simp

theorem rest_read_lt (wanted : Nat) (source : Chunked) (bytes : Bytes)
    (h : (read wanted source).1 = .ok bytes) (hne : bytes ≠ []) :
    (read wanted source).2.rest.length < source.rest.length := by
  unfold read at h ⊢
  split at h
  · simp_all
  · split at h
    · simp at h
    · rename_i hfail
      simp only [Except.ok.injEq] at h
      have hpos : 0 < (source.rest.take (source.allowance wanted)).length := by
        rw [h]; exact List.length_pos_iff.2 hne
      simp only [List.length_take] at hpos
      simp_all only [if_false, List.length_drop]
      omega

instance : Source Chunked where
  read := read
  poll wanted source := (read wanted source).map some id
  extent source := source.rest.length
  extent_read_le := rest_read_le
  extent_read_lt := rest_read_lt
  extent_poll_le := rest_read_le
  extent_poll_lt wanted source bytes h hne :=
    rest_read_lt wanted source bytes (by simpa using h) hne
  extent_poll_none wanted source h := by simp at h

end Chunked

end FramedVideo.Transport
