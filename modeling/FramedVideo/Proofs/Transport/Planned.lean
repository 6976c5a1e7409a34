import FramedVideo.Proofs.Transport.Chunks

/-!
# What a planned source hands out

A chunked source hands out its bytes from the front and in their order, whoever asks and however much at
a time. It always gets on until it has come to its end, or to the offset at which it was told to fail,
and never gets past either. What one request gets is the least of what it asks for, what the plan allows,
and what is left up to there.

## Main definitions

- `Chunked.Plan.Allows` — the limit that a plan has for a turn
- `Chunked.reach` — the number of bytes that a source hands out in all
- `Chunked.Serves` — what one request gets, and what it leaves
- `Chunked.Stands` — a source that has come to a position in its data
- `Chunked.deliver` — the bytes that several requests get

Main statements: `Chunked.serves`, `Chunked.Serves.moves`, `Chunked.plan_law`.
-/

namespace FramedVideo.Transport.Chunked

-- ════════════════════════════════════════════════════════════════════════
-- Requests
-- ════════════════════════════════════════════════════════════════════════

/-- A request for at most some number of bytes, by one who waits or by one who does not. -/
inductive Ask where
  | read (wanted : Nat)
  | poll (wanted : Nat)
  deriving DecidableEq, Repr

namespace Ask

/-- The most bytes that a request asks for. -/
def wanted : Ask → Nat
  | read wanted => wanted
  | poll wanted => wanted

/-- What a request gets, and what it leaves. -/
def answer : Ask → Chunked → Option (Except Failure Bytes) × Chunked
  | read wanted, source => (Source.read wanted source).map some id
  | poll wanted, source => Source.poll wanted source

/-- Both ways to ask get the same. -/
theorem answer_eq (ask : Ask) (source : Chunked) :
    ask.answer source = (Source.read ask.wanted source).map some id := by
  cases ask <;> rfl

end Ask

/-- The bytes of an answer. -/
def brought : Option (Except Failure Bytes) → Bytes
  | some (.ok bytes) => bytes
  | _ => []

/-- The bytes that several requests get, one after the other, and what they leave. -/
def deliver : List Ask → Chunked → Bytes × Chunked
  | [], source => ([], source)
  | ask :: asks, source =>
    let (answer, left) := ask.answer source
    let (bytes, last) := deliver asks left
    (brought answer ++ bytes, last)

-- ════════════════════════════════════════════════════════════════════════
-- One request
-- ════════════════════════════════════════════════════════════════════════

/-- The limit that a plan has for a turn, if it has one. A size of 0 counts as 1. -/
inductive Plan.Allows (turn : Nat) : Plan → Option Nat → Prop where
  | whole : Allows turn .whole none
  | fixed (size : Nat) : Allows turn (.fixed size) (some (max 1 size))
  | uncycled : Allows turn (.cycle []) none
  /-- The sizes come round, and there is always one to take. -/
  | cycle {sizes : List Nat} (hindex : turn % sizes.length < sizes.length) :
    Allows turn (.cycle sizes) (some (max 1 sizes[turn % sizes.length]))
  /-- Any size between one and the largest can be drawn. -/
  | drawn {most size : Nat} {draw : Nat → Nat} (hpos : 1 ≤ size) (hle : size ≤ max 1 most)
    (hdraw : 1 ≤ draw turn → draw turn ≤ max 1 most → size = draw turn) :
    Allows turn (.drawn most draw) (some size)

theorem Plan.allows_limit? (plan : Plan) (turn : Nat) : plan.Allows turn (plan.limit? turn) := by
  cases plan with
  | whole => exact .whole
  | fixed size => exact .fixed size
  | cycle sizes =>
    cases sizes with
    | nil => exact .uncycled
    | cons size sizes =>
      have hindex : turn % (size :: sizes).length < (size :: sizes).length :=
        Nat.mod_lt _ (Nat.succ_pos _)
      rw [limit?, List.getElem?_eq_getElem hindex]
      exact .cycle hindex
  | drawn most draw => exact .drawn (by omega) (by omega) (by omega)

/-- The number of bytes that a source hands out in all: it has no more, or it fails there. -/
def reach (data : Bytes) : Option (Nat × Kind) → Nat
  | some (offset, _) => min data.length offset
  | none => data.length

theorem reach_le (data : Bytes) (failAt : Option (Nat × Kind)) : reach data failAt ≤ data.length := by
  cases failAt with
  | none => exact Nat.le_refl _
  | some failAt => exact Nat.min_le_left _ _

/-- What a request gets from a source of some data, and what it leaves. -/
inductive Serves (data : Bytes) (wanted : Nat) (source : Chunked) :
    Option (Except Failure Bytes) × Chunked → Prop where
  /-- Who asks for nothing gets nothing, and takes no turn. -/
  | nothing (hwanted : wanted = 0) :
    Serves data wanted source (some (.ok []), { source with reads := source.reads + 1 })
  /-- On the way there are always bytes to get: as many as are asked for, allowed by the plan and left. -/
  | piece (hwanted : wanted ≠ 0) (hbefore : source.position < reach data source.failAt)
    {planned : Option Nat} (hplan : source.plan.Allows source.turn planned) {length : Nat}
    (hpos : 1 ≤ length)
    (hlength : length =
      min (planned.elim wanted (min wanted)) (reach data source.failAt - source.position)) :
    Serves data wanted source (some (.ok ((data.drop source.position).take length)),
      { source with
        rest := data.drop (source.position + length)
        position := source.position + length
        turn := source.turn + 1
        reads := source.reads + 1 })
  /-- At the offset where it was told to fail, the source fails again and again. -/
  | failed (hwanted : wanted ≠ 0) {offset : Nat} {kind : Kind}
    (hfail : source.failAt = some (offset, kind)) (hoffset : offset ≤ data.length)
    (hhere : source.position = offset) :
    Serves data wanted source
      (some (.error (injected kind)), { source with reads := source.reads + 1 })
  /-- At the end, if it comes before that offset, there is nothing to get. -/
  | ended (hwanted : wanted ≠ 0) (hall : source.position = data.length)
    (hnever : ∀ offset kind, source.failAt = some (offset, kind) → data.length < offset) :
    Serves data wanted source (some (.ok []),
      { source with turn := source.turn + 1, reads := source.reads + 1 })

/-- The source has come to its position in the data. -/
structure Stands (data : Bytes) (plan : Plan) (failAt : Option (Nat × Kind)) (source : Chunked) :
    Prop where
  rest : source.rest = data.drop source.position
  position_le : source.position ≤ reach data failAt
  plan : source.plan = plan
  failAt : source.failAt = failAt

variable {data : Bytes} {plan : Plan} {failAt : Option (Nat × Kind)} {source : Chunked}

theorem Stands.length_rest (h : Stands data plan failAt source) :
    source.position + source.rest.length = data.length := by
  have hle := Nat.le_trans h.position_le (reach_le data failAt)
  rw [h.rest, List.length_drop]
  omega

/-- What a request gets is what is asked for, allowed and left. -/
theorem Stands.length_piece (h : Stands data plan failAt source) (wanted : Nat) :
    (source.rest.take (source.allowance wanted)).length =
      min ((source.plan.limit? source.turn).elim wanted (min wanted))
        (reach data source.failAt - source.position) := by
  have hrest := h.length_rest
  rw [List.length_take, allowance]
  cases source.plan.limit? source.turn <;> cases source.failAt <;> simp only [reach, Option.elim] <;>
    omega

theorem Stands.failed (h : Stands data plan failAt source) {failure : Failure}
    (hhere : source.failureHere? = some failure) :
    ∃ offset kind, source.failAt = some (offset, kind) ∧ failure = injected kind ∧
      offset ≤ data.length ∧ source.position = offset := by
  have hle := h.position_le
  rw [← h.failAt] at hle
  unfold failureHere? at hhere
  split at hhere
  · rename_i offset kind hfail
    split at hhere <;> rename_i hreached <;> cases hhere
    simp only [hfail, reach] at hle
    exact ⟨offset, kind, hfail, rfl, by omega, by omega⟩
  · cases hhere

theorem Stands.all_of_reached (h : Stands data plan failAt source)
    (hhere : source.failureHere? = none) (hreached : ¬source.position < reach data source.failAt) :
    source.position = data.length ∧
      ∀ offset kind, source.failAt = some (offset, kind) → data.length < offset := by
  have hle := h.position_le
  rw [← h.failAt] at hle
  cases hfail : source.failAt with
  | none =>
    simp only [hfail, reach] at hle hreached
    exact ⟨by omega, nofun⟩
  | some failAt =>
    obtain ⟨offset, kind⟩ := failAt
    simp only [failureHere?, hfail, ite_eq_right_iff, reduceCtorEq, imp_false] at hhere
    simp only [hfail, reach] at hle hreached
    refine ⟨by omega, ?_⟩
    rintro offset kind ⟨⟩
    omega

theorem Stands.rest_ne_nil (h : Stands data plan failAt source)
    (hbefore : source.position < reach data source.failAt) : source.rest ≠ [] := by
  have hle := reach_le data source.failAt
  rw [h.rest, Ne, List.drop_eq_nil_iff]
  omega

/-- Every request is served in one of four ways. -/
theorem serves (h : Stands data plan failAt source) (ask : Ask) :
    Serves data ask.wanted source (ask.answer source) := by
  rw [Ask.answer_eq]
  by_cases hwanted : ask.wanted = 0
  · have hread : Source.read ask.wanted source =
        (.ok [], { source with reads := source.reads + 1 }) := if_pos hwanted
    rw [hread]
    exact .nothing hwanted
  · cases hhere : source.failureHere? with
    | some failure =>
      obtain ⟨offset, kind, hfail, rfl, hoffset, hposition⟩ := h.failed hhere
      rw [read_of_some hwanted hhere]
      exact .failed hwanted hfail hoffset hposition
    | none =>
      rw [read_of_none hwanted hhere]
      by_cases hbefore : source.position < reach data source.failAt
      · have hpos := List.length_pos_iff.2 (piece_ne_nil hwanted hhere (h.rest_ne_nil hbefore))
        have hlength := h.length_piece ask.wanted
        have htake := List.take_eq_take_min (l := source.rest) (i := source.allowance ask.wanted)
        have hdrop := List.drop_eq_drop_min (l := source.rest) (i := source.allowance ask.wanted)
        rw [← List.length_take] at htake hdrop
        generalize (source.rest.take (source.allowance ask.wanted)).length = length at *
        rw [h.rest] at htake hdrop
        rw [h.rest, htake, hdrop, List.drop_drop]
        exact .piece hwanted hbefore (source.plan.allows_limit? source.turn) hpos hlength
      · obtain ⟨hall, hnever⟩ := h.all_of_reached hhere hbefore
        have hnil : source.rest = [] := by rw [h.rest, hall, List.drop_length]
        have htaken : source.rest.take (source.allowance ask.wanted) = [] := by
          rw [hnil, List.take_nil]
        have hsame : source.rest.drop (source.allowance ask.wanted) = source.rest := by
          rw [hnil, List.drop_nil]
        rw [htaken, hsame]
        exact .ended hwanted hall hnever

/-- A request that is served leaves the source behind the bytes that it got, and if it asks for something,
further on, unless the source had come to where it ends or fails. -/
theorem Serves.moves (h : Stands data plan failAt source) {wanted : Nat} {left : Chunked}
    {answer : Option (Except Failure Bytes)} (hserves : Serves data wanted source (answer, left)) :
    Stands data plan failAt left ∧ left.reads = source.reads + 1 ∧
      data.take left.position = data.take source.position ++ brought answer ∧
      min (reach data failAt) (source.position + if wanted ≠ 0 then 1 else 0) ≤ left.position := by
  obtain ⟨hrest, hle, hplan, hfail⟩ := h
  cases hserves with
  | nothing hwanted =>
    refine ⟨⟨hrest, hle, hplan, hfail⟩, rfl, (List.append_nil _).symm, ?_⟩
    rw [if_neg (not_not_intro hwanted)]
    exact Nat.min_le_right _ _
  | @piece hwanted hbefore planned hallows length hpos hlength =>
    rw [hfail] at hlength
    have hend : source.position + length ≤ reach data failAt := by omega
    refine ⟨⟨rfl, hend, hplan, hfail⟩, rfl, List.take_add, ?_⟩
    rw [if_pos hwanted]
    exact Nat.le_trans (Nat.min_le_right _ _) (Nat.add_le_add_left hpos _)
  | failed hwanted hfailed hoffset hhere =>
    refine ⟨⟨hrest, hle, hplan, hfail⟩, rfl, (List.append_nil _).symm, ?_⟩
    rw [← hfail, hfailed, reach, hhere]
    exact Nat.le_trans (Nat.min_le_left _ _) (Nat.min_le_right _ _)
  | ended hwanted hall hnever =>
    refine ⟨⟨hrest, hle, hplan, hfail⟩, rfl, (List.append_nil _).symm, ?_⟩
    exact Nat.le_trans (Nat.min_le_left _ _) (hall ▸ reach_le data failAt)

-- ════════════════════════════════════════════════════════════════════════
-- Requests one after another
-- ════════════════════════════════════════════════════════════════════════

/-- Several requests get the bytes between the positions where they begin and end, and each that asks for
something gets on if it can. -/
theorem deliver_stands (asks : List Ask) (h : Stands data plan failAt source) :
    let run := deliver asks source
    Stands data plan failAt run.2 ∧ run.2.reads = source.reads + asks.length ∧
      data.take run.2.position = data.take source.position ++ run.1 ∧
      min (reach data failAt) (source.position + asks.countP (·.wanted ≠ 0)) ≤ run.2.position := by
  induction asks generalizing source with
  | nil => exact ⟨h, rfl, (List.append_nil _).symm, Nat.min_le_right _ _⟩
  | cons ask asks ih =>
    have hserved := serves h ask
    rw [deliver]
    cases hanswer : ask.answer source with
    | mk answer left =>
      rw [hanswer] at hserved
      obtain ⟨hleft, hreads, hbytes, hmoves⟩ := hserved.moves h
      obtain ⟨hlast, hreads', hbytes', hmoves'⟩ := ih hleft
      refine ⟨hlast, ?_, ?_, ?_⟩
      · rw [hreads', hreads, List.length_cons, Nat.add_assoc, Nat.add_comm 1]
      · rw [hbytes', hbytes, List.append_assoc]
      · simp only [List.countP_cons, decide_eq_true_eq]
        omega

/-- A chunked source has handed out the front of its data up to its position, and holds the rest, whatever
is asked of it. It never gets past its end or the offset at which it was told to fail, and comes there
with enough requests that ask for something. Each request gets what `Serves` says: nothing if it asks for
nothing; a piece, as long as there are bytes on the way; the failure, again and again, from the offset
on, if that is not beyond the end; and else nothing, when all has been handed out. -/
theorem plan_law (data : Bytes) (plan : Plan) (failAt : Option (Nat × Kind)) (asks : List Ask) :
    let run := deliver asks { rest := data, plan := plan, failAt := failAt }
    let source := run.2
    run.1 = data.take source.position ∧
      source.position + source.remaining = data.length ∧
      source.position ≤ reach data failAt ∧
      min (reach data failAt) (asks.countP (·.wanted ≠ 0)) ≤ source.position ∧
      source.reads = asks.length ∧ source.plan = plan ∧ source.failAt = failAt ∧
      ∀ ask : Ask, Serves data ask.wanted source (ask.answer source) := by
  intro run source
  have hstart : Stands data plan failAt { rest := data, plan := plan, failAt := failAt } :=
    ⟨rfl, Nat.zero_le _, rfl, rfl⟩
  obtain ⟨hstands, hreads, hbytes, hmoves⟩ := deliver_stands asks hstart
  rw [Nat.zero_add] at hreads hmoves
  refine ⟨?_, hstands.length_rest, hstands.position_le, hmoves, hreads, hstands.plan, hstands.failAt,
    serves hstands⟩
  rw [hbytes, List.take_zero, List.nil_append]

/-- Sizes that come round, a failure behind the third of five bytes, and a request for nothing. -/
example :
    let source : Chunked :=
      { rest := [1, 2, 3, 4, 5], plan := .cycle [0, 4], failAt := some (3, .timedOut) }
    (deliver [.read 8, .poll 0, .read 8, .poll 8] source).1 = [1, 2, 3] := by
  decide

end FramedVideo.Transport.Chunked
