import FramedVideo.Writer

/-!
# What a sink was asked

A traced sink answers as the sink in it does, and remembers every call with its answer. A frame that is
written costs calls for its header, calls for its payload, each as many as the sink likes, and a flush.
The first call that fails is the last one.

## Main definitions

- `Request` — a call of a sink, with its answer
- `Traced` — a sink and the calls that it answered
- `Offers` — the calls that offer some bytes until all are taken
- `Puts` — the calls that put a header and a payload
- `Writer.Asked` — what comes of a frame that is to be written, with the calls that it costs

Main statements: `Traced.writeAll_eq`, `Puts.failures`, `Puts.last`, `Writer.asked`.
-/

namespace FramedVideo

namespace Transport

variable {ω : Type} [Sink ω]

-- ════════════════════════════════════════════════════════════════════════
-- Calls
-- ════════════════════════════════════════════════════════════════════════

/-- A call of a sink, with its answer. -/
inductive Request where
  | write (offer : Bytes) (answer : Except Failure Nat)
  | flush (answer : Except Failure Unit)
  | shutdown (answer : Except Failure Unit)

namespace Request

/-- The failure that a call is for one who writes. An offer of which nothing is taken is one, too. -/
def failure? : Request → Option Failure
  | write _ (.error failure) => some failure
  | write _ (.ok 0) => some .tookNothing
  | write _ (.ok (_ + 1)) => none
  | flush (.error failure) => some failure
  | flush (.ok ()) => none
  | shutdown _ => none

/-- The call says that nothing more will come. -/
def isShutdown : Request → Bool
  | shutdown _ => true
  | _ => false

end Request

/-- A sink, and the calls that it answered so far. -/
structure Traced (ω : Type) where
  sink : ω
  requests : List Request := []

namespace Traced

/-- The calls and the state after one more call. -/
def record {α : Type} (request : Except Failure α → Request) (result : Except Failure α × ω)
    (traced : Traced ω) : Except Failure α × Traced ω :=
  (result.1, ⟨result.2, traced.requests ++ [request result.1]⟩)

instance : Sink (Traced ω) where
  write offer traced := traced.record (.write offer) (Sink.write offer traced.sink)
  flush traced := traced.record .flush (Sink.flush traced.sink)
  shutdown traced := traced.record .shutdown (Sink.shutdown traced.sink)

end Traced

-- ════════════════════════════════════════════════════════════════════════
-- Offers
-- ════════════════════════════════════════════════════════════════════════

/-- The calls that offer some bytes until all are taken, and the failure of the last one, if it fails. -/
inductive Offers : Bytes → List Request → Option Failure → Prop where
  | done : Offers [] [] none
  | failed {byte rest failure} :
    Offers (byte :: rest) [.write (byte :: rest) (.error failure)] (some failure)
  | refused {byte rest} : Offers (byte :: rest) [.write (byte :: rest) (.ok 0)] (some .tookNothing)
  | taken {byte rest taken requests failure?} (hrest : Offers (rest.drop taken) requests failure?) :
    Offers (byte :: rest) (.write (byte :: rest) (.ok (taken + 1)) :: requests) failure?

theorem Traced.writeAll_eq (bytes : Bytes) (traced : Traced ω) :
    ∃ requests failure? left, Offers bytes requests failure? ∧
      writeAll bytes traced =
        (failure?.elim (.ok ()) .error, (⟨left, traced.requests ++ requests⟩ : Traced ω)) := by
  fun_induction writeAll bytes traced with
  | case1 traced => exact ⟨[], none, traced.sink, .done, by rw [List.append_nil]; rfl⟩
  | case2 traced byte rest failure left hwrite =>
    obtain ⟨hanswer, rfl⟩ := Prod.mk.inj hwrite
    exact ⟨_, some failure, _, .failed, by rw [hanswer]; rfl⟩
  | case3 traced byte rest left hwrite =>
    obtain ⟨hanswer, rfl⟩ := Prod.mk.inj hwrite
    exact ⟨_, some .tookNothing, _, .refused, by rw [hanswer]; rfl⟩
  | case4 traced byte rest taken left hwrite ih =>
    obtain ⟨hanswer, rfl⟩ := Prod.mk.inj hwrite
    obtain ⟨requests, failure?, last, hrest, hlast⟩ := ih
    refine ⟨_, failure?, last, .taken hrest, hlast.trans ?_⟩
    rw [hanswer, List.append_assoc]
    rfl

namespace Offers

variable {bytes : Bytes} {requests : List Request} {failure? : Option Failure}

theorem failures (h : Offers bytes requests failure?) :
    requests.filterMap (·.failure?) = failure?.toList := by
  induction h with
  | done | failed | refused => rfl
  | taken hrest ih => exact ih

theorem not_shutdown (h : Offers bytes requests failure?) :
    ∀ request ∈ requests, request.isShutdown = false := by
  induction h with
  | done => exact nofun
  | failed | refused => exact List.forall_mem_singleton.2 rfl
  | taken hrest ih => exact List.forall_mem_cons.2 ⟨rfl, ih⟩

theorem last {failure : Failure} (h : Offers bytes requests (some failure)) :
    ∃ front request, requests = front ++ [request] ∧ request.failure? = some failure := by
  generalize hfailure : some failure = failure? at h
  induction h with
  | done => cases hfailure
  | failed | refused => exact ⟨[], _, rfl, rfl⟩
  | taken hrest ih =>
    obtain ⟨front, request, rfl, hrequest⟩ := ih hfailure
    exact ⟨_ :: front, request, rfl, hrequest⟩

end Offers

-- ════════════════════════════════════════════════════════════════════════
-- Headers and payloads
-- ════════════════════════════════════════════════════════════════════════

/-- The calls that put a header and a payload, and the failure of the last one, if it fails. -/
inductive Puts (header payload : Bytes) : List Request → Option Failure → Prop where
  /-- The header could not be written. -/
  | header {requests failure} (hheader : Offers header requests (some failure)) :
    Puts header payload requests (some failure)
  /-- The payload could not be written. -/
  | payload {front requests failure} (hheader : Offers header front none)
    (hpayload : Offers payload requests (some failure)) :
    Puts header payload (front ++ requests) (some failure)
  /-- They were written, and could not be flushed. -/
  | flush {front requests failure} (hheader : Offers header front none)
    (hpayload : Offers payload requests none) :
    Puts header payload (front ++ requests ++ [.flush (.error failure)]) (some failure)
  /-- They were written and flushed. -/
  | done {front requests} (hheader : Offers header front none)
    (hpayload : Offers payload requests none) :
    Puts header payload (front ++ requests ++ [.flush (.ok ())]) none

namespace Puts

variable {header payload : Bytes} {requests : List Request} {failure? : Option Failure}

/-- The failure is the only one. -/
theorem failures (h : Puts header payload requests failure?) :
    requests.filterMap (·.failure?) = failure?.toList := by
  cases h with
  | header hheader => exact hheader.failures
  | payload hheader hpayload =>
    rw [List.filterMap_append, hheader.failures, hpayload.failures]
    rfl
  | flush hheader hpayload | done hheader hpayload =>
    rw [List.filterMap_append, List.filterMap_append, hheader.failures, hpayload.failures]
    rfl

theorem not_shutdown (h : Puts header payload requests failure?) :
    ∀ request ∈ requests, request.isShutdown = false := by
  cases h with
  | header hheader => exact hheader.not_shutdown
  | payload hheader hpayload =>
    exact List.forall_mem_append.2 ⟨hheader.not_shutdown, hpayload.not_shutdown⟩
  | flush hheader hpayload | done hheader hpayload =>
    exact List.forall_mem_append.2
      ⟨List.forall_mem_append.2 ⟨hheader.not_shutdown, hpayload.not_shutdown⟩,
        List.forall_mem_singleton.2 rfl⟩

/-- The call that fails is the last one. -/
theorem last {failure : Failure} (h : Puts header payload requests (some failure)) :
    ∃ front request, requests = front ++ [request] ∧ request.failure? = some failure := by
  cases h with
  | header hheader => exact hheader.last
  | @payload before requests failure hheader hpayload =>
    obtain ⟨front, request, rfl, hrequest⟩ := hpayload.last
    exact ⟨before ++ front, request, (List.append_assoc _ _ _).symm, hrequest⟩
  | flush hheader hpayload => exact ⟨_, _, rfl, rfl⟩

end Puts

end Transport

open Transport (Sink Traced Request)

/-- The calls that write a frame, and the failure of the last one, if it fails. -/
def Frame.Puts (protocol : Protocol) (frame : Frame) (requests : List Request)
    (failure? : Option Transport.Failure) : Prop :=
  ∃ header, frame.header protocol = .ok header ∧
    Transport.Puts header.toBytes frame.payload requests failure?

namespace Writer

variable {ω : Type} [Sink ω]

/-- What comes of a header and a payload that are put, with the calls that this costs. -/
theorem put_eq (header payload : Bytes) (traced : Traced ω) :
    ∃ requests failure? left, Transport.Puts header payload requests failure? ∧
      put header payload traced =
        (failure?.elim (.ok ()) .error, (⟨left, traced.requests ++ requests⟩ : Traced ω)) := by
  obtain ⟨front, failure?, mid, hheader, hfront⟩ := traced.writeAll_eq header
  rw [put, hfront]
  cases failure? with
  | some failure => exact ⟨front, some failure, mid, .header hheader, rfl⟩
  | none =>
    obtain ⟨requests, failure?, whole, hpayload, hwhole⟩ :=
      Traced.writeAll_eq payload (⟨mid, traced.requests ++ front⟩ : Traced ω)
    simp only [Option.elim_none, hwhole]
    cases failure? with
    | some failure =>
      exact ⟨front ++ requests, some failure, whole, .payload hheader hpayload,
        by rw [← List.append_assoc]; rfl⟩
    | none =>
      simp only [Option.elim_none]
      cases hflush : Sink.flush whole with
      | mk answer left =>
        have hall : Sink.flush (⟨whole, traced.requests ++ front ++ requests⟩ : Traced ω) =
            (answer, ⟨left, traced.requests ++ (front ++ requests ++ [.flush answer])⟩) := by
          rw [← List.append_assoc, ← List.append_assoc]
          exact congrArg (fun result => Traced.record .flush result
            (⟨whole, traced.requests ++ front ++ requests⟩ : Traced ω)) hflush
        cases answer with
        | ok done => exact ⟨_, none, left, .done hheader hpayload, hall⟩
        | error failure => exact ⟨_, some failure, left, .flush hheader hpayload, hall⟩

/-- What comes of a frame that is to be written, with the calls that it costs. -/
inductive Asked (frame : Frame) (writer : Writer (Traced ω)) :
    Except WriteFailure Unit × Writer (Traced ω) → Prop where
  | refused {fault} (hheader : frame.header writer.protocol = .error fault) :
    Asked frame writer (.error (.fault fault), writer)
  | broken {requests failure left} (hputs : frame.Puts writer.protocol requests (some failure)) :
    Asked frame writer
      (.error (.transport failure),
        { writer with sink := ⟨left, writer.sink.requests ++ requests⟩ })
  | done {requests left} (hputs : frame.Puts writer.protocol requests none) :
    Asked frame writer
      (.ok (),
        { writer with
          sink := ⟨left, writer.sink.requests ++ requests⟩
          written := writer.written + 1 })

theorem asked (frame : Frame) (writer : Writer (Traced ω)) :
    writer.Asked frame (writer.write frame) := by
  rw [write]
  cases hheader : frame.header writer.protocol with
  | error fault => exact .refused hheader
  | ok header =>
    obtain ⟨requests, failure?, left, hputs, hput⟩ :=
      put_eq header.toBytes frame.payload writer.sink
    simp only [hput]
    cases failure? with
    | none => exact .done ⟨header, hheader, hputs⟩
    | some failure => exact .broken ⟨header, hheader, hputs⟩

end Writer

end FramedVideo
