import FramedVideo.Transport.Source

/-!
# Exact reads

A source hands out as many bytes as it likes at a time. An exact read goes on reading until the
number of bytes that was asked for has come. A read that hands out nothing means that the peer has
closed, and is never repeated; a read that was interrupted moved nothing, and is repeated.

An interrupted read is repeated only if it left the source with less to do. A source that is
interrupted for ever is thereby reported as failed.

## Main definitions

- `ReadFailure` — why an exact read ended early
- `gather` — the loop over reads
- `readExact` — an exact read
- `fill` — an exact read into a buffer, which keeps what came before a failure
-/

namespace FramedVideo.Transport

/-- Why an exact read ended early. -/
inductive ReadFailure where
  /-- The peer closed after `received` of `expected` bytes. -/
  | closed (received expected : Nat)
  /-- The transport failed. -/
  | transport (failure : Failure)
  deriving DecidableEq, Repr

/-- One line for a reader of logs. -/
def ReadFailure.message : ReadFailure → String
  | closed received expected =>
    "peer closed the connection after " ++ toString received ++ " of " ++ toString expected ++
      " bytes"
  | transport failure => failure.message

/-- What a loop over reads leaves: how it ended, the bytes that came, and the source. -/
structure Gathered (σ : Type) where
  ended : Except ReadFailure Unit
  /-- The bytes that came, last first. -/
  behind : Bytes
  source : σ

/-- The bytes that came, in order. -/
def Gathered.bytes {σ : Type} (gathered : Gathered σ) : Bytes := gathered.behind.reverse

variable {σ : Type} [Source σ]

/-- Reads until `wanted` more bytes have come. The bytes so far are in `behind`, last first. -/
def gather (wanted : Nat) (behind : Bytes) (source : σ) : Gathered σ :=
  if wanted = 0 then
    ⟨.ok (), behind, source⟩
  else
    match _h : Source.read wanted source with
    | (.ok [], left) => ⟨.error (.closed behind.length (behind.length + wanted)), behind, left⟩
    | (.ok (byte :: bytes), left) =>
      gather (wanted - (bytes.length + 1)) (bytes.reverseAux (byte :: behind)) left
    | (.error failure, left) =>
      if failure.kind = .interrupted ∧ Source.extent left < Source.extent source then
        gather wanted behind left
      else
        ⟨.error (.transport failure), behind, left⟩
termination_by Source.extent source
decreasing_by
  · have hlt := Source.extent_read_lt wanted source (byte :: bytes) (by rw [_h]) (by simp)
    rwa [_h] at hlt
  · rename_i hmoved
    exact hmoved.2

/-- Reads exactly `length` bytes. -/
def readExact (length : Nat) (source : σ) : Except ReadFailure Bytes × σ :=
  let gathered := gather length [] source
  match gathered.ended with
  | .ok () => (.ok gathered.bytes, gathered.source)
  | .error failure => (.error failure, gathered.source)

/-- Puts bytes over the front of a buffer. -/
def overwrite (bytes buffer : Bytes) : Bytes := bytes ++ buffer.drop bytes.length

/-- Reads as many bytes as a buffer has. The bytes that came before a failure are in the buffer. -/
def fill (buffer : Bytes) (source : σ) : Except ReadFailure Unit × Bytes × σ :=
  let gathered := gather buffer.length [] source
  (gathered.ended, overwrite gathered.bytes buffer, gathered.source)

end FramedVideo.Transport
