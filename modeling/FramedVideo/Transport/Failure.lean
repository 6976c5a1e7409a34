/-!
# Failures of a transport

A transport that carries bytes can fail. A failure has a kind, and sometimes a text of its own;
without one it is reported by the usual words for its kind.

## Main definitions

- `Transport.Kind` — the kinds of failure, with their names and usual words
- `Transport.Failure` — a kind and perhaps a text
-/

namespace FramedVideo.Transport

/-- The kinds of failure. -/
inductive Kind where
  | connectionReset
  | brokenPipe
  | connectionAborted
  | timedOut
  | unexpectedEof
  | wouldBlock
  | permissionDenied
  | notConnected
  | invalidData
  | other
  | notFound
  | connectionRefused
  | addrInUse
  | addrNotAvailable
  | invalidInput
  | writeZero
  | interrupted
  | outOfMemory
  deriving DecidableEq, Repr

namespace Kind

/-- Every kind, once. -/
def all : List Kind :=
  [connectionReset, brokenPipe, connectionAborted, timedOut, unexpectedEof, wouldBlock,
    permissionDenied, notConnected, invalidData, other, notFound, connectionRefused, addrInUse,
    addrNotAvailable, invalidInput, writeZero, interrupted, outOfMemory]

/-- The name of a kind. -/
def name : Kind → String
  | connectionReset => "ConnectionReset"
  | brokenPipe => "BrokenPipe"
  | connectionAborted => "ConnectionAborted"
  | timedOut => "TimedOut"
  | unexpectedEof => "UnexpectedEof"
  | wouldBlock => "WouldBlock"
  | permissionDenied => "PermissionDenied"
  | notConnected => "NotConnected"
  | invalidData => "InvalidData"
  | other => "Other"
  | notFound => "NotFound"
  | connectionRefused => "ConnectionRefused"
  | addrInUse => "AddrInUse"
  | addrNotAvailable => "AddrNotAvailable"
  | invalidInput => "InvalidInput"
  | writeZero => "WriteZero"
  | interrupted => "Interrupted"
  | outOfMemory => "OutOfMemory"

/-- The usual words for a kind. -/
def words : Kind → String
  | connectionReset => "connection reset"
  | brokenPipe => "broken pipe"
  | connectionAborted => "connection aborted"
  | timedOut => "timed out"
  | unexpectedEof => "unexpected end of file"
  | wouldBlock => "operation would block"
  | permissionDenied => "permission denied"
  | notConnected => "not connected"
  | invalidData => "invalid data"
  | other => "other error"
  | notFound => "entity not found"
  | connectionRefused => "connection refused"
  | addrInUse => "address in use"
  | addrNotAvailable => "address not available"
  | invalidInput => "invalid input parameter"
  | writeZero => "write zero"
  | interrupted => "operation interrupted"
  | outOfMemory => "out of memory"

/-- The kind of a given name. -/
def ofName? (name : String) : Option Kind := all.find? (·.name = name)

end Kind

/-- One failure of a transport. -/
structure Failure where
  kind : Kind
  text : Option String := none
  deriving DecidableEq, Repr

/-- The text of a failure, or the usual words for its kind. -/
def Failure.message (failure : Failure) : String := failure.text.getD failure.kind.words

end FramedVideo.Transport
