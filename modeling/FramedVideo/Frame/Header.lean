import FramedVideo.Bytes.BigEndian
import FramedVideo.Frame.Protocol
import FramedVideo.Frame.Fault

/-!
# Headers

A header is 28 bytes: nine numbers, each big-endian, without gaps. Reading looks at the first 28
bytes only; writing and reading are inverse to each other.

## Main definitions

- `Header` — the nine numbers, in the order of the wire
- `Header.stamp` — a header under a protocol
- `Header.toBytes`, `Header.ofBytes` — writing and reading
- `Header.check` — whether a header keeps to a protocol
- `Header.accept` — reading and checking in one
-/

namespace FramedVideo

/-- The nine numbers of a header, in the order of the wire. -/
structure Header where
  magic : UInt32
  version : UInt8
  codec : UInt8
  flags : UInt16
  sourceId : UInt16
  reserved : UInt16
  frameId : UInt32
  timestamp : UInt64
  payloadSize : UInt32
  deriving DecidableEq, Repr, Inhabited

namespace Header

/-- The length of a header on the wire. -/
def size : Nat := 28

/-- The header of a frame under a protocol, with no flags. -/
def stamp (protocol : Protocol) (sourceId : UInt16) (frameId : UInt32) (timestamp : UInt64)
    (payloadSize : UInt32) : Header where
  magic := protocol.magic
  version := protocol.version
  codec := protocol.codec
  flags := 0
  sourceId := sourceId
  reserved := 0
  frameId := frameId
  timestamp := timestamp
  payloadSize := payloadSize

/-- The header with other flags. -/
def withFlags (header : Header) (flags : UInt16) : Header :=
  { header with flags := flags }

-- ════════════════════════════════════════════════════════════════════════
-- The wire
-- ════════════════════════════════════════════════════════════════════════

/-- The 28 bytes of a header. -/
def toBytes (header : Header) : Bytes :=
  BigEndian.encode 4 header.magic.toNat ++
  BigEndian.encode 1 header.version.toNat ++
  BigEndian.encode 1 header.codec.toNat ++
  BigEndian.encode 2 header.flags.toNat ++
  BigEndian.encode 2 header.sourceId.toNat ++
  BigEndian.encode 2 header.reserved.toNat ++
  BigEndian.encode 4 header.frameId.toNat ++
  BigEndian.encode 8 header.timestamp.toNat ++
  BigEndian.encode 4 header.payloadSize.toNat

@[simp]
theorem length_toBytes (header : Header) : header.toBytes.length = size := by
  simp [toBytes, size]

/-- The number in the `width` bytes from `offset` on. -/
def number (bytes : Bytes) (offset width : Nat) : Nat :=
  BigEndian.decode ((bytes.drop offset).take width)

/-- The header at the front of `bytes`; it needs 28 of them and ignores the rest. -/
def ofBytes (bytes : Bytes) : Except Fault Header :=
  let front := bytes.take size
  if front.length < size then
    .error (.tooShort size bytes.length)
  else
    .ok {
      magic := .ofNat (number front 0 4)
      version := .ofNat (number front 4 1)
      codec := .ofNat (number front 5 1)
      flags := .ofNat (number front 6 2)
      sourceId := .ofNat (number front 8 2)
      reserved := .ofNat (number front 10 2)
      frameId := .ofNat (number front 12 4)
      timestamp := .ofNat (number front 16 8)
      payloadSize := .ofNat (number front 24 4) }

-- ════════════════════════════════════════════════════════════════════════
-- Checking
-- ════════════════════════════════════════════════════════════════════════

/-- The first respect in which a header departs from the protocol: magic number, version, codec
and payload size are looked at in this order. -/
def check (header : Header) (protocol : Protocol) : Except Fault Unit :=
  if header.magic ≠ protocol.magic then
    .error (.badMagic header.magic)
  else if header.version ≠ protocol.version then
    .error (.unsupportedVersion header.version)
  else if header.codec ≠ protocol.codec then
    .error (.unsupportedCodec header.codec)
  else if header.payloadSize > protocol.maxPayload then
    .error (.payloadTooLarge header.payloadSize.toNat protocol.maxPayload)
  else
    .ok ()

/-- The header at the front of `bytes`, if it keeps to the protocol. -/
def accept (protocol : Protocol) (bytes : Bytes) : Except Fault Header :=
  match ofBytes bytes with
  | .error fault => .error fault
  | .ok header =>
    match header.check protocol with
    | .error fault => .error fault
    | .ok () => .ok header

-- ════════════════════════════════════════════════════════════════════════
-- Text
-- ════════════════════════════════════════════════════════════════════════

/-- All fields by name, in the order of the wire, with the magic number in hexadecimal. -/
def describe (header : Header) : String :=
  let fields : List (String × String) := [
    ("magic", "0x" ++ hexNumber 8 header.magic.toNat),
    ("version", toString header.version.toNat),
    ("codec", toString header.codec.toNat),
    ("flags", toString header.flags.toNat),
    ("source_id", toString header.sourceId.toNat),
    ("reserved", toString header.reserved.toNat),
    ("frame_id", toString header.frameId.toNat),
    ("timestamp_us", toString header.timestamp.toNat),
    ("payload_size", toString header.payloadSize.toNat)]
  let shown := fields.map fun field => field.1 ++ ": " ++ field.2
  "FrameHeader \x7b " ++ ", ".intercalate shown ++ " \x7d"

end Header

end FramedVideo
