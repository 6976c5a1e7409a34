import FramedVideo.Bytes

/-!
# Faults of a header

The ways in which bytes fail to be a header of the agreed format. Each carries the value that was
found, so that a log shows what arrived.

## Main definitions

- `Fault` — what is wrong with a header
- `Fault.message`, `Fault.reason`, `Fault.value` — how a fault is reported
-/

namespace FramedVideo

/-- What is wrong with a header, or with the bytes that should hold one. -/
inductive Fault where
  /-- The header does not open with the agreed magic number. -/
  | badMagic (found : UInt32)
  /-- The header is of another version. -/
  | unsupportedVersion (found : UInt8)
  /-- The payload is encoded in another way. -/
  | unsupportedCodec (found : UInt8)
  /-- The payload is longer than agreed. -/
  | payloadTooLarge (size : Nat) (max : UInt32)
  /-- There are too few bytes for a header. -/
  | tooShort (expected actual : Nat)
  deriving DecidableEq, Repr

namespace Fault

/-- The kind of a fault in two or three words. -/
def reason : Fault → String
  | badMagic _ => "bad magic"
  | unsupportedVersion _ => "unsupported version"
  | unsupportedCodec _ => "unsupported codec"
  | payloadTooLarge _ _ => "payload too large"
  | tooShort _ _ => "frame too short"

/-- The offending number. -/
def value : Fault → Nat
  | badMagic found => found.toNat
  | unsupportedVersion found => found.toNat
  | unsupportedCodec found => found.toNat
  | payloadTooLarge size _ => size
  | tooShort _ actual => actual

/-- One line for a reader of logs. A magic number is shown with eight hexadecimal digits. -/
def message (fault : Fault) : String :=
  let rest := match fault with
    | badMagic found => "0x" ++ hexNumber 8 found.toNat
    | unsupportedVersion found => toString found.toNat
    | unsupportedCodec found => toString found.toNat
    | payloadTooLarge size max => toString size ++ " bytes (max " ++ toString max.toNat ++ ")"
    | tooShort expected actual =>
      "expected " ++ toString expected ++ " bytes, got " ++ toString actual
  fault.reason ++ ": " ++ rest

end Fault

end FramedVideo
