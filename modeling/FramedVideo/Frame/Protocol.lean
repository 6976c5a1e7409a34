/-!
# What both ends agree on

A `Protocol` is stamped into every header that is written and checked on every header that is
read: the magic number that opens a header, the version, the codec, and the largest payload.

## Main definitions

- `Protocol` — the constants of one wire format
- `Codec` — the payload encodings that have a number
-/

namespace FramedVideo

/-- The constants of one wire format. The defaults are the standard format: the magic number
spells `GSVC`, and a payload has at most one mebibyte. -/
structure Protocol where
  magic : UInt32 := 0x47535643
  version : UInt8 := 1
  codec : UInt8 := 1
  maxPayload : UInt32 := 1048576
  deriving DecidableEq, Repr, Inhabited

/-- How a payload is encoded. -/
inductive Codec where
  | jpeg
  deriving DecidableEq, Repr

namespace Codec

/-- The number of a codec in a header. -/
def toByte : Codec → UInt8
  | jpeg => 1

/-- The codec with a given number, if there is one. -/
def ofByte? (byte : UInt8) : Option Codec :=
  if byte = 1 then some jpeg else none

/-- The name of a codec. -/
def name : Codec → String
  | jpeg => "Jpeg"

end Codec

end FramedVideo
