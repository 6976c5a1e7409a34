/-!
# Bytes

Byte strings are lists, so that what is sent and what is received can be compared by `=` and taken
apart by `++`.

## Main definitions

- `Bytes` — a string of bytes
- `Bytes.hex` — two lower-case hexadecimal digits for each byte
-/

namespace FramedVideo

/-- A string of bytes. -/
abbrev Bytes := List UInt8

/-- The digits of `n` in base 16, most significant first, padded with zeros to at least `width`. -/
def hexNumber (width n : Nat) : String :=
  let digits := Nat.toDigits 16 n
  String.ofList (List.replicate (width - digits.length) '0' ++ digits)

/-- Two lower-case hexadecimal digits for each byte. -/
def Bytes.hex (bytes : Bytes) : String :=
  bytes.foldl (fun text byte => text ++ hexNumber 2 byte.toNat) ""

end FramedVideo
