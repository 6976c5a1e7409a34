import FramedVideo.Number.Literal
import FramedVideo.Transport.Failure

/-!
# Addresses

An address is a host and a port with a colon between them. It can be refused before anything is
connected: when it has no colon, or when what stands behind the last one is not a port.

## Main definitions

- `Address.port?` — a port from its text
- `Address.refusal?` — why an address is refused
-/

namespace FramedVideo.Address

/-- The host and the port of an address: what stands before and behind the last colon. -/
def split? (address : String) : Option (String × String) :=
  let behind := address.toList.reverse
  match behind.dropWhile (· ≠ ':') with
  | [] => none
  | _ :: host =>
    some (String.ofList host.reverse, String.ofList (behind.takeWhile (· ≠ ':')).reverse)

/-- A port from its text. -/
def port? (text : String) : Option UInt16 :=
  match Literal.natural? text with
  | some port => if port < 65536 then some (.ofNat port) else none
  | none => none

/-- Why an address is refused before anything is connected. -/
def refusal? (address : String) : Option Transport.Failure :=
  match split? address with
  | none => some ⟨.invalidInput, some "invalid socket address"⟩
  | some (_, port) =>
    match port? port with
    | none => some ⟨.invalidInput, some "invalid port value"⟩
    | some _ => none

end FramedVideo.Address
