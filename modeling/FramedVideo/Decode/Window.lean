import FramedVideo.Frame.Header

/-!
# The search for a header

After a faulty header nothing says where the next frame starts. A decoder may search for it: a
window of the size of a header slides over the stream, a byte at a time, until what it shows is a
header that keeps to the protocol, or until a limit on the discarded bytes is reached.

The payload of a frame can look like a header. That is why the search has to be asked for.

## Main definitions

- `Recovery` — what to do after a faulty header
- `Window` — the last bytes of the stream, with a count of the discarded ones
- `Window.push` — slides the window by a byte
- `Window.candidate?` — the header in the window, if there is one
-/

namespace FramedVideo

/-- What to do after a faulty header. -/
inductive Recovery where
  /-- Give up at once. -/
  | disabled
  /-- Search, and discard at most `limit` bytes. -/
  | scan (limit : Nat)
  deriving DecidableEq, Repr, Inhabited

/-- The bytes under inspection. -/
structure Window where
  /-- The last bytes of the stream, as many as a header has. -/
  bytes : Bytes
  /-- Bytes discarded so far. -/
  skipped : Nat := 0
  /-- The most bytes to discard. -/
  limit : Nat
  deriving DecidableEq, Repr

namespace Window

/-- The window over the bytes of a faulty header. -/
def start (rejected : Bytes) (limit : Nat) : Window where
  bytes := rejected
  limit := limit

/-- No more bytes may be discarded. -/
def exhausted (window : Window) : Bool := window.limit ≤ window.skipped

/-- Slides the window by a byte. -/
def push (window : Window) (byte : UInt8) : Window :=
  { window with bytes := window.bytes.drop 1 ++ [byte], skipped := window.skipped + 1 }

/-- The header in the window, if it keeps to the protocol. Only a window that opens with the magic
number is looked at closely. -/
def candidate? (window : Window) (protocol : Protocol) : Option Header :=
  if window.bytes.take 4 = BigEndian.encode 4 protocol.magic.toNat then
    match Header.accept protocol window.bytes with
    | .ok header => some header
    | .error _ => none
  else
    none

@[simp]
theorem skipped_push (window : Window) (byte : UInt8) :
    (window.push byte).skipped = window.skipped + 1 := rfl

@[simp]
theorem limit_push (window : Window) (byte : UInt8) : (window.push byte).limit = window.limit := rfl

theorem exhausted_eq_true {window : Window} :
    window.exhausted = true ↔ window.limit ≤ window.skipped := by
  simp [exhausted]

theorem exhausted_eq_false {window : Window} :
    window.exhausted = false ↔ window.skipped < window.limit := by
  simp [exhausted]

end Window

end FramedVideo
