import FramedVideo.Proofs.Decode.Polling
import FramedVideo.Proofs.Decode.Search
import FramedVideo.Proofs.Transport.Scripts

/-!
# Frames among garbage

A decoder reads the frames of a stream in their order, and leaves what comes after each. Told to
search, it also finds them behind garbage, as long as nothing that starts in the garbage passes for
a header and no piece of garbage is longer than the search may go. All of it is counted as skipped.

## Main definitions

- `Protocol.Rejects` — nothing that starts in the garbage passes for a header
- `Block` — a frame and the garbage in front of it
- `Block.stream` — the bytes of several blocks

Main statements: `Decoder.next_of_check`, `Decoder.next_onWire`, `Decoder.next_block`,
`Protocol.rejects_of_no_magic`, `Decoder.decode_stream`.
-/

namespace FramedVideo

open Transport (Source Script Wire Carries CarriesPolled readExact)

-- ════════════════════════════════════════════════════════════════════════
-- A frame where it is expected
-- ════════════════════════════════════════════════════════════════════════

namespace Decoder

theorem framePayload_ofBytes (header : Header) (payload : Bytes) (after : Wire)
    (decoder : Decoder Wire) (hsize : header.payloadSize.toNat = payload.length)
    (hsource : decoder.source = Wire.ofBytes payload ++ after) :
    decoder.framePayload header =
      (.ok (.ofParts header payload), { decoder with source := after }) := by
  rw [framePayload_eq, hsize, hsource, Wire.readExact_ofBytes]
  rfl

/-- A header that comes next is read as a whole, and then it is checked. -/
theorem nextHeader_toBytes (header : Header) (after : Wire) (decoder : Decoder Wire)
    (hsource : decoder.source = Wire.ofBytes header.toBytes ++ after) :
    decoder.nextHeader =
      match header.check decoder.protocol with
      | .ok () => (.ok header, { decoder with source := after })
      | .error fault => recover fault header.toBytes { decoder with source := after } := by
  have hread : readExact Header.size decoder.source = (.ok header.toBytes, after) := by
    rw [hsource, ← header.length_toBytes]
    exact Wire.readExact_ofBytes header.toBytes after
  have hheader : Header.ofBytes header.toBytes = .ok header := by
    have hback := Header.ofBytes_toBytes header []
    rwa [List.append_nil] at hback
  rw [nextHeader_eq, hread]
  simp only [headerRead, Header.accept, hheader]
  cases header.check decoder.protocol <;> rfl

/-- A header that passes its check makes a frame with the payload after it. -/
theorem next_of_check (header : Header) (payload : Bytes) (after : Wire) (decoder : Decoder Wire)
    (hcheck : header.check decoder.protocol = .ok ())
    (hsize : header.payloadSize.toNat = payload.length)
    (hsource : decoder.source = Wire.ofBytes (header.toBytes ++ payload) ++ after) :
    decoder.next = (.ok (.ofParts header payload), { decoder with source := after }) := by
  rw [Wire.ofBytes_append, List.append_assoc] at hsource
  rw [next_eq, nextHeader_toBytes header _ decoder hsource, hcheck]
  exact framePayload_ofBytes header payload after _ hsize rfl

/-- A frame that comes next is taken, and what comes after it is left. -/
theorem next_onWire (frame : Frame) (after : Wire) (decoder : Decoder Wire)
    (hfits : frame.Fits decoder.protocol)
    (hsource : decoder.source = Wire.ofBytes (frame.onWire decoder.protocol) ++ after) :
    decoder.next = (.ok frame, { decoder with source := after }) := by
  obtain ⟨header, hheader, hcheck, hsize, hparts⟩ := Frame.header_of_fits hfits
  rw [Frame.onWire_of_header hheader] at hsource
  rw [next_of_check header frame.payload after decoder hcheck hsize hsource, hparts]

theorem next_nil (decoder : Decoder Wire) (hsource : decoder.source = []) :
    decoder.next = (.error (.closed .header 0 Header.size), decoder) := by
  have hread : readExact Header.size decoder.source =
      (.error (.closed 0 Header.size), decoder.source) := by
    rw [hsource]
    exact Wire.readExact_short Header.size [] (by decide)
  rw [next_eq, nextHeader_eq, hread]
  rfl

end Decoder

-- ════════════════════════════════════════════════════════════════════════
-- Garbage
-- ════════════════════════════════════════════════════════════════════════

/-- Nothing that starts in the garbage in front of some bytes passes for a header. -/
def Protocol.Rejects (protocol : Protocol) (garbage bytes : Bytes) : Prop :=
  ∀ offset < garbage.length, ∀ header,
    Header.accept protocol (((garbage ++ bytes).drop offset).take Header.size) ≠ .ok header

instance (protocol : Protocol) (garbage bytes : Bytes) :
    Decidable (protocol.Rejects garbage bytes) :=
  decidable_of_iff (∀ offset < garbage.length,
      (Header.accept protocol (((garbage ++ bytes).drop offset).take Header.size)).toOption = none) (by
    constructor
    · intro h offset hoffset header haccept
      have hnone := h offset hoffset
      rw [haccept] at hnone
      cases hnone
    · intro h offset hoffset
      cases haccept : Header.accept protocol (((garbage ++ bytes).drop offset).take Header.size) with
      | error fault => rfl
      | ok header => exact absurd haccept (h offset hoffset header))

namespace Protocol.Rejects

variable {protocol : Protocol} {byte : UInt8} {garbage bytes : Bytes}

theorem head (h : protocol.Rejects (byte :: garbage) bytes) (header : Header) :
    Header.accept protocol ((byte :: garbage ++ bytes).take Header.size) ≠ .ok header :=
  h 0 (Nat.zero_lt_succ garbage.length) header

/-- The first header behind rejected garbage is the one in front of which it stands. -/
theorem first (h : protocol.Rejects garbage bytes) (hne : garbage ≠ []) {limit : Nat}
    (hlimit : garbage.length ≤ limit) {header : Header}
    (haccept : Header.accept protocol (bytes.take Header.size) = .ok header) :
    IsLeast (protocol.offsetsWithin limit (garbage ++ bytes)) garbage.length := by
  have hread := ((Header.accept_eq_ok_iff protocol _ header).1 haccept).1
  have hlong := Header.size_le_of_ofBytes hread
  rw [List.length_take] at hlong
  refine ⟨⟨List.length_pos_iff.2 hne, hlimit, ?_, header, ?_⟩, ?_⟩
  · rw [List.length_append]
    omega
  · rw [List.drop_left]
    exact haccept
  · rintro offset ⟨-, -, -, found, hfound⟩
    refine Nat.le_of_not_lt fun hlt => ?_
    exact h offset hlt found hfound

end Protocol.Rejects

namespace Decoder

/-- A frame is found behind garbage that a search may go through. -/
theorem next_block (garbage : Bytes) (frame : Frame) (limit : Nat) (after : Wire)
    (decoder : Decoder Wire) (hfits : frame.Fits decoder.protocol)
    (hrecovery : decoder.recovery = .scan limit) (hlimit : garbage.length ≤ limit)
    (hrejects : decoder.protocol.Rejects garbage (frame.onWire decoder.protocol))
    (hsource : decoder.source =
      Wire.ofBytes (garbage ++ frame.onWire decoder.protocol) ++ after) :
    decoder.next =
      (.ok frame, { decoder with source := after, skipped := decoder.skipped + garbage.length }) := by
  cases garbage with
  | nil => exact next_onWire frame after decoder hfits hsource
  | cons byte garbage =>
    obtain ⟨header, -, honWire, haccept, -, -⟩ := Frame.onWire_of_fits hfits
    have hfront : (frame.onWire decoder.protocol).take Header.size = header.toBytes := by
      rw [honWire]
      exact List.take_left' header.length_toBytes
    have hfirst := hrejects.first (List.cons_ne_nil byte garbage) hlimit (hfront ▸ haccept)
    have hlong : Header.size ≤ (byte :: garbage ++ frame.onWire decoder.protocol).length := by
      rw [honWire]
      simp only [List.length_append, Header.length_toBytes]
      omega
    cases hrejected : Header.accept decoder.protocol
        ((byte :: garbage ++ frame.onWire decoder.protocol).take Header.size) with
    | ok found => exact absurd hrejected (hrejects.head found)
    | error fault =>
      rw [next_of_first hrecovery hsource hlong hrejected hfirst]
      refine next_onWire frame after _ hfits ?_
      rw [beginning, List.drop_left]

end Decoder

-- ════════════════════════════════════════════════════════════════════════
-- Garbage without the magic number
-- ════════════════════════════════════════════════════════════════════════

/-- A word that is found in front of itself is found before itself, if its first letter does not come
again in it. -/
theorem isPrefix_of_take_append {α : Type} {first : α} {word front after : List α}
    (hfresh : first ∉ word) (hne : front ≠ [])
    (h : (front ++ (first :: word ++ after)).take (word.length + 1) = first :: word) :
    (first :: word) <+: front := by
  by_cases hlong : word.length + 1 ≤ front.length
  · rw [List.take_append_of_le_length hlong] at h
    exact h ▸ List.take_prefix (word.length + 1) front
  · -- the word would start in front of itself, so its first letter would be one of the others
    exfalso
    obtain ⟨before, hbefore⟩ : ∃ before, front.length = before + 1 :=
      Nat.exists_eq_succ_of_ne_zero (by simpa using hne)
    have hletter : (first :: word)[front.length]? = some first := by
      rw [← h, List.getElem?_take_of_lt (by omega), List.getElem?_append_right (Nat.le_refl _),
        Nat.sub_self]
      rfl
    rw [hbefore, List.getElem?_cons_succ] at hletter
    exact hfresh (List.mem_of_getElem? hletter)

/-- Garbage in which the magic number does not occur is rejected, if the first byte of the magic
number does not come again in it. -/
theorem Protocol.rejects_of_no_magic {protocol : Protocol} {first : UInt8} {word garbage : Bytes}
    {frame : Frame} (hmagic : protocol.magicBytes = first :: word) (hfresh : first ∉ word)
    (hfits : frame.Fits protocol) (hfree : ¬protocol.magicBytes <:+: garbage) :
    protocol.Rejects garbage (frame.onWire protocol) := by
  intro offset hoffset found haccepted
  obtain ⟨header, -, honWire, haccept, -, -⟩ := Frame.onWire_of_fits hfits
  have hword : word.length + 1 = 4 := by
    rw [← List.length_cons (a := first), ← hmagic]
    exact BigEndian.length_encode 4 _
  have honWire : frame.onWire protocol =
      first :: word ++ (header.toBytes.drop 4 ++ frame.payload) := by
    rw [honWire, ← hmagic, ← Header.magicBytes_of_accept haccept, ← List.append_assoc,
      List.take_append_drop]
  have htake := Header.magicBytes_of_accept haccepted
  rw [List.take_take, List.drop_append_of_le_length (Nat.le_of_lt hoffset), honWire, hmagic] at htake
  have hne : garbage.drop offset ≠ [] := by
    rw [Ne, List.drop_eq_nil_iff]
    exact Nat.not_le_of_lt hoffset
  have hfound : (garbage.drop offset ++ (first :: word ++
      (header.toBytes.drop 4 ++ frame.payload))).take (word.length + 1) = first :: word := by
    rw [hword]
    exact htake
  have hwithin : (first :: word) <+: garbage.drop offset :=
    isPrefix_of_take_append hfresh hne hfound
  rw [hmagic] at hfree
  exact hfree (hwithin.isInfix.trans (List.drop_suffix offset garbage).isInfix)

-- ════════════════════════════════════════════════════════════════════════
-- Whole streams
-- ════════════════════════════════════════════════════════════════════════

/-- A frame, and the garbage in front of it. -/
structure Block where
  garbage : Bytes
  frame : Frame
  deriving DecidableEq, Repr

namespace Block

/-- The bytes of several blocks. -/
def stream (protocol : Protocol) (blocks : List Block) : Bytes :=
  blocks.flatMap fun block => block.garbage ++ block.frame.onWire protocol

/-- How much of a stream is garbage. -/
def garbageLength (blocks : List Block) : Nat := (blocks.flatMap (·.garbage)).length

/-- The frame has a wire form, the garbage in front of it is no longer than a search may go, and
nothing that starts in it passes for a header. For the standard format it is enough that the magic
number does not occur in it. -/
structure Findable (protocol : Protocol) (limit : Nat) (block : Block) : Prop where
  fits : block.frame.Fits protocol
  short : block.garbage.length ≤ limit
  hidden : protocol.Rejects block.garbage (block.frame.onWire protocol) ∨
    protocol = {} ∧ ¬protocol.magicBytes <:+: block.garbage

theorem Findable.rejects {protocol : Protocol} {limit : Nat} {block : Block}
    (h : block.Findable protocol limit) :
    protocol.Rejects block.garbage (block.frame.onWire protocol) := by
  obtain hrejects | ⟨hprotocol, hfree⟩ := h.hidden
  · exact hrejects
  · subst hprotocol
    have hmagic : ({} : Protocol).magicBytes = [0x47, 0x53, 0x56, 0x43] := by decide
    exact Protocol.rejects_of_no_magic hmagic (by decide) h.fits hfree

/-- What the calls on a stream of blocks answer: the frames, and then a clean close. -/
def answers (blocks : List Block) : List (Except DecodeFailure Frame) :=
  blocks.map (fun block => .ok block.frame) ++ [.error (.closed .header 0 Header.size)]

end Block

namespace Decoder

theorem nextMany_stream (limit : Nat) (blocks : List Block) (decoder : Decoder Wire)
    (hrecovery : decoder.recovery = .scan limit)
    (hblocks : ∀ block ∈ blocks, block.Findable decoder.protocol limit)
    (hsource : decoder.source = Wire.ofBytes (Block.stream decoder.protocol blocks)) :
    decoder.nextMany (blocks.length + 1) =
      (Block.answers blocks,
        { decoder with
          source := []
          skipped := decoder.skipped + Block.garbageLength blocks }) := by
  induction blocks generalizing decoder with
  | nil =>
    obtain ⟨source, protocol, recovery, skipped⟩ := decoder
    have hclose := next_nil ⟨source, protocol, recovery, skipped⟩ hsource
    simp only [List.length_nil, nextMany, hclose]
    exact Prod.ext rfl (congrArg (Decoder.mk · protocol recovery skipped) hsource)
  | cons block blocks ih =>
    have hfirst := hblocks block List.mem_cons_self
    rw [Block.stream, List.flatMap_cons, Wire.ofBytes_append] at hsource
    have hnext := next_block block.garbage block.frame limit _ decoder hfirst.fits hrecovery
      hfirst.short hfirst.rejects hsource
    have hrest := ih
      { decoder with
        source := Wire.ofBytes (Block.stream decoder.protocol blocks)
        skipped := decoder.skipped + block.garbage.length }
      hrecovery (fun block hblock => hblocks block (List.mem_cons_of_mem _ hblock)) rfl
    rw [List.length_cons, nextMany, hnext]
    simp only
    rw [Block.stream] at hrest
    rw [hrest]
    simp only [Block.answers, Block.garbageLength, List.map_cons, List.flatMap_cons,
      List.length_append, List.cons_append, Nat.add_assoc]

/-- A decoder that searches finds all frames among garbage, in their order, however the stream is
cut into pieces; then it reports a clean close, nothing is left of the stream, and the skipped bytes
are the garbage. That holds for one that waits and for one that is polled. -/
theorem decode_stream {σ : Type} [Source σ] (protocol : Protocol) (limit : Nat)
    (blocks : List Block) (source : σ)
    (hblocks : ∀ block ∈ blocks, block.Findable protocol limit) :
    let decoder : Decoder σ := { source := source, protocol := protocol, recovery := .scan limit }
    let carried := Wire.ofBytes (Block.stream protocol blocks)
    let waiting := decoder.nextMany (blocks.length + 1)
    let polled := decoder.finishMany (blocks.length + 1)
    (Carries source carried →
      waiting.1 = Block.answers blocks ∧ Carries waiting.2.source [] ∧
        waiting.2.skipped = Block.garbageLength blocks) ∧
    (CarriesPolled source carried →
      polled.1 = (Block.answers blocks).map some ∧ CarriesPolled polled.2.source [] ∧
        polled.2.skipped = Block.garbageLength blocks) := by
  intro decoder carried waiting polled
  have hwire := nextMany_stream limit blocks (decoder.onto carried) rfl hblocks rfl
  constructor
  · rintro ⟨R, hR, hsource⟩
    obtain ⟨right, hright, hmany⟩ :=
      nextMany_alike hR.readsAlike (blocks.length + 1) decoder carried hsource
    obtain ⟨hanswers, hlast⟩ := Prod.mk.inj (hmany.symm.trans hwire)
    have hnothing : right = [] := congrArg Decoder.source hlast
    refine ⟨hanswers, ⟨R, hR, hnothing ▸ hright⟩, ?_⟩
    exact (congrArg Decoder.skipped hlast).trans (Nat.zero_add _)
  · rintro ⟨R, hR, hsource⟩
    obtain ⟨right, hright, hanswers, hlast⟩ :=
      finishMany_alike hR.pollsAlike (blocks.length + 1) decoder carried hsource
    rw [hwire] at hanswers hlast
    have hnothing : right = [] := (congrArg Decoder.source hlast).symm
    refine ⟨hanswers, ⟨R, hR, hnothing ▸ hright⟩, ?_⟩
    exact (congrArg Decoder.skipped hlast).symm.trans (Nat.zero_add _)

/-- Garbage that breaks off within the magic number, and garbage that is the magic number. -/
theorem decode_stream_magic :
    let first : Frame := { sourceId := 0, frameId := 1, timestamp := 10, payload := [7, 8] }
    let second : Frame := { sourceId := 1, frameId := 2, timestamp := 20, flags := 3, payload := [] }
    let blocks : List Block :=
      [⟨[0x47, 0x53, 0x56], first⟩, ⟨({} : Protocol).magicBytes, second⟩, ⟨[], first⟩]
    let bytes := Block.stream {} blocks
    let script : Script := { events := [.data (bytes.take 5), .fail ⟨.interrupted, none⟩,
      .notReady, .data (bytes.drop 5)] }
    let decoder : Decoder Script := { source := script, recovery := .scan 4 }
    let answers : List (Except DecodeFailure Frame) :=
      [.ok first, .ok second, .ok first, .error (.closed .header 0 28)]
    (∀ block ∈ blocks, block.Findable {} 4) ∧
      (decoder.nextMany 4).1 = answers ∧ (decoder.nextMany 4).2.skipped = 7 ∧
      (decoder.finishMany 4).1 = answers.map some ∧ (decoder.finishMany 4).2.skipped = 7 := by
  intro first second blocks bytes script decoder answers
  have hblocks : ∀ block ∈ blocks, block.Findable {} 4 := by
    intro block hblock
    simp only [blocks, List.mem_cons, List.not_mem_nil, or_false] at hblock
    obtain rfl | rfl | rfl := hblock
    · exact ⟨by decide, by decide, .inr ⟨rfl, by decide⟩⟩
    · exact ⟨by decide, by decide, .inl (by decide)⟩
    · exact ⟨by decide, by decide, .inl (by decide)⟩
  have hcarried : Script.wire script.events = Wire.ofBytes bytes := by decide
  obtain ⟨hwaiting, hpolled⟩ := decode_stream {} 4 blocks script hblocks
  obtain ⟨hanswers, -, hskipped⟩ := hwaiting (hcarried ▸ script.carries)
  obtain ⟨hanswers', -, hskipped'⟩ := hpolled (hcarried ▸ script.carriesPolled)
  exact ⟨hblocks, hanswers, hskipped, hanswers', hskipped'⟩

end Decoder

end FramedVideo
