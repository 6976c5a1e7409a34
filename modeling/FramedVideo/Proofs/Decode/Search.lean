import FramedVideo.Proofs.Decode.Alike
import FramedVideo.Proofs.Frame.Codec
import FramedVideo.Proofs.Transport.Stops
import Mathlib.Data.List.DropRight
import Mathlib.Data.List.Induction
import Mathlib.Order.Bounds.Basic

/-!
# A search over a stream

After a faulty header a decoder that searches ends in one of three ways. It goes on at the first offset
where a header is accepted, if that is within the limit. If there is none, it reports the fault it began
with, once it has gone through as many bytes as it may. If the stream stops before that, it reports the
stop.

## Main definitions

- `Protocol.AcceptsAt` — a header that keeps to the protocol starts at an offset
- `Protocol.offsetsWithin` — where a search within a limit may end
- `Window.showing` — the window of a search that has come to an offset
- `Window.after` — a window once bytes have come in
- `Decoder.past` — the decoder that has read the header at an offset
- `Decoder.beginning` — the decoder of a stream that begins at an offset

Main statements: `Window.search_law`, `Decoder.search_rejected`, `Decoder.next_of_first`,
`Decoder.next_of_none`, `Decoder.next_of_stop`.
-/

namespace FramedVideo

open Transport (Stop Wire readExact)

-- ════════════════════════════════════════════════════════════════════════
-- Where a search may end
-- ════════════════════════════════════════════════════════════════════════

/-- A whole header starts at the offset and keeps to the protocol. -/
def Protocol.AcceptsAt (protocol : Protocol) (bytes : Bytes) (offset : Nat) : Prop :=
  offset + Header.size ≤ bytes.length ∧
    ∃ header, Header.accept protocol ((bytes.drop offset).take Header.size) = .ok header

instance (protocol : Protocol) (bytes : Bytes) (offset : Nat) :
    Decidable (protocol.AcceptsAt bytes offset) :=
  decidable_of_iff (offset + Header.size ≤ bytes.length ∧
      (Header.accept protocol ((bytes.drop offset).take Header.size)).toOption ≠ none) (by
    refine and_congr_right fun _ => ?_
    cases Header.accept protocol ((bytes.drop offset).take Header.size) with
    | error fault => simp [Except.toOption]
    | ok header => simp [Except.toOption])

/-- The offsets, from 1 up to a limit, at which a header is accepted. -/
def Protocol.offsetsWithin (protocol : Protocol) (limit : Nat) (bytes : Bytes) : Set Nat :=
  {offset | 1 ≤ offset ∧ offset ≤ limit ∧ protocol.AcceptsAt bytes offset}

namespace Protocol

variable {protocol : Protocol} {bytes : Bytes} {limit offset : Nat}

theorem not_acceptsAt_of_none (hnone : protocol.offsetsWithin limit bytes = ∅) (hpos : 1 ≤ offset)
    (hle : offset ≤ limit) : ¬protocol.AcceptsAt bytes offset := by
  intro haccepts
  have hmem : offset ∈ protocol.offsetsWithin limit bytes := ⟨hpos, hle, haccepts⟩
  rw [hnone] at hmem
  exact hmem

theorem not_acceptsAt_of_first (hfirst : IsLeast (protocol.offsetsWithin limit bytes) offset)
    {before : Nat} (hpos : 1 ≤ before) (hlt : before < offset) :
    ¬protocol.AcceptsAt bytes before := by
  intro haccepts
  obtain ⟨⟨-, hle, -⟩, hleast⟩ := hfirst
  have hmem : before ∈ protocol.offsetsWithin limit bytes := ⟨hpos, by omega, haccepts⟩
  have hge := hleast hmem
  omega

/-- The first offset within a limit is the first within a higher one. -/
theorem first_of_le {wider : Nat} (hle : limit ≤ wider)
    (hfirst : IsLeast (protocol.offsetsWithin limit bytes) offset) :
    IsLeast (protocol.offsetsWithin wider bytes) offset := by
  obtain ⟨⟨hpos, hlimit, haccepts⟩, hleast⟩ := hfirst
  refine ⟨⟨hpos, by omega, haccepts⟩, ?_⟩
  rintro other ⟨hother, -, haccepts'⟩
  by_cases hwithin : other ≤ limit
  · exact hleast ⟨hother, hwithin, haccepts'⟩
  · omega

/-- If the first offset is one above the limit, there is none within the limit. -/
theorem none_of_first_beyond (hfirst : IsLeast (protocol.offsetsWithin (limit + 1) bytes) (limit + 1)) :
    protocol.offsetsWithin limit bytes = ∅ := by
  apply Set.eq_empty_of_forall_notMem
  rintro other ⟨hpos, hle, haccepts⟩
  exact not_acceptsAt_of_first hfirst hpos (by omega) haccepts

theorem drop_take_append (more : Bytes) (hwhole : offset + Header.size ≤ bytes.length) :
    ((bytes ++ more).drop offset).take Header.size = (bytes.drop offset).take Header.size := by
  have hrest : Header.size ≤ (bytes.drop offset).length := by
    rw [List.length_drop]
    omega
  rw [List.drop_append_of_le_length (by omega), List.take_append_of_le_length hrest]

end Protocol

-- ════════════════════════════════════════════════════════════════════════
-- The window over a stream
-- ════════════════════════════════════════════════════════════════════════

/-- The window of a search that has come to an offset of a stream. -/
def Window.showing (bytes : Bytes) (limit offset : Nat) : Window :=
  ⟨(bytes.drop offset).take Header.size, offset, limit⟩

theorem Window.candidate?_showing_eq_none {protocol : Protocol} {bytes : Bytes} {limit offset : Nat}
    (hlong : offset + Header.size ≤ bytes.length) (hnone : ¬protocol.AcceptsAt bytes offset) :
    (Window.showing bytes limit offset).candidate? protocol = none := by
  rw [Option.eq_none_iff_forall_ne_some]
  intro header hfound
  exact hnone ⟨hlong, header, (Window.candidate?_eq_some_iff _ _ _).1 hfound⟩

/-- A window that has come to an offset comes to the next one with the byte behind it. -/
theorem Window.push_showing {bytes : Bytes} (limit : Nat) {offset : Nat}
    (hlong : offset + Header.size < bytes.length) :
    (Window.showing bytes limit offset).push bytes[offset + Header.size] =
      Window.showing bytes limit (offset + 1) := by
  have hshown : (Window.showing bytes limit offset).bytes.drop 1 =
      (bytes.drop (offset + 1)).take (Header.size - 1) := by
    rw [showing, List.drop_take, List.drop_drop]
  have hlast : Header.size - 1 < (bytes.drop (offset + 1)).length := by
    rw [List.length_drop, Header.size]
    rw [Header.size] at hlong
    omega
  have hmore : (bytes.drop (offset + 1)).take Header.size =
      (bytes.drop (offset + 1)).take (Header.size - 1) ++ [bytes[offset + Header.size]] := by
    have hsplit := List.take_succ_eq_append_getElem hlast
    rw [List.getElem_drop] at hsplit
    exact hsplit
  rw [push, hshown, ← hmore]
  rfl

/-- A byte that comes after all the others brings the window to the next offset. -/
theorem Window.push_showing_concat {bytes : Bytes} (limit : Nat) {offset : Nat} (byte : UInt8)
    (hlength : bytes.length = offset + Header.size) :
    (Window.showing bytes limit offset).push byte =
      Window.showing (bytes ++ [byte]) limit (offset + 1) := by
  have hlong : offset + Header.size < (bytes ++ [byte]).length := by simp [hlength]
  have hlast : (bytes ++ [byte])[offset + Header.size] = byte := by simp [← hlength]
  have hshown : Window.showing (bytes ++ [byte]) limit offset = Window.showing bytes limit offset := by
    rw [showing, showing, Protocol.drop_take_append [byte] hlength.ge]
  have hpush := Window.push_showing limit hlong
  rwa [hlast, hshown] at hpush

/-- The window once bytes have come in, one after the other. -/
def Window.after (window : Window) (pushed : Bytes) : Window := pushed.foldl push window

theorem Window.after_start {rejected : Bytes} (hsize : rejected.length = Header.size) (limit : Nat)
    (pushed : Bytes) :
    (start rejected limit).after pushed = showing (rejected ++ pushed) limit pushed.length := by
  induction pushed using List.reverseRecOn with
  | nil =>
    have hshown : ((rejected ++ []).drop 0).take Header.size = rejected := by
      rw [List.append_nil, List.drop_zero, ← hsize, List.take_length]
    rw [showing, List.length_nil, hshown]
    rfl
  | append_singleton pushed byte ih =>
    have hlength : (rejected ++ pushed).length = pushed.length + Header.size := by
      rw [List.length_append, hsize, Nat.add_comm]
    calc (start rejected limit).after (pushed ++ [byte])
        = ((start rejected limit).after pushed).push byte := List.foldl_concat ..
      _ = (showing (rejected ++ pushed) limit pushed.length).push byte := by rw [ih]
      _ = showing (rejected ++ pushed ++ [byte]) limit (pushed.length + 1) :=
        push_showing_concat limit byte hlength
      _ = showing (rejected ++ (pushed ++ [byte])) limit (pushed ++ [byte]).length := by
        rw [List.append_assoc, List.length_append, List.length_singleton]

/-- A window that has come to the end of a stream shows its last bytes. -/
theorem Window.bytes_showing_end {bytes : Bytes} {offset : Nat} (limit : Nat)
    (hlength : bytes.length = offset + Header.size) :
    (showing bytes limit offset).bytes = bytes.rtake Header.size := by
  have hstart : bytes.length - Header.size = offset := by omega
  have hrest : (bytes.drop offset).length = Header.size := by
    rw [List.length_drop]
    omega
  rw [List.rtake, hstart, showing, ← hrest, List.take_length]

/-- After a faulty header and any bytes behind it, a search has in its window the last 28 bytes of them
all, has skipped as many bytes as came in, may go on as long as these are fewer than the limit, and finds
just the header that is accepted from the window. -/
theorem Window.search_law {rejected : Bytes} (hsize : rejected.length = Header.size) (limit : Nat)
    (pushed : Bytes) :
    let window := (start rejected limit).after pushed
    let last := (rejected ++ pushed).rtake 28
    window.bytes = last ∧ last.length = 28 ∧ window.skipped = pushed.length ∧
    (window.exhausted = true ↔ limit ≤ pushed.length) ∧
    ∀ (protocol : Protocol) (header : Header),
      window.candidate? protocol = some header ↔ Header.accept protocol last = .ok header := by
  intro window last
  have hlength : (rejected ++ pushed).length = pushed.length + Header.size := by
    rw [List.length_append, hsize, Nat.add_comm]
  have hwindow : window = showing (rejected ++ pushed) limit pushed.length :=
    after_start hsize limit pushed
  have hbytes : window.bytes = last := by
    rw [hwindow]
    exact bytes_showing_end limit hlength
  have hwhole : last.length = 28 := by
    show ((rejected ++ pushed).drop ((rejected ++ pushed).length - Header.size)).length = Header.size
    rw [List.length_drop]
    omega
  refine ⟨hbytes, hwhole, ?_, ?_, fun protocol header => ?_⟩
  · rw [hwindow]
    rfl
  · rw [exhausted_eq_true, hwindow]
    exact Iff.rfl
  · rw [← hbytes]
    exact candidate?_eq_some_iff window protocol header

/-- A byte of garbage and a header have come in, and another byte may not: the header is found, and only
under a protocol with its magic number. -/
theorem Window.search_law_of_header :
    let protocol : Protocol := {}
    let other : Protocol := { magic := 0 }
    let header := Header.stamp protocol 3 7 11 0
    let window := (start (List.replicate 28 0xaa) 29).after (0x00 :: header.toBytes)
    window.bytes = header.toBytes ∧ window.exhausted = true ∧
      window.candidate? protocol = some header ∧ window.candidate? other = none := by
  intro protocol other header window
  have hlast : (List.replicate 28 0xaa ++ 0x00 :: header.toBytes).rtake 28 = header.toBytes := by
    decide +kernel
  have hsize : (List.replicate 28 0xaa : Bytes).length = Header.size := rfl
  obtain ⟨hbytes, -, -, hexhausted, hfound⟩ := search_law hsize 29 (0x00 :: header.toBytes)
  rw [hlast] at hbytes hfound
  have haccepted : Header.accept protocol header.toBytes = .ok header := by decide +kernel
  have hrejected : Header.accept other header.toBytes = .error (.badMagic protocol.magic) := by
    decide +kernel
  refine ⟨hbytes, hexhausted.2 (by decide), (hfound protocol header).2 haccepted, ?_⟩
  rw [Option.eq_none_iff_forall_ne_some]
  intro found hcandidate
  have haccepts := (hfound other found).1 hcandidate
  rw [hrejected] at haccepts
  cases haccepts

namespace Decoder

/-- The decoder once it has read the header at an offset of a stream. -/
def past (decoder : Decoder Wire) (bytes : Bytes) (after : Wire) (offset : Nat) : Decoder Wire :=
  decoder.onto (Wire.ofBytes (bytes.drop (offset + Header.size)) ++ after)

variable {decoder : Decoder Wire} {bytes : Bytes} {after : Wire} {fault : Fault} {limit offset : Nat}

/-- A search that may go on, and finds a byte to read, comes to the next offset. -/
theorem search_showing (fault : Fault) (hroom : offset < limit)
    (hlong : offset + Header.size < bytes.length) :
    search fault (.showing bytes limit offset) (decoder.past bytes after offset) =
      match (Window.showing bytes limit (offset + 1)).candidate? decoder.protocol with
      | some header =>
        (.ok header,
          { decoder.past bytes after (offset + 1) with skipped := decoder.skipped + (offset + 1) })
      | none =>
        search fault (.showing bytes limit (offset + 1)) (decoder.past bytes after (offset + 1)) := by
  have hmore : ¬(Window.showing bytes limit offset).exhausted = true := by
    rw [Window.exhausted_eq_true]
    exact Nat.not_le_of_lt hroom
  have hread : readExact 1 (decoder.past bytes after offset).source =
      (.ok [bytes[offset + Header.size]], (decoder.past bytes after (offset + 1)).source) := by
    have hcons := List.drop_eq_getElem_cons hlong
    rw [Nat.add_right_comm] at hcons
    simp only [past, onto]
    rw [hcons]
    exact Wire.readExact_ofBytes [bytes[offset + Header.size]] _
  rw [search_of_room fault _ hmore, hread]
  simp only [searchRead, List.headD_cons, Window.push_showing limit hlong]
  rfl

/-- As long as no header is accepted, and there are bytes to read, the search goes on. -/
theorem search_rejected (fault : Fault) (after : Wire) (limit offset count : Nat)
    (hroom : offset + count ≤ limit)
    (hlong : offset + count + Header.size ≤ bytes.length)
    (hnone : ∀ other, offset < other → other ≤ offset + count →
      ¬decoder.protocol.AcceptsAt bytes other) :
    search fault (.showing bytes limit offset) (decoder.past bytes after offset) =
      search fault (.showing bytes limit (offset + count))
        (decoder.past bytes after (offset + count)) := by
  induction count with
  | zero => rfl
  | succ count ih =>
    have hrejected := hnone (offset + count + 1) (by omega) (by omega)
    rw [ih (by omega) (by omega) fun other hgt hle => hnone other hgt (by omega),
      search_showing fault (by omega) (by omega),
      Window.candidate?_showing_eq_none (by omega) hrejected]
    rfl

/-- A search from the faulty header on ends at the first offset where a header is accepted. -/
theorem search_of_first (fault : Fault) {header : Header}
    (hfirst : IsLeast (decoder.protocol.offsetsWithin limit bytes) offset)
    (haccept : Header.accept decoder.protocol ((bytes.drop offset).take Header.size) = .ok header) :
    search fault (.showing bytes limit 0) (decoder.past bytes after 0) =
      (.ok header,
        { decoder.past bytes after offset with skipped := decoder.skipped + offset }) := by
  obtain ⟨hpos, hle, hlong, -⟩ := hfirst.1
  obtain ⟨before, rfl⟩ := Nat.exists_eq_add_of_le' hpos
  have hstart := search_rejected fault after limit 0 before (by omega) (by omega)
    fun other hgt hlt => Protocol.not_acceptsAt_of_first hfirst hgt (by omega)
  have hfound : (Window.showing bytes limit (before + 1)).candidate? decoder.protocol = some header :=
    (Window.candidate?_eq_some_iff _ _ _).2 haccept
  rw [Nat.zero_add] at hstart
  rw [hstart, search_showing fault (by omega) hlong, hfound]

/-- A search that finds no header goes through as many bytes as it may. -/
theorem search_of_none (fault : Fault) (hnone : decoder.protocol.offsetsWithin limit bytes = ∅)
    (hlong : Header.size + limit ≤ bytes.length) :
    search fault (.showing bytes limit 0) (decoder.past bytes after 0) =
      (.error (.fault fault),
        { decoder.past bytes after limit with skipped := decoder.skipped + limit }) := by
  have hstart := search_rejected fault after limit 0 limit (by omega) (by omega)
    fun other hgt hle => Protocol.not_acceptsAt_of_none hnone hgt (by omega)
  rw [Nat.zero_add] at hstart
  have hexhausted : (Window.showing bytes limit limit).exhausted = true :=
    Window.exhausted_eq_true.2 (Nat.le_refl limit)
  rw [hstart, search_of_exhausted fault _ hexhausted]
  rfl

/-- A search that finds no header before the stream stops reports the stop. -/
theorem search_of_stop (fault : Fault) (hnone : decoder.protocol.offsetsWithin limit bytes = ∅)
    (hheader : Header.size ≤ bytes.length) (hshort : bytes.length < Header.size + limit) {stop : Stop}
    (hstop : after.headD .close = stop.signal) :
    search fault (.showing bytes limit 0) (decoder.past bytes after 0) =
      (.error (.ofRead .resync (stop.failure 0 1)), decoder.onto after.tail) := by
  obtain ⟨last, hlast⟩ := Nat.exists_eq_add_of_le hheader
  have hstart := search_rejected fault after limit 0 last (by omega) (by omega)
    fun other hgt hle => Protocol.not_acceptsAt_of_none hnone hgt (by omega)
  rw [Nat.zero_add] at hstart
  have hroom : ¬(Window.showing bytes limit last).exhausted = true := by
    rw [Window.exhausted_eq_true]
    show ¬limit ≤ last
    omega
  have hnothing : bytes.drop (last + Header.size) = [] := List.drop_eq_nil_of_le (by omega)
  have hread : readExact 1 (decoder.past bytes after last).source =
      (.error (stop.failure 0 1), after.tail) := by
    show readExact 1 (Wire.ofBytes (bytes.drop (last + Header.size)) ++ after) = _
    rw [hnothing]
    exact Wire.readExact_of_stop hstop
  rw [hstart, search_of_room fault _ hroom, hread]
  rfl

/-- A call that meets a faulty header searches from there on. -/
theorem next_of_search (hrecovery : decoder.recovery = .scan limit)
    (hsource : decoder.source = Wire.ofBytes bytes ++ after) (hlong : Header.size ≤ bytes.length)
    (hfault : Header.accept decoder.protocol (bytes.take Header.size) = .error fault) :
    decoder.next =
      thenPayload (search fault (.showing bytes limit 0) (decoder.past bytes after 0)) := by
  have hread := Wire.readExact_of_le hlong after
  rw [next_eq, nextHeader_eq, hsource, hread]
  simp only [headerRead, hfault]
  rw [recover_scan fault (bytes.take Header.size)
    { decoder with source := Wire.ofBytes (bytes.drop Header.size) ++ after } hrecovery]
  simp only [Window.start, Window.showing, past, onto, List.drop_zero, Nat.zero_add]

/-- The decoder of a stream that begins at an offset, with what is in front of it skipped. -/
def beginning (decoder : Decoder Wire) (bytes : Bytes) (after : Wire) (offset : Nat) :
    Decoder Wire :=
  { decoder with
    source := Wire.ofBytes (bytes.drop offset) ++ after
    skipped := decoder.skipped + offset }

theorem next_beginning {header : Header} (hlong : offset + Header.size ≤ bytes.length)
    (haccept : Header.accept decoder.protocol ((bytes.drop offset).take Header.size) = .ok header) :
    (decoder.beginning bytes after offset).next =
      framePayload header
        { decoder.past bytes after offset with skipped := decoder.skipped + offset } := by
  have hrest : Header.size ≤ (bytes.drop offset).length := by rw [List.length_drop]; omega
  have hread := Wire.readExact_of_le hrest after
  rw [List.drop_drop] at hread
  rw [next_eq, nextHeader_eq, beginning, hread]
  simp only [headerRead, haccept]
  rfl

/-- If a header is accepted within the limit, the call goes on as if the stream began there. -/
theorem next_of_first (hrecovery : decoder.recovery = .scan limit)
    (hsource : decoder.source = Wire.ofBytes bytes ++ after) (hlong : Header.size ≤ bytes.length)
    (hfault : Header.accept decoder.protocol (bytes.take Header.size) = .error fault)
    (hfirst : IsLeast (decoder.protocol.offsetsWithin limit bytes) offset) :
    decoder.next = (decoder.beginning bytes after offset).next := by
  obtain ⟨-, -, hwhole, header, haccept⟩ := hfirst.1
  rw [next_of_search hrecovery hsource hlong hfault, search_of_first fault hfirst haccept,
    next_beginning hwhole haccept]
  rfl

/-- If none is, and there are enough bytes, the call reports the fault that it met first. -/
theorem next_of_none (hrecovery : decoder.recovery = .scan limit)
    (hsource : decoder.source = Wire.ofBytes bytes ++ after)
    (hfault : Header.accept decoder.protocol (bytes.take Header.size) = .error fault)
    (hnone : decoder.protocol.offsetsWithin limit bytes = ∅)
    (hlong : Header.size + limit ≤ bytes.length) :
    decoder.next =
      (.error (.fault fault),
        { decoder.past bytes after limit with skipped := decoder.skipped + limit }) := by
  rw [next_of_search hrecovery hsource (by omega) hfault, search_of_none fault hnone hlong]
  rfl

/-- If none is, and the stream stops first, the call reports the stop. -/
theorem next_of_stop (hrecovery : decoder.recovery = .scan limit)
    (hsource : decoder.source = Wire.ofBytes bytes ++ after) (hlong : Header.size ≤ bytes.length)
    (hfault : Header.accept decoder.protocol (bytes.take Header.size) = .error fault)
    (hnone : decoder.protocol.offsetsWithin limit bytes = ∅)
    (hshort : bytes.length < Header.size + limit) {stop : Stop}
    (hstop : after.headD .close = stop.signal) :
    decoder.next =
      (.error (.ofRead .resync (stop.failure 0 1)), decoder.onto after.tail) := by
  rw [next_of_search hrecovery hsource hlong hfault,
    search_of_stop fault hnone hlong hshort hstop]
  rfl

end Decoder

end FramedVideo
