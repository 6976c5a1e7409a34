import FramedVideo.Proofs.Decode.Stopped
import FramedVideo.Proofs.Transport.Chunks
import Mathlib.Data.List.Forall2

/-!
# What a decoder accepts

A decoder that does not search accepts parcels, one after the other, and nothing else. The bytes that
it has taken are the wire forms of the frames that it gave back, up to the reserved bytes of the
headers. Any bytes are parcels and then a rest in front of which no parcel stands, in one way only, and
the rest decides what is reported at the end.

## Main definitions

- `Protocol.Opens` — a parcel stands in front of the bytes
- `Protocol.refusal` — what is reported where no parcel stands

Main statements: `Decoder.next_of_close`, `Decoder.exists_parcels`, `Protocol.parcels_unique`,
`Decoder.accepts_exactly`.
-/

namespace FramedVideo

open Transport (Source Stop Stops Chunked)

namespace Protocol

variable {protocol : Protocol} {bytes : Bytes}

/-- A parcel stands in front of the bytes. -/
def Opens (protocol : Protocol) (bytes : Bytes) : Prop :=
  ∃ (parcel : Parcel) (rest : Bytes), parcel.Regular protocol ∧ bytes = parcel.bytes ++ rest

/-- What a decoder reports on bytes in front of which no parcel stands. -/
def refusal (protocol : Protocol) (bytes : Bytes) : DecodeFailure :=
  if bytes.length < Header.size then
    .closed .header bytes.length Header.size
  else
    match Header.accept protocol bytes with
    | .error fault => .fault fault
    | .ok header => .closed .payload (bytes.drop Header.size).length header.payloadSize.toNat

theorem not_opens_of_short (hshort : bytes.length < Header.size) : ¬protocol.Opens bytes := by
  rintro ⟨parcel, rest, -, rfl⟩
  exact absurd (parcel.size_le_length rest) (Nat.not_le.2 hshort)

theorem not_opens_of_fault {fault : Fault} (hfault : Header.accept protocol bytes = .error fault) :
    ¬protocol.Opens bytes := by
  rintro ⟨parcel, rest, hparcel, rfl⟩
  rw [hparcel.accept rest] at hfault
  cases hfault

theorem not_opens_of_cut {header : Header} (haccept : Header.accept protocol bytes = .ok header)
    (hshort : (bytes.drop Header.size).length < header.payloadSize.toNat) :
    ¬protocol.Opens bytes := by
  rintro ⟨parcel, rest, hparcel, rfl⟩
  rw [hparcel.accept rest] at haccept
  cases haccept
  rw [List.length_drop, List.length_append, Parcel.length_bytes, hparcel.size_eq] at hshort
  omega

/-- Bytes are parcels and a rest in front of which no parcel stands in one way only. -/
theorem parcels_unique {parcels others : List Parcel} {rest rest' : Bytes}
    (hparcels : ∀ parcel ∈ parcels, parcel.Regular protocol)
    (hothers : ∀ parcel ∈ others, parcel.Regular protocol) (hrest : ¬protocol.Opens rest)
    (hrest' : ¬protocol.Opens rest')
    (h : parcels.flatMap Parcel.bytes ++ rest = others.flatMap Parcel.bytes ++ rest') :
    parcels = others ∧ rest = rest' := by
  induction parcels generalizing others with
  | nil =>
    cases others with
    | nil => exact ⟨rfl, h⟩
    | cons other others =>
      rw [List.flatMap_nil, List.nil_append, List.flatMap_cons, List.append_assoc] at h
      exact absurd ⟨other, _, hothers other List.mem_cons_self, h⟩ hrest
  | cons parcel parcels ih =>
    cases others with
    | nil =>
      rw [List.flatMap_nil, List.nil_append, List.flatMap_cons, List.append_assoc] at h
      exact absurd ⟨parcel, _, hparcels parcel List.mem_cons_self, h.symm⟩ hrest'
    | cons other others =>
      simp only [List.flatMap_cons, List.append_assoc] at h
      obtain ⟨rfl, hmore⟩ := (hparcels parcel List.mem_cons_self).append_inj
        (hothers other List.mem_cons_self) h
      obtain ⟨rfl, hends⟩ := ih (fun parcel hparcel => hparcels parcel (List.mem_cons_of_mem _ hparcel))
        (fun other hother => hothers other (List.mem_cons_of_mem _ hother)) hmore
      exact ⟨rfl, hends⟩

theorem isCleanClose_refusal (protocol : Protocol) (bytes : Bytes) :
    (protocol.refusal bytes).isCleanClose = true ↔ bytes = [] := by
  unfold refusal
  split <;> rename_i hlong
  · cases bytes <;> simp [DecodeFailure.isCleanClose]
  · have hne : bytes ≠ [] := by
      rintro rfl
      exact hlong (Nat.zero_lt_succ 27)
    cases Header.accept protocol bytes <;> simp [DecodeFailure.isCleanClose, hne]

theorem refusal_eq_fault_iff (protocol : Protocol) (bytes : Bytes) (fault : Fault) :
    protocol.refusal bytes = .fault fault ↔
      ∃ header, Header.ofBytes bytes = .ok header ∧ header.check protocol = .error fault := by
  unfold refusal
  split <;> rename_i hlong
  · simp only [reduceCtorEq, false_iff]
    rintro ⟨header, hread, -⟩
    exact absurd (Header.size_le_of_ofBytes hread) (Nat.not_le.2 hlong)
  · obtain ⟨header, hread⟩ := Header.ofBytes_of_le (Nat.not_lt.1 hlong)
    cases hcheck : header.check protocol <;> simp [Header.accept, hread, hcheck]

theorem refusal_cases (protocol : Protocol) (bytes : Bytes) :
    (∃ fault, protocol.refusal bytes = .fault fault) ∨
      ∃ stage received expected, protocol.refusal bytes = .closed stage received expected := by
  unfold refusal
  split
  · exact .inr ⟨_, _, _, rfl⟩
  · split
    · exact .inl ⟨_, rfl⟩
    · exact .inr ⟨_, _, _, rfl⟩

end Protocol

namespace Decoder

variable {σ : Type} [Source σ] {bytes : Bytes}

/-- A decoder that does not search takes the parcel in front, and if none stands there it reports why
not. -/
theorem next_of_close (decoder : Decoder σ) (hrecovery : decoder.recovery = .disabled)
    (h : Stops decoder.source bytes .close) :
    (∃ (parcel : Parcel) (rest : Bytes) (left : σ), parcel.Regular decoder.protocol ∧
      bytes = parcel.bytes ++ rest ∧ Stops left rest .close ∧
      decoder.next = (.ok parcel.frame, { decoder with source := left })) ∨
    ¬decoder.protocol.Opens bytes ∧ decoder.next.1 = .error (decoder.protocol.refusal bytes) := by
  by_cases hshort : bytes.length < Header.size
  · refine .inr ⟨Protocol.not_opens_of_short hshort, ?_⟩
    rw [next_of_short h hshort, Protocol.refusal, if_pos hshort]
    rfl
  · cases haccept : Header.accept decoder.protocol bytes with
    | error fault =>
      refine .inr ⟨Protocol.not_opens_of_fault haccept, ?_⟩
      rw [next_of_fault hrecovery h (Nat.not_lt.1 hshort) haccept, Protocol.refusal, if_neg hshort,
        haccept]
    | ok header =>
      by_cases hcut : (bytes.drop Header.size).length < header.payloadSize.toNat
      · refine .inr ⟨Protocol.not_opens_of_cut haccept hcut, ?_⟩
        rw [next_of_cut h haccept hcut, Protocol.refusal, if_neg hshort, haccept]
        rfl
      · rw [List.length_drop] at hcut
        obtain ⟨hparcel, hbytes⟩ := Parcel.exists_of_accept haccept (by omega)
        rw [hbytes] at h
        obtain ⟨left, hleft, hnext⟩ := next_of_parcel hparcel h
        exact .inl ⟨_, _, left, hparcel, hbytes, hleft, hnext⟩

/-- The bytes that calls have taken are the parcels of the frames that they gave back. -/
theorem parcels_of_ok (records : List Frame) (decoder : Decoder σ)
    (hrecovery : decoder.recovery = .disabled) (h : Stops decoder.source bytes .close)
    (hok : (decoder.nextMany records.length).1 = records.map .ok) :
    ∃ (parcels : List Parcel) (rest : Bytes),
      (∀ parcel ∈ parcels, parcel.Regular decoder.protocol) ∧
      parcels.map Parcel.frame = records ∧ bytes = parcels.flatMap Parcel.bytes ++ rest ∧
      Stops (decoder.nextMany records.length).2.source rest .close := by
  induction records generalizing decoder bytes with
  | nil => exact ⟨[], bytes, List.forall_mem_nil _, rfl, rfl, h⟩
  | cons record records ih =>
    rw [List.length_cons, nextMany] at hok ⊢
    obtain ⟨hfirst, hothers⟩ := List.cons.inj hok
    rcases next_of_close decoder hrecovery h with
      ⟨parcel, rest, left, hparcel, rfl, hleft, hnext⟩ | ⟨-, hnext⟩
    · rw [hnext] at hfirst hothers ⊢
      obtain ⟨parcels, last, hregular, rfl, rfl, hlast⟩ :=
        ih { decoder with source := left } hrecovery hleft hothers
      refine ⟨parcel :: parcels, last, List.forall_mem_cons.2 ⟨hparcel, hregular⟩, ?_, ?_, hlast⟩
      · rw [List.map_cons, Except.ok.inj hfirst]
      · rw [List.flatMap_cons, List.append_assoc]
    · rw [hnext] at hfirst
      cases hfirst

/-- Calls give back the frames of all parcels up to the first place where no parcel stands, and then
report why not. -/
theorem exists_parcels (decoder : Decoder σ) (hrecovery : decoder.recovery = .disabled)
    (h : Stops decoder.source bytes .close) :
    ∃ (parcels : List Parcel) (rest : Bytes),
      (∀ parcel ∈ parcels, parcel.Regular decoder.protocol) ∧
      bytes = parcels.flatMap Parcel.bytes ++ rest ∧ ¬decoder.protocol.Opens rest ∧
      (decoder.nextMany (parcels.length + 1)).1 =
        (parcels.map Parcel.frame).map .ok ++ [.error (decoder.protocol.refusal rest)] := by
  -- every parcel takes a header's bytes at least
  induction hlength : bytes.length using Nat.strongRecOn generalizing decoder bytes with
  | ind length ih =>
    rcases next_of_close decoder hrecovery h with
      ⟨parcel, rest, left, hparcel, rfl, hleft, hnext⟩ | ⟨hrest, hnext⟩
    · have hless : rest.length < length := by
        rw [← hlength, List.length_append, Parcel.length_bytes, Header.size]
        omega
      obtain ⟨parcels, last, hregular, rfl, hlast, hanswers⟩ :=
        ih rest.length hless { decoder with source := left } hrecovery hleft rfl
      refine ⟨parcel :: parcels, last, List.forall_mem_cons.2 ⟨hparcel, hregular⟩, ?_, hlast, ?_⟩
      · rw [List.flatMap_cons, List.append_assoc]
      · rw [List.length_cons, nextMany, hnext]
        exact congrArg (_ :: ·) hanswers
    · refine ⟨[], bytes, List.forall_mem_nil _, rfl, hrest, ?_⟩
      show [decoder.next.1] = _
      rw [hnext]
      rfl

end Decoder

namespace Frames

variable {σ : Type} [Source σ]

theorem nextMany_done (frames : Frames σ) (count : Nat) (hdone : frames.done = true) :
    (frames.nextMany count).1 = List.replicate count none := by
  induction count with
  | zero => rfl
  | succ count ih =>
    have hnext : frames.next? = (none, frames) := if_pos hdone
    rw [nextMany, hnext]
    exact congrArg (none :: ·) ih

theorem next?_of_ok (decoder : Decoder σ) {frame : Frame} (h : decoder.next.1 = .ok frame) :
    next? { decoder := decoder } = (some (.ok frame), { decoder := decoder.next.2 }) := by
  unfold next?
  cases hnext : decoder.next
  rw [hnext] at h
  cases h
  rfl

theorem next?_of_error (decoder : Decoder σ) {failure : DecodeFailure}
    (h : decoder.next.1 = .error failure) :
    next? { decoder := decoder } =
      (if failure.isCleanClose then none else some (.error failure),
        { decoder := decoder.next.2, done := true }) := by
  unfold next?
  cases hnext : decoder.next
  rw [hnext] at h
  cases h
  rfl

/-- The frames up to the first failure are handed out, then the failure unless it is a clean close, and
nothing after it. -/
theorem nextMany_of_answers (records : List Frame) (failure : DecodeFailure) (more : Nat)
    (decoder : Decoder σ)
    (h : (decoder.nextMany (records.length + 1)).1 = records.map .ok ++ [.error failure]) :
    (nextMany { decoder := decoder } (records.length + 1 + more)).1 =
      records.map (some <| .ok ·) ++
        (if failure.isCleanClose then none else some (.error failure)) ::
          List.replicate more none := by
  induction records generalizing decoder with
  | nil =>
    rw [List.length_nil, Nat.zero_add, Nat.add_comm, nextMany,
      next?_of_error decoder (List.head_eq_of_cons_eq h)]
    exact congrArg (_ :: ·) (nextMany_done _ more rfl)
  | cons record records ih =>
    rw [List.length_cons, Nat.add_right_comm, nextMany, next?_of_ok decoder (List.head_eq_of_cons_eq h)]
    exact congrArg (_ :: ·) (ih decoder.next.2 (List.tail_eq_of_cons_eq h))

end Frames

namespace Decoder

theorem writtenAs_of_regular {protocol : Protocol} {parcels : List Parcel}
    (hparcels : ∀ parcel ∈ parcels, parcel.Regular protocol) :
    List.Forall₂ (Frame.WrittenAs · protocol ·) (parcels.map Parcel.frame)
      (parcels.map Parcel.bytes) := by
  rw [List.forall₂_map_left_iff, List.forall₂_map_right_iff, List.forall₂_same]
  intro parcel hparcel
  exact Frame.writtenAs_iff.2 ⟨parcel, hparcels parcel hparcel, rfl, rfl⟩

/-- A decoder that does not search accepts the format and nothing else. What calls have taken are the
wire forms of the frames that they gave back, up to the reserved bytes. The frames of the bytes end
without a failure just when the bytes are parcels and nothing else; in all other cases they end with
one failure, which is a fault just when enough bytes for a header are left and this header is faulty,
and a close otherwise. -/
theorem accepts_exactly {σ : Type} [Source σ] (protocol : Protocol) (bytes : Bytes) (source : σ)
    (hsource : Stops source bytes .close) :
    let decoder : Decoder σ := { source := source, protocol := protocol, recovery := .disabled }
    (∀ records : List Frame, (decoder.nextMany records.length).1 = records.map .ok →
      ∃ (pieces : List Bytes) (rest : Bytes), bytes = pieces.flatten ++ rest ∧
        List.Forall₂ (Frame.WrittenAs · protocol ·) records pieces ∧
        Stops (decoder.nextMany records.length).2.source rest .close) ∧
    ∃ (records : List Frame) (pieces : List Bytes) (rest : Bytes) (failure : DecodeFailure),
      bytes = pieces.flatten ++ rest ∧
      List.Forall₂ (Frame.WrittenAs · protocol ·) records pieces ∧
      (decoder.nextMany (records.length + 1)).1 = records.map .ok ++ [.error failure] ∧
      (∀ more, (Frames.nextMany { decoder := decoder } (records.length + 1 + more)).1 =
        records.map (some <| .ok ·) ++
          (if failure.isCleanClose then none else some (.error failure)) ::
            List.replicate more none) ∧
      (failure.isCleanClose = true ↔
        ∃ parcels : List Parcel, (∀ parcel ∈ parcels, parcel.Regular protocol) ∧
          bytes = parcels.flatMap Parcel.bytes) ∧
      ((∃ fault, failure = .fault fault) ↔
        Header.size ≤ rest.length ∧
          ∃ header fault, Header.ofBytes rest = .ok header ∧ header.check protocol = .error fault) ∧
      ((∃ fault, failure = .fault fault) ∨
        ∃ stage received expected, failure = .closed stage received expected) := by
  intro decoder
  constructor
  · intro records hok
    obtain ⟨parcels, rest, hregular, rfl, hbytes, hleft⟩ := parcels_of_ok records decoder rfl hsource hok
    exact ⟨parcels.map Parcel.bytes, rest, hbytes, writtenAs_of_regular hregular, hleft⟩
  · obtain ⟨parcels, rest, hregular, hbytes, hrest, hanswers⟩ := exists_parcels decoder rfl hsource
    rw [← List.length_map Parcel.frame] at hanswers
    refine ⟨parcels.map Parcel.frame, parcels.map Parcel.bytes, rest, protocol.refusal rest, hbytes,
      writtenAs_of_regular hregular, hanswers, ?_, ?_, ?_, protocol.refusal_cases rest⟩
    · intro more
      exact Frames.nextMany_of_answers _ _ more decoder hanswers
    · rw [protocol.isCleanClose_refusal]
      constructor
      · rintro rfl
        exact ⟨parcels, hregular, hbytes.trans (List.append_nil _)⟩
      · rintro ⟨others, hothers, hsame⟩
        have hnone : ¬protocol.Opens [] := Protocol.not_opens_of_short (Nat.zero_lt_succ 27)
        have hunique := Protocol.parcels_unique hregular hothers hrest hnone
          (hbytes.symm.trans (hsame.trans (List.append_nil _).symm))
        exact hunique.2
    · simp only [protocol.refusal_eq_fault_iff]
      constructor
      · rintro ⟨fault, header, hread, hcheck⟩
        exact ⟨Header.size_le_of_ofBytes hread, header, fault, hread, hcheck⟩
      · rintro ⟨-, header, fault, hread, hcheck⟩
        exact ⟨fault, header, hread, hcheck⟩

/-- A parcel with something in the reserved bytes is accepted, and nothing is left of it. -/
theorem accepts_reserved :
    let parcel : Parcel := ⟨(Header.stamp {} 1 2 3 2).withReserved 7, [4, 5]⟩
    let source : Chunked := { rest := parcel.bytes, plan := .fixed 3 }
    let decoder : Decoder Chunked := { source := source }
    Stops source parcel.bytes .close ∧
      ∃ (records : List Frame) (failure : DecodeFailure),
        (decoder.nextMany (records.length + 1)).1 = records.map .ok ++ [.error failure] ∧
          failure.isCleanClose = true := by
  intro parcel source decoder
  have hregular : parcel.Regular {} := ⟨rfl, rfl, rfl, rfl, by decide⟩
  have hsource : Stops source parcel.bytes .close := (source.carries rfl).stops_close
  obtain ⟨-, records, -, -, failure, -, -, hanswers, -, hclean, -⟩ :=
    accepts_exactly {} parcel.bytes source hsource
  refine ⟨hsource, records, failure, hanswers, hclean.2 ⟨[parcel], ?_, ?_⟩⟩
  · exact List.forall_mem_singleton.2 hregular
  · exact (List.flatMap_singleton Parcel.bytes parcel).symm

end Decoder

end FramedVideo
