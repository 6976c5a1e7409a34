import FramedVideo.Proofs.Frame.Parcel
import Mathlib.Algebra.GroupWithZero.Nat
import Mathlib.Data.List.Induction

/-!
# Streams of frames

The wire forms of several frames stand one after the other, and nothing stands between them. No wire
form is the beginning of another one, so a stream can be taken apart in one way only.

Main statements: `Frame.encodeAll_eq_ok_iff`, `Frame.onWire_append_inj`, `Frame.stream_inj`.
-/

namespace FramedVideo.Frame

variable {protocol : Protocol}

theorem length_onWire {frame : Frame} (hfits : frame.Fits protocol) :
    (frame.onWire protocol).length = frame.encodedSize := by
  obtain ⟨header, -, honWire, -⟩ := onWire_of_fits hfits
  rw [honWire, List.length_append, Header.length_toBytes, encodedSize]

theorem onWire_ne_nil {frame : Frame} (hfits : frame.Fits protocol) : frame.onWire protocol ≠ [] := by
  have hpos : 0 < frame.encodedSize :=
    Nat.lt_of_lt_of_le (by decide : 0 < Header.size) (Nat.le_add_right _ _)
  exact List.ne_nil_of_length_pos (length_onWire hfits ▸ hpos)

theorem length_stream {frames : List Frame} (hfits : ∀ frame ∈ frames, frame.Fits protocol) :
    (frames.flatMap (·.onWire protocol)).length = (frames.map encodedSize).sum := by
  rw [List.length_flatMap]
  exact congrArg List.sum (List.map_congr_left fun frame hframe => length_onWire (hfits frame hframe))

theorem encodeAll_concat (frames : List Frame) (last : Frame) (protocol : Protocol) :
    encodeAll (frames ++ [last]) protocol =
      match encodeAll frames protocol with
      | .error fault => .error fault
      | .ok bytes =>
        match last.encodeInto protocol bytes with
        | (.ok (), longer) => .ok longer
        | (.error fault, _) => .error fault := by
  rw [encodeAll, encodeAll, List.foldl_append]
  rfl

theorem encodeInto_of_fits {frame : Frame} (hfits : frame.Fits protocol) (bytes : Bytes) :
    frame.encodeInto protocol bytes = (.ok (), bytes ++ frame.onWire protocol) := by
  obtain ⟨header, hheader, honWire, -⟩ := onWire_of_fits hfits
  rw [encodeInto, hheader, honWire]

theorem encodeInto_of_not_fits {frame : Frame} (hfits : ¬frame.Fits protocol) (bytes : Bytes) :
    frame.encodeInto protocol bytes =
      (.error (.payloadTooLarge frame.payload.length protocol.maxPayload), bytes) := by
  rw [encodeInto, header_of_not_fits hfits]

/-- Several frames have a wire form just when each of them fits: their wire forms, one after the
other. -/
theorem encodeAll_eq_ok_iff (frames : List Frame) (protocol : Protocol) (bytes : Bytes) :
    encodeAll frames protocol = .ok bytes ↔
      (∀ frame ∈ frames, frame.Fits protocol) ∧ bytes = frames.flatMap (·.onWire protocol) := by
  induction frames using List.reverseRecOn generalizing bytes with
  | nil => simp [encodeAll, eq_comm]
  | append_singleton frames last ih =>
    rw [encodeAll_concat]
    cases hfront : encodeAll frames protocol with
    | error fault =>
      have hnone : ¬∀ frame ∈ frames, frame.Fits protocol := by
        intro hfits
        have hok := (ih _).2 ⟨hfits, rfl⟩
        rw [hfront] at hok
        cases hok
      simp only [reduceCtorEq, false_iff]
      rintro ⟨hfits, -⟩
      exact hnone fun frame hframe => hfits frame (List.mem_append_left _ hframe)
    | ok front =>
      obtain ⟨hfits, rfl⟩ := (ih front).1 hfront
      by_cases hlast : last.Fits protocol
      · simp only [encodeInto_of_fits hlast, Except.ok.injEq, List.flatMap_append,
          List.flatMap_singleton, List.mem_append, List.mem_singleton]
        constructor
        · rintro rfl
          refine ⟨?_, rfl⟩
          rintro frame (hframe | rfl)
          · exact hfits frame hframe
          · exact hlast
        · rintro ⟨-, rfl⟩
          rfl
      · simp only [encodeInto_of_not_fits hlast, reduceCtorEq, false_iff]
        rintro ⟨hall, -⟩
        exact hlast (hall last (List.mem_append_right _ List.mem_cons_self))

/-- What starts with the wire form of a frame does so with no other, and goes on in one way. -/
theorem onWire_append_inj {first second : Frame} {rest rest' : Bytes}
    (hfirst : first.Fits protocol) (hsecond : second.Fits protocol)
    (h : first.onWire protocol ++ rest = second.onWire protocol ++ rest') :
    first = second ∧ rest = rest' := by
  obtain ⟨parcel, hparcel, hbytes, rfl⟩ := exists_parcel hfirst
  obtain ⟨parcel', hparcel', hbytes', rfl⟩ := exists_parcel hsecond
  rw [← hbytes, ← hbytes'] at h
  obtain ⟨rfl, hrest⟩ := hparcel.append_inj hparcel' h
  exact ⟨rfl, hrest⟩

theorem stream_inj {frames others : List Frame} (hframes : ∀ frame ∈ frames, frame.Fits protocol)
    (hothers : ∀ frame ∈ others, frame.Fits protocol)
    (h : frames.flatMap (·.onWire protocol) = others.flatMap (·.onWire protocol)) :
    frames = others := by
  induction frames generalizing others with
  | nil =>
    cases others with
    | nil => rfl
    | cons other others =>
      rw [List.flatMap_nil, List.flatMap_cons] at h
      exact absurd (List.append_eq_nil_iff.1 h.symm).1 (onWire_ne_nil (hothers other List.mem_cons_self))
  | cons frame frames ih =>
    cases others with
    | nil =>
      rw [List.flatMap_nil, List.flatMap_cons] at h
      exact absurd (List.append_eq_nil_iff.1 h).1 (onWire_ne_nil (hframes frame List.mem_cons_self))
    | cons other others =>
      rw [List.flatMap_cons, List.flatMap_cons] at h
      obtain ⟨rfl, hrest⟩ := onWire_append_inj (hframes frame List.mem_cons_self)
        (hothers other List.mem_cons_self) h
      rw [ih (fun frame hframe => hframes frame (List.mem_cons_of_mem _ hframe))
        (fun frame hframe => hothers frame (List.mem_cons_of_mem _ hframe)) hrest]

end FramedVideo.Frame
