import FramedVideo.Proofs.Transport.Meter

/-!
# What a source brings

How a source cuts its bytes into pieces, and how often it is interrupted, is of no interest to one
who reads exactly. What remains is a wire: single bytes, closes, and failures that are not
interruptions, in their order. A wire is itself a source, which hands out a byte at a time.

## Main definitions

- `Signal` — a byte, a close or a failure
- `Wire` — the signals that are to come; after them the peer has closed
- `Wire.ofBytes` — a wire that brings some bytes and nothing else
- `Wire.bytesLeft` — how many bytes are to come

Main statements: `Wire.gather_ofBytes`, `Wire.readExact_ofBytes`, `Wire.readExact_short`,
`Wire.meter`.
-/

namespace FramedVideo.Transport

/-- One thing that a source brings. -/
inductive Signal where
  | byte (value : UInt8)
  /-- The peer has closed, at least for one read. -/
  | close
  | fail (failure : Failure)
  deriving DecidableEq, Repr

/-- The signals that are to come. After them the peer has closed for ever. -/
abbrev Wire := List Signal

section Gather

variable {σ : Type} [Source σ]

theorem gather_zero (behind : Bytes) (source : σ) :
    gather 0 behind source = ⟨.ok (), behind, source⟩ := by
  rw [gather, if_pos rfl]

theorem gather_of_closed {wanted : Nat} (behind : Bytes) {source left : σ} (hne : wanted ≠ 0)
    (hread : Source.read wanted source = (.ok [], left)) :
    gather wanted behind source =
      ⟨.error (.closed behind.length (behind.length + wanted)), behind, left⟩ := by
  rw [gather, if_neg hne]
  split <;> rename_i h <;> rw [hread] at h <;> cases h
  rfl

theorem gather_of_piece {wanted : Nat} (behind : Bytes) {source left : σ} {byte : UInt8}
    {bytes : Bytes} (hne : wanted ≠ 0)
    (hread : Source.read wanted source = (.ok (byte :: bytes), left)) :
    gather wanted behind source =
      gather (wanted - (byte :: bytes).length) ((byte :: bytes).reverseAux behind) left := by
  rw [gather, if_neg hne]
  split <;> rename_i h <;> rw [hread] at h <;> cases h
  rfl

theorem gather_of_interrupted {wanted : Nat} (behind : Bytes) {source left : σ} {failure : Failure}
    (hne : wanted ≠ 0) (hread : Source.read wanted source = (.error failure, left))
    (hkind : failure.kind = .interrupted) (hlt : Source.extent left < Source.extent source) :
    gather wanted behind source = gather wanted behind left := by
  rw [gather, if_neg hne]
  split <;> rename_i h <;> rw [hread] at h <;> cases h
  exact if_pos ⟨hkind, hlt⟩

theorem gather_of_failed {wanted : Nat} (behind : Bytes) {source left : σ} {failure : Failure}
    (hne : wanted ≠ 0) (hread : Source.read wanted source = (.error failure, left))
    (hstuck : ¬(failure.kind = .interrupted ∧ Source.extent left < Source.extent source)) :
    gather wanted behind source = ⟨.error (.transport failure), behind, left⟩ := by
  rw [gather, if_neg hne]
  split <;> rename_i h <;> rw [hread] at h <;> cases h
  exact if_neg hstuck

end Gather

namespace Wire

/-- A wire that brings some bytes and nothing else. -/
def ofBytes (bytes : Bytes) : Wire := bytes.map .byte

/-- The number of bytes that are to come. -/
def bytesLeft (wire : Wire) : Nat := wire.countP fun signal => signal matches .byte _

/-- Serves a read with the first signal. -/
def read (_wanted : Nat) : Wire → Except Failure Bytes × Wire
  | [] => (.ok [], [])
  | .byte value :: rest => (.ok [value], rest)
  | .close :: rest => (.ok [], rest)
  | .fail failure :: rest => (.error failure, rest)

theorem length_read_le (wanted : Nat) (wire : Wire) :
    (read wanted wire).2.length ≤ wire.length := by
  unfold read
  split <;> simp

theorem length_read_lt (wanted : Nat) (wire : Wire) (bytes : Bytes)
    (h : (read wanted wire).1 = .ok bytes) (hne : bytes ≠ []) :
    (read wanted wire).2.length < wire.length := by
  unfold read at h ⊢
  split at h
  · simp_all
  · simp
  · simp
  · simp at h

instance : Source Wire where
  read := read
  poll wanted wire := (read wanted wire).map some id
  extent := List.length
  extent_read_le := length_read_le
  extent_read_lt := length_read_lt
  extent_poll_le := length_read_le
  extent_poll_lt wanted wire bytes h hne := length_read_lt wanted wire bytes (by simpa using h) hne
  extent_poll_none wanted wire h := by simp at h

@[simp]
theorem ofBytes_nil : ofBytes [] = [] := rfl

@[simp]
theorem ofBytes_cons (byte : UInt8) (bytes : Bytes) :
    ofBytes (byte :: bytes) = .byte byte :: ofBytes bytes := rfl

@[simp]
theorem ofBytes_append (front back : Bytes) :
    ofBytes (front ++ back) = ofBytes front ++ ofBytes back := List.map_append

@[simp]
theorem bytesLeft_close (rest : Wire) : bytesLeft (.close :: rest) = bytesLeft rest := by
  simp [bytesLeft]

@[simp]
theorem bytesLeft_fail (failure : Failure) (rest : Wire) :
    bytesLeft (.fail failure :: rest) = bytesLeft rest := by
  simp [bytesLeft]

@[simp]
theorem bytesLeft_ofBytes_append (bytes : Bytes) (rest : Wire) :
    bytesLeft (ofBytes bytes ++ rest) = bytes.length + bytesLeft rest := by
  induction bytes with
  | nil => simp
  | cons byte bytes ih =>
    simp only [bytesLeft] at ih
    simp only [bytesLeft, ofBytes_cons, List.cons_append, List.countP_cons, ih, List.length_cons]
    simp only [if_true]
    omega

theorem gather_byte (wanted : Nat) (behind : Bytes) (byte : UInt8) (rest : Wire) :
    gather (wanted + 1) behind (.byte byte :: rest : Wire) =
      gather wanted (byte :: behind) rest := by
  have hread : Source.read (wanted + 1) (.byte byte :: rest : Wire) = (.ok [byte], rest) := rfl
  rw [gather_of_piece behind (Nat.succ_ne_zero wanted) hread]
  rfl

theorem gather_nil (wanted : Nat) (behind : Bytes) :
    gather (wanted + 1) behind ([] : Wire) =
      ⟨.error (.closed behind.length (behind.length + (wanted + 1))), behind, []⟩ :=
  gather_of_closed behind (Nat.succ_ne_zero wanted) rfl

theorem gather_close (wanted : Nat) (behind : Bytes) (rest : Wire) :
    gather (wanted + 1) behind (.close :: rest : Wire) =
      ⟨.error (.closed behind.length (behind.length + (wanted + 1))), behind, rest⟩ :=
  gather_of_closed behind (Nat.succ_ne_zero wanted) rfl

theorem gather_fail (wanted : Nat) (behind : Bytes) (failure : Failure) (rest : Wire)
    (hkind : failure.kind ≠ .interrupted) :
    gather (wanted + 1) behind (.fail failure :: rest : Wire) =
      ⟨.error (.transport failure), behind, rest⟩ :=
  gather_of_failed behind (Nat.succ_ne_zero wanted) rfl fun h => hkind h.1

theorem gather_ofBytes (wanted : Nat) (behind bytes : Bytes) (rest : Wire)
    (hle : bytes.length ≤ wanted) :
    gather wanted behind (ofBytes bytes ++ rest) =
      gather (wanted - bytes.length) (bytes.reverseAux behind) rest := by
  induction bytes generalizing wanted behind with
  | nil => simp
  | cons byte bytes ih =>
    obtain ⟨fewer, rfl⟩ : ∃ fewer, wanted = fewer + 1 := ⟨wanted - 1, by
      simp only [List.length_cons] at hle
      omega⟩
    simp only [List.length_cons, Nat.add_le_add_iff_right] at hle
    rw [ofBytes_cons, List.cons_append, gather_byte, ih fewer (byte :: behind) hle,
      List.length_cons, Nat.add_sub_add_right, List.reverseAux_cons]

/-- An exact read takes the bytes that it asks for, and leaves what comes after them. -/
theorem readExact_ofBytes (bytes : Bytes) (rest : Wire) :
    readExact bytes.length (ofBytes bytes ++ rest) = (.ok bytes, rest) := by
  simp only [readExact]
  rw [gather_ofBytes _ _ _ _ (Nat.le_refl _), Nat.sub_self, gather_zero]
  simp [Gathered.bytes, List.reverseAux_eq]

/-- An exact read of no more bytes than there are takes the front of them. -/
theorem readExact_of_le {length : Nat} {bytes : Bytes} (hle : length ≤ bytes.length) (rest : Wire) :
    readExact length (ofBytes bytes ++ rest) =
      (.ok (bytes.take length), ofBytes (bytes.drop length) ++ rest) := by
  have hcut := readExact_ofBytes (bytes.take length) (ofBytes (bytes.drop length) ++ rest)
  rwa [List.length_take, Nat.min_eq_left hle, ← List.append_assoc, ← ofBytes_append,
    List.take_append_drop] at hcut

/-- An exact read that asks for more bytes than there are says how many came. -/
theorem readExact_short (length : Nat) (bytes : Bytes) (hlt : bytes.length < length) :
    readExact length (ofBytes bytes) = (.error (.closed bytes.length length), []) := by
  obtain ⟨missing, rfl⟩ : ∃ missing, length = bytes.length + (missing + 1) :=
    ⟨length - bytes.length - 1, by omega⟩
  have hgather : gather (bytes.length + (missing + 1)) [] (ofBytes bytes) =
      gather (missing + 1) bytes.reverse ([] : Wire) := by
    have h := gather_ofBytes (bytes.length + (missing + 1)) [] bytes [] (by omega)
    rwa [List.append_nil, Nat.add_sub_cancel_left, List.reverseAux_eq, List.append_nil] at h
  simp [readExact, hgather, gather_nil]

/-- A wire brings a byte at a time. -/
theorem meter : Meter bytesLeft where
  length_le := by
    rintro wanted (_ | ⟨value | - | failure, rest⟩) left bytes hne hread <;> cases hread
    · exact Nat.zero_le _
    · exact Nat.pos_of_ne_zero hne
    · exact Nat.zero_le _
  of_ok := by
    rintro wanted (_ | ⟨value | - | failure, rest⟩) left bytes hne hread <;> cases hread
    · rfl
    · exact (bytesLeft_ofBytes_append [value] _).symm
    · rw [bytesLeft_close, List.length_nil, Nat.zero_add]
  of_error := by
    rintro wanted (_ | ⟨value | - | failure, rest⟩) left failure' hne hread <;> cases hread
    exact (bytesLeft_fail _ _).symm

end Wire

end FramedVideo.Transport
