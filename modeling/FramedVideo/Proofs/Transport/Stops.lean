import FramedVideo.Proofs.Transport.Alike

/-!
# Sources that stop

A source hands out some bytes, in whatever pieces and with whatever interruptions, and then it stops:
the peer closes, or the transport fails. One who reads exactly gets the bytes as long as there are
enough of them, and after that the reason for the stop. What the source would do later is left open, so
a source that fails once and one that fails for ever stop alike.

## Main definitions

- `Stop` — the reason for which a source stops
- `Stop.failure` — what a read that meets it reports
- `Stops` — the source hands out some bytes and then stops

Main statements: `Stops.readExact_of_le`, `Stops.readExact_of_lt`, `Wire.stops`, `Carries.stops`.
-/

namespace FramedVideo.Transport

/-- The reason for which a source stops. -/
inductive Stop where
  /-- The peer has closed. -/
  | close
  /-- The transport failed, and was not just interrupted. -/
  | fail (failure : Failure) (hkind : failure.kind ≠ .interrupted)

namespace Stop

/-- The signal that stops a source. -/
def signal : Stop → Signal
  | close => .close
  | fail failure _ => .fail failure

/-- What an exact read reports that the stop cuts short. -/
def failure (received expected : Nat) : Stop → ReadFailure
  | close => .closed received expected
  | fail failure _ => .transport failure

end Stop

variable {σ : Type} [Source σ]

/-- Every read from a source gets the front of the related wire, as long as anything of it is left. -/
def KeptToTheEnd (R : σ → Wire → Prop) : Prop :=
  ∀ source wire wanted, R source wire → wire ≠ [] → wanted ≠ 0 →
    Served R wanted source ((Source.read wanted source).map some id) wire

/-- Reads from the source bring the bytes, in whatever pieces, and then the reason for the stop. What
they bring after it is left open. -/
def Stops (source : σ) (bytes : Bytes) (stop : Stop) : Prop :=
  ∃ R : σ → Wire → Prop, KeptToTheEnd R ∧ R source (Wire.ofBytes bytes ++ [stop.signal])

theorem Stop.eq_append_of_piece (stop : Stop) {tail : Wire} (htail : tail.headD .close = stop.signal)
    {bytes piece : Bytes} {rest : Wire}
    (h : Wire.ofBytes bytes ++ tail = Wire.ofBytes piece ++ rest) :
    ∃ later, bytes = piece ++ later ∧ rest = Wire.ofBytes later ++ tail := by
  induction piece generalizing bytes with
  | nil => exact ⟨bytes, rfl, h.symm⟩
  | cons byte piece ih =>
    cases bytes with
    | nil =>
      have hbyte : tail = .byte byte :: (Wire.ofBytes piece ++ rest) := h
      rw [hbyte] at htail
      cases stop <;> cases htail
    | cons byte' bytes =>
      simp only [Wire.ofBytes_cons, List.cons_append, List.cons.injEq, Signal.byte.injEq] at h
      obtain ⟨rfl, hrest⟩ := h
      obtain ⟨later, rfl, hlater⟩ := ih hrest
      exact ⟨later, rfl, hlater⟩

/-- A loop over reads does not notice the difference to the wire, and while it ends well the difference
stays. -/
theorem KeptToTheEnd.gather {R : σ → Wire → Prop} (hR : KeptToTheEnd R) (stop : Stop) (wanted : Nat)
    (behind : Bytes) (source : σ) (bytes : Bytes)
    (h : R source (Wire.ofBytes bytes ++ [stop.signal])) :
    let gathered := Transport.gather wanted behind source
    ∃ left, Transport.gather wanted behind (Wire.ofBytes bytes ++ [stop.signal]) =
        ⟨gathered.ended, gathered.behind, left⟩ ∧
      (gathered.ended = .ok () → R gathered.source left) := by
  fun_induction Transport.gather wanted behind source generalizing bytes with
  | case1 behind source => exact ⟨_, gather_zero behind _, fun _ => h⟩
  | case2 wanted behind source hne left hread =>
    have hserved := hR source _ wanted h (by simp) hne
    rw [hread] at hserved
    generalize Wire.ofBytes bytes ++ [stop.signal] = wire at hserved ⊢
    obtain ⟨fewer, rfl⟩ := Nat.exists_eq_succ_of_ne_zero hne
    cases hserved with
    | piece hbytes => contradiction
    | @closed rest _ hleft => exact ⟨rest, Wire.gather_close fewer behind rest, by simp⟩
    | ended hleft => exact ⟨[], Wire.gather_nil fewer behind, by simp⟩
  | case3 wanted behind source hne byte piece left hread ih =>
    have hserved := hR source _ wanted h (by simp) hne
    rw [hread] at hserved
    generalize hwire : Wire.ofBytes bytes ++ [stop.signal] = wire at hserved ⊢
    cases hserved with
    | @piece _ rest _ _ hle hleft =>
      obtain ⟨later, -, rfl⟩ := stop.eq_append_of_piece rfl hwire
      rw [Wire.gather_ofBytes wanted behind (byte :: piece) _ hle]
      exact ih later hleft
  | case4 wanted behind source hne failure left hread hmoved ih =>
    have hserved := hR source _ wanted h (by simp) hne
    rw [hread] at hserved
    generalize hwire : Wire.ofBytes bytes ++ [stop.signal] = wire at hserved ⊢
    cases hserved with
    | failed hkind hleft => exact absurd hmoved.1 hkind
    | interrupted hkind hlt hleft => exact hwire ▸ ih bytes (hwire ▸ hleft)
  | case5 wanted behind source hne failure left hread hstuck =>
    have hserved := hR source _ wanted h (by simp) hne
    rw [hread] at hserved
    generalize Wire.ofBytes bytes ++ [stop.signal] = wire at hserved ⊢
    obtain ⟨fewer, rfl⟩ := Nat.exists_eq_succ_of_ne_zero hne
    cases hserved with
    | @failed _ rest _ hkind hleft =>
      exact ⟨rest, Wire.gather_fail fewer behind failure rest hkind, by simp⟩
    | interrupted hkind hlt hleft => exact absurd ⟨hkind, hlt⟩ hstuck

namespace Wire

theorem gather_stop (missing : Nat) (behind : Bytes) (stop : Stop) :
    gather (missing + 1) behind ([stop.signal] : Wire) =
      ⟨.error (stop.failure behind.length (behind.length + (missing + 1))), behind, []⟩ := by
  cases stop with
  | close => exact gather_close missing behind []
  | fail failure hkind => exact gather_fail missing behind failure [] hkind

theorem readExact_stop (length : Nat) (bytes : Bytes) (stop : Stop) (hlt : bytes.length < length) :
    readExact length (ofBytes bytes ++ [stop.signal]) =
      (.error (stop.failure bytes.length length), []) := by
  obtain ⟨missing, rfl⟩ : ∃ missing, length = bytes.length + (missing + 1) :=
    ⟨length - bytes.length - 1, by omega⟩
  have hgather := gather_ofBytes (bytes.length + (missing + 1)) [] bytes [stop.signal] (by omega)
  rw [Nat.add_sub_cancel_left, List.reverseAux_eq, List.append_nil, gather_stop,
    List.length_reverse] at hgather
  rw [readExact, hgather]

/-- A read of a byte that is not there gets the reason for the stop. -/
theorem readExact_of_stop {after : Wire} {stop : Stop}
    (hstop : after.headD .close = stop.signal) :
    readExact 1 after = (.error (stop.failure 0 1), after.tail) := by
  cases after with
  | nil =>
    cases stop with
    | close => simp [readExact, gather_nil, Stop.failure]
    | fail failure hkind => cases hstop
  | cons signal after =>
    have hsignal : signal = stop.signal := hstop
    subst hsignal
    cases stop with
    | close => simp [readExact, Stop.signal, gather_close, Stop.failure]
    | fail failure hkind =>
      simp [readExact, Stop.signal, gather_fail 0 [] failure after hkind, Stop.failure]

end Wire

namespace Stops

variable {source : σ} {bytes : Bytes} {stop : Stop}

theorem readExact_alike (h : Stops source bytes stop) (length : Nat) :
    ∃ R : σ → Wire → Prop, ∃ left, KeptToTheEnd R ∧
      Transport.readExact length (Wire.ofBytes bytes ++ [stop.signal]) =
        ((Transport.readExact length source).1, left) ∧
      ∀ piece, (Transport.readExact length source).1 = .ok piece →
        R (Transport.readExact length source).2 left := by
  obtain ⟨R, hR, hsource⟩ := h
  obtain ⟨left, hgather, hleft⟩ := hR.gather stop length [] source bytes hsource
  refine ⟨R, left, hR, ?_⟩
  simp only [Transport.readExact, hgather, Gathered.bytes]
  cases hended : (Transport.gather length [] source).ended with
  | error failure => exact ⟨rfl, by simp⟩
  | ok done => exact ⟨rfl, fun _ _ => hleft hended⟩

/-- An exact read of no more bytes than there are gets them, and the source stops as it would have. -/
theorem readExact_of_le (h : Stops source bytes stop) {length : Nat} (hle : length ≤ bytes.length) :
    ∃ left, Transport.readExact length source = (.ok (bytes.take length), left) ∧
      Stops left (bytes.drop length) stop := by
  obtain ⟨R, wire, hR, hread, hleft⟩ := h.readExact_alike length
  have hcut := Wire.readExact_of_le hle [stop.signal]
  rw [hread] at hcut
  obtain ⟨hanswer, rfl⟩ := Prod.mk.inj hcut
  exact ⟨_, Prod.ext hanswer rfl, R, hR, hleft _ hanswer⟩

/-- An exact read of more bytes than there are gets the reason for the stop. -/
theorem readExact_of_lt (h : Stops source bytes stop) {length : Nat} (hlt : bytes.length < length) :
    ∃ left, Transport.readExact length source =
      (.error (stop.failure bytes.length length), left) := by
  obtain ⟨R, wire, -, hread, -⟩ := h.readExact_alike length
  rw [Wire.readExact_stop length bytes stop hlt] at hread
  exact ⟨_, Prod.ext (Prod.mk.inj hread).1.symm rfl⟩

end Stops

/-- A wire stops where it has no more bytes for now. -/
theorem Wire.stops (bytes : Bytes) {tail : Wire} {stop : Stop}
    (htail : tail.headD .close = stop.signal) : Stops (ofBytes bytes ++ tail) bytes stop := by
  let Before (source wire : Wire) : Prop :=
    (∃ later, source = ofBytes later ++ tail ∧ wire = ofBytes later ++ [stop.signal]) ∨ wire = []
  refine ⟨Before, ?_, .inl ⟨bytes, rfl, rfl⟩⟩
  rintro source wire wanted (⟨later, rfl, rfl⟩ | rfl) hmore hne
  · cases later with
    | cons byte later =>
      exact .piece (List.cons_ne_nil byte []) (Nat.pos_of_ne_zero hne) (.inl ⟨later, rfl, rfl⟩)
    | nil =>
      rw [ofBytes_nil, List.nil_append, List.nil_append, ← htail]
      cases tail with
      | nil => exact .closed (.inr rfl)
      | cons signal tail =>
        cases signal with
        | byte value => cases stop <;> cases htail
        | close => exact .closed (.inr rfl)
        | fail failure =>
          cases stop with
          | close => cases htail
          | fail failure' hkind =>
            cases htail
            exact .failed hkind (.inr rfl)
  · contradiction

theorem Wire.eq_nil_of_head {later : Bytes} {tail wire : Wire} (h : ofBytes later ++ tail = wire)
    (hhead : ∀ byte, wire.head? ≠ some (.byte byte)) : later = [] ∧ tail = wire := by
  cases later with
  | nil => exact ⟨rfl, h⟩
  | cons byte later => exact absurd (h ▸ rfl) (hhead byte)

/-- A source that brings a wire stops where the wire has no more bytes for now. -/
theorem Carries.stops {source : σ} {bytes : Bytes} {tail : Wire} {stop : Stop}
    (h : Carries source (Wire.ofBytes bytes ++ tail)) (htail : tail.headD .close = stop.signal) :
    Stops source bytes stop := by
  obtain ⟨R, hR, hsource⟩ := h
  let Before (source : σ) (wire : Wire) : Prop :=
    (∃ later, wire = Wire.ofBytes later ++ [stop.signal] ∧ R source (Wire.ofBytes later ++ tail)) ∨
      wire = []
  refine ⟨Before, ?_, .inl ⟨bytes, rfl, hsource⟩⟩
  rintro source wire wanted (⟨later, rfl, hcarried⟩ | rfl) hmore hne
  · have hserved := hR source _ wanted hcarried hne
    cases hread : Source.read wanted source with
    | mk answer left =>
      rw [hread] at hserved
      generalize hwire : Wire.ofBytes later ++ tail = wire at hserved
      cases hserved with
      | piece hbytes hle hleft =>
        obtain ⟨later', rfl, rfl⟩ := stop.eq_append_of_piece htail hwire
        rw [Wire.ofBytes_append, List.append_assoc]
        exact .piece hbytes hle (.inl ⟨later', rfl, hleft⟩)
      | closed hleft =>
        obtain ⟨rfl, rfl⟩ := Wire.eq_nil_of_head hwire nofun
        rw [← htail]
        exact .closed (.inr rfl)
      | ended hleft =>
        obtain ⟨rfl, rfl⟩ := Wire.eq_nil_of_head hwire nofun
        rw [← htail]
        exact .closed (.inr rfl)
      | failed hkind hleft =>
        obtain ⟨rfl, rfl⟩ := Wire.eq_nil_of_head hwire nofun
        rw [← htail]
        exact .failed hkind (.inr rfl)
      | interrupted hkind hlt hleft => exact .interrupted hkind hlt (.inl ⟨later, rfl, hwire ▸ hleft⟩)
  · contradiction

theorem Carries.stops_close {source : σ} {bytes : Bytes} (h : Carries source (Wire.ofBytes bytes)) :
    Stops source bytes .close := by
  rw [← List.append_nil (Wire.ofBytes bytes)] at h
  exact h.stops rfl

end FramedVideo.Transport
