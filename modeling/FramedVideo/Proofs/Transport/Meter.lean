import FramedVideo.Transport.ExactRead
import Mathlib.Algebra.GroupWithZero.Nat

/-!
# How many bytes are to come

A source may be able to tell how many bytes it will still hand out. What exact reads get of it is then
told by these numbers alone: a read that ends well takes as many bytes as it asks for, and one that ends
early takes fewer.

## Main definitions

- `Meter` — the number of bytes that a source will still hand out
- `readEach` — exact reads, one after the other

Main statements: `Meter.readExact_ok`, `Meter.readExact_error`, `Meter.readEach_ok`.
-/

namespace FramedVideo.Transport

variable {σ : Type} [Source σ]

/-- The number of bytes that a source will still hand out. A read that asks for something gets no more
than it asks for, and what it gets is no longer to come. -/
structure Meter (bytesLeft : σ → Nat) : Prop where
  length_le : ∀ {wanted : Nat} {source left : σ} {bytes : Bytes}, wanted ≠ 0 →
    Source.read wanted source = (.ok bytes, left) → bytes.length ≤ wanted
  of_ok : ∀ {wanted : Nat} {source left : σ} {bytes : Bytes}, wanted ≠ 0 →
    Source.read wanted source = (.ok bytes, left) →
      bytes.length + bytesLeft left = bytesLeft source
  of_error : ∀ {wanted : Nat} {source left : σ} {failure : Failure}, wanted ≠ 0 →
    Source.read wanted source = (.error failure, left) → bytesLeft left = bytesLeft source

/-- Exact reads of the given lengths, one after the other. The first that ends early is the last. -/
def readEach : List Nat → σ → Except ReadFailure Unit × σ
  | [], source => (.ok (), source)
  | length :: lengths, source =>
    match readExact length source with
    | (.error failure, left) => (.error failure, left)
    | (.ok _, left) => readEach lengths left

theorem readEach_concat {lengths : List Nat} {source left : σ}
    (hfront : readEach lengths source = (.ok (), left)) (length : Nat) :
    readEach (lengths ++ [length]) source =
      ((readExact length left).1.map fun _ => (), (readExact length left).2) := by
  induction lengths generalizing source with
  | nil =>
    cases hfront
    rw [List.nil_append, readEach]
    cases readExact length left with
    | mk answer last => cases answer <;> rfl
  | cons first lengths ih =>
    rw [readEach] at hfront
    rw [List.cons_append, readEach]
    cases hread : readExact first source with
    | mk answer next =>
      rw [hread] at hfront
      cases answer with
      | error failure => cases hfront
      | ok bytes => exact ih hfront

namespace Meter

variable {bytesLeft : σ → Nat}

/-- A loop over reads loses no bytes, and it ends well only with all the bytes that were wanted. -/
theorem gather (h : Meter bytesLeft) (wanted : Nat) (behind : Bytes) (source : σ) :
    let gathered := Transport.gather wanted behind source
    gathered.behind.length + bytesLeft gathered.source = behind.length + bytesLeft source ∧
      match gathered.ended with
      | .ok () => gathered.behind.length = behind.length + wanted
      | .error _ => gathered.behind.length < behind.length + wanted := by
  fun_induction Transport.gather wanted behind source with
  | case1 behind source => exact ⟨rfl, rfl⟩
  | case2 wanted behind source hne left hread =>
    have hnone := h.of_ok hne hread
    rw [List.length_nil] at hnone
    exact ⟨by dsimp only; omega, by dsimp only; omega⟩
  | case3 wanted behind source hne byte bytes left hread ih =>
    have hle := h.length_le hne hread
    have hleft := h.of_ok hne hread
    have hbehind : (bytes.reverseAux (byte :: behind)).length = behind.length + (bytes.length + 1) := by
      rw [List.reverseAux_eq, List.length_append, List.length_reverse, List.length_cons]
      omega
    obtain ⟨hkept, hended⟩ := ih
    rw [List.length_cons] at hle hleft
    refine ⟨by omega, ?_⟩
    have hwanted : behind.length + (bytes.length + 1) + (wanted - (bytes.length + 1)) =
        behind.length + wanted := by omega
    rwa [hbehind, hwanted] at hended
  | case4 wanted behind source hne failure left hread hmoved ih =>
    rw [← h.of_error hne hread]
    exact ih
  | case5 wanted behind source hne failure left hread hstuck =>
    have hleft := h.of_error hne hread
    exact ⟨by dsimp only; omega, by dsimp only; omega⟩

theorem readExact_ok (h : Meter bytesLeft) {length : Nat} {source left : σ} {bytes : Bytes}
    (hread : readExact length source = (.ok bytes, left)) :
    bytes.length = length ∧ length + bytesLeft left = bytesLeft source := by
  obtain ⟨hkept, hended⟩ := h.gather length [] source
  unfold readExact at hread
  dsimp only at hread
  split at hread <;> rename_i heq <;> cases hread
  rw [heq] at hended
  have hlength : (Transport.gather length [] source).behind.length = length :=
    hended.trans (Nat.zero_add _)
  rw [hlength] at hkept
  exact ⟨List.length_reverse.trans hlength, hkept.trans (Nat.zero_add _)⟩

theorem readExact_error (h : Meter bytesLeft) {length : Nat} {source left : σ} {failure : ReadFailure}
    (hread : readExact length source = (.error failure, left)) :
    bytesLeft left ≤ bytesLeft source ∧ bytesLeft source < length + bytesLeft left := by
  obtain ⟨hkept, hended⟩ := h.gather length [] source
  unfold readExact at hread
  dsimp only at hread
  split at hread <;> rename_i heq <;> cases hread
  simp only [heq, List.length_nil] at hkept hended
  omega

theorem readExact_le (h : Meter bytesLeft) (length : Nat) (source : σ) :
    bytesLeft (readExact length source).2 ≤ bytesLeft source := by
  cases hread : readExact length source with
  | mk answer left =>
    cases answer with
    | error failure => exact (h.readExact_error hread).1
    | ok bytes => exact (h.readExact_ok hread).2 ▸ Nat.le_add_left _ _

theorem readEach_ok (h : Meter bytesLeft) {lengths : List Nat} {source left : σ}
    (hread : readEach lengths source = (.ok (), left)) :
    lengths.sum + bytesLeft left = bytesLeft source := by
  induction lengths generalizing source with
  | nil =>
    cases hread
    exact Nat.zero_add _
  | cons length lengths ih =>
    rw [readEach] at hread
    cases hfirst : readExact length source with
    | mk answer next =>
      rw [hfirst] at hread
      cases answer with
      | error failure => cases hread
      | ok bytes =>
        have hrest := ih hread
        have hlength := (h.readExact_ok hfirst).2
        rw [List.sum_cons]
        omega

end Meter

end FramedVideo.Transport
