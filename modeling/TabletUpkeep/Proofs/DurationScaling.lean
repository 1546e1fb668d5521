import Mathlib
import TabletUpkeep.Schedule.Correction

/-! Lengths in scheduler seconds, exactly. Seconds and nanoseconds are multiplied apart, with a
carry between them, and yet the product is that of the whole length, up to the greatest length. -/
namespace TabletUpkeep

namespace Word

/-- A count that is no word is beyond the greatest one. -/
theorem greatest_lt_of_ofInt? {α : Type} [Word α] {n : ℕ} (unsigned : least (α := α) ≤ 0)
    (refused : ofInt? (α := α) (n : ℤ) = none) : greatest (α := α) < n := by
  by_contra within
  have found := (ofInt?_isSome (n : ℤ)).mpr
    ⟨unsigned.trans n.cast_nonneg, not_lt.mp within⟩
  rw [refused] at found
  cases found

end Word

namespace Duration

theorem toNanos_greatest : greatest.toNanos = 18446744073709551615999999999 := by decide

theorem toNanos_saturatingMul (d : Duration) (n : UInt32) :
    (d.saturatingMul n).toNanos = min (d.toNanos * n.toNat) greatest.toNanos := by
  have whole : d.toNanos * n.toNat =
      d.secs.toNat * n.toNat * nanosPerSecond + d.nanos.toNat * n.toNat := by
    rw [toNanos]
    ring
  rw [saturatingMul, whole, toNanos_greatest]
  generalize d.secs.toNat * n.toNat = secs
  generalize d.nanos.toNat * n.toNat = fraction
  dsimp only [nanosPerSecond]
  split
  next word found =>
    have carried : (word.toNat : ℤ) = (secs + fraction / 1000000000 : ℕ) :=
      (Word.ofInt?_eq_some _ word).mp found
    have bound := word.toNat_lt
    rw [toNanos_withNanos, nanosPerSecond]
    omega
  next refused =>
    have beyond : (18446744073709551615 : ℤ) < (secs + fraction / 1000000000 : ℕ) :=
      Word.greatest_lt_of_ofInt? (α := UInt64) le_rfl refused
    rw [toNanos_greatest]
    omega

theorem toNat_clamped (secs : UInt64) :
    ((Word.ofInt? (α := UInt32) secs.toNat).getD 4294967295).toNat =
      min secs.toNat 4294967295 := by
  cases found : Word.ofInt? (α := UInt32) secs.toNat with
  | some word =>
    have same : (word.toNat : ℤ) = secs.toNat := (Word.ofInt?_eq_some _ word).mp found
    have bound := word.toNat_lt
    rw [Option.getD_some]
    omega
  | none =>
    have beyond : (4294967295 : ℤ) < secs.toNat :=
      Word.greatest_lt_of_ofInt? (α := UInt32) le_rfl found
    rw [Option.getD_none]
    change 4294967295 = min secs.toNat 4294967295
    omega

/-- The exact length of some scheduler seconds: the seconds stop at 32 bits, their product with the
unit at the greatest length. -/
theorem toNanos_ofUnits (secs : UInt64) (unit : Duration) :
    (ofUnits secs unit).toNanos =
      min (min secs.toNat 4294967295 * unit.toNanos) greatest.toNanos := by
  rw [ofUnits, toNanos_saturatingMul, toNat_clamped, mul_comm]

theorem ofUnits_pos {secs : UInt64} {unit : Duration} (counted : 0 < secs)
    (positive : 0 < unit.toNanos) : 0 < (ofUnits secs unit).toNanos := by
  have count : 0 < min secs.toNat 4294967295 := by
    have := UInt64.lt_iff_toNat_lt.mp counted
    rw [UInt64.toNat_zero] at this
    omega
  rw [toNanos_ofUnits, toNanos_greatest]
  exact lt_min (Nat.mul_pos count positive) (by norm_num)

theorem ofUnits_mono {fewer more : UInt64} (order : fewer ≤ more) (unit : Duration) :
    (ofUnits fewer unit).toNanos ≤ (ofUnits more unit).toNanos := by
  rw [toNanos_ofUnits, toNanos_ofUnits]
  have counts := UInt64.le_iff_toNat_le.mp order
  gcongr

end Duration

end TabletUpkeep
