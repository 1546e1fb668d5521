import TabletUpkeep.Proofs.FloatBits
import TabletUpkeep.Proofs.FloatPacking

/-! Floats as the numbers they are. Whole numbers of 64 bits and products become the nearest float,
the way back to a whole number cuts the fraction off, and the order is that of the numbers.
Infinities and what is not a number denote nothing. -/
namespace TabletUpkeep

open Float.Model Float.Model.UnpackedFloat

/-- The float `x` is the number `q`. -/
def Denotes (x : Float) (q : ℚ) : Prop := Represents x.toModel.unpack q

theorem denotes_or_special (x : Float) : (∃ q, Denotes x q) ∨
    (∃ sign, x.toModel.unpack = infinity sign) ∨ x.toModel.unpack = notANumber :=
  unpack_represents _

theorem float_le_iff (x y : Float) :
    x ≤ y ↔ (x.toModel.unpack.compare y.toModel.unpack).any (·.isLE) = true :=
  decide_eq_true_iff

/-- No number below `2 ^ 64` is rounded out of the range of floats. -/
theorem nearest_in_range {x : ℚ} (size : |x| < 2 ^ 64) : |nearest x| < 2 ^ 1024 := by
  have error := abs_nearest_le x
  have tiny := least_half_ulp_lt
  calc |nearest x| < 2 ^ 65 := by linarith
    _ ≤ 2 ^ 1024 := pow_le_pow_right₀ (by norm_num) (by norm_num)

namespace Denotes

variable {x y z : Float} {p q : ℚ}

theorem le_iff (left : Denotes x p) (right : Denotes y q) : x ≤ y ↔ p ≤ q := by
  rw [float_le_iff, Represents.compare left right]
  exact Std.LawfulBCmp.isLE_iff_le

theorem lt_iff (left : Denotes x p) (right : Denotes y q) : x < y ↔ p < q := by
  rw [float_lt_iff, Represents.compare left right, Option.some_inj, compare_lt_iff_lt]

/-- What lies between two numbers is a number. -/
theorem between (low : Denotes x p) (high : Denotes z q) (above : x ≤ y) (below : y ≤ z) :
    ∃ r, Denotes y r ∧ p ≤ r ∧ r ≤ q := by
  have number : ∃ r, Denotes y r := by
    have form := denotes_or_special y
    rw [float_le_iff] at above below
    unfold Denotes at low high ⊢
    generalize x.toModel.unpack = f at low above
    generalize z.toModel.unpack = h at high below
    rcases form with number | ⟨sign, infinite⟩ | nan
    · exact number
    · rw [infinite] at above below
      cases sign with
      | positive => cases high <;> cases below
      | negative => cases low <;> cases above
    · rw [nan] at below
      cases h <;> cases below
  obtain ⟨r, denotes⟩ := number
  exact ⟨r, denotes, (low.le_iff denotes).mp above, (denotes.le_iff high).mp below⟩

theorem toFloat (n : UInt64) : Denotes n.toFloat (nearest n.toNat) := by
  have rounded := ofNat_represents n.toNat
  have size : |(n.toNat : ℚ)| < 2 ^ 64 := by
    rw [Nat.abs_cast]
    exact_mod_cast n.toNat_lt
  have kept := rounded.unpack_pack (nearest_in_range size)
  rw [← kept] at rounded
  exact rounded

theorem mul (left : Denotes x p) (right : Denotes y q) (bound : |nearest (p * q)| < 2 ^ 1024) :
    Denotes (x * y) (nearest (p * q)) := by
  have rounded := Represents.mul left right
  rw [← rounded.unpack_pack bound] at rounded
  exact rounded

theorem toUInt64 (denotes : Denotes x p) : x.toUInt64 = .ofNatClamp ⌊p⌋.toNat :=
  congrArg UInt64.ofNatClamp (Represents.toInt denotes 0 _)

end Denotes

theorem denotes_zero : Denotes 0.0 0 := .zero _

theorem denotes_one : Denotes 1.0 1 := by
  have fits : InFormat 4503599627370496 (-52) := ⟨by norm_num, by norm_num, .inl (by norm_num)⟩
  have one : signed .positive ((4503599627370496 : ℕ) * 2 ^ (-52 : ℤ)) = 1 := by
    norm_num [signed]
  rw [← one]
  exact Represents.finite .positive (by norm_num) fits

/-- The part that is left over pays for the errors of both roundings. -/
theorem nearest_share_lt (n : ℕ) {q : ℚ} (above : 0 ≤ q) (below : q ≤ 991 / 1000) :
    |nearest n * q| ≤ 992 / 1000 * n + 1 / 1024 ∧ nearest (nearest n * q) < n + 1 := by
  have count : (0 : ℚ) ≤ n := n.cast_nonneg
  have size : |nearest (n : ℚ)| ≤ n + n / 2 ^ 53 + 1 / 1024 := by
    have rounded := abs_nearest_le n
    rw [Nat.abs_cast] at rounded
    linarith [least_half_ulp_lt]
  have product : |nearest n * q| ≤ 992 / 1000 * n + 1 / 1024 := by
    rw [abs_mul, abs_of_nonneg above]
    have scaled : |nearest (n : ℚ)| * q ≤ (n + n / 2 ^ 53 + 1 / 1024) * (991 / 1000) :=
      mul_le_mul size below above (by positivity)
    linarith
  have rounded := (le_abs_self _).trans (abs_nearest_le (nearest n * q))
  exact ⟨product, by linarith [least_half_ulp_lt]⟩

theorem toNat_ofNatClamp (n : ℕ) : (UInt64.ofNatClamp n).toNat = min n (UInt64.size - 1) := by
  unfold UInt64.ofNatClamp
  split
  next fits => exact (min_eq_left (Nat.le_sub_one_of_lt fits)).symm
  next large => exact (min_eq_right ((Nat.sub_le _ _).trans (not_lt.mp large))).symm

/-- Ninety-nine hundredths of a whole number, at most, stay within it through both roundings. -/
theorem toUInt64_mul_le (n : UInt64) {r : Float} (low : 0.0 ≤ r) (high : r ≤ 0.99) :
    (n.toFloat * r).toUInt64 ≤ n := by
  have fits : InFormat 8917127262193582 (-53) := ⟨by norm_num, by norm_num, .inl (by norm_num)⟩
  have most : Denotes 0.99 ((8917127262193582 : ℕ) * 2 ^ (-53 : ℤ)) :=
    Represents.finite .positive (by norm_num) fits
  obtain ⟨q, ratio, above, below⟩ := denotes_zero.between most low high
  have share : q ≤ 991 / 1000 := below.trans (by norm_num)
  obtain ⟨product, rounded⟩ := nearest_share_lt n.toNat above share
  have bound : |nearest (n.toNat : ℚ) * q| < 2 ^ 64 := by
    have : (n.toNat : ℚ) + 1 ≤ 2 ^ 64 := by exact_mod_cast n.toNat_lt
    linarith
  have denotes := (Denotes.toFloat n).mul ratio (nearest_in_range bound)
  rw [denotes.toUInt64, UInt64.le_iff_toNat_le]
  have floor : ⌊nearest (nearest n.toNat * q)⌋ < (n.toNat + 1 : ℤ) :=
    Int.floor_lt.mpr (by exact_mod_cast rounded)
  rw [toNat_ofNatClamp]
  omega

end TabletUpkeep
