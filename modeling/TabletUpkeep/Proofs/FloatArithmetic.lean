import TabletUpkeep.Proofs.FloatOperations

/-! Differences and quotients of floats. A difference is exact before it is rounded. A quotient is
cut off at a place low enough for what is left of it to be told by an accuracy, and so it is rounded
as the exact quotient would be. -/
namespace TabletUpkeep

open Float.Model Float.Model.UnpackedFloat

theorem signed_neg (sign : Sign) (x : ℚ) : signed (-sign) x = -signed sign x := by
  cases sign with
  | positive => rfl
  | negative => exact (neg_neg x).symm

theorem signed_apply (sign : Sign) (n : ℤ) : ((sign.apply n : ℤ) : ℚ) = signed sign n := by
  cases sign with
  | positive => rfl
  | negative => exact Int.cast_neg n

theorem signed_mul (sign : Sign) (x y : ℚ) : signed sign x * y = signed sign (x * y) := by
  cases sign with
  | positive => rfl
  | negative => exact neg_mul x y

theorem signed_div_signed (s₁ s₂ : Sign) (x y : ℚ) :
    signed s₁ x / signed s₂ y = signed (s₁ / s₂) (x / y) := by
  cases s₁ <;> cases s₂
  · exact neg_div_neg_eq x y
  · exact neg_div y x
  · exact div_neg x
  · rfl

theorem roundEven_natCast (m : ℕ) : roundEven m = m := (approximates_exact m).roundedMantissa.symm

/-- The exponent of a float in its one form is that of its last place. -/
theorem InFormat.ulpExponent_eq {m : ℕ} {e : ℤ} (fits : InFormat m e) (positive : 0 < m) :
    ulpExponent (m * 2 ^ e) = e := by
  have bits : m.log2 < 53 := (Nat.log2_lt positive.ne').mpr fits.bits
  have least := fits.least
  rw [ulpExponent, log_mul_zpow positive]
  rcases fits.full with normal | subnormal
  · have : 52 ≤ m.log2 := (Nat.le_log2 positive.ne').mpr normal
    omega
  · omega

/-- Rounding leaves a float as it is. -/
theorem Represents.nearest_eq {f : UnpackedFloat} {x : ℚ} (represents : Represents f x) :
    nearest x = x := by
  cases represents with
  | zero _ => exact nearest_zero
  | @finite sign m e positive fits =>
    have scale : (2 : ℚ) ^ e ≠ 0 := by positivity
    rw [nearest_signed, nearest, fits.ulpExponent_eq positive, mul_div_cancel_right₀ _ scale,
      roundEven_natCast, Int.cast_natCast]

theorem normalize_represents (n : ℤ) (e : ℤ) (zeroSign : Sign) :
    Represents (UnpackedFloat.normalize .binary64 n e zeroSign) (nearest (n * 2 ^ e)) := by
  unfold UnpackedFloat.normalize
  rcases lt_trichotomy n 0 with negative | rfl | positive
  · have magnitude : ((-n).toNat : ℤ) = -n := Int.toNat_of_nonneg (by omega)
    have rounded := round_represents .negative (m := (-n).toNat) (by omega) e
    have exact : signed .negative ((-n).toNat * 2 ^ e) = n * 2 ^ e := by
      rw [← Int.cast_natCast, magnitude, signed]
      push_cast
      ring
    rw [← nearest_signed, exact] at rounded
    rw [compare_lt_iff_lt.mpr negative]
    exact rounded
  · rw [compare_eq_iff_eq.mpr rfl, Int.cast_zero, zero_mul, nearest_zero]
    exact .zero zeroSign
  · have magnitude : (n.toNat : ℤ) = n := Int.toNat_of_nonneg positive.le
    have rounded := round_represents .positive (m := n.toNat) (by omega) e
    rw [← nearest_signed, ← Int.cast_natCast, magnitude] at rounded
    rw [compare_gt_iff_gt.mpr positive]
    exact rounded

/-- Two mantissas at the lower one of their exponents. -/
theorem aligned_spec (m : ℕ) {e t : ℤ} (low : t ≤ e) :
    ((decreaseExponent m e t).1 : ℚ) * 2 ^ t = m * 2 ^ e := by
  obtain ⟨exponent, same⟩ := decreaseExponent_spec m e t
  rwa [exponent, min_eq_right low] at same

/-- What is left over by a division is told by its accuracy: whether there is any, and on which side
of one half. -/
theorem approximates_rest (m : ℕ) {rest d : ℕ} (less : rest < d) :
    Approximates (ExtendedMantissa.ofMantissaAndAccuracy m (accuracyOfFraction rest d))
      (m + rest / d) := by
  have size : (0 : ℚ) < d := Nat.cast_pos.mpr (Nat.zero_lt_of_lt less)
  have two : (0 : ℚ) < 2 := by norm_num
  have below : (rest : ℚ) / d < 1 := (div_lt_one size).mpr (by exact_mod_cast less)
  unfold accuracyOfFraction
  split_ifs with none
  · subst none
    simp [ExtendedMantissa.ofMantissaAndAccuracy, Approximates]
  · have some : (0 : ℚ) < rest / d := div_pos (by exact_mod_cast Nat.pos_of_ne_zero none) size
    rcases lt_trichotomy (2 * rest) d with lower | middle | upper
    · have short : (rest : ℚ) / d < 1 / 2 := by
        rw [div_lt_div_iff₀ size two, one_mul, mul_comm]
        exact_mod_cast lower
      rw [compare_lt_iff_lt.mpr lower]
      exact ⟨lt_add_of_pos_right _ some, add_lt_add_right short _⟩
    · have half : (rest : ℚ) / d = 1 / 2 := by
        rw [div_eq_div_iff size.ne' two.ne', one_mul, mul_comm]
        exact_mod_cast middle
      rw [compare_eq_iff_eq.mpr middle, half]
      rfl
    · have long : (1 : ℚ) / 2 < rest / d := by
        rw [div_lt_div_iff₀ two size, one_mul, mul_comm (rest : ℚ)]
        exact_mod_cast upper
      rw [compare_gt_iff_gt.mpr upper]
      exact ⟨add_lt_add_right long _, add_lt_add_right below _⟩

theorem approximates_div (n : ℕ) {d : ℕ} (positive : 0 < d) :
    Approximates (ExtendedMantissa.ofMantissaAndAccuracy (n / d) (accuracyOfFraction (n % d) d))
      (n / d) := by
  have size : (d : ℚ) ≠ 0 := Nat.cast_ne_zero.mpr positive.ne'
  have parts : (n : ℚ) / d = (n / d : ℕ) + (n % d : ℕ) / d := by
    rw [eq_comm, add_div_eq_mul_add_div _ _ size]
    congr 1
    exact_mod_cast Nat.div_add_mod' n d
  rw [parts]
  exact approximates_rest (n / d) (Nat.mod_lt n positive)

/-- A number lies in the binade that its total exponent closes. -/
theorem zpow_totalExponent {m : ℕ} (positive : 0 < m) (e : ℤ) :
    2 ^ (totalExponent m e - 1) ≤ (m : ℚ) * 2 ^ e ∧ (m : ℚ) * 2 ^ e < 2 ^ totalExponent m e := by
  have size : (0 : ℚ) < m * 2 ^ e := by positivity
  have log : Int.log 2 ((m : ℚ) * 2 ^ e) = m.log2 + e := by
    rw [← log_mul_zpow positive, abs_of_pos size]
  constructor
  · refine (Int.zpow_le_iff_le_log (by norm_num) size).mpr ?_
    rw [log, totalExponent]
    omega
  · refine (Int.lt_zpow_iff_log_lt (by norm_num) size).mpr ?_
    rw [log, totalExponent]
    omega

/-- The logarithm of a quotient falls short of the difference of logarithms by one at most. -/
theorem ulpExponent_div {m₁ m₂ : ℕ} (pos₁ : 0 < m₁) (pos₂ : 0 < m₂) (e₁ e₂ : ℤ) :
    2 ^ (totalExponent m₁ e₁ - totalExponent m₂ e₂ - 1) ≤ (m₁ : ℚ) * 2 ^ e₁ / (m₂ * 2 ^ e₂) ∧
    Format.binary64.targetExponent (totalExponent m₁ e₁ - totalExponent m₂ e₂) ≤
      ulpExponent ((m₁ : ℚ) * 2 ^ e₁ / (m₂ * 2 ^ e₂)) := by
  have size₁ : (0 : ℚ) < m₁ * 2 ^ e₁ := by positivity
  have size₂ : (0 : ℚ) < m₂ * 2 ^ e₂ := by positivity
  have low := (zpow_totalExponent pos₁ e₁).1
  have high := (zpow_totalExponent pos₂ e₂).2.le
  have quotient : 2 ^ (totalExponent m₁ e₁ - totalExponent m₂ e₂ - 1) ≤
      (m₁ : ℚ) * 2 ^ e₁ / (m₂ * 2 ^ e₂) := by
    rw [le_div_iff₀ size₂]
    calc (2 : ℚ) ^ (totalExponent m₁ e₁ - totalExponent m₂ e₂ - 1) * (m₂ * 2 ^ e₂)
        ≤ 2 ^ (totalExponent m₁ e₁ - totalExponent m₂ e₂ - 1) * 2 ^ totalExponent m₂ e₂ :=
          mul_le_mul_of_nonneg_left high (by positivity)
      _ = 2 ^ (totalExponent m₁ e₁ - 1) := by
          rw [← zpow_add₀ (by norm_num)]
          congr 1
          omega
      _ ≤ m₁ * 2 ^ e₁ := low
  refine ⟨quotient, ?_⟩
  have log : totalExponent m₁ e₁ - totalExponent m₂ e₂ - 1 ≤
      Int.log 2 ((m₁ : ℚ) * 2 ^ e₁ / (m₂ * 2 ^ e₂)) :=
    (Int.zpow_le_iff_le_log (by norm_num) (div_pos size₁ size₂)).mp quotient
  rw [ulpExponent, abs_of_pos (div_pos size₁ size₂)]
  change max (_ - 53) (-1074) ≤ _
  omega

/-- The core of a division is the exact quotient cut off at an exponent that rounding can start
from, with the accuracy of the cut. -/
theorem divCore_spec {m₁ m₂ : ℕ} (pos₁ : 0 < m₁) (pos₂ : 0 < m₂) (e₁ e₂ : ℤ) :
    let core := divCore .binary64 m₁ e₁ m₂ e₂
    let quotient := (m₁ : ℚ) * 2 ^ e₁ / (m₂ * 2 ^ e₂)
    ∃ y, Approximates (ExtendedMantissa.ofMantissaAndAccuracy core.1 core.2.2) y ∧ 0 < y ∧
      y * 2 ^ core.2.1 = quotient ∧ (0 < core.1 ∨ core.2.1 ≤ -1074) ∧
      core.2.1 ≤ ulpExponent quotient := by
  intro core quotient
  let total := totalExponent m₁ e₁ - totalExponent m₂ e₂
  let t := min (e₁ - e₂) (Format.binary64.targetExponent total)
  let n := m₁ <<< (e₁ - e₂ - t).toNat
  have exponent : core.2.1 = t := rfl
  have mantissa : core.1 = n / m₂ := rfl
  have target : Format.binary64.targetExponent total = max (total - 53) (-1074) := rfl
  obtain ⟨least, ulp⟩ := ulpExponent_div pos₁ pos₂ e₁ e₂
  have near := approximates_div n pos₂
  have exact : (n : ℚ) / m₂ * 2 ^ t = quotient := by
    have amount : ((e₁ - e₂ - t).toNat : ℤ) = e₁ - e₂ - t := Int.toNat_of_nonneg (by omega)
    have shifted : (n : ℚ) = m₁ * 2 ^ (e₁ - e₂ - t) := by
      rw [← amount, zpow_natCast]
      exact_mod_cast Nat.shiftLeft_eq m₁ _
    rw [shifted, div_mul_eq_mul_div, mul_assoc, ← zpow_add₀ (by norm_num), sub_add_cancel,
      zpow_sub₀ (by norm_num)]
    simp only [quotient]
    field_simp
  have above : (0 : ℚ) < n / m₂ := by
    have shifted : 0 < n := by
      simp only [n, Nat.shiftLeft_eq]
      positivity
    positivity
  refine ⟨n / m₂, near, above, exact, ?_, ?_⟩
  · by_cases low : t ≤ -1074
    · exact .inr low
    · -- The quotient reaches at least the 52nd place above the cut.
      refine .inl ?_
      have size : 2 ^ (0 : ℤ) * 2 ^ t ≤ (n : ℚ) / m₂ * 2 ^ t := by
        rw [exact, ← zpow_add₀ (by norm_num)]
        refine le_trans (zpow_le_zpow_right₀ (by norm_num) ?_) least
        omega
      have whole : ((1 : ℤ) : ℚ) ≤ n / m₂ := by
        have cancelled := le_of_mul_le_mul_right size (by positivity)
        rwa [zpow_zero, ← Int.cast_one] at cancelled
      have floor := Int.le_floor.mpr whole
      rw [near.floor_eq, mantissa_ofMantissaAndAccuracy] at floor
      rw [mantissa]
      omega
  · exact (min_le_right _ _).trans ulp

namespace Represents

variable {f g : UnpackedFloat} {x y : ℚ}

theorem sub (left : Represents f x) (right : Represents g y) :
    Represents (UnpackedFloat.sub .binary64 f g) (nearest (x - y)) := by
  cases left with
  | zero s₁ =>
    rw [zero_sub, nearest_neg, right.nearest_eq]
    cases right with
    | zero s₂ =>
      rw [neg_zero]
      cases s₁ <;> cases s₂ <;> exact .zero _
    | @finite s₂ m₂ e₂ pos₂ fits₂ =>
      rw [← signed_neg]
      exact .finite (-s₂) pos₂ fits₂
  | @finite s₁ m₁ e₁ pos₁ fits₁ =>
    cases right with
    | zero s₂ =>
      have same := Represents.finite s₁ pos₁ fits₁
      rw [sub_zero, same.nearest_eq]
      exact same
    | @finite s₂ m₂ e₂ pos₂ fits₂ =>
      have left := aligned_spec m₁ (min_le_left e₁ e₂)
      have right := aligned_spec m₂ (min_le_right e₁ e₂)
      have difference := normalize_represents
        (s₁.apply (decreaseExponent m₁ e₁ (min e₁ e₂)).1 -
          s₂.apply (decreaseExponent m₂ e₂ (min e₁ e₂)).1) (min e₁ e₂) .positive
      rw [Int.cast_sub, signed_apply, signed_apply, sub_mul, signed_mul, signed_mul,
        Int.cast_natCast, Int.cast_natCast, left, right] at difference
      exact difference

theorem div (left : Represents f x) (right : Represents g y) (nonzero : y ≠ 0) :
    Represents (UnpackedFloat.div .binary64 f g) (nearest (x / y)) := by
  cases right with
  | zero _ => exact absurd rfl nonzero
  | @finite s₂ m₂ e₂ pos₂ fits₂ =>
    cases left with
    | zero s₁ =>
      rw [zero_div, nearest_zero]
      exact .zero _
    | @finite s₁ m₁ e₁ pos₁ fits₁ =>
      obtain ⟨y, near, above, exact, wide, low⟩ := divCore_spec pos₁ pos₂ e₁ e₂
      rw [← exact] at low
      rw [signed_div_signed, nearest_signed, ← exact]
      exact roundWithAccuracy_represents (s₁ / s₂) near above wide low

end Represents

end TabletUpkeep
