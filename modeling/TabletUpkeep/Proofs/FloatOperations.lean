import TabletUpkeep.Proofs.FloatRounding

/-! Float operations on exact numbers. A float is a sign, a mantissa and an exponent in the one form
that fits its format, and what rounding gives is in that form again. So the float of a whole number
and the product of two floats are the nearest floats to the exact results. Sizes beyond the format
are left to packing. -/
namespace TabletUpkeep

open Float.Model Float.Model.UnpackedFloat

/-- A mantissa has 53 bits, and fewer only at the least exponent. -/
structure InFormat (m : ℕ) (e : ℤ) : Prop where
  bits : m < 2 ^ 53
  least : -1074 ≤ e
  full : 2 ^ 52 ≤ m ∨ e = -1074

/-- The number of a sign and a magnitude. -/
def signed : Sign → ℚ → ℚ
  | .positive, x => x
  | .negative, x => -x

/-- The float `f` is in its one form, and is the number `x`. -/
inductive Represents : UnpackedFloat → ℚ → Prop
  | zero (sign : Sign) : Represents (.zero sign) 0
  | finite (sign : Sign) {m : ℕ} {e : ℤ} (positive : 0 < m) : InFormat m e →
      Represents (.finite sign m e positive) (signed sign (m * 2 ^ e))

theorem abs_signed (sign : Sign) (x : ℚ) : |signed sign x| = |x| := by
  cases sign with
  | positive => rfl
  | negative => exact abs_neg x

theorem nearest_signed (sign : Sign) (x : ℚ) :
    nearest (signed sign x) = signed sign (nearest x) := by
  cases sign with
  | positive => rfl
  | negative => exact nearest_neg x

theorem signed_mul_signed (s₁ s₂ : Sign) (x y : ℚ) :
    signed s₁ x * signed s₂ y = signed (s₁ * s₂) (x * y) := by
  cases s₁ <;> cases s₂
  · exact neg_mul_neg x y
  · exact neg_mul x y
  · exact mul_neg x y
  · rfl

/-- A mantissa that has grown to 54 bits is moved back by one place, and nothing is lost. -/
theorem carry_exact {m : ℕ} (bound : m ≤ 2 ^ 53) {e : ℤ} (least : -1074 ≤ e)
    (full : 2 ^ 52 ≤ m ∨ e = -1074) :
    let shifted := shiftToTargetExponent .binary64 m e .exact
    InFormat shifted.1.mantissa shifted.2 ∧
    (shifted.1.mantissa : ℚ) * 2 ^ shifted.2 = m * 2 ^ e := by
  intro shifted
  rcases bound.lt_or_eq with bits | rfl
  · have log : m.log2 < 53 := by
      by_cases none : m = 0
      · subst none
        decide
      · exact (Nat.log2_lt none).mpr bits
    have target : Format.binary64.targetExponent (totalExponent m e) ≤ e := by
      change max ((m.log2 : ℤ) + 1 + e - 53) (-1074) ≤ e
      omega
    have still : shifted = (ExtendedMantissa.ofMantissaAndAccuracy m .exact, e) := by
      have amount : (Format.binary64.targetExponent (totalExponent m e) - e).toNat = 0 := by omega
      simp only [shifted, shiftToTargetExponent, shiftToExponent, amount]
      rw [Nat.cast_zero, add_zero]
      rfl
    rw [still]
    exact ⟨⟨bits, least, full⟩, rfl⟩
  · have carried : shifted = (⟨2 ^ 52, false, false⟩, e + 1) := by
      have target : Format.binary64.targetExponent (totalExponent (2 ^ 53) e) = e + 1 := by
        change max ((Nat.log2 (2 ^ 53) : ℤ) + 1 + e - 53) (-1074) = e + 1
        rw [Nat.log2_two_pow]
        omega
      simp only [shifted, shiftToTargetExponent, target, shiftToExponent, add_sub_cancel_left]
      rfl
    rw [carried]
    refine ⟨⟨by norm_num, by omega, .inl le_rfl⟩, ?_⟩
    rw [zpow_add_one₀ (by norm_num)]
    push_cast
    ring

/-- The float of a sign, a mantissa that may be zero, and an exponent. -/
def assembled (sign : Sign) (m : ℕ) (e : ℤ) : UnpackedFloat :=
  if h : m = 0 then zero sign else finite sign m e (Nat.pos_of_ne_zero h)

theorem assembled_represents (sign : Sign) {m : ℕ} {e : ℤ} (fits : InFormat m e) :
    Represents (assembled sign m e) (signed sign (m * 2 ^ e)) := by
  unfold assembled
  split_ifs with none
  · have nothing : signed sign (m * 2 ^ e) = 0 := by
      subst none
      cases sign <;> simp [signed]
    rw [nothing]
    exact .zero sign
  · exact .finite sign (Nat.pos_of_ne_zero none) fits

/-- Rounding gives the float nearest to the number of which the mantissa and its accuracy tell. The
exponent must not lie above that of the last place, for a mantissa is never extended. -/
theorem roundWithAccuracy_represents (sign : Sign) {m : ℕ} {accuracy : Accuracy} {y : ℚ}
    (near : Approximates (ExtendedMantissa.ofMantissaAndAccuracy m accuracy) y) (above : 0 < y)
    {e : ℤ} (wide : 0 < m ∨ e ≤ -1074) (low : e ≤ ulpExponent (y * 2 ^ e)) :
    Represents (roundWithAccuracy .binary64 sign m e accuracy)
      (signed sign (nearest (y * 2 ^ e))) := by
  have size : 0 < y * 2 ^ e := by positivity
  have floor : ⌊y⌋ = m := by rw [near.floor_eq, mantissa_ofMantissaAndAccuracy]
  let first := shiftToTargetExponent .binary64 m e accuracy
  let last := shiftToTargetExponent .binary64 first.1.roundedMantissa first.2 .exact
  obtain ⟨exponent, near⟩ : first.2 = ulpExponent (y * 2 ^ e) ∧
      Approximates first.1 (y * 2 ^ e / 2 ^ ulpExponent (y * 2 ^ e)) := by
    rw [← targetExponent_of_floor floor above wide] at low ⊢
    exact shiftToExponent_spec near low
  have mantissa := near.roundedMantissa
  obtain ⟨bound, full⟩ := roundEven_div_ulp size
  rw [← mantissa] at bound full
  have least : -1074 ≤ first.2 := exponent ▸ le_max_right _ _
  -- Rounding may carry into one more bit; the second shift takes that back and does nothing else.
  obtain ⟨fits, same⟩ := carry_exact (m := first.1.roundedMantissa) (e := first.2)
    (by exact_mod_cast bound) least (by rw [exponent]; exact_mod_cast full)
  have rounded : nearest (y * 2 ^ e) = last.1.mantissa * 2 ^ last.2 := by
    rw [same, nearest, ← mantissa, exponent]
    rfl
  rw [rounded]
  exact assembled_represents sign fits

theorem roundExact_represents (sign : Sign) {m : ℕ} (positive : 0 < m) {e : ℤ}
    (low : e ≤ ulpExponent (m * 2 ^ e)) :
    Represents (roundWithAccuracy .binary64 sign m e .exact) (signed sign (nearest (m * 2 ^ e))) :=
  roundWithAccuracy_represents sign (approximates_exact m) (Nat.cast_pos.mpr positive)
    (.inl positive) low

theorem decreaseExponent_spec (m : ℕ) (e t : ℤ) :
    (decreaseExponent m e t).2 = min e t ∧
    ((decreaseExponent m e t).1 : ℚ) * 2 ^ (decreaseExponent m e t).2 = m * 2 ^ e := by
  constructor
  · simp only [decreaseExponent]
    omega
  · simp only [decreaseExponent, Nat.shiftLeft_eq]
    push_cast
    rw [mul_assoc, ← zpow_natCast, ← zpow_add₀ (by norm_num), add_sub_cancel]

theorem round_represents (sign : Sign) {m : ℕ} (positive : 0 < m) (e : ℤ) :
    Represents (UnpackedFloat.round .binary64 sign m e)
      (signed sign (nearest (m * 2 ^ e))) := by
  let aligned := decreaseExponent m e (Format.binary64.targetExponent (totalExponent m e))
  obtain ⟨exponent, same⟩ : aligned.2 = min e _ ∧ (aligned.1 : ℚ) * 2 ^ aligned.2 = m * 2 ^ e :=
    decreaseExponent_spec m e _
  have wide : 0 < aligned.1 := by
    simp only [aligned, decreaseExponent, Nat.shiftLeft_eq]
    positivity
  have low : aligned.2 ≤ ulpExponent (aligned.1 * 2 ^ aligned.2) := by
    rw [same, exponent, targetExponent_eq positive]
    exact min_le_right _ _
  have unfolded : UnpackedFloat.round .binary64 sign m e =
      roundWithAccuracy .binary64 sign aligned.1 aligned.2 .exact := rfl
  rw [unfolded, ← same]
  exact roundExact_represents sign wide low

theorem ofNat_represents (n : ℕ) : Represents (UnpackedFloat.ofNat .binary64 n) (nearest n) := by
  have unit : (n : ℚ) * 2 ^ (0 : ℤ) = n := by rw [zpow_zero, mul_one]
  change Represents (UnpackedFloat.normalize .binary64 n 0 .positive) _
  unfold UnpackedFloat.normalize
  rcases n.eq_zero_or_pos with rfl | positive
  · rw [Nat.cast_zero, Nat.cast_zero, nearest_zero]
    exact .zero .positive
  · have rounded := round_represents .positive positive 0
    rw [unit] at rounded
    rw [compare_gt_iff_gt.mpr (by exact_mod_cast positive : (n : ℤ) > 0)]
    exact rounded

/-- The exact product of two floats reaches at least as far down as its rounding does. -/
theorem mul_exponent_le {m₁ m₂ : ℕ} {e₁ e₂ : ℤ} (pos₁ : 0 < m₁) (pos₂ : 0 < m₂)
    (full₁ : 2 ^ 52 ≤ m₁ ∨ e₁ = -1074) (full₂ : 2 ^ 52 ≤ m₂ ∨ e₂ = -1074) :
    e₁ + e₂ ≤ ulpExponent ((m₁ * m₂ : ℕ) * 2 ^ (e₁ + e₂)) := by
  have positive : 0 < m₁ * m₂ := by positivity
  rw [ulpExponent, log_mul_zpow positive]
  by_cases wide : 2 ^ 52 ≤ m₁ * m₂
  · have log : 52 ≤ (m₁ * m₂).log2 := (Nat.le_log2 positive.ne').mpr wide
    omega
  · -- So short a product is that of two subnormal floats.
    have short₁ : ¬ 2 ^ 52 ≤ m₁ := fun full => wide (full.trans (Nat.le_mul_of_pos_right m₁ pos₂))
    have short₂ : ¬ 2 ^ 52 ≤ m₂ := fun full => wide (full.trans (Nat.le_mul_of_pos_left m₂ pos₁))
    have least₁ := full₁.resolve_left short₁
    have least₂ := full₂.resolve_left short₂
    omega

theorem roundToInt_eq (sign : Sign) (m : ℕ) (e : ℤ) :
    roundToInt sign m e = sign.apply ⌊(m : ℚ) * 2 ^ e⌋ := by
  obtain ⟨exponent, same⟩ := decreaseExponent_spec m e 0
  obtain ⟨-, near⟩ := shiftToExponent_spec (approximates_exact (decreaseExponent m e 0).1)
    (e := (decreaseExponent m e 0).2) (t := 0) (by rw [exponent]; exact min_le_right _ _)
  rw [same, zpow_zero, div_one] at near
  rw [near.floor_eq]
  rfl

/-- Of two floats in their one form, the one with the lower exponent is the smaller. -/
theorem InFormat.lt {m₁ m₂ : ℕ} {e₁ e₂ : ℤ} (left : InFormat m₁ e₁) (right : InFormat m₂ e₂)
    (lower : e₁ < e₂) : (m₁ : ℚ) * 2 ^ e₁ < m₂ * 2 ^ e₂ := by
  have least := left.least
  have normal : 2 ^ 52 ≤ m₂ := right.full.resolve_right (by omega)
  calc (m₁ : ℚ) * 2 ^ e₁ < 2 ^ 53 * 2 ^ e₁ := by
        apply mul_lt_mul_of_pos_right _ (by positivity)
        exact_mod_cast left.bits
    _ = 2 ^ 52 * 2 ^ (e₁ + 1) := by
        rw [zpow_add_one₀ (by norm_num)]
        ring
    _ ≤ m₂ * 2 ^ e₂ := by
        apply mul_le_mul
        · exact_mod_cast normal
        · exact zpow_le_zpow_right₀ (by norm_num) (by omega)
        · positivity
        · positivity

theorem InFormat.compare {m₁ m₂ : ℕ} {e₁ e₂ : ℤ} (left : InFormat m₁ e₁) (right : InFormat m₂ e₂) :
    (compare e₁ e₂).then (compare m₁ m₂) = compare ((m₁ : ℚ) * 2 ^ e₁) (m₂ * 2 ^ e₂) := by
  rcases lt_trichotomy e₁ e₂ with lower | rfl | higher
  · rw [compare_lt_iff_lt.mpr lower, compare_lt_iff_lt.mpr (left.lt right lower)]
    rfl
  · have scale : (0 : ℚ) < 2 ^ e₁ := by positivity
    rw [compare_eq_iff_eq.mpr rfl, Ordering.then]
    rcases lt_trichotomy m₁ m₂ with less | rfl | more
    · have smaller := mul_lt_mul_of_pos_right (Nat.cast_lt (α := ℚ).mpr less) scale
      rw [compare_lt_iff_lt.mpr less, compare_lt_iff_lt.mpr smaller]
    · rw [compare_eq_iff_eq.mpr rfl, compare_eq_iff_eq.mpr rfl]
    · have greater := mul_lt_mul_of_pos_right (Nat.cast_lt (α := ℚ).mpr more) scale
      rw [compare_gt_iff_gt.mpr more, compare_gt_iff_gt.mpr greater]
  · rw [compare_gt_iff_gt.mpr higher, compare_gt_iff_gt.mpr (right.lt left higher)]
    rfl

theorem compare_neg_neg (x y : ℚ) : compare (-x) (-y) = (compare x y).swap := by
  rcases lt_trichotomy x y with less | rfl | more
  · rw [compare_lt_iff_lt.mpr less, compare_gt_iff_gt.mpr (neg_lt_neg less)]
    rfl
  · rw [compare_eq_iff_eq.mpr rfl, compare_eq_iff_eq.mpr rfl]
    rfl
  · rw [compare_gt_iff_gt.mpr more, compare_lt_iff_lt.mpr (neg_lt_neg more)]
    rfl

namespace Represents

variable {f g : UnpackedFloat} {x y : ℚ}

theorem mul (left : Represents f x) (right : Represents g y) :
    Represents (UnpackedFloat.mul .binary64 f g) (nearest (x * y)) := by
  cases left with
  | zero sign =>
    rw [zero_mul, nearest_zero]
    cases right with
    | zero _ => exact .zero _
    | finite _ _ _ => exact .zero _
  | @finite s₁ m₁ e₁ pos₁ fits₁ =>
    cases right with
    | zero _ =>
      rw [mul_zero, nearest_zero]
      exact .zero _
    | @finite s₂ m₂ e₂ pos₂ fits₂ =>
      have product : (m₁ : ℚ) * 2 ^ e₁ * (m₂ * 2 ^ e₂) = (m₁ * m₂ : ℕ) * 2 ^ (e₁ + e₂) := by
        rw [zpow_add₀ (by norm_num)]
        push_cast
        ring
      rw [signed_mul_signed, product, nearest_signed]
      exact roundExact_represents (s₁ * s₂) (Nat.mul_pos pos₁ pos₂)
        (mul_exponent_le pos₁ pos₂ fits₁.full fits₂.full)

/-- The order of floats is that of the numbers they are, the two zeros being one. -/
theorem compare (left : Represents f x) (right : Represents g y) :
    f.compare g = some (compare x y) := by
  cases left with
  | zero _ =>
    cases right with
    | zero _ => rfl
    | @finite s m e positive _ =>
      have size : (0 : ℚ) < m * 2 ^ e := by positivity
      cases s with
      | positive => exact congrArg some (compare_lt_iff_lt.mpr size).symm
      | negative => exact congrArg some (compare_gt_iff_gt.mpr (neg_neg_of_pos size)).symm
  | @finite s₁ m₁ e₁ pos₁ fits₁ =>
    have size₁ : (0 : ℚ) < m₁ * 2 ^ e₁ := by positivity
    cases right with
    | zero _ =>
      cases s₁ with
      | positive => exact congrArg some (compare_gt_iff_gt.mpr size₁).symm
      | negative => exact congrArg some (compare_lt_iff_lt.mpr (neg_neg_of_pos size₁)).symm
    | @finite s₂ m₂ e₂ pos₂ fits₂ =>
      have size₂ : (0 : ℚ) < m₂ * 2 ^ e₂ := by positivity
      have magnitudes := fits₁.compare fits₂
      cases s₁ <;> cases s₂
      · change some ((Ord.compare e₁ e₂).then (Ord.compare m₁ m₂)).swap =
          some (Ord.compare (-_) (-_))
        rw [magnitudes, compare_neg_neg]
      · have less : -((m₁ : ℚ) * 2 ^ e₁) < m₂ * 2 ^ e₂ := by linarith
        exact congrArg some (compare_lt_iff_lt.mpr less).symm
      · have more : -((m₂ : ℚ) * 2 ^ e₂) < m₁ * 2 ^ e₁ := by linarith
        exact congrArg some (compare_gt_iff_gt.mpr more).symm
      · exact congrArg some magnitudes

/-- The way to a whole number cuts off the fraction. -/
theorem toInt (represents : Represents f x) (low high : ℤ) :
    (UnpackedFloat.toInt low high f).toNat = ⌊x⌋.toNat := by
  cases represents with
  | zero _ => rfl
  | @finite sign m e _ _ =>
    have magnitude : (0 : ℚ) ≤ m * 2 ^ e := by positivity
    rw [UnpackedFloat.toInt, roundToInt_eq]
    cases sign with
    | positive => rfl
    | negative =>
      have cut : (-⌊(m : ℚ) * 2 ^ e⌋).toNat = 0 :=
        Int.toNat_of_nonpos (neg_nonpos.mpr (Int.floor_nonneg.mpr magnitude))
      have rounded : ⌊-((m : ℚ) * 2 ^ e)⌋.toNat = 0 :=
        Int.toNat_of_nonpos (Int.floor_nonpos (neg_nonpos.mpr magnitude))
      rw [Sign.apply, signed, cut, rounded]

end Represents

end TabletUpkeep
