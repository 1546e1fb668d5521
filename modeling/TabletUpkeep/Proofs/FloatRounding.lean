import Mathlib

/-! Rounding as floats do it: to the nearest multiple of the unit in the last place, and to the even
one of two that are as near, with an error of half a unit at most and never past one another.
Shifting a mantissa keeps two bits of what is lost, and these are enough to round as if nothing had
been. -/
namespace TabletUpkeep

open Float.Model Float.Model.UnpackedFloat

/-- The nearest whole number; of two that are as near, the even one. -/
def roundEven (x : ℚ) : ℤ :=
  if x - ⌊x⌋ < 1 / 2 then ⌊x⌋ else if 1 / 2 < x - ⌊x⌋ then ⌊x⌋ + 1 else ⌊x⌋ + ⌊x⌋ % 2

theorem floor_le_roundEven (x : ℚ) : ⌊x⌋ ≤ roundEven x ∧ roundEven x ≤ ⌊x⌋ + 1 := by
  unfold roundEven
  split_ifs <;> omega

theorem abs_roundEven_sub_le (x : ℚ) : |(roundEven x : ℚ) - x| ≤ 1 / 2 := by
  have low := Int.floor_le x
  have high := Int.lt_floor_add_one x
  have parity : ⌊x⌋ % 2 = 0 ∨ ⌊x⌋ % 2 = 1 := by omega
  unfold roundEven
  rw [abs_le]
  split_ifs
  · constructor <;> linarith
  · push_cast
    constructor <;> linarith
  · rcases parity with even | odd
    · rw [even, add_zero]
      constructor <;> linarith
    · rw [odd]
      push_cast
      constructor <;> linarith

theorem roundEven_neg (x : ℚ) : roundEven (-x) = -roundEven x := by
  have low := Int.floor_le x
  have high := Int.lt_floor_add_one x
  rcases low.eq_or_lt with whole | above
  · have floor : ⌊-x⌋ = -⌊x⌋ := by
      rw [← whole, ← Int.cast_neg, Int.floor_intCast, Int.floor_intCast]
    unfold roundEven
    rw [floor, if_pos (by push_cast; linarith), if_pos (by linarith)]
  · have floor : ⌊-x⌋ = -⌊x⌋ - 1 := by
      rw [Int.floor_eq_iff]
      push_cast
      constructor <;> linarith
    unfold roundEven
    rw [floor]
    push_cast
    rcases lt_trichotomy (x - ⌊x⌋) (1 / 2) with less | half | more
    · rw [if_neg (by linarith), if_pos (by linarith), if_pos less]
      omega
    · rw [if_neg (by linarith), if_neg (by linarith), if_neg half.not_lt, if_neg half.not_gt]
      omega
    · rw [if_pos (by linarith), if_neg (by linarith), if_pos more]
      omega

/-- Two numbers that were rounded past each other would be one and the same, half way between. -/
theorem roundEven_mono {x y : ℚ} (order : x ≤ y) : roundEven x ≤ roundEven y := by
  by_contra crossed
  have apart : (roundEven y : ℚ) + 1 ≤ roundEven x := by exact_mod_cast not_le.mp crossed
  have low := (abs_le.mp (abs_roundEven_sub_le x)).2
  have high := (abs_le.mp (abs_roundEven_sub_le y)).1
  have same : x = y := le_antisymm order (by linarith)
  rw [same] at crossed
  exact crossed le_rfl

/-- What a mantissa and its two residual bits say of the number they stand for. -/
def Approximates (em : ExtendedMantissa) (x : ℚ) : Prop :=
  match em.roundBit, em.stickyBit with
  | false, false => x = em.mantissa
  | false, true => em.mantissa < x ∧ x < em.mantissa + 1 / 2
  | true, false => x = em.mantissa + 1 / 2
  | true, true => em.mantissa + 1 / 2 < x ∧ x < em.mantissa + 1

theorem approximates_exact (m : ℕ) :
    Approximates (ExtendedMantissa.ofMantissaAndAccuracy m .exact) m := rfl

theorem mantissa_ofMantissaAndAccuracy (m : ℕ) (accuracy : Accuracy) :
    (ExtendedMantissa.ofMantissaAndAccuracy m accuracy).mantissa = m := by
  rcases accuracy with _ | (_ | _ | _) <;> rfl

namespace Approximates

variable {em : ExtendedMantissa} {x : ℚ}

theorem floor_eq (near : Approximates em x) : ⌊x⌋ = em.mantissa := by
  obtain ⟨m, round, sticky⟩ := em
  rw [Int.floor_eq_iff]
  cases round <;> cases sticky <;> simp only [Approximates] at near <;> push_cast
  · constructor <;> linarith
  · constructor <;> linarith [near.1, near.2]
  · constructor <;> linarith
  · constructor <;> linarith [near.1, near.2]

/-- The residual bits are enough to round by. -/
theorem roundedMantissa (near : Approximates em x) :
    (em.roundedMantissa : ℤ) = roundEven x := by
  have floor := near.floor_eq
  obtain ⟨m, round, sticky⟩ := em
  unfold roundEven
  rw [floor]
  cases round <;> cases sticky <;> simp only [Approximates] at near <;>
    simp only [ExtendedMantissa.roundedMantissa, ExtendedMantissa.accuracy,
      Accuracy.roundToNearestEven, Int.cast_natCast]
  · rw [if_pos (by rw [near]; norm_num)]
  · rw [if_pos (by linarith [near.2])]
  · rw [if_neg (by rw [near]; norm_num), if_neg (by rw [near]; norm_num)]
    push_cast
    rfl
  · rw [if_neg (by linarith [near.1]), if_pos (by linarith [near.1])]
    push_cast
    rfl

/-- A shift by one place keeps what is known: the old round bit falls into the sticky one. -/
theorem shiftRightOne (near : Approximates em x) : Approximates em.shiftRightOne (x / 2) := by
  obtain ⟨m, round, sticky⟩ := em
  have halves : (m : ℚ) = 2 * (m / 2 : ℕ) + (m % 2 : ℕ) := by
    exact_mod_cast (Nat.div_add_mod m 2).symm
  rcases Nat.mod_two_eq_zero_or_one m with even | odd
  · rw [even, Nat.cast_zero] at halves
    cases round <;> cases sticky <;>
      simp only [Approximates, halves, add_zero, ExtendedMantissa.shiftRightOne, even,
        bne_self_eq_false, Bool.or_false, Bool.or_true] at near ⊢
    · linarith
    · constructor <;> linarith [near.1, near.2]
    · constructor <;> linarith
    · constructor <;> linarith [near.1, near.2]
  · rw [odd, Nat.cast_one] at halves
    cases round <;> cases sticky <;>
      simp only [Approximates, halves, ExtendedMantissa.shiftRightOne, odd, Bool.or_false,
        Bool.or_true, show (1 != 0) = true from rfl] at near ⊢
    · linarith
    · constructor <;> linarith [near.1, near.2]
    · constructor <;> linarith
    · constructor <;> linarith [near.1, near.2]

theorem shiftRight (near : Approximates em x) (n : ℕ) : Approximates (em >>> n) (x / 2 ^ n) := by
  change Approximates (n.repeat ExtendedMantissa.shiftRightOne em) _
  induction n with
  | zero => simpa [Nat.repeat] using near
  | succ n ih =>
    have halved := ih.shiftRightOne
    rw [div_div, ← pow_succ] at halved
    exact halved

end Approximates

/-- The exponent of the last place of the floats about `x`. -/
def ulpExponent (x : ℚ) : ℤ := max (Int.log 2 |x| - 52) (-1074)

/-- What a number is rounded to, with no bound on its size. -/
def nearest (x : ℚ) : ℚ := roundEven (x / 2 ^ ulpExponent x) * 2 ^ ulpExponent x

theorem nearest_neg (x : ℚ) : nearest (-x) = -nearest x := by
  simp only [nearest, ulpExponent, abs_neg, neg_div, roundEven_neg, Int.cast_neg, neg_mul]

theorem abs_nearest_sub_le (x : ℚ) : |nearest x - x| ≤ 2 ^ ulpExponent x / 2 := by
  have positive : (0 : ℚ) < 2 ^ ulpExponent x := by positivity
  have scaled : nearest x - x =
      (roundEven (x / 2 ^ ulpExponent x) - x / 2 ^ ulpExponent x) * 2 ^ ulpExponent x := by
    rw [nearest, sub_mul, div_mul_cancel₀ x positive.ne']
  rw [scaled, abs_mul, abs_of_pos positive]
  have error := mul_le_mul_of_nonneg_right
    (abs_roundEven_sub_le (x / 2 ^ ulpExponent x)) positive.le
  linarith

@[simp] theorem nearest_zero : nearest 0 = 0 := by simp [nearest, roundEven]

theorem ulp_le {x : ℚ} (nonzero : x ≠ 0) :
    (2 : ℚ) ^ ulpExponent x ≤ |x| / 2 ^ 52 + 2 ^ (-1074 : ℤ) := by
  have least : (0 : ℚ) < 2 ^ (-1074 : ℤ) := by positivity
  rcases max_choice (Int.log 2 |x| - 52) (-1074) with normal | subnormal
  · have size : (2 : ℚ) ^ Int.log 2 |x| ≤ |x| := Int.zpow_log_le_self (by norm_num) (by positivity)
    have scaled : (2 : ℚ) ^ (Int.log 2 |x| - 52) = 2 ^ Int.log 2 |x| / 2 ^ 52 := by
      rw [zpow_sub₀ (by norm_num)]
      norm_cast
    rw [ulpExponent, normal, scaled]
    linarith [div_le_div_of_nonneg_right size (by positivity : (0 : ℚ) ≤ 2 ^ 52)]
  · rw [ulpExponent, subnormal]
    have : 0 ≤ |x| / 2 ^ 52 := by positivity
    linarith

/-- The error of rounding: half a unit in the last place, of a number of any size. -/
theorem nearest_error (x : ℚ) : |nearest x - x| ≤ |x| / 2 ^ 53 + 2 ^ (-1075 : ℤ) := by
  by_cases zero : x = 0
  · subst zero
    rw [nearest_zero, sub_zero, abs_zero, zero_div, zero_add]
    positivity
  · have half : (2 : ℚ) ^ (-1074 : ℤ) = 2 * 2 ^ (-1075 : ℤ) := by
      rw [← zpow_one_add₀ (by norm_num)]
      rfl
    have error := abs_nearest_sub_le x
    have unit := ulp_le zero
    rw [half] at unit
    linarith

theorem abs_nearest_le (x : ℚ) : |nearest x| ≤ |x| + |x| / 2 ^ 53 + 2 ^ (-1075 : ℤ) := by
  have error := nearest_error x
  have triangle := abs_sub_abs_le_abs_sub (nearest x) x
  linarith

theorem least_half_ulp_lt : (2 : ℚ) ^ (-1075 : ℤ) < 1 / 1024 :=
  calc (2 : ℚ) ^ (-1075 : ℤ) < 2 ^ (-10 : ℤ) := zpow_lt_zpow_right₀ (by norm_num) (by norm_num)
    _ = 1 / 1024 := by norm_num

theorem log_of_floor {m : ℕ} (positive : 0 < m) {y : ℚ} (floor : ⌊y⌋ = m) (e : ℤ) :
    Int.log 2 |y * 2 ^ e| = Nat.log2 m + e := by
  have scale : (0 : ℚ) < 2 ^ e := by positivity
  obtain ⟨above, below⟩ := Int.floor_eq_iff.mp floor
  rw [Int.cast_natCast] at above below
  have size : 0 < y * 2 ^ e :=
    mul_pos ((Nat.cast_pos (α := ℚ).mpr positive).trans_le above) scale
  have least : ((2 ^ m.log2 : ℕ) : ℚ) ≤ m := by exact_mod_cast Nat.log2_self_le positive.ne'
  have most : (m : ℚ) + 1 ≤ (2 ^ (m.log2 + 1) : ℕ) := by
    exact_mod_cast Nat.succ_le_of_lt Nat.lt_log2_self
  have low : ((2 ^ m.log2 : ℕ) : ℚ) ≤ y := least.trans above
  have high : y < (2 ^ (m.log2 + 1) : ℕ) := below.trans_le most
  rw [abs_of_pos size]
  apply le_antisymm
  · rw [← Int.lt_add_one_iff, ← Int.lt_zpow_iff_log_lt (by norm_num) size]
    rw [add_right_comm, zpow_add₀ (by norm_num)]
    exact mul_lt_mul_of_pos_right (by exact_mod_cast high) scale
  · rw [← Int.zpow_le_iff_le_log (by norm_num) size, zpow_add₀ (by norm_num)]
    exact mul_le_mul_of_nonneg_right (by exact_mod_cast low) scale.le

theorem log_mul_zpow {m : ℕ} (positive : 0 < m) (e : ℤ) :
    Int.log 2 |(m : ℚ) * 2 ^ e| = Nat.log2 m + e :=
  log_of_floor positive (Int.floor_natCast m) e

theorem ulpExponent_of_small {y : ℚ} (above : 0 < y) (below : y < 1) {e : ℤ} (least : e ≤ -1074) :
    ulpExponent (y * 2 ^ e) = -1074 := by
  have scale : (0 : ℚ) < 2 ^ e := by positivity
  have size : y * 2 ^ e < 2 ^ e := mul_lt_of_lt_one_left scale below
  have log : Int.log 2 (y * 2 ^ e) < e :=
    (Int.lt_zpow_iff_log_lt (by norm_num) (mul_pos above scale)).mp size
  rw [ulpExponent, abs_of_pos (mul_pos above scale)]
  omega

/-- The target exponent of a mantissa is that of the number it was cut from. So it is without a
mantissa too, if the exponent lies no higher than that of the least float. -/
theorem targetExponent_of_floor {m : ℕ} {y : ℚ} (floor : ⌊y⌋ = m) (above : 0 < y) {e : ℤ}
    (wide : 0 < m ∨ e ≤ -1074) :
    Format.binary64.targetExponent (totalExponent m e) = ulpExponent (y * 2 ^ e) := by
  have target : Format.binary64.targetExponent (totalExponent m e) =
      max ((m.log2 : ℤ) + 1 + e - 53) (-1074) := rfl
  rw [target]
  rcases m.eq_zero_or_pos with rfl | positive
  · have below : y < 1 := by simpa using (Int.floor_eq_iff.mp floor).2
    have least := wide.resolve_left (Nat.lt_irrefl 0)
    rw [ulpExponent_of_small above below least, Nat.log2_zero, Nat.cast_zero]
    omega
  · rw [ulpExponent, log_of_floor positive floor]
    omega

theorem targetExponent_eq {m : ℕ} (positive : 0 < m) (e : ℤ) :
    Format.binary64.targetExponent (totalExponent m e) = ulpExponent (m * 2 ^ e) :=
  targetExponent_of_floor (Int.floor_natCast m) (Nat.cast_pos.mpr positive) (.inl positive)

/-- A mantissa shifted up to an exponent stands for the same number at that scale. -/
theorem shiftToExponent_spec {m : ℕ} {accuracy : Accuracy} {y : ℚ}
    (near : Approximates (ExtendedMantissa.ofMantissaAndAccuracy m accuracy) y) {e t : ℤ}
    (up : e ≤ t) :
    (shiftToExponent m e accuracy t).2 = t ∧
    Approximates (shiftToExponent m e accuracy t).1 (y * 2 ^ e / 2 ^ t) := by
  have amount : ((t - e).toNat : ℤ) = t - e := Int.toNat_of_nonneg (by omega)
  constructor
  · simp only [shiftToExponent, amount]
    omega
  · have shifted := near.shiftRight (t - e).toNat
    have scale : y * 2 ^ e / 2 ^ t = y / 2 ^ (t - e).toNat := by
      rw [← zpow_natCast, amount, zpow_sub₀ (by norm_num)]
      field_simp
    rw [scale]
    exact shifted

/-- A rounded mantissa fits its 53 bits, or is the one number just beyond them; it fills them
unless the exponent is at its end. -/
theorem roundEven_div_ulp {x : ℚ} (positive : 0 < x) :
    roundEven (x / 2 ^ ulpExponent x) ≤ 2 ^ 53 ∧
    (2 ^ 52 ≤ roundEven (x / 2 ^ ulpExponent x) ∨ ulpExponent x = -1074) := by
  have scale : (0 : ℚ) < 2 ^ ulpExponent x := by positivity
  obtain ⟨floor, above⟩ := floor_le_roundEven (x / 2 ^ ulpExponent x)
  have log := abs_of_pos positive
  constructor
  · have exponent : Int.log 2 x < ulpExponent x + 53 := by
      rw [ulpExponent, log]
      omega
    have size : x < 2 ^ (ulpExponent x + 53) :=
      (Int.lt_zpow_iff_log_lt (by norm_num) positive).mpr exponent
    have bound : x / 2 ^ ulpExponent x < ((2 ^ 53 : ℤ) : ℚ) := by
      rw [div_lt_iff₀ scale]
      rw [add_comm, zpow_add₀ (by norm_num)] at size
      exact_mod_cast size
    have := Int.floor_lt.mpr bound
    omega
  · by_cases least : ulpExponent x = -1074
    · exact .inr least
    · have exponent : ulpExponent x + 52 ≤ Int.log 2 x := by
        rw [ulpExponent, log] at least ⊢
        omega
      have size : 2 ^ (ulpExponent x + 52) ≤ x :=
        (Int.zpow_le_iff_le_log (by norm_num) positive).mpr exponent
      have bound : ((2 ^ 52 : ℤ) : ℚ) ≤ x / 2 ^ ulpExponent x := by
        rw [le_div_iff₀ scale]
        rw [add_comm, zpow_add₀ (by norm_num)] at size
        exact_mod_cast size
      exact .inl ((Int.le_floor.mpr bound).trans floor)

theorem ulpExponent_mono {x y : ℚ} (positive : 0 < x) (order : x ≤ y) :
    ulpExponent x ≤ ulpExponent y := by
  have log := Int.log_mono_right (b := 2) positive order
  rw [ulpExponent, ulpExponent, abs_of_pos positive, abs_of_pos (positive.trans_le order)]
  omega

theorem nearest_nonneg {x : ℚ} (sign : 0 ≤ x) : 0 ≤ nearest x := by
  have scale : (0 : ℚ) < 2 ^ ulpExponent x := by positivity
  have whole : 0 ≤ roundEven (x / 2 ^ ulpExponent x) :=
    (Int.floor_nonneg.mpr (div_nonneg sign scale.le)).trans (floor_le_roundEven _).1
  exact mul_nonneg (by exact_mod_cast whole) scale.le

/-- With the same last place, rounding is that of the quotients. Otherwise a power of two lies
between the two numbers, and rounding passes it from neither side. -/
theorem nearest_mono_pos {x y : ℚ} (positive : 0 < x) (order : x ≤ y) : nearest x ≤ nearest y := by
  have above := positive.trans_le order
  have scale (e : ℤ) : (0 : ℚ) < 2 ^ e := by positivity
  rcases (ulpExponent_mono positive order).eq_or_lt with same | lower
  · have rounded := roundEven_mono (div_le_div_of_nonneg_right order (scale (ulpExponent y)).le)
    rw [nearest, nearest, same]
    exact mul_le_mul_of_nonneg_right (by exact_mod_cast rounded) (scale _).le
  · have most := (roundEven_div_ulp positive).1
    have least : 2 ^ 52 ≤ roundEven (y / 2 ^ ulpExponent y) := by
      have bottom : -1074 ≤ ulpExponent x := le_max_right _ _
      exact (roundEven_div_ulp above).2.resolve_right (by omega)
    calc nearest x ≤ 2 ^ 53 * 2 ^ ulpExponent x :=
          mul_le_mul_of_nonneg_right (by exact_mod_cast most) (scale _).le
      _ = 2 ^ 52 * 2 ^ (ulpExponent x + 1) := by
          rw [zpow_add_one₀ (by norm_num)]
          ring
      _ ≤ 2 ^ 52 * 2 ^ ulpExponent y :=
          mul_le_mul_of_nonneg_left (zpow_le_zpow_right₀ (by norm_num) (by omega)) (by positivity)
      _ ≤ nearest y := mul_le_mul_of_nonneg_right (by exact_mod_cast least) (scale _).le

theorem nearest_mono : Monotone nearest := by
  intro x y order
  rcases lt_or_ge 0 x with positive | low
  · exact nearest_mono_pos positive order
  · have below : nearest x ≤ 0 := by
      have mirrored := nearest_nonneg (neg_nonneg.mpr low)
      rw [nearest_neg] at mirrored
      linarith
    rcases lt_or_ge y 0 with negative | high
    · have mirrored := nearest_mono_pos (neg_pos.mpr negative) (neg_le_neg order)
      rw [nearest_neg, nearest_neg] at mirrored
      linarith
    · exact below.trans (nearest_nonneg high)

end TabletUpkeep
