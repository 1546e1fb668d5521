import TabletUpkeep.Disk.Usage
import TabletUpkeep.Proofs.SweepCurve

/-! Usage ratios as numbers. The ratio of two word counts is a number of the unit range, and it has
no minus sign even where it is zero. So two ratios that are the same number are the same float, and
they are in one line by size. -/
namespace TabletUpkeep

open Float.Model Float.Model.UnpackedFloat

/-- Neither below zero nor the zero with a minus sign. -/
inductive Unsigned : UnpackedFloat → Prop
  | zero : Unsigned (.zero .positive)
  | finite {m : ℕ} {e : ℤ} (positive : 0 < m) : Unsigned (.finite .positive m e positive)

theorem Represents.zero_eq {sign : Sign} {q : ℚ} (represents : Represents (.zero sign) q) :
    q = 0 := by
  cases represents
  rfl

theorem Represents.finite_eq {sign : Sign} {m : ℕ} {e : ℤ} {positive : 0 < m} {q : ℚ}
    (represents : Represents (.finite sign m e positive) q) :
    InFormat m e ∧ q = signed sign (m * 2 ^ e) := by
  cases represents with
  | finite _ _ fits => exact ⟨fits, rfl⟩

/-- Without a sign there is one float for each number. -/
theorem Unsigned.unique {f g : UnpackedFloat} {q : ℚ} (one : Unsigned f) (two : Unsigned g)
    (left : Represents f q) (right : Represents g q) : f = g := by
  cases one with
  | zero =>
    cases two with
    | zero => rfl
    | @finite n d pos =>
      have size : (0 : ℚ) < n * 2 ^ d := by positivity
      exact absurd (left.zero_eq.symm.trans right.finite_eq.2) size.ne
  | @finite m e positive =>
    obtain ⟨fits, value⟩ := left.finite_eq
    cases two with
    | zero =>
      have size : (0 : ℚ) < m * 2 ^ e := by positivity
      exact absurd (right.zero_eq.symm.trans value) size.ne
    | @finite n d pos =>
      obtain ⟨fits', value'⟩ := right.finite_eq
      have same : (m : ℚ) * 2 ^ e = n * 2 ^ d := value.symm.trans value'
      obtain rfl : e = d := by
        rw [← fits.ulpExponent_eq positive, same, fits'.ulpExponent_eq pos]
      have mantissa := mul_right_cancel₀ (by positivity : (2 : ℚ) ^ e ≠ 0) same
      exact finite_congr positive pos (by exact_mod_cast mantissa) rfl

theorem roundWithAccuracy_unsigned (m : ℕ) (e : ℤ) (accuracy : Accuracy) :
    Unsigned (roundWithAccuracy .binary64 .positive m e accuracy) := by
  change Unsigned (assembled .positive _ _)
  unfold assembled
  split_ifs
  · exact .zero
  · exact .finite _

theorem Unsigned.div {f g : UnpackedFloat} (left : Unsigned f) (right : Unsigned g)
    (nonzero : g ≠ .zero .positive) : Unsigned (UnpackedFloat.div .binary64 f g) := by
  cases right with
  | zero => exact absurd rfl nonzero
  | finite pos₂ =>
    cases left with
    | zero => exact .zero
    | finite pos₁ => exact roundWithAccuracy_unsigned _ _ _

theorem toFloat_finite {n : UInt64} (positive : 0 < n) :
    ∃ m e h, n.toFloat.toModel.unpack = finite .positive m e h :=
  (Denotes.toFloat n).finite_of_pos (SweepRange.toFloat_pos positive)

theorem toFloat_unsigned (n : UInt64) : Unsigned n.toFloat.toModel.unpack := by
  by_cases none : n = 0
  · subst none
    exact .zero
  · obtain ⟨m, e, h, form⟩ := toFloat_finite (UInt64.pos_iff_ne_zero.mpr none)
    rw [form]
    exact .finite h

/-- The float `x` is the number `q` of the unit range, without a sign. -/
structure Ratio (x : Float) (q : ℚ) : Prop where
  nonneg : 0 ≤ q
  le_one : q ≤ 1
  packed : ∃ f, Unsigned f ∧ Represents f q ∧ x = .ofModel (.pack f)

namespace Ratio

variable {x y : Float} {p q : ℚ}

theorem denotes (ratio : Ratio x q) : Denotes x q := by
  obtain ⟨f, -, represents, rfl⟩ := ratio.packed
  have bound : |q| < 2 ^ 1024 := by
    rw [abs_of_nonneg ratio.nonneg]
    exact ratio.le_one.trans_lt (one_lt_pow₀ (by norm_num) (by norm_num))
  have kept := represents.unpack_pack bound
  rw [← kept] at represents
  exact represents

theorem inUnit (ratio : Ratio x q) : InUnit x :=
  ⟨(denotes_zero.le_iff ratio.denotes).mpr ratio.nonneg,
    (ratio.denotes.le_iff denotes_one).mpr ratio.le_one⟩

theorem inj (left : Ratio x q) (right : Ratio y q) : x = y := by
  obtain ⟨f, one, represents, rfl⟩ := left.packed
  obtain ⟨g, two, again, rfl⟩ := right.packed
  rw [one.unique two represents again]

theorem clampUnit_eq (ratio : Ratio x q) : clampUnit x = x := by
  have low : ¬ x < 0.0 := by
    rw [ratio.denotes.lt_iff denotes_zero]
    exact ratio.nonneg.not_gt
  have high : ¬ 1.0 < x := by
    rw [denotes_one.lt_iff ratio.denotes]
    exact ratio.le_one.not_gt
  rw [clampUnit, if_neg low, if_neg high]

end Ratio

/-- Two counts of which the first is a part of the second have a ratio. -/
theorem div_ratio {part whole : UInt64} (within : part ≤ whole) (positive : 0 < whole) :
    Ratio (part.toFloat / whole.toFloat) (nearest (nearest part.toNat / nearest whole.toNat)) := by
  have whole_pos : (0 : ℚ) < nearest whole.toNat := SweepRange.toFloat_pos positive
  have part_le : nearest (part.toNat : ℚ) ≤ nearest whole.toNat :=
    nearest_mono (by exact_mod_cast UInt64.le_iff_toNat_le.mp within)
  have part_nonneg : 0 ≤ nearest (part.toNat : ℚ) := nearest_nonneg (Nat.cast_nonneg _)
  have one : nearest 1 = 1 := Represents.nearest_eq denotes_one
  refine ⟨nearest_nonneg (div_nonneg part_nonneg whole_pos.le), ?_, _, ?_,
    Represents.div (Denotes.toFloat part) (Denotes.toFloat whole) whole_pos.ne', rfl⟩
  · rw [← one]
    exact nearest_mono ((div_le_one whole_pos).mpr part_le)
  · obtain ⟨m, e, h, form⟩ := toFloat_finite positive
    exact (toFloat_unsigned part).div (toFloat_unsigned whole) (by rw [form]; exact nofun)

theorem usage_ratio (m : Mount) : ∃ q, Ratio m.usage q := by
  have ratio (some : (m.totalBytes == 0) ≠ true) (part : UInt64) (within : part ≤ m.totalBytes) :
      ∃ q, Ratio (clampUnit (part.toFloat / m.totalBytes.toFloat)) q := by
    have positive : 0 < m.totalBytes := UInt64.pos_iff_ne_zero.mpr (by simpa using some)
    have found := div_ratio within positive
    rw [found.clampUnit_eq]
    exact ⟨_, found⟩
  unfold Mount.usage
  split_ifs with empty less
  · exact ⟨0, le_rfl, zero_le_one, _, .zero, .zero _, rfl⟩
  · refine ratio empty _ (UInt64.le_iff_toNat_le.mpr ?_)
    rw [UInt64.toNat_sub_of_le _ _ less]
    exact Nat.sub_le _ _
  · exact ratio empty 0 (UInt64.le_iff_toNat_le.mpr (Nat.zero_le _))

end TabletUpkeep
