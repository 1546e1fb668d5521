import TabletUpkeep.Proofs.FloatValues
import TabletUpkeep.Schedule.Basic

/-! The sweep interval keeps to its bounds. They are in order after correction, whatever the
settings are, and a curve that stays below one leaves room for the errors of the float product, for
an upper bound of any size. -/
namespace TabletUpkeep

open Float.Model Float.Model.UnpackedFloat

/-- A usage ratio. -/
def InUnit (x : Float) : Prop := 0.0 ≤ x ∧ x ≤ 1.0

theorem inUnit_initial : InUnit initialUsage := ⟨by decide, by decide⟩

/-- A float that is not below zero nor above one is a number, unless it is none at all. -/
theorem inUnit_of_not_lt {x : Float} (number : x.isNaN = false) (low : ¬ x < 0.0)
    (high : ¬ 1.0 < x) : InUnit x := by
  have denotes : ∃ q, Denotes x q := by
    rw [float_lt_iff] at low high
    rcases denotes_or_special x with known | ⟨sign, infinite⟩ | nan
    · exact known
    · rw [infinite] at low high
      cases sign with
      | positive => exact absurd rfl high
      | negative => exact absurd rfl low
    · have unnumbered : x.isNaN = true := isNaN_iff.mpr nan
      rw [number] at unnumbered
      cases unnumbered
  obtain ⟨q, denotes⟩ := denotes
  rw [denotes.lt_iff denotes_zero] at low
  rw [denotes_one.lt_iff denotes] at high
  exact ⟨(denotes_zero.le_iff denotes).mpr (not_lt.mp low),
    (denotes.le_iff denotes_one).mpr (not_lt.mp high)⟩

theorem clampUnit_inUnit {x : Float} (number : x.isNaN = false) : InUnit (clampUnit x) := by
  unfold clampUnit
  split_ifs with low high
  · exact ⟨by decide, by decide⟩
  · exact ⟨by decide, by decide⟩
  · exact inUnit_of_not_lt number low high

/-- A curve whose values on usage ratios are a part of the interval, with a hundredth left over. -/
def Tame (curve : Float → Float) : Prop :=
  ∀ usage, InUnit usage → 0.0 ≤ curve usage ∧ curve usage ≤ 0.99

namespace SweepRange

theorem toNat_sweepSecs (bounds : SweepRange) (curve : Float → Float) (usage : Float) :
    (bounds.sweepSecs curve usage).toNat =
      Max.max (bounds.max.toFloat * curve usage).toUInt64.toNat bounds.min.toNat := by
  have larger : bounds.sweepSecs curve usage =
      if (bounds.max.toFloat * curve usage).toUInt64 ≤ bounds.min then bounds.min
      else (bounds.max.toFloat * curve usage).toUInt64 := rfl
  rw [larger]
  split_ifs with least
  · exact (max_eq_right (UInt64.le_iff_toNat_le.mp least)).symm
  · exact (max_eq_left (UInt64.le_iff_toNat_le.mp (UInt64.le_of_lt (UInt64.not_le.mp least)))).symm

theorem sweepSecs_range {bounds : SweepRange} (order : bounds.min ≤ bounds.max)
    {curve : Float → Float} {usage : Float} (low : 0.0 ≤ curve usage) (high : curve usage ≤ 0.99) :
    bounds.min ≤ bounds.sweepSecs curve usage ∧ bounds.sweepSecs curve usage ≤ bounds.max := by
  have product := toUInt64_mul_le bounds.max low high
  rw [UInt64.le_iff_toNat_le] at order product
  rw [UInt64.le_iff_toNat_le, UInt64.le_iff_toNat_le, toNat_sweepSecs]
  exact ⟨le_max_right _ _, max_le product order⟩

theorem toNat_toUInt64 {n : Int64} (positive : 0 < n) : (n.toUInt64.toNat : ℤ) = n.toInt := by
  have sign : 0 < n.toInt := Int64.lt_iff_toInt_lt.mp positive
  rw [Int64.toNat_toUInt64_of_le (Int64.le_iff_toInt_le.mpr sign.le)]
  exact Int.toNat_of_nonneg sign.le

theorem toUInt64_mono {m n : Int64} (positive : 0 < m) (order : m ≤ n) :
    0 < m.toUInt64 ∧ m.toUInt64 ≤ n.toUInt64 := by
  have low := toNat_toUInt64 positive
  have high := toNat_toUInt64 (Int64.lt_of_lt_of_le positive order)
  rw [Int64.lt_iff_toInt_lt, Int64.toInt_zero] at positive
  rw [Int64.le_iff_toInt_le] at order
  rw [UInt64.lt_iff_toNat_lt, UInt64.le_iff_toNat_le, UInt64.toNat_zero]
  omega

theorem check_valid {low high : Int64} (positive : 0 < low) (order : low ≤ high) :
    check low high = { applied := ⟨low.toUInt64, high.toUInt64⟩ } := by
  simp only [check, positive, order, decide_true, Bool.and_self, if_true]

theorem checked_valid {low high : Int64} (positive : 0 < low) (order : low ≤ high) :
    checked low high = (⟨low.toUInt64, high.toUInt64⟩, none) := by
  rw [checked, check_valid positive order]
  rfl

theorem checked_invalid {low high : Int64} (invalid : ¬ (0 < low ∧ low ≤ high)) :
    checked low high =
      (⟨1, if 1 ≤ high then high.toUInt64 else 1⟩,
       some (.sweep low high ⟨1, if 1 ≤ high then high.toUInt64 else 1⟩)) := by
  simp only [checked, check, Bool.and_eq_true, decide_eq_true_iff, if_neg invalid]
  rfl

/-- Whatever is configured, the bounds are those of settings that will do. -/
theorem checked_standing (low high : Int64) :
    ∃ least greatest : Int64, 0 < least ∧ least ≤ greatest ∧
      (checked low high).1 = ⟨least.toUInt64, greatest.toUInt64⟩ := by
  by_cases valid : 0 < low ∧ low ≤ high
  · exact ⟨low, high, valid.1, valid.2, by rw [checked_valid valid.1 valid.2]⟩
  · rw [checked_invalid valid]
    by_cases above : 1 ≤ high
    · exact ⟨1, high, by decide, above, by rw [if_pos above]; rfl⟩
    · exact ⟨1, 1, by decide, by decide, by rw [if_neg above]; rfl⟩

/-- The bounds that a node sweeps by are in order, whatever was configured. -/
theorem checked_order (low high : Int64) :
    0 < (checked low high).1.min ∧ (checked low high).1.min ≤ (checked low high).1.max := by
  obtain ⟨least, greatest, positive, order, standing⟩ := checked_standing low high
  rw [standing]
  exact toUInt64_mono positive order

end SweepRange

end TabletUpkeep
