import Mathlib
import TabletUpkeep.Schedule.Sweep
import TabletUpkeep.State.UsageGauge

/-! Usage ratios as floats. A gauge gives back the very bits that were stored, since no float has
the pattern of an empty gauge; and a number is other than its clamp exactly when it lies outside
the unit range. The order is that of the float format, where the two zeros are equal and nothing
compares with what is not a number. -/
namespace TabletUpkeep

open Float.Model Float.Model.UnpackedFloat

/-- The pattern of an empty gauge is none of a float: it would be not a number, and there is but
one pattern of those. -/
theorem toBits_ne_empty (x : Float) : x.toBits ≠ 0xffffffffffffffff := by
  intro empty
  have valid := x.toModel.valid
  change x.toModel.toBits = _ at empty
  rw [empty] at valid
  have only := valid.eq_packedNaN (by decide) (by decide)
  revert only
  decide

theorem UsageGauge.read_set (g : UsageGauge) (usage : Float) :
    (g.set usage).read = some usage := by
  simp only [read, set, toBits_ne_empty, ↓reduceIte, Float.ofBits_toBits]

theorem float_lt_iff (x y : Float) :
    x < y ↔ x.toModel.unpack.compare y.toModel.unpack = some .lt :=
  decide_eq_true_iff.trans beq_iff_eq

theorem beq_false_of_lt {x y : Float} (less : x < y) : (x == y) = false := by
  rw [float_lt_iff] at less
  show (x.toModel.unpack.compare y.toModel.unpack == some .eq) = false
  rw [less]
  rfl

theorem not_lt_of_isNaN {x : Float} (nan : x.isNaN = true) (y : Float) : ¬ x < y ∧ ¬ y < x := by
  have marked : x.toModel.unpack = .notANumber := isNaN_iff.mp nan
  simp only [float_lt_iff, marked]
  cases y.toModel.unpack <;> exact ⟨nofun, nofun⟩

/-- A number is other than its clamp exactly when it lies outside the unit range. -/
theorem clampUnit_bne_iff {x : Float} (number : x.isNaN = false) :
    (clampUnit x != x) = true ↔ x < 0.0 ∨ 1.0 < x := by
  unfold clampUnit
  by_cases low : x < 0.0
  · simp only [low, ↓reduceIte, true_or, iff_true]
    rw [bne, BEq.comm, beq_false_of_lt low]
    rfl
  by_cases high : 1.0 < x
  · simp only [low, high, ↓reduceIte, or_true, iff_true]
    rw [bne, beq_false_of_lt high]
    rfl
  · have same : (x == x) = true := Float.beq_self_iff.mpr (by simpa using number)
    simp only [low, high, ↓reduceIte, bne, same]
    decide

end TabletUpkeep
