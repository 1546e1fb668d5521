import TabletUpkeep.Proofs.FloatOrder
import TabletUpkeep.Proofs.WaitBounds

/-! The fuller the disk, the sooner the next sweep. Each operation of the curve keeps the order of
floats or turns it round, and it is turned once. Of the arctangent it is taken for granted that it
rises, and of the curve that it leaves a hundredth of the interval over on an empty disk. -/
namespace TabletUpkeep

open Float.Model Float.Model.UnpackedFloat

theorem isNaN_eq_false {x : Float} (number : x.toModel.unpack ≠ notANumber) : x.isNaN = false := by
  rw [← Bool.not_eq_true]
  exact fun nan => number (isNaN_iff.mp nan)

theorem Denotes.clampUnit {x : Float} {q : ℚ} (denotes : Denotes x q) :
    Denotes (clampUnit x) (max 0 (min q 1)) := by
  unfold TabletUpkeep.clampUnit
  split_ifs with low high
  · have below := (denotes.lt_iff denotes_zero).mp low
    rw [max_eq_left ((min_le_left q 1).trans below.le)]
    exact denotes_zero
  · have above := (denotes_one.lt_iff denotes).mp high
    rw [min_eq_right above.le, max_eq_right zero_le_one]
    exact denotes_one
  · rw [denotes.lt_iff denotes_zero, not_lt] at low
    have below := not_lt.mp fun above => high ((denotes_one.lt_iff denotes).mpr above)
    rw [min_eq_left below, max_eq_right low]
    exact denotes

theorem clampUnit_least {x : Float} (low : x.toModel.unpack = infinity .negative) :
    clampUnit x = 0.0 := by
  have below : x < 0.0 := by
    rw [float_lt_iff, low]
    rfl
  rw [clampUnit, if_pos below]

theorem clampUnit_greatest {x : Float} (high : x.toModel.unpack = infinity .positive) :
    clampUnit x = 1.0 := by
  have above : x > 1.0 := by
    change 1.0 < x
    rw [float_lt_iff, high]
    rfl
  have not_below : ¬ x < 0.0 := by
    rw [float_lt_iff, high]
    exact nofun
  rw [clampUnit, if_neg not_below, if_pos above]

theorem clampUnit_mono {x y : Float} (order : x ≤ y) : clampUnit x ≤ clampUnit y := by
  cases below_of_le order with
  | numbers left right order =>
    rw [left.clampUnit.le_iff right.clampUnit]
    exact max_le_max_left 0 (min_le_min_right 1 order)
  | least low number =>
    rw [clampUnit_least low]
    exact (clampUnit_inUnit (isNaN_eq_false number)).1
  | greatest number high =>
    rw [clampUnit_greatest high]
    exact (clampUnit_inUnit (isNaN_eq_false number)).2

section

variable {arctan : Float → Float} (rising : ∀ x y, x ≤ y → arctan x ≤ arctan y)

include rising

theorem unclampedCurve_falls {u v : Float} (order : u ≤ v) :
    unclampedCurve arctan v ≤ unclampedCurve arctan u := by
  obtain ⟨hundred, percent, pos₁⟩ := denotes_pos (c := 100.0) (by decide) (by decide)
  obtain ⟨five, fifth, pos₂⟩ := denotes_pos (c := 5.0) (by decide) (by decide)
  obtain ⟨fourteen, shift, pos₃⟩ := denotes_pos (c := 14.0) (by decide) (by decide)
  obtain ⟨quarter, right, pos₄⟩ := denotes_pos (c := halfPi) (by decide +kernel) (by decide +kernel)
  obtain ⟨stretch, factor, pos₅⟩ := denotes_pos (c := 1.1) (by decide +kernel) (by decide +kernel)
  obtain ⟨drop, less, pos₆⟩ := denotes_pos (c := 0.28) (by decide +kernel) (by decide +kernel)
  obtain ⟨half, circle, pos₇⟩ := denotes_pos (c := pi) (by decide +kernel) (by decide +kernel)
  have argument : u * 100.0 / 5.0 - 14.0 ≤ v * 100.0 / 5.0 - 14.0 :=
    (rises_sub_right shift pos₃).mono
      ((rises_div_right fifth pos₂).mono ((rises_mul_right percent pos₁).mono order))
  have turned : halfPi - arctan (v * 100.0 / 5.0 - 14.0) ≤
      halfPi - arctan (u * 100.0 / 5.0 - 14.0) :=
    sub_left_le right pos₄ (rising _ _ argument)
  exact (rises_div_right circle pos₇).mono
    ((rises_sub_right less pos₆).mono ((rises_mul_left factor pos₅).mono turned))

theorem sweepCurve_falls {u v : Float} (order : u ≤ v) : sweepCurve arctan v ≤ sweepCurve arctan u :=
  clampUnit_mono (unclampedCurve_falls rising order)

/-- What is left over on an empty disk is left over on any other. -/
theorem tame_of_rising (room : sweepCurve arctan 0.0 ≤ 0.99) : Tame (sweepCurve arctan) := by
  obtain ⟨most, bound, -⟩ := denotes_pos (c := 0.99) (by decide +kernel) (by decide +kernel)
  have ratio (usage : Float) (number : usage ≤ usage) : InUnit (sweepCurve arctan usage) :=
    clampUnit_inUnit (isNaN_eq_false (ne_notANumber_of_le (unclampedCurve_falls rising number)).1)
  obtain ⟨low, high⟩ := ratio 0.0 (by decide)
  obtain ⟨r, empty, -, -⟩ := denotes_zero.between denotes_one low high
  intro usage inUnit
  obtain ⟨q, known, -, -⟩ := denotes_zero.between denotes_one inUnit.1 inUnit.2
  obtain ⟨low, high⟩ := ratio usage ((known.le_iff known).mpr le_rfl)
  obtain ⟨p, part, -, -⟩ := denotes_zero.between denotes_one low high
  refine ⟨low, (part.le_iff bound).mpr ?_⟩
  exact ((part.le_iff empty).mp (sweepCurve_falls rising inUnit.1)).trans
    ((empty.le_iff bound).mp room)

end

namespace SweepRange

theorem sweepSecs_ge (bounds : SweepRange) (curve : Float → Float) (usage : Float) :
    bounds.min ≤ bounds.sweepSecs curve usage := by
  rw [UInt64.le_iff_toNat_le, toNat_sweepSecs]
  exact le_max_right _ _

theorem toFloat_pos {n : UInt64} (positive : 1 ≤ n) : (0 : ℚ) < nearest n.toNat :=
  calc (0 : ℚ) < 1 := zero_lt_one
    _ = nearest 1 := (Represents.nearest_eq denotes_one).symm
    _ ≤ nearest n.toNat := nearest_mono (by exact_mod_cast UInt64.le_iff_toNat_le.mp positive)

/-- The interval goes down with the curve, for an upper bound of any size. -/
theorem sweepSecs_le {bounds : SweepRange} (least : 1 ≤ bounds.max) {curve : Float → Float}
    {u v : Float} (falls : curve v ≤ curve u) :
    bounds.sweepSecs curve v ≤ bounds.sweepSecs curve u := by
  have product : bounds.max.toFloat * curve v ≤ bounds.max.toFloat * curve u :=
    (rises_mul_left (Denotes.toFloat bounds.max) (toFloat_pos least)).mono falls
  have candidates := UInt64.le_iff_toNat_le.mp (toUInt64_le_toUInt64 product)
  rw [UInt64.le_iff_toNat_le, toNat_sweepSecs, toNat_sweepSecs]
  exact max_le_max_right _ candidates

/-- Between its bounds, and never longer for a fuller disk; and never below the lower bound,
whatever the usage is said to be. -/
theorem sweepSecs_antitone (arctan : Float → Float) (rising : ∀ x y, x ≤ y → arctan x ≤ arctan y)
    (room : sweepCurve arctan 0.0 ≤ 0.99) (bounds : SweepRange) (least : 1 ≤ bounds.min)
    (order : bounds.min ≤ bounds.max) :
    let secs := bounds.sweepSecs (sweepCurve arctan)
    (∀ u v, InUnit u → InUnit v → u ≤ v →
      bounds.min ≤ secs v ∧ secs v ≤ secs u ∧ secs u ≤ bounds.max) ∧
    ∀ u, bounds.min ≤ secs u := by
  intro secs
  refine ⟨?_, bounds.sweepSecs_ge _⟩
  intro u v inUnit _ fuller
  obtain ⟨low, high⟩ := tame_of_rising rising room u inUnit
  exact ⟨bounds.sweepSecs_ge _ v,
    sweepSecs_le (UInt64.le_trans least order) (sweepCurve_falls rising fuller),
    (sweepSecs_range order low high).2⟩

theorem arctanAtEnds_rising {x y : Float} (order : x ≤ y) :
    Supervisor.arctanAtEnds x ≤ Supervisor.arctanAtEnds y := by
  have below (negative : y < 0.0) : x < 0.0 := by
    cases below_of_le order with
    | numbers left right order =>
      rw [right.lt_iff denotes_zero] at negative
      exact (left.lt_iff denotes_zero).mpr (order.trans_lt negative)
    | least low _ =>
      rw [float_lt_iff, low]
      rfl
    | greatest _ high =>
      rw [float_lt_iff, high] at negative
      cases negative
  unfold Supervisor.arctanAtEnds
  split_ifs with first second second
  · decide +kernel
  · decide +kernel
  · exact absurd (below second) first
  · decide +kernel

/-- The greatest upper bound that settings can give is no float. On an empty disk the interval is
short of it by more than a hundredth, and on a full one there is nothing left of it. -/
theorem sweepSecs_at_ends :
    let bounds : SweepRange := ⟨1, 9223372036854775807⟩
    let secs := bounds.sweepSecs (sweepCurve Supervisor.arctanAtEnds)
    (∀ x y, x ≤ y → Supervisor.arctanAtEnds x ≤ Supervisor.arctanAtEnds y) ∧
    sweepCurve Supervisor.arctanAtEnds 0.0 ≤ 0.99 ∧ 1 ≤ bounds.min ∧ bounds.min ≤ bounds.max ∧
    secs 0.0 = 9093373900077418496 ∧ secs 1.0 = 1 ∧
    bounds.min ≤ secs 1.0 ∧ secs 1.0 ≤ secs 0.0 ∧ secs 0.0 ≤ bounds.max ∧
    bounds.min ≤ secs (0.0 / 0.0) := by
  intro bounds secs
  have rising : ∀ x y, x ≤ y → Supervisor.arctanAtEnds x ≤ Supervisor.arctanAtEnds y :=
    fun _ _ => arctanAtEnds_rising
  have room : sweepCurve Supervisor.arctanAtEnds 0.0 ≤ 0.99 := by decide +kernel
  obtain ⟨ordered, above⟩ := sweepSecs_antitone Supervisor.arctanAtEnds rising room bounds
    (by decide) (by decide)
  obtain ⟨low, between, high⟩ := ordered 0.0 1.0 ⟨by decide, by decide⟩ ⟨by decide, by decide⟩
    (by decide)
  exact ⟨rising, room, by decide, by decide, by decide +kernel, by decide +kernel, low, between,
    high, above (0.0 / 0.0)⟩

end SweepRange

end TabletUpkeep
