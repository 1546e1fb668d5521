import TabletUpkeep.Proofs.FloatArithmetic
import TabletUpkeep.Proofs.FloatValues

/-! Arithmetic with a constant keeps the order of floats, or turns it round. Rounding is monotone,
and a result too large for the format becomes the infinity on its side, so this holds of infinities
and of overflows as well. What is not a number is in no order with anything. -/
namespace TabletUpkeep

open Float.Model Float.Model.UnpackedFloat

/-- How one float comes before another: as a number, or by an infinity on the outer side. -/
inductive Below (x y : Float) : Prop
  | numbers {p q : ℚ} : Denotes x p → Denotes y q → p ≤ q → Below x y
  | least : x.toModel.unpack = infinity .negative → y.toModel.unpack ≠ notANumber → Below x y
  | greatest : x.toModel.unpack ≠ notANumber → y.toModel.unpack = infinity .positive → Below x y

theorem Denotes.ne_notANumber {x : Float} {q : ℚ} (denotes : Denotes x q) :
    x.toModel.unpack ≠ notANumber := by
  intro nan
  rw [Denotes, nan] at denotes
  cases denotes

theorem ne_notANumber_of_infinity {f : UnpackedFloat} {sign : Sign} (infinite : f = infinity sign) :
    f ≠ notANumber := by
  rw [infinite]
  exact UnpackedFloat.noConfusion

theorem Below.le {x y : Float} (below : Below x y) : x ≤ y := by
  cases below with
  | numbers left right order => exact (left.le_iff right).mpr order
  | least low number =>
    rw [float_le_iff, low]
    cases form : y.toModel.unpack with
    | notANumber => exact absurd form number
    | infinity sign => cases sign <;> rfl
    | zero sign => rfl
    | finite sign m e positive => rfl
  | greatest number high =>
    rw [float_le_iff, high]
    cases form : x.toModel.unpack with
    | notANumber => exact absurd form number
    | infinity sign => cases sign <;> rfl
    | zero sign => rfl
    | finite sign m e positive => rfl

/-- Only numbers and infinities are in order with anything. -/
theorem ne_notANumber_of_le {x y : Float} (order : x ≤ y) :
    x.toModel.unpack ≠ notANumber ∧ y.toModel.unpack ≠ notANumber := by
  rw [float_le_iff] at order
  constructor
  · intro nan
    rw [nan] at order
    cases order
  · intro nan
    rw [nan] at order
    cases form : x.toModel.unpack <;> rw [form] at order <;> cases order

/-- Nothing is above the upper infinity. -/
theorem eq_infinity_of_le {x y : Float} (high : x.toModel.unpack = infinity .positive)
    (order : x ≤ y) : y.toModel.unpack = infinity .positive := by
  rw [float_le_iff, high] at order
  cases form : y.toModel.unpack with
  | infinity sign =>
    rw [form] at order
    cases sign with
    | positive => rfl
    | negative => cases order
  | notANumber => rw [form] at order; cases order
  | zero sign => rw [form] at order; cases order
  | finite sign m e positive => rw [form] at order; cases order

theorem not_le_of_infinity {x y : Float} {p : ℚ} (denotes : Denotes x p)
    (low : y.toModel.unpack = infinity .negative) : ¬ x ≤ y := by
  rw [float_le_iff, low]
  unfold Denotes at denotes
  generalize x.toModel.unpack = f at denotes
  cases denotes <;> exact Bool.false_ne_true

theorem below_of_le {x y : Float} (order : x ≤ y) : Below x y := by
  obtain ⟨number, number'⟩ := ne_notANumber_of_le order
  rcases denotes_or_special x with ⟨p, left⟩ | ⟨_ | _, infinite⟩ | nan
  · rcases denotes_or_special y with ⟨q, right⟩ | ⟨_ | _, infinite⟩ | nan
    · exact .numbers left right ((left.le_iff right).mp order)
    · exact absurd order (not_le_of_infinity left infinite)
    · exact .greatest number infinite
    · exact absurd nan number'
  · exact .least infinite number'
  · exact .greatest number (eq_infinity_of_le infinite order)
  · exact absurd nan number

/-- The float `x` is what `q` is rounded to: the nearest one, or an infinity if that lies beyond the
format. -/
def Rounds (q : ℚ) (x : Float) : Prop :=
  ∃ f, Represents f (nearest q) ∧
    x.toModel.unpack = UnpackedFloat.unpack .binary64 (UnpackedFloat.pack .binary64 f)

namespace Rounds

variable {x y : Float} {p q : ℚ}

theorem cases (rounds : Rounds q x) :
    (|nearest q| < 2 ^ 1024 ∧ Denotes x (nearest q)) ∨
    ∃ sign r, 2 ^ 1024 ≤ r ∧ nearest q = signed sign r ∧ x.toModel.unpack = infinity sign := by
  obtain ⟨f, represents, packed⟩ := rounds
  rcases represents.unpack_pack_cases with ⟨bound, kept⟩ | ⟨sign, r, far, value, infinite⟩
  · rw [kept] at packed
    exact .inl ⟨bound, by rwa [Denotes, packed]⟩
  · exact .inr ⟨sign, r, far, value, packed.trans infinite⟩

theorem ne_notANumber (rounds : Rounds q x) : x.toModel.unpack ≠ notANumber := by
  rcases rounds.cases with ⟨-, denotes⟩ | ⟨sign, r, -, -, infinite⟩
  · exact denotes.ne_notANumber
  · exact ne_notANumber_of_infinity infinite

/-- What is rounded to an infinity lies beyond all that is rounded to a number. -/
theorem mono (left : Rounds p x) (right : Rounds q y) (order : p ≤ q) : x ≤ y := by
  have rounded := nearest_mono order
  have number := left.ne_notANumber
  have number' := right.ne_notANumber
  have top : (0 : ℚ) < 2 ^ 1024 := by positivity
  apply Below.le
  rcases left.cases with ⟨bound, denotes⟩ | ⟨_ | _, r, far, value, infinite⟩
  · rcases right.cases with ⟨-, denotes'⟩ | ⟨_ | _, r, far, value, infinite⟩
    · exact .numbers denotes denotes' rounded
    · rw [value, signed] at rounded
      exact absurd rounded (not_le.mpr (abs_lt.mp (bound.trans_le far)).1)
    · exact .greatest number infinite
  · exact .least infinite number'
  · rw [value, signed] at rounded
    rcases right.cases with ⟨bound, -⟩ | ⟨_ | _, s, far', value', infinite'⟩
    · exact absurd rounded (not_le.mpr (abs_lt.mp (bound.trans_le far)).2)
    · rw [value', signed] at rounded
      have above := top.trans_le far
      have above' := top.trans_le far'
      linarith only [rounded, above, above']
    · exact .greatest number infinite'

end Rounds

namespace Denotes

variable {x y : Float} {p q : ℚ}

theorem mul_rounds (left : Denotes x p) (right : Denotes y q) : Rounds (p * q) (x * y) :=
  ⟨_, Represents.mul left right, rfl⟩

theorem sub_rounds (left : Denotes x p) (right : Denotes y q) : Rounds (p - q) (x - y) :=
  ⟨_, Represents.sub left right, rfl⟩

theorem div_rounds (left : Denotes x p) (right : Denotes y q) (nonzero : q ≠ 0) :
    Rounds (p / q) (x / y) :=
  ⟨_, Represents.div left right nonzero, rfl⟩

end Denotes

/-- The operation `op` is the rounding of a rising function of numbers, and leaves infinities as
they are. -/
structure Rises (op : Float → Float) (φ : ℚ → ℚ) : Prop where
  rising : Monotone φ
  number : ∀ {x q}, Denotes x q → Rounds (φ q) (op x)
  infinite : ∀ {x sign}, x.toModel.unpack = infinity sign → (op x).toModel.unpack = infinity sign

namespace Rises

variable {op : Float → Float} {φ : ℚ → ℚ}

theorem ne_notANumber (rises : Rises op φ) {x : Float} (number : x.toModel.unpack ≠ notANumber) :
    (op x).toModel.unpack ≠ notANumber := by
  rcases denotes_or_special x with ⟨q, denotes⟩ | ⟨sign, infinite⟩ | nan
  · exact (rises.number denotes).ne_notANumber
  · exact ne_notANumber_of_infinity (rises.infinite infinite)
  · exact absurd nan number

theorem mono (rises : Rises op φ) {x y : Float} (order : x ≤ y) : op x ≤ op y := by
  cases below_of_le order with
  | numbers left right order =>
    exact (rises.number left).mono (rises.number right) (rises.rising order)
  | least low number => exact (Below.least (rises.infinite low) (rises.ne_notANumber number)).le
  | greatest number high =>
    exact (Below.greatest (rises.ne_notANumber number) (rises.infinite high)).le

end Rises

section

variable {c : Float} {q : ℚ}

/-- A positive number is of positive sign. -/
theorem Denotes.finite_of_pos (denotes : Denotes c q) (positive : 0 < q) :
    ∃ m e h, c.toModel.unpack = finite .positive m e h := by
  unfold Denotes at denotes
  generalize c.toModel.unpack = f at denotes
  cases denotes with
  | zero _ => exact absurd positive (lt_irrefl 0)
  | @finite sign m e pos fits =>
    cases sign with
    | positive => exact ⟨m, e, pos, rfl⟩
    | negative =>
      have negative : signed .negative ((m : ℚ) * 2 ^ e) < 0 := neg_neg_of_pos (by positivity)
      exact absurd positive negative.not_gt

/-- What an operation makes of an infinity beside every positive number, it makes of it beside this
one. -/
theorem Denotes.infinite_beside (denotes : Denotes c q) (positive : 0 < q) {x y : Float}
    {sign other : Sign} {f : UnpackedFloat → UnpackedFloat → UnpackedFloat}
    (ends : ∀ m e h, f (infinity sign) (finite .positive m e h) = infinity other)
    (infinite : x.toModel.unpack = infinity sign)
    (packed : y.toModel.unpack = UnpackedFloat.unpack .binary64
      (UnpackedFloat.pack .binary64 (f x.toModel.unpack c.toModel.unpack))) :
    y.toModel.unpack = infinity other := by
  obtain ⟨m, e, h, form⟩ := denotes.finite_of_pos positive
  rw [packed, infinite, form, ends, unpack_pack_infinity]

theorem rises_mul_right (denotes : Denotes c q) (positive : 0 < q) : Rises (· * c) (· * q) where
  rising _ _ order := mul_le_mul_of_nonneg_right order positive.le
  number known := known.mul_rounds denotes
  infinite {_ sign} infinite :=
    denotes.infinite_beside positive (f := UnpackedFloat.mul .binary64)
      (fun _ _ _ => by cases sign <;> rfl) infinite rfl

theorem rises_mul_left (denotes : Denotes c q) (positive : 0 < q) : Rises (c * ·) (q * ·) where
  rising _ _ order := mul_le_mul_of_nonneg_left order positive.le
  number known := denotes.mul_rounds known
  infinite {_ sign} infinite :=
    denotes.infinite_beside positive (f := fun g h => UnpackedFloat.mul .binary64 h g)
      (fun _ _ _ => by cases sign <;> rfl) infinite rfl

theorem rises_div_right (denotes : Denotes c q) (positive : 0 < q) : Rises (· / c) (· / q) where
  rising _ _ order := div_le_div_of_nonneg_right order positive.le
  number known := known.div_rounds denotes positive.ne'
  infinite {_ sign} infinite :=
    denotes.infinite_beside positive (f := UnpackedFloat.div .binary64)
      (fun _ _ _ => by cases sign <;> rfl) infinite rfl

theorem rises_sub_right (denotes : Denotes c q) (positive : 0 < q) : Rises (· - c) (· - q) where
  rising _ _ order := sub_le_sub_right order q
  number known := known.sub_rounds denotes
  infinite infinite :=
    denotes.infinite_beside positive (f := UnpackedFloat.sub .binary64) (fun _ _ _ => rfl)
      infinite rfl

theorem sub_infinity {x : Float} {sign : Sign} (denotes : Denotes c q) (positive : 0 < q)
    (infinite : x.toModel.unpack = infinity sign) : (c - x).toModel.unpack = infinity (-sign) :=
  denotes.infinite_beside positive (f := fun g h => UnpackedFloat.sub .binary64 h g)
    (fun _ _ _ => rfl) infinite rfl

theorem sub_ne_notANumber {x : Float} (denotes : Denotes c q) (positive : 0 < q)
    (number : x.toModel.unpack ≠ notANumber) : (c - x).toModel.unpack ≠ notANumber := by
  rcases denotes_or_special x with ⟨r, known⟩ | ⟨sign, infinite⟩ | nan
  · exact (denotes.sub_rounds known).ne_notANumber
  · exact ne_notANumber_of_infinity (sub_infinity denotes positive infinite)
  · exact absurd nan number

/-- Taken from a constant, floats turn their order round. -/
theorem sub_left_le (denotes : Denotes c q) (positive : 0 < q) {x y : Float} (order : x ≤ y) :
    c - y ≤ c - x := by
  cases below_of_le order with
  | numbers left right order =>
    exact (denotes.sub_rounds right).mono (denotes.sub_rounds left) (sub_le_sub_left order q)
  | least low number =>
    exact (Below.greatest (sub_ne_notANumber denotes positive number)
      (sub_infinity denotes positive low)).le
  | greatest number high =>
    exact (Below.least (sub_infinity denotes positive high)
      (sub_ne_notANumber denotes positive number)).le

/-- A float above zero that is not infinite is a positive number. -/
theorem denotes_pos (finite : c.isFinite = true) (above : 0.0 < c) :
    ∃ q, Denotes c q ∧ 0 < q := by
  rcases denotes_or_special c with ⟨q, denotes⟩ | ⟨sign, infinite⟩ | nan
  · exact ⟨q, denotes, (denotes_zero.lt_iff denotes).mp above⟩
  · change c.toModel.unpack.isFinite = true at finite
    rw [infinite] at finite
    cases finite
  · change c.toModel.unpack.isFinite = true at finite
    rw [nan] at finite
    cases finite

end

/-- The way to a whole number keeps the order too, the infinities going to its ends. -/
theorem toUInt64_le_toUInt64 {x y : Float} (order : x ≤ y) : x.toUInt64 ≤ y.toUInt64 := by
  rw [UInt64.le_iff_toNat_le]
  cases below_of_le order with
  | numbers left right order =>
    rw [left.toUInt64, right.toUInt64, toNat_ofNatClamp, toNat_ofNatClamp]
    exact min_le_min_right _ (Int.toNat_le_toNat (Int.floor_mono order))
  | least low number =>
    have none : x.toUInt64 = 0 := by
      change x.toModel.unpack.toUInt64 = 0
      rw [low]
      rfl
    rw [none]
    exact Nat.zero_le _
  | greatest number high =>
    have all : y.toUInt64 = 18446744073709551615 := by
      change y.toModel.unpack.toUInt64 = _
      rw [high]
      rfl
    rw [all]
    exact Nat.le_of_lt_succ x.toUInt64.toNat_lt

end TabletUpkeep
