import TabletUpkeep.Proofs.FloatOperations

/-! Packed floats. Every number among the floats comes unpacked in its one form. A float in that form
is after packing what it was, or the infinity of its sign if it is too large. -/
namespace TabletUpkeep

open Float.Model Float.Model.UnpackedFloat

theorem toNat_implicit (m : BitVec 52) : (1#1 ++ m).toNat = 2 ^ 52 + m.toNat := by
  rw [BitVec.toNat_append, ← Nat.shiftLeft_add_eq_or_of_lt m.isLt]
  simp [Nat.shiftLeft_eq]

theorem finite_congr {sign : Sign} {m n : ℕ} {e f : ℤ} (pos : 0 < m) (pos' : 0 < n)
    (mantissa : m = n) (exponent : e = f) : finite sign m e pos = finite sign n f pos' := by
  subst mantissa exponent
  rfl

/-- What comes unpacked is a number in its one form, or none. -/
theorem unpack_represents (b : BitVec Format.binary64.numBits) :
    (∃ x, Represents (UnpackedFloat.unpack .binary64 b) x) ∨
    (∃ sign, UnpackedFloat.unpack .binary64 b = infinity sign) ∨
    UnpackedFloat.unpack .binary64 b = notANumber := by
  unfold UnpackedFloat.unpack
  extract_lets mantissa exponent e signVec sign
  have bits : mantissa.toNat < 2 ^ 52 := mantissa.isLt
  have bias : e = exponent.toNat - 1075 := rfl
  split_ifs with special whole subnormal none
  · exact .inr (.inl ⟨sign, rfl⟩)
  · exact .inr (.inr rfl)
  · exact .inl ⟨0, .zero sign⟩
  · have least : e + 1 = -1074 := by
      rw [bias, subnormal]
      rfl
    exact .inl ⟨_, .finite sign _ ⟨by omega, least.ge, .inr least⟩⟩
  · have filled : (1#1 ++ mantissa).toNat = 2 ^ 52 + mantissa.toNat := toNat_implicit mantissa
    have normal : 0 < exponent.toNat := by
      by_contra none
      exact subnormal (BitVec.eq_of_toNat_eq (by simpa using none))
    refine .inl ⟨_, .finite sign _ ⟨?_, by omega, .inl ?_⟩⟩
    · exact filled ▸ by omega
    · exact filled ▸ by omega

theorem pack_normal (sign : Sign) {m : ℕ} (positive : 0 < m) {e : ℤ} (fits : InFormat m e)
    (full : 2 ^ 52 ≤ m) (high : e ≤ 971) :
    UnpackedFloat.pack .binary64 (finite sign m e positive) =
      packComponents .binary64 sign (BitVec.ofNat 11 (e + 1075).toNat) (BitVec.ofNat 52 m) := by
  have least := fits.least
  have log : m.log2 + 1 = Format.binary64.mantissaBits := by
    rw [(Nat.log2_eq_iff positive.ne').mpr ⟨full, fits.bits⟩]
    rfl
  have bias : e + Format.binary64.exponentBias + Format.binary64.mantissaBitsWithoutImplicit =
      e + 1075 := by
    change e + 1023 + 52 = _
    omega
  simp only [UnpackedFloat.pack, bias]
  rw [if_neg, if_pos log]
  change ¬ 2048 ≤ (e + 1075).toNat + 1
  omega

theorem unpack_pack_normal (sign : Sign) {m : ℕ} (positive : 0 < m) {e : ℤ} (fits : InFormat m e)
    (full : 2 ^ 52 ≤ m) (high : e ≤ 971) :
    UnpackedFloat.unpack .binary64 (UnpackedFloat.pack .binary64 (finite sign m e positive)) =
      finite sign m e positive := by
  rw [pack_normal sign positive fits full high]
  obtain ⟨bits, least, -⟩ := fits
  have biased : ((e + 1075).toNat : ℤ) = e + 1075 := Int.toNat_of_nonneg (by omega)
  generalize (e + 1075).toNat = b at biased
  have exponent : (BitVec.ofNat 11 b).toNat = b := by
    rw [BitVec.toNat_ofNat, Nat.mod_eq_of_lt]
    omega
  have not_special : BitVec.ofNat 11 b ≠ -1#11 := by
    intro same
    have top : b = 2047 := exponent.symm.trans (congrArg BitVec.toNat same)
    omega
  have not_subnormal : BitVec.ofNat 11 b ≠ 0#11 := by
    intro same
    have bottom : b = 0 := exponent.symm.trans (congrArg BitVec.toNat same)
    omega
  have mantissa : (1#1 ++ BitVec.ofNat 52 m).toNat = m := by
    rw [toNat_implicit, BitVec.toNat_ofNat]
    omega
  rw [UnpackedFloat.unpack]
  simp only [unpackExponent_packComponents, unpackMantissa_packComponents,
    unpackSign_packComponents, Sign.ofBitVec_toBitVec]
  rw [if_neg not_special, if_neg not_subnormal]
  apply finite_congr
  · exact mantissa
  · change (BitVec.toNat (BitVec.ofNat 11 b) : ℤ) - 1075 = e
    rw [exponent]
    omega

theorem unpack_pack_subnormal (sign : Sign) {m : ℕ} (positive : 0 < m) (short : m < 2 ^ 52) :
    UnpackedFloat.unpack .binary64
        (UnpackedFloat.pack .binary64 (finite sign m (-1074) positive)) =
      finite sign m (-1074) positive := by
  have mantissa : (BitVec.ofNat 52 m).toNat = m := by
    rw [BitVec.toNat_ofNat]
    exact Nat.mod_eq_of_lt short
  have not_zero : BitVec.ofNat 52 m ≠ 0#52 := by
    intro same
    exact positive.ne' (mantissa.symm.trans (congrArg BitVec.toNat same))
  have log : m.log2 + 1 ≠ Format.binary64.mantissaBits := by
    have bits : m.log2 < 52 := (Nat.log2_lt positive.ne').mpr short
    change m.log2 + 1 ≠ 53
    omega
  have packed : UnpackedFloat.pack .binary64 (finite sign m (-1074) positive) =
      packComponents .binary64 sign 0#11 (BitVec.ofNat 52 m) := by
    simp only [UnpackedFloat.pack]
    rw [if_neg (by decide), if_neg log]
  rw [packed, UnpackedFloat.unpack]
  simp only [unpackExponent_packComponents, unpackMantissa_packComponents,
    unpackSign_packComponents, Sign.ofBitVec_toBitVec]
  rw [if_neg (by decide), if_pos trivial, dif_neg not_zero]
  exact finite_congr _ _ mantissa rfl

/-- Packing loses nothing of a number, unless it is too large. -/
theorem Represents.unpack_pack {f : UnpackedFloat} {x : ℚ} (represents : Represents f x)
    (bound : |x| < 2 ^ 1024) :
    UnpackedFloat.unpack .binary64 (UnpackedFloat.pack .binary64 f) = f := by
  cases represents with
  | zero sign => exact unpack_packedZero
  | @finite sign m e positive fits =>
    by_cases normal : 2 ^ 52 ≤ m
    · apply unpack_pack_normal sign positive fits normal
      by_contra above
      have size : (2 : ℚ) ^ 52 * 2 ^ (972 : ℤ) ≤ m * 2 ^ e := by
        apply mul_le_mul
        · exact_mod_cast normal
        · exact zpow_le_zpow_right₀ (by norm_num) (by omega)
        · positivity
        · positivity
      have top : (2 : ℚ) ^ 52 * 2 ^ (972 : ℤ) = 2 ^ 1024 := by
        rw [show (2 : ℚ) ^ (972 : ℤ) = 2 ^ 972 from zpow_natCast 2 972, ← pow_add]
      rw [abs_signed, abs_of_nonneg (by positivity), ← top] at bound
      exact bound.not_ge size
    · obtain rfl := fits.full.resolve_left normal
      exact unpack_pack_subnormal sign positive (by omega)

theorem unpack_pack_infinity (sign : Sign) :
    UnpackedFloat.unpack .binary64 (UnpackedFloat.pack .binary64 (infinity sign)) =
      infinity sign := by
  rw [UnpackedFloat.pack, packedInfinity, UnpackedFloat.unpack]
  simp only [unpackExponent_packComponents, unpackMantissa_packComponents,
    unpackSign_packComponents, Sign.ofBitVec_toBitVec]
  rfl

/-- Too large a number is packed as the infinity of its sign. -/
theorem unpack_pack_overflow (sign : Sign) {m : ℕ} (positive : 0 < m) {e : ℤ} (high : 971 < e) :
    UnpackedFloat.unpack .binary64 (UnpackedFloat.pack .binary64 (finite sign m e positive)) =
      infinity sign := by
  have bias : e + Format.binary64.exponentBias + Format.binary64.mantissaBitsWithoutImplicit =
      e + 1075 := by
    change e + 1023 + 52 = _
    omega
  have packed : UnpackedFloat.pack .binary64 (finite sign m e positive) =
      UnpackedFloat.pack .binary64 (infinity sign) := by
    simp only [UnpackedFloat.pack, bias]
    rw [if_pos]
    change 2048 ≤ (e + 1075).toNat + 1
    omega
  rw [packed, unpack_pack_infinity]

/-- A number is packed as it is, or it lies beyond the format and becomes an infinity. -/
theorem Represents.unpack_pack_cases {f : UnpackedFloat} {x : ℚ} (represents : Represents f x) :
    (|x| < 2 ^ 1024 ∧
      UnpackedFloat.unpack .binary64 (UnpackedFloat.pack .binary64 f) = f) ∨
    ∃ sign y, 2 ^ 1024 ≤ y ∧ x = signed sign y ∧
      UnpackedFloat.unpack .binary64 (UnpackedFloat.pack .binary64 f) = infinity sign := by
  by_cases bound : |x| < 2 ^ 1024
  · exact .inl ⟨bound, represents.unpack_pack bound⟩
  · cases represents with
    | zero sign => simp at bound
    | @finite sign m e positive fits =>
      rw [abs_signed, abs_of_nonneg (by positivity), not_lt] at bound
      refine .inr ⟨sign, m * 2 ^ e, bound, rfl, unpack_pack_overflow sign positive ?_⟩
      by_contra low
      have size : (m : ℚ) * 2 ^ e < 2 ^ 53 * 2 ^ (971 : ℤ) := by
        apply mul_lt_mul
        · exact_mod_cast fits.bits
        · exact zpow_le_zpow_right₀ (by norm_num) (by omega)
        · positivity
        · positivity
      have top : (2 : ℚ) ^ 53 * 2 ^ (971 : ℤ) = 2 ^ 1024 := by
        rw [show (2 : ℚ) ^ (971 : ℤ) = 2 ^ 971 from zpow_natCast 2 971, ← pow_add]
      exact (size.trans_eq top).not_ge bound

end TabletUpkeep
