import TabletUpkeep.Proofs.DurationScaling

/-! Scaling by single steps on words. The nanoseconds are multiplied in a word of 64 bits, what
makes full seconds is carried, and only the seconds can leave their word, which gives the greatest
length. So no step but these fails, and scaling keeps the order of lengths, which is that of their
seconds and then of their nanoseconds. -/
namespace TabletUpkeep

namespace Word

variable {α : Type} [Word α]

/-- The product of two words when it is a word. -/
def mul? (a b : α) : Option α := ofInt? (toInt a * toInt b)

end Word

namespace Duration

/-- Lengths are compared by their seconds, and by their nanoseconds where these are the same. -/
instance : LE Duration := ⟨fun a b => a.secs < b.secs ∨ a.secs = b.secs ∧ a.nanos ≤ b.nanos⟩

/-- `n` times a length, step by step. There is no value where the nanoseconds leave their word, or
where those left over make up a second. -/
def timesByWords? (d : Duration) (n : UInt32) : Option Duration :=
  (Word.mul? d.nanos.toUInt64 n.toUInt64).bind fun fraction =>
    match (Word.mul? d.secs n.toUInt64).bind (Word.add? · (fraction / 1000000000)) with
    | some secs => ofParts? secs (fraction % 1000000000).toUInt32
    | none => some greatest

/-- Scheduler seconds step by step, their count being cut to 32 bits. -/
def ofUnitsByWords? (secs : UInt64) (unit : Duration) : Option Duration :=
  unit.timesByWords? (if secs ≤ 4294967295 then secs.toUInt32 else 4294967295)

theorem toNanos_zero : zero.toNanos = 0 := by decide

theorem le_iff_toNanos_le {a b : Duration} : a ≤ b ↔ a.toNanos ≤ b.toNanos := by
  have lexicographic : a ≤ b ↔ a.secs < b.secs ∨ a.secs = b.secs ∧ a.nanos ≤ b.nanos := Iff.rfl
  have left := a.nanos_lt
  have right := b.nanos_lt
  rw [lexicographic, UInt64.lt_iff_toNat_lt, ← UInt64.toNat_inj, UInt32.le_iff_toNat_le]
  simp only [toNanos, nanosPerSecond] at left right ⊢
  omega

theorem toNanos_inj {a b : Duration} : a.toNanos = b.toNanos ↔ a = b := by
  constructor
  · intro same
    have left := a.nanos_lt
    have right := b.nanos_lt
    obtain ⟨s, n, _⟩ := a
    obtain ⟨t, m, _⟩ := b
    simp only [toNanos, nanosPerSecond] at same left right
    rw [mk.injEq, ← UInt64.toNat_inj, ← UInt32.toNat_inj]
    omega
  · rintro rfl
    rfl

/-- No product of nanoseconds and a count of 32 bits leaves its word. -/
theorem mul?_nanos (d : Duration) (n : UInt32) :
    ∃ fraction : UInt64, Word.mul? d.nanos.toUInt64 n.toUInt64 = some fraction ∧
      fraction.toNat = d.nanos.toNat * n.toNat := by
  have small : d.nanos.toNat * n.toNat < 1000000000 * 4294967296 :=
    Nat.mul_lt_mul'' d.nanos_lt n.toNat_lt
  have exact : (UInt64.ofNat (d.nanos.toNat * n.toNat)).toNat = d.nanos.toNat * n.toNat :=
    UInt64.toNat_ofNat_of_lt' (small.trans (by decide))
  refine ⟨_, (Word.ofInt?_eq_some _ _).mpr ?_, exact⟩
  change ((UInt64.ofNat (d.nanos.toNat * n.toNat)).toNat : ℤ) =
    (d.nanos.toUInt64.toNat : ℤ) * (n.toUInt64.toNat : ℤ)
  rw [exact, UInt32.toNat_toUInt64, UInt32.toNat_toUInt64, Nat.cast_mul]

/-- Seconds that are no word before the carry are none after it. -/
theorem mul?_add? (a b carry : UInt64) :
    (Word.mul? a b).bind (Word.add? · carry) =
      Word.ofInt? (a.toNat * b.toNat + carry.toNat : ℕ) := by
  cases product : Word.mul? a b with
  | some p =>
    have exact : (p.toNat : ℤ) = a.toNat * b.toNat := (Word.ofInt?_eq_some _ p).mp product
    have sum : (p.toNat : ℤ) + carry.toNat = (a.toNat * b.toNat + carry.toNat : ℕ) := by
      rw [exact]
      push_cast
      rfl
    rw [Option.bind_some, Word.add?, ← sum]
    rfl
  | none =>
    have beyond : (18446744073709551615 : ℤ) < (a.toNat * b.toNat : ℕ) := by
      apply Word.greatest_lt_of_ofInt? (α := UInt64) le_rfl
      rw [Nat.cast_mul]
      exact product
    have refused : ¬ (Word.ofInt? (α := UInt64) (a.toNat * b.toNat + carry.toNat : ℕ)).isSome := by
      rw [Word.ofInt?_isSome]
      rintro ⟨-, within⟩
      change _ ≤ (18446744073709551615 : ℤ) at within
      omega
    rw [Option.bind_none]
    exact (Option.not_isSome_iff_eq_none.mp refused).symm

/-- Nothing but the seconds leaves its word. -/
theorem timesByWords?_eq (d : Duration) (n : UInt32) :
    d.timesByWords? n = some (d.saturatingMul n) := by
  obtain ⟨fraction, product, exact⟩ := mul?_nanos d n
  have carry : (fraction / 1000000000).toNat = d.nanos.toNat * n.toNat / nanosPerSecond := by
    rw [UInt64.toNat_div, exact]
    rfl
  have below : d.nanos.toNat * n.toNat % nanosPerSecond < nanosPerSecond :=
    Nat.mod_lt _ (by decide)
  have left : (fraction % 1000000000).toUInt32.toNat =
      d.nanos.toNat * n.toNat % nanosPerSecond := by
    rw [UInt64.toNat_toUInt32, UInt64.toNat_mod, exact]
    exact Nat.mod_eq_of_lt (below.trans (by decide))
  rw [timesByWords?, product, Option.bind_some, mul?_add?, saturatingMul, carry,
    UInt32.toNat_toUInt64]
  cases Word.ofInt? (α := UInt64) (d.secs.toNat * n.toNat +
      d.nanos.toNat * n.toNat / nanosPerSecond : ℕ) with
  | none => rfl
  | some secs =>
    have fits : (fraction % 1000000000).toUInt32.toNat < nanosPerSecond := left ▸ below
    have nanos : (fraction % 1000000000).toUInt32 =
        UInt32.ofNat (d.nanos.toNat * n.toNat % nanosPerSecond) := by
      rw [← left, UInt32.ofNat_toNat]
    dsimp only
    rw [ofParts?, dif_pos fits]
    simp only [withNanos, nanos]

theorem ofUnitsByWords?_eq (secs : UInt64) (unit : Duration) :
    ofUnitsByWords? secs unit = some (ofUnits secs unit) := by
  have count : (if secs ≤ 4294967295 then secs.toUInt32 else 4294967295) =
      (Word.ofInt? (α := UInt32) secs.toNat).getD 4294967295 := by
    rw [← UInt32.toNat_inj, toNat_clamped]
    split_ifs with fits
    · have small : secs.toNat ≤ 4294967295 := UInt64.le_iff_toNat_le.mp fits
      rw [UInt64.toNat_toUInt32, Nat.mod_eq_of_lt (by omega), min_eq_left small]
    · have large : 4294967295 < secs.toNat :=
        UInt64.lt_iff_toNat_lt.mp (UInt64.not_le.mp fits)
      rw [min_eq_right large.le]
      rfl
  rw [ofUnitsByWords?, timesByWords?_eq, count, ofUnits]

theorem ofUnits_le_ofUnits {fewer more : UInt64} {shorter longer : Duration}
    (counts : fewer ≤ more) (units : shorter ≤ longer) :
    ofUnits fewer shorter ≤ ofUnits more longer := by
  rw [le_iff_toNanos_le] at units ⊢
  rw [UInt64.le_iff_toNat_le] at counts
  rw [toNanos_ofUnits, toNanos_ofUnits]
  gcongr

theorem le_refl (d : Duration) : d ≤ d := le_iff_toNanos_le.mpr le_rfl

theorem ofUnits_eq_zero {secs : UInt64} {unit : Duration} :
    ofUnits secs unit = zero ↔ secs = 0 ∨ unit = zero := by
  have none : secs = 0 ↔ secs.toNat = 0 := UInt64.toNat_inj.symm
  rw [← toNanos_inj, ← toNanos_inj, none, toNanos_ofUnits, toNanos_greatest, toNanos_zero]
  constructor
  · intro nothing
    have product : min secs.toNat 4294967295 * unit.toNanos = 0 := by omega
    rcases Nat.mul_eq_zero.mp product with count | length
    · exact .inl (by omega)
    · exact .inr length
  · rintro (count | length)
    · rw [count]
      simp
    · rw [length]
      simp

/-- Scaling comes to the exact product, up to the greatest count and the greatest length, and none
of its steps fails on the way. So it keeps the order of counts, of units and of the bounds of a
sweep, and is zero where one of the two is. -/
theorem ofUnits_exact (secs : UInt64) (unit : Duration) :
    let length := ofUnits secs unit
    ofUnitsByWords? secs unit = some length ∧
    length.nanos.toNat < 10 ^ 9 ∧
    length.secs.toNat * 10 ^ 9 + length.nanos.toNat =
      min (min secs.toNat (2 ^ 32 - 1) * (unit.secs.toNat * 10 ^ 9 + unit.nanos.toNat))
        ((2 ^ 64 - 1) * 10 ^ 9 + 999999999) ∧
    (∀ more, secs ≤ more → length ≤ ofUnits more unit) ∧
    (∀ longer, unit ≤ longer → length ≤ ofUnits secs longer) ∧
    (length = zero ↔ secs = 0 ∨ unit = zero) ∧
    ∀ bounds : SweepRange, bounds.min ≤ bounds.max →
      ofUnits bounds.min unit ≤ ofUnits bounds.max unit := by
  intro length
  refine ⟨ofUnitsByWords?_eq secs unit, length.nanos_lt, toNanos_ofUnits secs unit, ?_, ?_,
    ofUnits_eq_zero, ?_⟩
  · intro more counts
    exact ofUnits_le_ofUnits counts (le_refl unit)
  · intro longer units
    exact ofUnits_le_ofUnits (UInt64.le_refl secs) units
  · intro bounds order
    exact ofUnits_le_ofUnits order (le_refl unit)

/-- Twice this unit is the greatest length but for one nanosecond, and its last second comes from
the nanoseconds. Three times the unit is beyond all lengths. -/
theorem ofUnits_carried_to_top :
    let unit : Duration := withNanos 9223372036854775807 999999999
    let bounds : SweepRange := ⟨2, 3⟩
    ofUnits 2 unit = withNanos 18446744073709551615 999999998 ∧ ofUnits 3 unit = greatest ∧
    (2 : UInt64) ≤ 3 ∧ unit ≤ greatest ∧ bounds.min ≤ bounds.max ∧
    ofUnitsByWords? 2 unit = some (ofUnits 2 unit) ∧
    ofUnits 2 unit ≤ ofUnits 3 unit ∧ ofUnits 2 unit ≤ ofUnits 2 greatest ∧
    ofUnits bounds.min unit ≤ ofUnits bounds.max unit := by
  intro unit bounds
  have units : unit ≤ greatest := le_iff_toNanos_le.mpr (by decide)
  obtain ⟨steps, -, -, counts, lengths, -, ordered⟩ := ofUnits_exact 2 unit
  exact ⟨by decide, by decide, by decide, units, by decide, steps, counts 3 (by decide),
    lengths greatest units, ordered bounds (by decide)⟩

end Duration

end TabletUpkeep
