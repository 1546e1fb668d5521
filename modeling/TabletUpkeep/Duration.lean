import TabletUpkeep.Word

/-! Lengths of time in whole seconds and nanoseconds. Multiplication carries the nanoseconds
into the seconds and stops at the greatest length there is; `toNanos` is the exact value. -/
namespace TabletUpkeep

def nanosPerSecond : Nat := 1000000000

structure Duration where
  secs : UInt64
  nanos : UInt32
  nanos_lt : nanos.toNat < nanosPerSecond
  deriving DecidableEq

namespace Duration

/-- Seconds, with whatever nanoseconds are left of `count` after full seconds. -/
def withNanos (secs : UInt64) (count : Nat) : Duration where
  secs
  nanos := UInt32.ofNat (count % nanosPerSecond)
  nanos_lt := by
    have bound : count % nanosPerSecond < nanosPerSecond := Nat.mod_lt _ (by decide)
    rw [UInt32.toNat_ofNat_of_lt' (Nat.lt_trans bound (by decide))]
    exact bound

def zero : Duration := withNanos 0 0

def ofSecs (secs : UInt64) : Duration := withNanos secs 0

def greatest : Duration := withNanos 18446744073709551615 999999999

instance : Inhabited Duration := ⟨zero⟩

/-- A pair of seconds and nanoseconds, when the nanoseconds make less than a second. -/
def ofParts? (secs : UInt64) (nanos : UInt32) : Option Duration :=
  if h : nanos.toNat < nanosPerSecond then some ⟨secs, nanos, h⟩ else none

def toNanos (d : Duration) : Nat := d.secs.toNat * nanosPerSecond + d.nanos.toNat

def isZero (d : Duration) : Bool := d.secs == 0 && d.nanos == 0

theorem toNanos_withNanos (secs : UInt64) (count : Nat) :
    (withNanos secs count).toNanos = secs.toNat * nanosPerSecond + count % nanosPerSecond := by
  have bound : count % nanosPerSecond < UInt32.size :=
    Nat.lt_trans (Nat.mod_lt _ (by decide)) (by decide)
  simp only [toNanos, withNanos, UInt32.toNat_ofNat_of_lt' bound]

theorem isZero_iff (d : Duration) : d.isZero = true ↔ d.toNanos = 0 := by
  simp only [isZero, Bool.and_eq_true, beq_iff_eq, toNanos, nanosPerSecond, ← UInt64.toNat_inj,
    ← UInt32.toNat_inj, UInt64.toNat_zero, UInt32.toNat_zero]
  omega

/-- The full milliseconds of a length, kept in one word: the count modulo `2 ^ 64`. -/
def millis (d : Duration) : UInt64 :=
  UInt64.ofNat (d.secs.toNat * 1000 + d.nanos.toNat / 1000000)

theorem millis_eq (d : Duration) : d.millis = .ofNat (d.toNanos / 1000000) := by
  have carried : d.toNanos / 1000000 = d.secs.toNat * 1000 + d.nanos.toNat / 1000000 := by
    simp only [toNanos, nanosPerSecond]
    omega
  rw [carried, millis]

def ofMillis (count : UInt64) : Duration :=
  withNanos (count / 1000) ((count % 1000).toNat * 1000000)

/-- `n` times a length. Seconds beyond the word give the greatest length. -/
def saturatingMul (d : Duration) (n : UInt32) : Duration :=
  let fraction := d.nanos.toNat * n.toNat
  let secs := d.secs.toNat * n.toNat + fraction / nanosPerSecond
  match Word.ofInt? (α := UInt64) secs with
  | some secs => withNanos secs fraction
  | none => greatest

end Duration

end TabletUpkeep
