import TabletUpkeep.Duration
import TabletUpkeep.Event

/-! Intervals are checked once, when the schedule is drawn up. A setting that will not do is
replaced; the replacement is recorded as a correction, and a warning is given of it on the spot. -/
namespace TabletUpkeep

/-- Bounds of the adaptive sweep interval, in seconds. -/
structure SweepRange where
  min : UInt64
  max : UInt64
  deriving DecidableEq, Repr

/-- A setting that was replaced. -/
inductive Correction
  | fixed (setting : String) (configured : Int64) (applied : UInt64)
  | sweep (configuredMin configuredMax : Int64) (applied : SweepRange)
  deriving DecidableEq, Repr

/-- The warning that a correction calls for. -/
def Correction.event : Correction → Event
  | fixed setting configured applied => .intervalReplaced setting configured applied
  | sweep configuredMin configuredMax applied =>
    .sweepRangeReplaced configuredMin configuredMax applied.min applied.max

/-- What a check comes to: the value that applies, and for a setting that was replaced the
correction and the warning that was logged. -/
structure Checked (α : Type) where
  applied : α
  correction : Option Correction := none
  warning : Option Event := none
  deriving DecidableEq

/-- What a check returns to its caller. The warning has gone to the log. -/
def Checked.returned {α : Type} (k : Checked α) : α × Option Correction := (k.applied, k.correction)

/-- A positive setting stands; any other gives way to the fallback. -/
def checkInterval (setting : String) (configured : Int64) (fallback : UInt64) : Checked UInt64 :=
  if 0 < configured then { applied := configured.toUInt64 }
  else
    { applied := fallback
      correction := some (.fixed setting configured fallback)
      warning := some (.intervalReplaced setting configured fallback) }

def checkedInterval (setting : String) (configured : Int64) (fallback : UInt64) :
    UInt64 × Option Correction := (checkInterval setting configured fallback).returned

theorem checkInterval_warning (setting : String) (configured : Int64) (fallback : UInt64) :
    (checkInterval setting configured fallback).warning =
      (checkInterval setting configured fallback).correction.map Correction.event := by
  unfold checkInterval
  split <;> rfl

namespace SweepRange

/-- Bounds stand when the lower one is positive and the upper one not below it. Otherwise the
lower one becomes one second and the upper one at least that. -/
def check (configuredMin configuredMax : Int64) : Checked SweepRange :=
  if 0 < configuredMin && configuredMin ≤ configuredMax then
    { applied := ⟨configuredMin.toUInt64, configuredMax.toUInt64⟩ }
  else
    let bounds := ⟨1, if 1 ≤ configuredMax then configuredMax.toUInt64 else 1⟩
    { applied := bounds
      correction := some (.sweep configuredMin configuredMax bounds)
      warning := some (.sweepRangeReplaced configuredMin configuredMax bounds.min bounds.max) }

def checked (configuredMin configuredMax : Int64) : SweepRange × Option Correction :=
  (check configuredMin configuredMax).returned

theorem check_warning (configuredMin configuredMax : Int64) :
    (check configuredMin configuredMax).warning =
      (check configuredMin configuredMax).correction.map Correction.event := by
  unfold check
  split <;> rfl

end SweepRange

/-- The length of `secs` scheduler seconds when one of them lasts `unit`. Counts beyond 32 bits
are taken as the greatest such count. -/
def Duration.ofUnits (secs : UInt64) (unit : Duration) : Duration :=
  unit.saturatingMul ((Word.ofInt? (α := UInt32) secs.toNat).getD 4294967295)

end TabletUpkeep
