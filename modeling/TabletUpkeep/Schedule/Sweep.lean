import TabletUpkeep.Schedule.Correction

/-! The sweep interval follows the disk usage: close to the upper bound while the disk is below
sixty percent, falling steeply up to about eighty, and at the lower bound from there on. The curve
is made of float arithmetic and one arctangent. What the rest needs of it is a value for each
usage, so the arctangent is a parameter of the curve, and the curve one of the interval. -/
namespace TabletUpkeep

def pi : Float := 3.14159265358979323846264338327950288
def halfPi : Float := 1.57079632679489661923132169163975144

/-- The float nearest to `x` between zero and one. What is not a number stays that. -/
def clampUnit (x : Float) : Float :=
  if x < 0.0 then 0.0 else if x > 1.0 then 1.0 else x

/-- The falling curve by a given arctangent. At either end it may leave the unit range. -/
def unclampedCurve (arctan : Float → Float) (usage : Float) : Float :=
  let percent := usage * 100.0
  (1.1 * (halfPi - arctan (percent / 5.0 - 14.0)) - 0.28) / pi

/-- The part of the greatest interval to wait at each usage ratio, by a given arctangent. -/
def sweepCurve (arctan : Float → Float) (usage : Float) : Float :=
  clampUnit (unclampedCurve arctan usage)

def usualCurve : Float → Float := sweepCurve Float.atan

/-- The usage taken for granted until a sweep has reported one: a full disk. -/
def initialUsage : Float := 1.0

/-- Seconds until the next sweep by a given curve, never less than the lower bound. -/
def SweepRange.sweepSecs (bounds : SweepRange) (curve : Float → Float) (usage : Float) :
    UInt64 :=
  Max.max (bounds.max.toFloat * curve usage).toUInt64 bounds.min

end TabletUpkeep
