import TabletUpkeep.Duty.Worker

/-! Where the thread of a worker can unwind. A pass is contained: a panic in it is an outcome. What
a loop does outside its passes is to keep its statistics and to ask its task for waits, and of all
that only clamping is partial, for bounds out of order. A question without an answer is a panic
that nothing catches. -/
namespace TabletUpkeep

/-- Clamping with the check of its bounds. -/
def clampTo? (least greatest x : Float) : Option Float :=
  if least ≤ greatest then some (if x < least then least else if x > greatest then greatest else x)
  else none

theorem clampTo?_unit (x : Float) : clampTo? 0.0 1.0 x = some (clampUnit x) := by
  have order : (0.0 : Float) ≤ 1.0 := by decide +kernel
  rw [clampTo?, if_pos order, clampUnit]

namespace TrashSweep

/-- The wait as the sweeper works it out, with the check inside. -/
def wait? (arctan : Float → Float) (t : TrashSweep) : Option Duration :=
  (clampTo? 0.0 1.0 (unclampedCurve arctan t.usage)).map fun share =>
    Duration.ofUnits (t.bounds.sweepSecs (fun _ => share) t.usage) t.unit

theorem wait?_eq {arctan : Float → Float} {t : TrashSweep} (curve : t.curve = sweepCurve arctan) :
    t.wait? arctan = some t.wait := by
  rw [wait?, clampTo?_unit, wait, waitSecs, curve]
  simp only [Option.map_some, SweepRange.sweepSecs, sweepCurve]

end TrashSweep

namespace Duty

def firstWait? (arctan : Float → Float) : Duty → Option (Option Duration)
  | trashSweep work => (work.wait? arctan).map some
  | routine work => some work.firstWait
  | compaction _ => some none

def laterWait? (arctan : Float → Float) : Duty → Option Duration
  | trashSweep work => work.wait? arctan
  | routine work => some work.interval
  | compaction work => some work.interval

end Duty

/-- Whether the thread of a loop unwinds at its next step. -/
def Worker.unwinds {κ : Type} (arctan : Float → Float) (l : UpkeepLoop (Worker κ)) : Bool :=
  match l.phase with
  | .starting => (l.task.duty.firstWait? arctan).isNone
  | .passed => (l.task.duty.laterWait? arctan).isNone
  | _ => false

end TabletUpkeep
