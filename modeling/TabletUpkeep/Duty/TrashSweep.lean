import TabletUpkeep.Loop.Basic
import TabletUpkeep.Schedule.Sweep

/-! The trash sweeper. It waits before it works, and each wait follows from the usage that the last
good sweep reported; until there is one the disk counts as full. -/
namespace TabletUpkeep

/-- How a pass goes on once a call has come back: the worker's new state, the usage it publishes,
its warnings, and the outcome if the pass is over. -/
structure Reply (α : Type) where
  worker : α
  events : List Event := []
  published : Option Float := none
  outcome : Option (Outcome Unit) := none

structure TrashSweep where
  bounds : SweepRange
  unit : Duration
  curve : Float → Float := usualCurve
  usage : Float := initialUsage

namespace TrashSweep

/-- Seconds until the next sweep. -/
def waitSecs (t : TrashSweep) : UInt64 := t.bounds.sweepSecs t.curve t.usage

def wait (t : TrashSweep) : Duration := Duration.ofUnits t.waitSecs t.unit

/-- Takes a report that is a number into the unit range and publishes it; nothing else changes
what the sweeper or the gauge hold. -/
def respond (t : TrashSweep) : Outcome Float → Reply TrashSweep
  | .ok reported =>
    if reported.isNaN then { worker := t, outcome := some (.error (.invalidUsage reported)) }
    else
      let usage := clampUnit reported
      { worker := { t with usage }
        events := if usage != reported then [.usageOutOfRange reported usage] else []
        published := some usage
        outcome := some (.ok ()) }
  | .error cause => { worker := t, outcome := some (.error cause) }
  | .panic payload => { worker := t, outcome := some (.panic payload) }

end TrashSweep

end TabletUpkeep
