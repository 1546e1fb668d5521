import TabletUpkeep.Duty.TrashSweep

/-! The workers of fixed interval: the disk statistics, the unused indexes and the descriptor
cache. Only the last one waits before its first pass. -/
namespace TabletUpkeep

inductive Routine
  | diskStatMonitor
  | unusedIndex
  | fdCacheClean
  deriving DecidableEq, Repr

namespace Routine

def kind : Routine → DutyKind
  | diskStatMonitor => .diskStatMonitor
  | unusedIndex => .unusedIndex
  | fdCacheClean => .fdCacheClean

def startsWaiting : Routine → Bool
  | fdCacheClean => true
  | _ => false

def call : Routine → Call
  | diskStatMonitor => .surveyDisks
  | unusedIndex => .deleteUnusedIndexes
  | fdCacheClean => .cleanDescriptors

end Routine

structure RoutineWork where
  routine : Routine
  interval : Duration
  deriving DecidableEq

namespace RoutineWork

def firstWait (p : RoutineWork) : Option Duration :=
  if p.routine.startsWaiting then some p.interval else none

/-- The outcome of the call is the outcome of the pass. -/
def respond (p : RoutineWork) : Outcome Float → Reply RoutineWork
  | .ok _ => { worker := p, outcome := some (.ok ()) }
  | .error cause => { worker := p, outcome := some (.error cause) }
  | .panic payload => { worker := p, outcome := some (.panic payload) }

end RoutineWork

end TabletUpkeep
