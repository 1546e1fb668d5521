import TabletUpkeep.Duty.TrashSweep

/-! A compaction worker. Each pass first binds the worker to the system resource group, if the node
has one, and then compacts one tablet of the worker's tier. A refused binding is only logged, and
having nothing to compact is a success. -/
namespace TabletUpkeep

structure CompactionWork where
  tier : Tier
  worker : Nat
  interval : Duration
  /-- Whether there is a resource group to bind to. -/
  grouped : Bool
  /-- Whether the pass in flight has its binding behind it. -/
  bound : Bool := false
  deriving DecidableEq

namespace CompactionWork

def kind (c : CompactionWork) : DutyKind :=
  match c.tier with
  | .base => .baseCompaction
  | .cumulative => .cumulativeCompaction

def isBinding (c : CompactionWork) : Bool := c.grouped && !c.bound

def call (c : CompactionWork) : Call :=
  if c.isBinding then .bindToGroup else .compact c.tier

/-- After the binding the pass goes on to the compaction, unless the binding panicked. -/
def respondToBinding (c : CompactionWork) : Outcome Float → Reply CompactionWork
  | .ok _ => { worker := { c with bound := true } }
  | .error cause =>
    { worker := { c with bound := true }, events := [.bindFailed c.tier c.worker cause] }
  | .panic payload => { worker := c, outcome := some (.panic payload) }

def respondToCompaction (c : CompactionWork) (answer : Outcome Float) : Reply CompactionWork :=
  { worker := { c with bound := false }
    outcome := some <|
      match answer with
      | .ok _ | .error .noCandidate => .ok ()
      | .error cause => .error cause
      | .panic payload => .panic payload }

def respond (c : CompactionWork) (answer : Outcome Float) : Reply CompactionWork :=
  if c.isBinding then c.respondToBinding answer else c.respondToCompaction answer

end CompactionWork

end TabletUpkeep
