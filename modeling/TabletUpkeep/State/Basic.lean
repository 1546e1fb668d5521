import TabletUpkeep.State.Claims
import TabletUpkeep.State.SchemaChange
import TabletUpkeep.State.UsageGauge

/-! What the workers of a node share: the usage last reported, the schema changes under way and
the claimed tablets. -/
namespace TabletUpkeep

structure SharedState where
  schemaChanges : SchemaChanges := {}
  usage : UsageGauge := {}
  claims : Claims := {}
  deriving DecidableEq, Repr

def SharedState.publishUsage (s : SharedState) (usage : Float) : SharedState :=
  { s with usage := s.usage.set usage }

/-- A state in the hands of one user, who keeps the guards and claims taken from it. -/
structure StateSession where
  changes : GuardedCounter := {}
  usage : UsageGauge := {}
  desk : ClaimDesk := {}
  deriving DecidableEq, Repr

namespace StateSession

def state (s : StateSession) : SharedState := ⟨s.changes.counter, s.usage, s.desk.claims⟩

/-- Everything still held is given back. -/
def close (s : StateSession) : StateSession :=
  { s with changes := s.changes.leaveAll, desk := s.desk.releaseAll }

end StateSession

end TabletUpkeep
