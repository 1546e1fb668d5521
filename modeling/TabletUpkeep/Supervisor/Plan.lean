import TabletUpkeep.Duty.Worker
import TabletUpkeep.Schedule.Basic

/-! The workers of a node in the order of their launch: the trash sweeper, the two monitors, the
base pool, the cumulative pool, and the cleaner of the descriptor cache. -/
namespace TabletUpkeep

/-- A worker to be launched. Its name is also that of its thread. -/
structure Post where
  name : String
  duty : Duty

namespace Post

def kind (p : Post) : DutyKind := p.duty.kind

/-- A worker that is the only one of its kind bears the name of the kind. -/
def single (duty : Duty) : Post := ⟨duty.kind.text, duty⟩

def compactionName (tier : Tier) (worker : Nat) : String :=
  tier.text ++ "-compaction-" ++ toString worker

def compaction (tier : Tier) (interval : Duration) (grouped : Bool) (worker : Nat) : Post :=
  ⟨compactionName tier worker, .compaction { tier, worker, interval, grouped }⟩

/-- The worker of a post, with what its collaborators keep under its name. -/
def worker {κ : Type} (post : Post) (own : String → κ) : String × Worker κ :=
  (post.name, ⟨post.duty, own post.name⟩)

end Post

/-- What the workers of a node are drawn up from, besides the schedule: how long a scheduler
second lasts, whether there is a resource group, and the curve of the sweep interval. -/
structure Premises where
  unit : Duration := .ofSecs 1
  grouped : Bool := false
  curve : Float → Float := usualCurve

namespace Schedule

def routinePost (unit : Duration) (routine : Routine) (secs : UInt64) : Post :=
  .single (.routine ⟨routine, Duration.ofUnits secs unit⟩)

def pool (p : Premises) (tier : Tier) (threads : Nat) (secs : UInt64) : List Post :=
  (List.range threads).map (Post.compaction tier (Duration.ofUnits secs p.unit) p.grouped)

def posts (s : Schedule) (p : Premises) : List Post :=
  [.single (.trashSweep { bounds := s.sweep, unit := p.unit, curve := p.curve }),
   routinePost p.unit .diskStatMonitor s.diskStatInterval,
   routinePost p.unit .unusedIndex s.unusedIndexInterval] ++
  pool p .base s.baseThreads s.baseInterval ++
  pool p .cumulative s.cumulativeThreads s.cumulativeInterval ++
  [routinePost p.unit .fdCacheClean s.fdCacheInterval]

end Schedule

end TabletUpkeep
