import TabletUpkeep.Duty.Script
import TabletUpkeep.Fleet
import TabletUpkeep.Supervisor.Basic

/-! The loops of a started node as a fleet, their collaborators following a script each. -/
namespace TabletUpkeep

abbrev Crew := Fleet (Worker Script)

namespace Crew

/-- One loop for each worker, about to start, with the script that its name is given. -/
def ofSupervisor (s : Supervisor) (state : SharedState) (script : String → Script) : Crew :=
  .ofLoops state <| s.workers.map fun post =>
    .ofTask scriptedWorker post.name ⟨post.duty, script post.name⟩

def isWaiting (l : UpkeepLoop (Worker Script)) : Bool :=
  match l.phase with
  | .waiting _ => true
  | _ => false

def stepBound (c : Crew) : Nat :=
  c.loops.foldl (fun bound l => max bound l.task.own.stepBound) 0

/-- Every loop up to its first wait. -/
def parked (c : Crew) : Crew := c.settle scriptedWorker isWaiting c.stepBound

/-- Every loop until it hangs in a call. -/
def blocked (c : Crew) : Crew := c.settle scriptedWorker (fun _ => false) c.stepBound

/-- The calls that hang come back, and so do all later ones. -/
def release (c : Crew) : Crew :=
  { c with loops := c.loops.map fun l =>
      { l with task := { l.task with own := { l.task.own with afterwards := .succeeds } } } }

/-- The trigger fires and every loop runs to its end. -/
def stopAll (c : Crew) : Crew :=
  (c.release.move scriptedWorker .fire).settle scriptedWorker (fun _ => false) (c.stepBound + 8)

end Crew

end TabletUpkeep
