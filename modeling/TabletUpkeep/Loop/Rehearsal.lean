import TabletUpkeep.Fleet
import TabletUpkeep.Loop.Script

/-! One scripted loop under a schedule that fires the trigger at a chosen point: before the start,
while the task names its first wait, during a pass, or while the task names the wait after one.
After the script one more pass fires the trigger, so the loop always stops. -/
namespace TabletUpkeep

namespace Rehearsal

/-- When, in a round, the trigger goes off. -/
inductive Firing
  | never
  | duringPass
  | duringLaterWait
  deriving DecidableEq, Repr

structure Round where
  outcome : Outcome Unit
  wait : Duration
  fires : Firing

end Rehearsal

/-- A loop's script with the points where the trigger goes off. The flag beside the first wait
tells whether it does so there. -/
structure Rehearsal where
  kind : DutyKind
  triggered : Bool
  initial : Option (Duration × Bool)
  rounds : List Rehearsal.Round

namespace Rehearsal

def fireIf (fires : Bool) : List Move := if fires then [.fire] else []

/-- Start and end of the pass, then beginning and end of the wait. -/
def Round.moves (fires : Firing) : List Move :=
  [.step 0] ++ fireIf (fires == .duringPass) ++ [.step 0] ++ fireIf (fires == .duringLaterWait) ++
    [.step 0, .step 0]

/-- The last step is the one that ends the loop. -/
def moves (r : Rehearsal) : List Move :=
  fireIf r.triggered ++
  (match r.initial with
    | none => []
    | some (_, fires) => fireIf fires ++ [.step 0, .step 0]) ++
  r.rounds.flatMap (fun round => Round.moves round.fires) ++
  Round.moves .duringPass ++ [.step 0]

def task (r : Rehearsal) : ScriptedTask where
  kind := r.kind
  firstWait := r.initial.map (·.1)
  rounds := r.rounds.map fun round => (round.outcome, round.wait)

def start (r : Rehearsal) (name : String) : UpkeepLoop ScriptedTask :=
  .ofTask ScriptedTask.task name r.task

/-- The loop at the end of the schedule. -/
def finish (r : Rehearsal) (name : String) : UpkeepLoop ScriptedTask :=
  let start := r.start name
  ((Fleet.ofLoops {} [start]).run ScriptedTask.task r.moves).loops.headD start

end Rehearsal

end TabletUpkeep
