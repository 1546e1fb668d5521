import TabletUpkeep.Loop.Basic

/-! A task that follows a script: the outcome of each pass and the wait after it are laid down
beforehand, each pass is one step, and passes beyond the script succeed and ask for no wait. -/
namespace TabletUpkeep

structure ScriptedTask where
  kind : DutyKind
  firstWait : Option Duration
  wait : Duration := .zero
  rounds : List (Outcome Unit × Duration)

namespace ScriptedTask

/-- The end of the next pass of the script. -/
def advance (state : SharedState) (t : ScriptedTask) : PassStep ScriptedTask :=
  match t.rounds with
  | [] => { task := { t with wait := .zero }, state, outcome := some (.ok ()) }
  | (outcome, wait) :: rounds =>
    { task := { t with wait, rounds }, state, outcome := some outcome }

def task : Task ScriptedTask where
  kind := (·.kind)
  firstWait := (·.firstWait)
  laterWait := (·.wait)
  advance state t := some (t.advance state)

end ScriptedTask

end TabletUpkeep
