import TabletUpkeep.Duty.Worker

/-! Collaborators that follow a script. Outcomes of the engine are used one for each call of the
engine, and outcomes of the resource group one for each binding. -/
namespace TabletUpkeep

/-- What the engine does beyond its script. -/
inductive Afterwards
  | succeeds
  | blocks
  deriving DecidableEq, Repr

structure Script where
  engine : List (Outcome Float)
  bindings : List (Outcome Float)
  afterwards : Afterwards := .succeeds

namespace Script

/-- The usage that a sweep reports when nothing else is said. -/
def usualUsage : Float := 0.5

def step (call : Call) (state : SharedState) (s : Script) : Option (CallStep Script) :=
  match call with
  | .bindToGroup =>
    match s.bindings with
    | [] => some ⟨s, state, some (.ok usualUsage)⟩
    | answer :: bindings => some ⟨{ s with bindings }, state, some answer⟩
  | _ =>
    match s.engine, s.afterwards with
    | answer :: engine, _ => some ⟨{ s with engine }, state, some answer⟩
    | [], .succeeds => some ⟨s, state, some (.ok usualUsage)⟩
    | [], .blocks => none

def collaborators : Collaborators Script := ⟨step⟩

/-- Enough steps for a loop to use up the script. -/
def stepBound (s : Script) : Nat := 6 * (s.engine.length + s.bindings.length + 2)

end Script

/-- The task of a worker whose collaborators follow a script. -/
def scriptedWorker : Task (Worker Script) := Worker.task Script.collaborators

end TabletUpkeep
