import TabletUpkeep.Supervisor.Plan

/-! Starting and ending all workers of a node. Either every worker is launched, or the ones that
were are stopped and joined again. What the supervisor does to threads and to the trigger is a
list of deeds, in the order in which they are done. -/
namespace TabletUpkeep

inductive Deed
  | launch (worker : String)
  | fire
  | join (worker : String)
  deriving DecidableEq, Repr

/-- How threads behave: the reason for which launch number `n` is refused, if it is, and whether
the thread of worker number `n` ends in a panic. -/
structure Threads where
  refusal : Nat → Option String
  panics : Nat → Bool

structure Supervisor where
  schedule : Schedule
  workers : List Post

/-- What was done, what was logged by the caller's thread, and what came of it. -/
structure Report (α : Type) where
  deeds : List Deed
  events : List Event
  outcome : Except NodeError α

namespace Supervisor

/-- How far the launches got: the ones that were tried, the workers that run, and the error of the
one that was refused. -/
structure Launching where
  deeds : List Deed
  workers : List Post
  error : Option NodeError

/-- Launches worker number `n` and those after it, up to the first refusal. -/
def launchFrom (threads : Threads) : Nat → List Post → Launching
  | _, [] => ⟨[], [], none⟩
  | n, post :: rest =>
    match threads.refusal n with
    | some reason => ⟨[.launch post.name], [], some (.workerSpawn post.name reason)⟩
    | none =>
      let later := launchFrom threads (n + 1) rest
      ⟨.launch post.name :: later.deeds, post :: later.workers, later.error⟩

def joinErrors (threads : Threads) : Nat → List Post → List NodeError
  | _, [] => []
  | n, post :: rest =>
    if threads.panics n then .workerPanicked post.name :: joinErrors threads (n + 1) rest
    else joinErrors threads (n + 1) rest

def joins (workers : List Post) : List Deed := workers.map fun post => .join post.name

def start (config : UpkeepSettings) (p : Premises) (threads : Threads) : Report Supervisor :=
  if p.unit.isZero then
    ⟨[], [], .error (.config "maintenance time unit must be positive")⟩
  else
    let schedule := Schedule.ofSettings config
    let warnings := (Schedule.draw config).2
    let launching := launchFrom threads 0 (schedule.posts p)
    match launching.error with
    | none =>
      ⟨launching.deeds, warnings, .ok { schedule, workers := launching.workers }⟩
    | some cause =>
      { deeds := launching.deeds ++ .fire :: joins launching.workers
        events := warnings ++ .startFailed launching.workers.length cause ::
          (joinErrors threads 0 launching.workers).map .joinFailed
        outcome := .error cause }

def drop (s : Supervisor) : Report Unit :=
  { deeds := []
    events := if s.workers.isEmpty then [] else [.detached s.workers.length]
    outcome := .ok () }

/-- Fires the trigger and joins every worker; the first error in launch order is returned. The
workers are taken out before that, so letting go of the supervisor at the end finds none. -/
def shutdown (s : Supervisor) (threads : Threads) : Report Unit :=
  let errors := joinErrors threads 0 s.workers
  let emptied : Supervisor := { s with workers := [] }
  { deeds := .fire :: joins s.workers ++ emptied.drop.deeds
    events := errors.map .joinFailed ++ emptied.drop.events
    outcome := match errors with
      | [] => .ok ()
      | first :: _ => .error first }

def ofKind (s : Supervisor) (kind : DutyKind) : List Post :=
  s.workers.filter fun post => post.kind == kind

end Supervisor

end TabletUpkeep
