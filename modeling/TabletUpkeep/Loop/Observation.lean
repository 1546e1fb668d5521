import TabletUpkeep.Loop.Basic

/-! The statistics of a running loop, as others see them. The loop makes its writes one at a time
and in order; whoever takes a snapshot reads one field at a time and in order. Between any two of
these accesses there may be any number of others. How long a pass took is left out with the rest
of the clock: no other field goes by it. -/
namespace TabletUpkeep

namespace Label

/-- The writes behind a label. -/
def writes : Label → List LoopTally.Write
  | .waitEntered length => LoopTally.waitWrites length
  | .passEnded outcome => LoopTally.passWrites outcome
  | .stopped => [.halt]
  | .waitEnded _ | .passStarted => []

def outcome? : Label → Option (Outcome Unit)
  | .passEnded outcome => some outcome
  | _ => none

def wait? : Label → Option Duration
  | .waitEntered length => some length
  | _ => none

def outcomes (labels : List Label) : List (Outcome Unit) := labels.filterMap outcome?

def waits (labels : List Label) : List Duration := labels.filterMap wait?

end Label

/-- The causes of the failing ones among outcomes, in order. -/
def Outcome.failures (outcomes : List (Outcome Unit)) : List UpkeepError :=
  outcomes.filterMap Outcome.failure?

theorem LoopTally.observe_eq (s : LoopTally) (label : Label) :
    s.observe label = s.applyAll label.writes := by
  cases label <;> rfl

theorem LoopTally.foldl_observe (s : LoopTally) (labels : List Label) :
    labels.foldl LoopTally.observe s = s.applyAll (labels.flatMap Label.writes) := by
  induction labels generalizing s with
  | nil => rfl
  | cons label labels ih =>
    rw [List.foldl_cons, ih, observe_eq, List.flatMap_cons, applyAll_append]

/-- A snapshot under way: what it has read so far, and what it still has to read. -/
structure Glance where
  seen : LoopTally
  unread : List LoopTally.Field
  deriving DecidableEq

namespace Glance

def fresh (worker : String) (kind : DutyKind) : Glance :=
  ⟨{ worker, kind }, LoopTally.snapshotOrder⟩

/-- The next read of a snapshot; one that is complete reads no more. -/
def read (live : LoopTally) (g : Glance) : Glance :=
  match g.unread with
  | [] => g
  | field :: unread => ⟨live.readField g.seen field, unread⟩

end Glance

/-- Statistics in use: as they are, with the writes the loop has still to make, and all snapshots
that are ever taken of them. -/
structure SharedTally where
  live : LoopTally
  unwritten : List LoopTally.Write
  glances : List Glance
  deriving DecidableEq

namespace SharedTally

/-- One access, by the loop or by the taker of one of the snapshots. -/
inductive Access
  | write
  | read (glance : Nat)
  deriving DecidableEq, Repr

def act (s : SharedTally) : Access → SharedTally
  | .write =>
    match s.unwritten with
    | [] => s
    | w :: unwritten => { s with live := s.live.apply w, unwritten }
  | .read i => { s with glances := s.glances.modify i (·.read s.live) }

def run (s : SharedTally) (accesses : List Access) : SharedTally := accesses.foldl act s

@[simp] theorem run_nil (s : SharedTally) : s.run [] = s := rfl

@[simp] theorem run_cons (s : SharedTally) (a : Access) (rest : List Access) :
    s.run (a :: rest) = (s.act a).run rest := rfl

/-- The writes made and those still to come make the same statistics at any time. -/
theorem run_settled (s : SharedTally) (accesses : List Access) :
    (s.run accesses).live.applyAll (s.run accesses).unwritten = s.live.applyAll s.unwritten := by
  induction accesses generalizing s with
  | nil => rfl
  | cons a rest ih =>
    rw [run_cons, ih]
    obtain ⟨live, unwritten, glances⟩ := s
    cases a with
    | read i => rfl
    | write => cases unwritten <;> rfl

end SharedTally

namespace UpkeepLoop

variable {σ : Type}

/-- The statistics of a loop before the first of its writes. -/
def unused (l : UpkeepLoop σ) : LoopTally := { worker := l.tally.worker, kind := l.tally.kind }

/-- All writes of a loop are still to come, and so are all reads of a number of snapshots. -/
def shared (l : UpkeepLoop σ) (glances : Nat) : SharedTally where
  live := l.unused
  unwritten := l.trace.flatMap Label.writes
  glances := List.replicate glances (.fresh l.tally.worker l.tally.kind)

end UpkeepLoop

end TabletUpkeep
