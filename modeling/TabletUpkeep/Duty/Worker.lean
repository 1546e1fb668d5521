import TabletUpkeep.Duty.Compaction
import TabletUpkeep.Duty.Routine

/-! Workers: a duty together with the collaborators it calls. The duty decides what is called and
what becomes of the answer; the collaborators decide the answer. -/
namespace TabletUpkeep

inductive Duty
  | trashSweep (work : TrashSweep)
  | routine (work : RoutineWork)
  | compaction (work : CompactionWork)

def Reply.map {α β : Type} (f : α → β) (r : Reply α) : Reply β :=
  ⟨f r.worker, r.events, r.published, r.outcome⟩

namespace Duty

def kind : Duty → DutyKind
  | trashSweep _ => .trashSweep
  | routine work => work.routine.kind
  | compaction work => work.kind

def firstWait : Duty → Option Duration
  | trashSweep work => some work.wait
  | routine work => work.firstWait
  | compaction _ => none

def laterWait : Duty → Duration
  | trashSweep work => work.wait
  | routine work => work.interval
  | compaction work => work.interval

/-- The call that the pass in flight makes next. -/
def call : Duty → Call
  | trashSweep _ => .sweepTrash
  | routine work => work.routine.call
  | compaction work => work.call

def respond (d : Duty) (answer : Outcome Float) : Reply Duty :=
  match d with
  | trashSweep work => (work.respond answer).map trashSweep
  | routine work => (work.respond answer).map routine
  | compaction work => (work.respond answer).map compaction

end Duty

/-- One step of a call: the collaborators' new state, the shared state, and the answer once there
is one. The usage in a good answer counts for sweeps only. -/
structure CallStep (κ : Type) where
  own : κ
  state : SharedState
  answer : Option (Outcome Float)

/-- How the collaborators of one worker behave; a call without a next step never comes back. -/
structure Collaborators (κ : Type) where
  step : Call → SharedState → κ → Option (CallStep κ)

structure Worker (κ : Type) where
  duty : Duty
  own : κ

namespace Worker

variable {κ : Type}

/-- The worker's pass after an answer to the call it made. -/
def receive (w : Worker κ) (step : CallStep κ) (answer : Outcome Float) : PassStep (Worker κ) :=
  let reply := w.duty.respond answer
  { task := ⟨reply.worker, step.own⟩
    state := match reply.published with
      | some usage => step.state.publishUsage usage
      | none => step.state
    calls := [w.duty.call]
    events := reply.events
    outcome := reply.outcome }

def advance (C : Collaborators κ) (state : SharedState) (w : Worker κ) :
    Option (PassStep (Worker κ)) :=
  (C.step w.duty.call state w.own).map fun step =>
    match step.answer with
    | none => { task := { w with own := step.own }, state := step.state }
    | some answer => w.receive step answer

def task (C : Collaborators κ) : Task (Worker κ) where
  kind w := w.duty.kind
  firstWait w := w.duty.firstWait
  laterWait w := w.duty.laterWait
  advance := advance C

end Worker

/-- A whole pass, in at most `fuel` steps, with the calls and events of all of them. It has no
value when the pass does not get that far. -/
def Task.pass? {σ : Type} (T : Task σ) (state : SharedState) (task : σ) :
    Nat → Option (PassStep σ)
  | 0 => none
  | fuel + 1 =>
    (T.advance state task).bind fun first =>
      match first.outcome with
      | some _ => some first
      | none =>
        (T.pass? first.state first.task fuel).map fun rest =>
          { rest with calls := first.calls ++ rest.calls, events := first.events ++ rest.events }

end TabletUpkeep
