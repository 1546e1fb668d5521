import TabletUpkeep.Duration
import TabletUpkeep.Failure
import TabletUpkeep.Duty.Kind

/-! Statistics of one loop. The loop publishes them in single writes, each of which others can see
before the next; recording a pass or a wait is such a sequence of writes. Counters are words and
wrap. The clock is not kept: of the time of the last pass only how often it was set. -/
namespace TabletUpkeep

structure LoopTally where
  worker : String
  kind : DutyKind
  passes : UInt64 := 0
  failures : UInt64 := 0
  waits : UInt64 := 0
  lastWaitMillis : UInt64 := 0
  lastError : Option String := none
  passStamps : Nat := 0
  stopped : Bool := false
  deriving DecidableEq

namespace LoopTally

/-- One write that others can see. -/
inductive Write
  | stampPass
  | storeError (text : String)
  | countFailure
  | countPass
  | storeWait (millis : UInt64)
  | countWait
  | halt
  deriving DecidableEq

def apply (s : LoopTally) : Write → LoopTally
  | .stampPass => { s with passStamps := s.passStamps + 1 }
  | .storeError text => { s with lastError := some text }
  | .countFailure => { s with failures := s.failures + 1 }
  | .countPass => { s with passes := s.passes + 1 }
  | .storeWait millis => { s with lastWaitMillis := millis }
  | .countWait => { s with waits := s.waits + 1 }
  | .halt => { s with stopped := true }

/-- A pass is counted last; a failing one stores its text and counts as a failure before that. -/
def passWrites (o : Outcome Unit) : List Write :=
  match o.failure? with
  | none => [.stampPass, .countPass]
  | some cause => [.stampPass, .storeError cause.message, .countFailure, .countPass]

def waitWrites (d : Duration) : List Write := [.storeWait d.millis, .countWait]

def applyAll (s : LoopTally) (writes : List Write) : LoopTally := writes.foldl apply s

@[simp] theorem applyAll_nil (s : LoopTally) : s.applyAll [] = s := rfl

@[simp] theorem applyAll_cons (s : LoopTally) (w : Write) (rest : List Write) :
    s.applyAll (w :: rest) = (s.apply w).applyAll rest := rfl

theorem applyAll_append (s : LoopTally) (xs ys : List Write) :
    s.applyAll (xs ++ ys) = (s.applyAll xs).applyAll ys := List.foldl_append

def notePass (s : LoopTally) (o : Outcome Unit) : LoopTally := s.applyAll (passWrites o)

def noteWait (s : LoopTally) (d : Duration) : LoopTally := s.applyAll (waitWrites d)

def halt (s : LoopTally) : LoopTally := s.apply .halt

theorem notePass_passes (s : LoopTally) (o : Outcome Unit) :
    (s.notePass o).passes = s.passes + 1 := by
  unfold notePass passWrites
  split <;> rfl

/-- Whether a pass has set the time of the last pass. -/
def lastPassKnown (s : LoopTally) : Bool := s.passStamps != 0

def lastWait (s : LoopTally) : Duration := .ofMillis s.lastWaitMillis

/-- The single reads of a snapshot. -/
inductive Field
  | passes | failures | waits | lastWait | lastError | lastPass | stopped
  deriving DecidableEq, Repr

/-- The order in which a snapshot reads. -/
def snapshotOrder : List Field :=
  [.passes, .failures, .waits, .lastWait, .lastError, .lastPass, .stopped]

/-- Copies what one read sees into a snapshot under way. -/
def readField (live snapshot : LoopTally) : Field → LoopTally
  | .passes => { snapshot with passes := live.passes }
  | .failures => { snapshot with failures := live.failures }
  | .waits => { snapshot with waits := live.waits }
  | .lastWait => { snapshot with lastWaitMillis := live.lastWaitMillis }
  | .lastError => { snapshot with lastError := live.lastError }
  | .lastPass => { snapshot with passStamps := live.passStamps }
  | .stopped => { snapshot with stopped := live.stopped }

/-- A snapshot of statistics that nobody writes meanwhile. -/
def snapshot (live : LoopTally) : LoopTally :=
  snapshotOrder.foldl live.readField ⟨live.worker, live.kind, 0, 0, 0, 0, none, 0, false⟩

theorem snapshot_eq (live : LoopTally) : live.snapshot = live := by
  simp [snapshot, snapshotOrder, readField]

end LoopTally

end TabletUpkeep
