import TabletUpkeep.Event
import TabletUpkeep.Loop.Tally
import TabletUpkeep.State.Basic

/-! One maintenance loop as a machine of small steps. It waits if its task says so, then runs a
pass, waits, and goes on until a wait ends in a stop. The stop signal counts only when a wait
ends. A pass takes as many steps as its task needs, and may take for ever; a panic in it is one
of its outcomes. What a pass shares with other loops is the shared state and nothing else. -/
namespace TabletUpkeep

/-- What a pass asks of its surroundings. -/
inductive Call
  | sweepTrash
  | surveyDisks
  | deleteUnusedIndexes
  | cleanDescriptors
  | compactBase
  | compactCumulative
  | bindToGroup
  deriving DecidableEq, Repr

namespace Call

def text : Call → String
  | sweepTrash => "start_trash_sweep"
  | surveyDisks => "start_disk_stat_monitor"
  | deleteUnusedIndexes => "start_delete_unused_index"
  | cleanDescriptors => "start_clean_fd_cache"
  | compactBase => "perform_base_compaction"
  | compactCumulative => "perform_cumulative_compaction"
  | bindToGroup => "apply_system_cgroup"

/-- A compaction is asked for by its tier. -/
def compact : Tier → Call
  | .base => compactBase
  | .cumulative => compactCumulative

/-- Each tier has a method that bears its name. -/
theorem compact_text (tier : Tier) :
    (compact tier).text = "perform_" ++ tier.text ++ "_compaction" := by
  cases tier <;> decide

@[simp] theorem compact_ne_bindToGroup (tier : Tier) : compact tier ≠ bindToGroup := by
  cases tier <;> exact Call.noConfusion

end Call

/-- The effect of one step of a pass; with an outcome it is the last step. -/
structure PassStep (σ : Type) where
  task : σ
  state : SharedState
  calls : List Call := []
  events : List Event := []
  outcome : Option (Outcome Unit) := none

/-- A kind of recurring work, with its timing. `advance` is one step of a pass in flight, and has
no value when the pass never gets further. -/
structure Task (σ : Type) where
  kind : σ → DutyKind
  firstWait : σ → Option Duration
  laterWait : σ → Duration
  advance : SharedState → σ → Option (PassStep σ)

inductive Phase
  | starting
  | due
  | passing
  | passed
  | waiting (length : Duration)
  | halting
  | stopped
  deriving DecidableEq

/-- What a step of a loop amounts to, as seen from outside. -/
inductive Label
  | waitEntered (length : Duration)
  | waitEnded (stopping : Bool)
  | passStarted
  | passEnded (outcome : Outcome Unit)
  | stopped
  deriving DecidableEq

def LoopTally.observe (s : LoopTally) : Label → LoopTally
  | .waitEntered length => s.noteWait length
  | .passEnded outcome => s.notePass outcome
  | .stopped => s.halt
  | .waitEnded _ | .passStarted => s

/-- A loop with its history: the labels of its steps, its calls, and its events. -/
structure UpkeepLoop (σ : Type) where
  name : String
  task : σ
  phase : Phase := .starting
  tally : LoopTally
  trace : List Label := []
  calls : List Call := []
  events : List Event := []

namespace UpkeepLoop

variable {σ : Type}

def ofTask (T : Task σ) (name : String) (task : σ) : UpkeepLoop σ where
  name
  task
  tally := { worker := name, kind := T.kind task }

/-- The loop after a step of the given label, in its new phase. -/
def enter (l : UpkeepLoop σ) (phase : Phase) (label : Label) : UpkeepLoop σ :=
  { l with phase, tally := l.tally.observe label, trace := l.trace ++ [label] }

def enterWait (l : UpkeepLoop σ) (length : Duration) : UpkeepLoop σ :=
  l.enter (.waiting length) (.waitEntered length)

def startPass (l : UpkeepLoop σ) : UpkeepLoop σ := l.enter .passing .passStarted

def failureEvents (l : UpkeepLoop σ) (outcome : Outcome Unit) : List Event :=
  match outcome.failure? with
  | none => []
  | some cause => [.passFailed l.name cause]

/-- The loop after one step of the pass in flight. -/
def continuePass (l : UpkeepLoop σ) (step : PassStep σ) : UpkeepLoop σ :=
  let l := { l with task := step.task, calls := l.calls ++ step.calls,
                    events := l.events ++ step.events }
  match step.outcome with
  | none => l
  | some outcome =>
    { l with events := l.events ++ l.failureEvents outcome }.enter .passed (.passEnded outcome)

/-- The next step of a loop, given whether a stop is signalled and the shared state. There is none
in a pass that never gets further, nor after the end. -/
def step? (T : Task σ) (stopping : Bool) (state : SharedState) (l : UpkeepLoop σ) :
    Option (SharedState × UpkeepLoop σ) :=
  match l.phase with
  | .starting =>
    match T.firstWait l.task with
    | some length => some (state, l.enterWait length)
    | none => some (state, l.startPass)
  | .due => some (state, l.startPass)
  | .passing => (T.advance state l.task).map fun step => (step.state, l.continuePass step)
  | .passed => some (state, l.enterWait (T.laterWait l.task))
  | .waiting _ => some (state, l.enter (if stopping then .halting else .due) (.waitEnded stopping))
  | .halting => some (state, l.enter .stopped .stopped)
  | .stopped => none

@[simp] theorem enter_phase (l : UpkeepLoop σ) (phase : Phase) (label : Label) :
    (l.enter phase label).phase = phase := rfl

@[simp] theorem enter_trace (l : UpkeepLoop σ) (phase : Phase) (label : Label) :
    (l.enter phase label).trace = l.trace ++ [label] := rfl

@[simp] theorem enter_tally (l : UpkeepLoop σ) (phase : Phase) (label : Label) :
    (l.enter phase label).tally = l.tally.observe label := rfl

inductive Question
  | firstWait | runPass | laterWait
  deriving DecidableEq, Repr

def Question.text : Question → String
  | firstWait => "initial_wait"
  | runPass => "run_pass"
  | laterWait => "next_wait"

/-- The questions behind a list of labels, each with the statistics when it is put. -/
def questionsFrom (s : LoopTally) : List Label → List (Question × LoopTally)
  | [] => []
  | label :: rest =>
    let after := s.observe label
    match label with
    | .passStarted => (.runPass, s) :: questionsFrom after rest
    | .passEnded _ => (.laterWait, after) :: questionsFrom after rest
    | _ => questionsFrom after rest

/-- All questions that a loop has put, the one for its first wait first. -/
def questions (l : UpkeepLoop σ) : List (Question × LoopTally) :=
  let fresh : LoopTally := { worker := l.tally.worker, kind := l.tally.kind }
  if l.trace.isEmpty then [] else (.firstWait, fresh) :: questionsFrom fresh l.trace

end UpkeepLoop

end TabletUpkeep
