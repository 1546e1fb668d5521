import TabletUpkeep.Loop.Script

/-! The rounds of one loop, with nothing of its own bookkeeping: an optional first wait, then one
pass and one wait each time. A pass is a list of steps of its task, whatever each of them finds in
the shared state. What rounds leave in the statistics, in the trace and among the events is said
here from their outcomes alone. Nothing here says that a pass comes to its end. -/
namespace TabletUpkeep

variable {σ : Type}

/-- What a wait reports as it ends. -/
def Label.heard? : Label → Option Bool
  | .waitEnded stopping => some stopping
  | _ => none

/-- What a pass leaves behind: the task as it then is, and the calls and events of its steps. -/
structure Round (σ : Type) where
  task : σ
  calls : List Call
  events : List Event
  outcome : Outcome Unit

namespace Task

/-- Steps of a pass, none of which ends it. -/
inductive Passing (T : Task σ) (start : σ) : σ → List Call → List Event → Prop
  | nil : Passing T start start [] []
  | snoc {task : σ} {state : SharedState} {step : PassStep σ} :
      Passing T start task calls events → T.advance state task = some step → step.outcome = none →
      Passing T start step.task (calls ++ step.calls) (events ++ step.events)

/-- A pass from its first step to the one that ends it. -/
inductive Passes (T : Task σ) (start : σ) : Round σ → Prop
  | intro {task : σ} {state : SharedState} {step : PassStep σ} :
      Passing T start task calls events → T.advance state task = some step →
      step.outcome = some outcome →
      Passes T start ⟨step.task, calls ++ step.calls, events ++ step.events, outcome⟩

/-- Passes one after the other. Each takes up the task where the one before left it. -/
inductive Rounds (T : Task σ) (start : σ) : List (Round σ) → σ → Prop
  | nil : Rounds T start [] start
  | snoc {task : σ} {round : Round σ} : Rounds T start rounds task → Passes T task round →
      Rounds T start (rounds ++ [round]) round.task

/-- The waits of a loop, the first one included if the task asks for one. -/
def waits (T : Task σ) (start : σ) (rounds : List (Round σ)) : List Duration :=
  (T.firstWait start).toList ++ rounds.map fun round => T.laterWait round.task

/-- The labels of one round, its wait having come to the end of its time. -/
def labels (T : Task σ) (round : Round σ) : List Label :=
  [.passStarted, .passEnded round.outcome, .waitEntered (T.laterWait round.task),
   .waitEnded false]

/-- The labels of rounds and of the wait before them, no wait having ended in a stop. -/
def timedOut (T : Task σ) (start : σ) (rounds : List (Round σ)) : List Label :=
  (T.firstWait start).toList.flatMap (fun length => [.waitEntered length, .waitEnded false]) ++
  rounds.flatMap T.labels

end Task

namespace Round

/-- Why a pass counts as failed, if it does. A panic has the number -1, and the text that it
carries if that is one. -/
def cause? (round : Round σ) : Option UpkeepError :=
  match round.outcome with
  | .ok () => none
  | .error cause => some cause
  | .panic (.fixed text) => some (.failed (-1) ("pass panicked: " ++ text))
  | .panic (.formatted text) => some (.failed (-1) ("pass panicked: " ++ text))
  | .panic .other => some (.failed (-1) "pass panicked: unknown panic")

/-- The causes of the passes that failed or panicked, in order. -/
def failures (rounds : List (Round σ)) : List UpkeepError := rounds.filterMap cause?

/-- The events of a pass, with the warning that the loop adds to a failing one. -/
def report (name : String) (round : Round σ) : List Event :=
  round.events ++ round.cause?.toList.map (.passFailed name)

theorem failure?_eq (round : Round σ) : round.outcome.failure? = round.cause? := by
  obtain ⟨task, calls, events, outcome⟩ := round
  cases outcome with
  | ok _ => rfl
  | error cause => rfl
  | panic payload => cases payload <;> rfl

theorem failures_snoc (rounds : List (Round σ)) (round : Round σ) :
    failures (rounds ++ [round]) = failures rounds ++ round.cause?.toList := by
  unfold failures
  rw [List.filterMap_append]
  cases failure : round.cause? <;> simp [failure]

end Round

namespace Task

/-- The statistics after rounds, with every wait of theirs begun. Counters are words, so the
counts are taken modulo theirs. -/
def tally (T : Task σ) (name : String) (start : σ) (rounds : List (Round σ)) : LoopTally where
  worker := name
  kind := T.kind start
  passes := .ofNat rounds.length
  failures := .ofNat (Round.failures rounds).length
  waits := .ofNat (T.waits start rounds).length
  lastWaitMillis := ((T.waits start rounds).getLast?.map
    fun length => .ofNat (length.toNanos / 1000000)).getD 0
  lastError := (Round.failures rounds).getLast?.map UpkeepError.message
  passStamps := rounds.length

theorem rounds_last {T : Task σ} {start last : σ} {rounds : List (Round σ)}
    (run : T.Rounds start rounds last) : (rounds.getLast?.map Round.task).getD start = last := by
  cases run with
  | nil => rfl
  | snoc run pass => simp

theorem waits_snoc (T : Task σ) (start : σ) (rounds : List (Round σ)) (round : Round σ) :
    T.waits start (rounds ++ [round]) = T.waits start rounds ++ [T.laterWait round.task] := by
  simp [waits]

theorem waits_snoc_ne_nil (T : Task σ) (start : σ) (rounds : List (Round σ)) (round : Round σ) :
    T.waits start (rounds ++ [round]) ≠ [] := by
  simp [waits]

theorem timedOut_snoc (T : Task σ) (start : σ) (rounds : List (Round σ)) (round : Round σ) :
    T.timedOut start (rounds ++ [round]) = T.timedOut start rounds ++ T.labels round := by
  simp [timedOut]

theorem timedOut_snoc_dropLast (T : Task σ) (start : σ) (rounds : List (Round σ))
    (round : Round σ) :
    (T.timedOut start (rounds ++ [round])).dropLast =
      T.timedOut start rounds ++ [.passStarted, .passEnded round.outcome,
        .waitEntered (T.laterWait round.task)] := by
  rw [timedOut_snoc, List.dropLast_append_of_ne_nil (by simp [labels])]
  rfl

/-- Once there is a wait, the last label is the end of one. -/
theorem timedOut_dropLast (T : Task σ) (start : σ) (rounds : List (Round σ))
    (waited : T.waits start rounds ≠ []) :
    (T.timedOut start rounds).dropLast ++ [.waitEnded false] = T.timedOut start rounds := by
  rcases List.eq_nil_or_concat rounds with empty | ⟨before, round, split⟩
  · subst empty
    obtain ⟨length, wait⟩ : ∃ length, T.firstWait start = some length := by
      rw [← Option.ne_none_iff_exists']
      intro wait
      simp [waits, wait] at waited
    simp [timedOut, wait]
  · rw [split, List.concat_eq_append, timedOut_snoc_dropLast, timedOut_snoc, List.append_assoc]
    rfl

theorem tally_snoc (T : Task σ) (name : String) (start : σ) (rounds : List (Round σ))
    (round : Round σ) :
    T.tally name start (rounds ++ [round]) =
      ((T.tally name start rounds).notePass round.outcome).noteWait (T.laterWait round.task) := by
  have cause := round.failure?_eq
  cases failure : round.cause? <;>
    simp [tally, waits_snoc, Round.failures_snoc, cause, failure, UInt64.ofNat_add,
      Duration.millis_eq, LoopTally.notePass, LoopTally.passWrites, LoopTally.noteWait,
      LoopTally.waitWrites, LoopTally.apply]

theorem observe_first (T : Task σ) (name : String) (start : σ) :
    (T.timedOut start []).foldl LoopTally.observe { worker := name, kind := T.kind start } =
      T.tally name start [] := by
  cases wait : T.firstWait start with
  | none => simp [timedOut, tally, waits, wait, Round.failures]
  | some length =>
    simp [timedOut, tally, waits, wait, Round.failures, LoopTally.observe, LoopTally.noteWait,
      LoopTally.waitWrites, LoopTally.apply, Duration.millis_eq]

/-- Rounds are observed from the front, while the tally of rounds grows at the back. -/
theorem observe_rounds (T : Task σ) (name : String) (start : σ)
    (before rounds : List (Round σ)) :
    (rounds.flatMap T.labels).foldl LoopTally.observe (T.tally name start before) =
      T.tally name start (before ++ rounds) := by
  induction rounds generalizing before with
  | nil => simp
  | cons round rounds ih =>
    have next := ih (before ++ [round])
    rw [tally_snoc, List.append_assoc] at next
    exact next

theorem observe_timedOut (T : Task σ) (name : String) (start : σ) (rounds : List (Round σ)) :
    (T.timedOut start rounds).foldl LoopTally.observe { worker := name, kind := T.kind start } =
      T.tally name start rounds := by
  have first := observe_first T name start
  simp only [timedOut, List.flatMap_nil, List.append_nil] at first
  rw [timedOut, List.foldl_append, first]
  exact observe_rounds T name start [] rounds

theorem heard_labels (T : Task σ) (rounds : List (Round σ)) :
    (rounds.flatMap T.labels).filterMap Label.heard? = List.replicate rounds.length false := by
  induction rounds with
  | nil => rfl
  | cons round rounds ih =>
    rw [List.flatMap_cons, List.filterMap_append, ih]
    rfl

theorem heard_timedOut (T : Task σ) (start : σ) (rounds : List (Round σ)) :
    (T.timedOut start rounds).filterMap Label.heard? =
      List.replicate (T.waits start rounds).length false := by
  rw [timedOut, List.filterMap_append, heard_labels, waits, List.length_append, List.length_map,
    ← List.replicate_append_replicate]
  cases T.firstWait start <;> rfl

theorem heard_timedOut_dropLast {T : Task σ} {start : σ} {rounds : List (Round σ)} {n : Nat}
    (count : (T.waits start rounds).length = n + 1) :
    (T.timedOut start rounds).dropLast.filterMap Label.heard? = List.replicate n false := by
  have waited : T.waits start rounds ≠ [] := List.ne_nil_of_length_eq_add_one count
  have all := heard_timedOut T start rounds
  rw [← timedOut_dropLast T start rounds waited, List.filterMap_append, count,
    List.replicate_succ'] at all
  exact List.append_cancel_right all

/-- Rounds whose last wait, and no other, reports a stop. -/
structure UntilStop (T : Task σ) (start : σ) (reports : List Bool) (rounds : List (Round σ)) :
    Prop where
  run : ∃ last, T.Rounds start rounds last
  reports : ∃ n, (T.waits start rounds).length = n + 1 ∧
    reports = List.replicate n false ++ [true]

end Task

end TabletUpkeep
