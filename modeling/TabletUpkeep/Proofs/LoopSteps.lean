import TabletUpkeep.Loop.Basic

/-! What a single step of a loop can be. Only the end of a wait looks at the stop signal, and only
a pass looks at the shared state; every other step is decided by the loop alone. -/
namespace TabletUpkeep

variable {σ : Type}

namespace UpkeepLoop

/-- Some steps of a loop, each under whatever signal and shared state there is at the time. -/
inductive Path (T : Task σ) (start : UpkeepLoop σ) : UpkeepLoop σ → Prop
  | nil : Path T start start
  | snoc {l next : UpkeepLoop σ} {state after : SharedState} : Path T start l →
      l.step? T stopping state = some (after, next) → Path T start next

/-- All that a step can be, with the shared state and the loop after it. -/
inductive Stepped (T : Task σ) (stopping : Bool) (state : SharedState) (l : UpkeepLoop σ) :
    SharedState → UpkeepLoop σ → Prop
  | firstWait {length : Duration} : l.phase = .starting → T.firstWait l.task = some length →
      Stepped T stopping state l state (l.enterWait length)
  | firstPass : l.phase = .starting → T.firstWait l.task = none →
      Stepped T stopping state l state l.startPass
  | nextPass : l.phase = .due → Stepped T stopping state l state l.startPass
  | passing {step : PassStep σ} : l.phase = .passing → T.advance state l.task = some step →
      Stepped T stopping state l step.state (l.continuePass step)
  | laterWait : l.phase = .passed →
      Stepped T stopping state l state (l.enterWait (T.laterWait l.task))
  | waitEnd {length : Duration} : l.phase = .waiting length →
      Stepped T stopping state l state
        (l.enter (if stopping then .halting else .due) (.waitEnded stopping))
  | halt : l.phase = .halting → Stepped T stopping state l state (l.enter .stopped .stopped)

theorem stepped_of_step {T : Task σ} {stopping : Bool} {state after : SharedState}
    {l next : UpkeepLoop σ} (step : l.step? T stopping state = some (after, next)) :
    Stepped T stopping state l after next := by
  unfold step? at step
  split at step
  next starting =>
    split at step
    next length wait => cases step; exact .firstWait starting wait
    next wait => cases step; exact .firstPass starting wait
  next due => cases step; exact .nextPass due
  next passing =>
    obtain ⟨advanced, found, equal⟩ := Option.map_eq_some_iff.mp step
    cases equal
    exact .passing passing found
  next passed => cases step; exact .laterWait passed
  next length waiting => cases step; exact .waitEnd waiting
  next halting => cases step; exact .halt halting
  next => cases step

theorem continuePass_going (l : UpkeepLoop σ) {step : PassStep σ} (going : step.outcome = none) :
    l.continuePass step =
      { l with task := step.task, calls := l.calls ++ step.calls
               events := l.events ++ step.events } := by
  simp only [continuePass, going]

theorem continuePass_ended (l : UpkeepLoop σ) {step : PassStep σ} {outcome : Outcome Unit}
    (ended : step.outcome = some outcome) :
    l.continuePass step =
      { l with task := step.task, calls := l.calls ++ step.calls
               events := l.events ++ step.events ++ l.failureEvents outcome }.enter
        .passed (.passEnded outcome) := by
  simp only [continuePass, ended, failureEvents]

@[simp] theorem continuePass_task (l : UpkeepLoop σ) (step : PassStep σ) :
    (l.continuePass step).task = step.task := by
  cases ended : step.outcome with
  | none => rw [continuePass_going l ended]
  | some outcome => rw [continuePass_ended l ended]; rfl

@[simp] theorem enterWait_trace (l : UpkeepLoop σ) (length : Duration) :
    (l.enterWait length).trace = l.trace ++ [.waitEntered length] := rfl

/-- The labels of a step, by the phases before and after it. A step within a pass has none. -/
inductive Turn (stopping waitsFirst : Bool) : Phase → List Label → Phase → Prop
  | firstWait {length : Duration} : waitsFirst = true →
      Turn stopping waitsFirst .starting [.waitEntered length] (.waiting length)
  | firstPass : waitsFirst = false → Turn stopping waitsFirst .starting [.passStarted] .passing
  | nextPass : Turn stopping waitsFirst .due [.passStarted] .passing
  | withinPass : Turn stopping waitsFirst .passing [] .passing
  | passEnd {outcome : Outcome Unit} :
      Turn stopping waitsFirst .passing [.passEnded outcome] .passed
  | laterWait {length : Duration} :
      Turn stopping waitsFirst .passed [.waitEntered length] (.waiting length)
  | waitEnd {length : Duration} :
      Turn stopping waitsFirst (.waiting length) [.waitEnded stopping]
        (if stopping then .halting else .due)
  | halt : Turn stopping waitsFirst .halting [.stopped] .stopped

/-- A step adds its labels to the trace, and the statistics follow the trace. -/
theorem Stepped.turn {T : Task σ} {stopping : Bool} {state after : SharedState}
    {l next : UpkeepLoop σ} (step : Stepped T stopping state l after next) :
    ∃ labels, Turn stopping (T.firstWait l.task).isSome l.phase labels next.phase ∧
      next.trace = l.trace ++ labels ∧ next.tally = labels.foldl LoopTally.observe l.tally := by
  cases step with
  | firstWait starting wait =>
    rw [starting]
    exact ⟨_, .firstWait (by simp [wait]), rfl, rfl⟩
  | firstPass starting wait =>
    rw [starting]
    exact ⟨_, .firstPass (by simp [wait]), rfl, rfl⟩
  | nextPass due =>
    rw [due]
    exact ⟨_, .nextPass, rfl, rfl⟩
  | @passing pass passing _ =>
    cases ended : pass.outcome with
    | none =>
      rw [continuePass_going l ended, passing]
      exact ⟨[], .withinPass, by simp, rfl⟩
    | some outcome =>
      rw [continuePass_ended l ended, passing]
      exact ⟨_, .passEnd, rfl, rfl⟩
  | laterWait passed =>
    rw [passed]
    exact ⟨_, .laterWait, rfl, rfl⟩
  | waitEnd waiting =>
    rw [waiting]
    exact ⟨_, .waitEnd, rfl, rfl⟩
  | halt halting =>
    rw [halting]
    exact ⟨_, .halt, rfl, rfl⟩

/-- No step leads back to the start. -/
theorem Turn.ne_starting {stopping waitsFirst : Bool} {phase next : Phase} {labels : List Label}
    (turn : Turn stopping waitsFirst phase labels next) : next ≠ .starting := by
  cases turn
  case waitEnd => split <;> simp
  all_goals simp

/-- Only a loop that has done nothing yet is at its start. -/
theorem Path.eq_of_starting {T : Task σ} {start l : UpkeepLoop σ} (path : Path T start l)
    (starting : l.phase = .starting) : l = start := by
  cases path with
  | nil => rfl
  | snoc _ stepped =>
    obtain ⟨_, turn, -, -⟩ := (stepped_of_step stepped).turn
    exact absurd starting turn.ne_starting

/-- Some steps of a loop, the stop signal being the same at each of them. -/
inductive Stretch (T : Task σ) (stopping : Bool) (start : UpkeepLoop σ) : UpkeepLoop σ → Prop
  | nil : Stretch T stopping start start
  | snoc {l next : UpkeepLoop σ} {state after : SharedState} : Stretch T stopping start l →
      l.step? T stopping state = some (after, next) → Stretch T stopping start next

/-- What every step keeps holds along a path. -/
theorem Path.keeps {T : Task σ} {P : UpkeepLoop σ → Prop} {start l : UpkeepLoop σ}
    (path : Path T start l)
    (kept : ∀ stopping state l after next, Stepped T stopping state l after next → P l → P next)
    (first : P start) : P l := by
  induction path with
  | nil => exact first
  | snoc _ stepped held => exact kept _ _ _ _ _ (stepped_of_step stepped) held

end UpkeepLoop

end TabletUpkeep
