import TabletUpkeep.Proofs.LoopRounds
import TabletUpkeep.Proofs.LoopSteps

/-! The history of one loop, from its start on. What its waits report of a stop and what it finds
in the shared state may be anything, so this holds of a loop whatever goes on beside it. A loop
that has ended is determined by the rounds it ran, which go on to the first wait that reported a
stop. -/
namespace TabletUpkeep

variable {σ : Type}

namespace UpkeepLoop

/-- Steps of a loop, with what its waits have reported as they ended, in order: whether there is a
stop. No other step is told. -/
inductive Heard (T : Task σ) (start : UpkeepLoop σ) : List Bool → UpkeepLoop σ → Prop
  | nil : Heard T start [] start
  | waitEnd {l next : UpkeepLoop σ} {state after : SharedState} {length : Duration} :
      Heard T start reports l → l.phase = .waiting length →
      l.step? T stopping state = some (after, next) → Heard T start (reports ++ [stopping]) next
  | other {l next : UpkeepLoop σ} {state after : SharedState} :
      Heard T start reports l → (∀ length, l.phase ≠ .waiting length) →
      l.step? T stopping state = some (after, next) → Heard T start reports next

/-- Every run of a loop hears something, and hearing is all that it adds to a run. -/
theorem path_iff_heard {T : Task σ} {start l : UpkeepLoop σ} :
    Path T start l ↔ ∃ reports, Heard T start reports l := by
  constructor
  · intro path
    induction path with
    | nil => exact ⟨[], .nil⟩
    | @snoc _ l _ _ _ _ stepped ih =>
      obtain ⟨reports, heard⟩ := ih
      by_cases waiting : ∃ length, l.phase = .waiting length
      · obtain ⟨length, waiting⟩ := waiting
        exact ⟨_, heard.waitEnd waiting stepped⟩
      · exact ⟨reports, heard.other (not_exists.mp waiting) stepped⟩
  · rintro ⟨reports, heard⟩
    induction heard with
    | nil => exact .nil
    | waitEnd _ _ stepped path => exact path.snoc stepped
    | other _ _ stepped path => exact path.snoc stepped

/-- The reports are those of the trace. -/
theorem Heard.trace {T : Task σ} {name : String} {start : σ} {reports : List Bool}
    {l : UpkeepLoop σ} (heard : Heard T (ofTask T name start) reports l) :
    l.trace.filterMap Label.heard? = reports := by
  induction heard with
  | nil => rfl
  | waitEnd _ waiting stepped ih =>
    obtain ⟨labels, turn, trace, -⟩ := (stepped_of_step stepped).turn
    rw [waiting] at turn
    rw [trace, List.filterMap_append, ih]
    generalize UpkeepLoop.phase _ = phase at turn
    cases turn
    rfl
  | @other _ _ l next _ _ _ unwaiting stepped ih =>
    obtain ⟨labels, turn, trace, -⟩ := (stepped_of_step stepped).turn
    rw [trace, List.filterMap_append, ih]
    generalize l.phase = phase at turn unwaiting
    generalize next.phase = later at turn
    cases turn with
    | waitEnd => exact absurd rfl (unwaiting _)
    | _ => exact List.append_nil _

/-- A loop that has ended after these rounds. The last of its waits ended in a stop, and no other. -/
def finished (T : Task σ) (name : String) (start : σ) (rounds : List (Round σ)) :
    UpkeepLoop σ where
  name
  task := (rounds.getLast?.map Round.task).getD start
  phase := .stopped
  tally := { T.tally name start rounds with stopped := true }
  trace := (T.timedOut start rounds).dropLast ++ [.waitEnded true, .stopped]
  calls := rounds.flatMap Round.calls
  events := rounds.flatMap (Round.report name)

/-- A loop whose statistics are what its labels make of fresh ones. -/
def recorded (T : Task σ) (name : String) (start task : σ) (phase : Phase) (labels : List Label)
    (calls : List Call) (events : List Event) : UpkeepLoop σ where
  name
  task
  phase
  tally := labels.foldl LoopTally.observe { worker := name, kind := T.kind start }
  trace := labels
  calls
  events

section

variable {T : Task σ} {name : String} {start task : σ} {labels : List Label}
variable {calls : List Call} {events : List Event} (stopping : Bool) (state : SharedState)

theorem recorded_enter (old phase : Phase) (label : Label) :
    (recorded T name start task old labels calls events).enter phase label =
      recorded T name start task phase (labels ++ [label]) calls events := by
  simp [recorded, enter, List.foldl_append]

theorem recorded_continue {step : PassStep σ} (going : step.outcome = none) :
    (recorded T name start task .passing labels calls events).continuePass step =
      recorded T name start step.task .passing labels (calls ++ step.calls)
        (events ++ step.events) := by
  simp only [continuePass, going]
  rfl

theorem recorded_end {step : PassStep σ} {outcome : Outcome Unit}
    (ended : step.outcome = some outcome) :
    (recorded T name start task .passing labels calls events).continuePass step =
      recorded T name start step.task .passed (labels ++ [.passEnded outcome])
        (calls ++ step.calls)
        (events ++ step.events ++ outcome.failure?.toList.map (.passFailed name)) := by
  simp only [continuePass, ended]
  rw [← recorded_enter .passing]
  simp only [recorded, failureEvents]
  cases outcome.failure? <;> rfl

theorem step_starting_waiting {length : Duration} (wait : T.firstWait task = some length) :
    (recorded T name start task .starting labels calls events).step? T stopping state =
      some (state, recorded T name start task (.waiting length) (labels ++ [.waitEntered length])
        calls events) := by
  rw [← recorded_enter .starting]
  simp only [step?, recorded, wait, enterWait]

theorem step_starting_passing (wait : T.firstWait task = none) :
    (recorded T name start task .starting labels calls events).step? T stopping state =
      some (state, recorded T name start task .passing (labels ++ [.passStarted])
        calls events) := by
  rw [← recorded_enter .starting]
  simp only [step?, recorded, wait, startPass]

theorem step_due :
    (recorded T name start task .due labels calls events).step? T stopping state =
      some (state, recorded T name start task .passing (labels ++ [.passStarted])
        calls events) := by
  rw [← recorded_enter .due]
  rfl

theorem step_passing :
    (recorded T name start task .passing labels calls events).step? T stopping state =
      (T.advance state task).map fun step => (step.state,
        (recorded T name start task .passing labels calls events).continuePass step) := rfl

theorem step_ending {step : PassStep σ} {outcome : Outcome Unit}
    (advanced : T.advance state task = some step) (ended : step.outcome = some outcome) :
    (recorded T name start task .passing labels calls events).step? T stopping state =
      some (step.state, recorded T name start step.task .passed (labels ++ [.passEnded outcome])
        (calls ++ step.calls)
        (events ++ step.events ++ outcome.failure?.toList.map (.passFailed name))) := by
  rw [step_passing, advanced, Option.map_some, recorded_end ended]

theorem step_passed :
    (recorded T name start task .passed labels calls events).step? T stopping state =
      some (state, recorded T name start task (.waiting (T.laterWait task))
        (labels ++ [.waitEntered (T.laterWait task)]) calls events) := by
  rw [← recorded_enter .passed]
  rfl

theorem step_waiting (length : Duration) :
    (recorded T name start task (.waiting length) labels calls events).step? T stopping state =
      some (state, recorded T name start task (if stopping then .halting else .due)
        (labels ++ [.waitEnded stopping]) calls events) := by
  rw [← recorded_enter (.waiting length)]
  rfl

theorem step_halting :
    (recorded T name start task .halting labels calls events).step? T stopping state =
      some (state, recorded T name start task .stopped (labels ++ [.stopped]) calls events) := by
  rw [← recorded_enter .halting]
  rfl

theorem step_stopped :
    (recorded T name start task .stopped labels calls events).step? T stopping state = none := rfl

end

/-- What is known of a loop between its steps. In each phase but the first, its history is that of
some rounds and of the part of the next one that is over. -/
inductive Standing (T : Task σ) (name : String) (start : σ) : UpkeepLoop σ → Prop
  | starting : Standing T name start (recorded T name start start .starting [] [] [])
  | due {rounds : List (Round σ)} {last : σ} : T.Rounds start rounds last →
      T.waits start rounds ≠ [] →
      Standing T name start (recorded T name start last .due (T.timedOut start rounds)
        (rounds.flatMap Round.calls) (rounds.flatMap (Round.report name)))
  | passing {rounds : List (Round σ)} {last task : σ} {calls : List Call} {events : List Event} :
      T.Rounds start rounds last → T.Passing last task calls events →
      Standing T name start (recorded T name start task .passing
        (T.timedOut start rounds ++ [.passStarted])
        (rounds.flatMap Round.calls ++ calls) (rounds.flatMap (Round.report name) ++ events))
  | passed {rounds : List (Round σ)} {last : σ} {round : Round σ} :
      T.Rounds start rounds last → T.Passes last round →
      Standing T name start (recorded T name start round.task .passed
        (T.timedOut start rounds ++ [.passStarted, .passEnded round.outcome])
        ((rounds ++ [round]).flatMap Round.calls)
        ((rounds ++ [round]).flatMap (Round.report name)))
  | waiting {rounds : List (Round σ)} {last : σ} {length : Duration} :
      T.Rounds start rounds last → T.waits start rounds ≠ [] →
      Standing T name start (recorded T name start last (.waiting length)
        (T.timedOut start rounds).dropLast
        (rounds.flatMap Round.calls) (rounds.flatMap (Round.report name)))
  | halting {rounds : List (Round σ)} {last : σ} :
      T.Rounds start rounds last → T.waits start rounds ≠ [] →
      Standing T name start (recorded T name start last .halting
        ((T.timedOut start rounds).dropLast ++ [.waitEnded true])
        (rounds.flatMap Round.calls) (rounds.flatMap (Round.report name)))
  | stopped {rounds : List (Round σ)} {last : σ} :
      T.Rounds start rounds last → T.waits start rounds ≠ [] →
      Standing T name start (recorded T name start last .stopped
        ((T.timedOut start rounds).dropLast ++ [.waitEnded true, .stopped])
        (rounds.flatMap Round.calls) (rounds.flatMap (Round.report name)))

/-- A pass begins where the rounds so far end. -/
theorem standing_begin (T : Task σ) (name : String) (start : σ) {last : σ}
    {rounds : List (Round σ)} (run : T.Rounds start rounds last) :
    Standing T name start (recorded T name start last .passing
      (T.timedOut start rounds ++ [.passStarted])
      (rounds.flatMap Round.calls) (rounds.flatMap (Round.report name))) := by
  have begun : Standing T name start _ := .passing run .nil
  simpa only [List.append_nil] using begun

theorem standing_step {T : Task σ} {name : String} {start : σ} {l next : UpkeepLoop σ}
    {stopping : Bool} {state after : SharedState} (standing : Standing T name start l)
    (stepped : l.step? T stopping state = some (after, next)) : Standing T name start next := by
  cases standing with
  | starting =>
    cases wait : T.firstWait start with
    | none =>
      rw [step_starting_passing _ _ wait] at stepped
      cases stepped
      have begun := standing_begin T name start .nil
      simpa [Task.timedOut, wait] using begun
    | some length =>
      rw [step_starting_waiting _ _ wait] at stepped
      cases stepped
      have waited : T.waits start [] ≠ [] := by simp [Task.waits, wait]
      have begun : Standing T name start (recorded T name start start (.waiting length) _ _ _) :=
        .waiting .nil waited
      simpa [Task.timedOut, wait] using begun
  | due run waited =>
    rw [step_due] at stepped
    cases stepped
    exact standing_begin T name start run
  | passing run steps =>
    rw [step_passing, Option.map_eq_some_iff] at stepped
    obtain ⟨step, advanced, equal⟩ := stepped
    cases ended : step.outcome with
    | none =>
      rw [recorded_continue ended] at equal
      cases equal
      have further : Standing T name start _ := .passing run (steps.snoc advanced ended)
      simpa only [List.append_assoc] using further
    | some outcome =>
      rw [recorded_end ended] at equal
      cases equal
      have complete : Standing T name start _ := .passed run (.intro steps advanced ended)
      simpa [Round.report, ← Round.failure?_eq] using complete
  | @passed rounds last round run pass =>
    rw [step_passed] at stepped
    cases stepped
    have entered : Standing T name start
        (recorded T name start round.task (.waiting (T.laterWait round.task)) _ _ _) :=
      .waiting (run.snoc pass) (T.waits_snoc_ne_nil start rounds round)
    simpa [Task.timedOut_snoc_dropLast] using entered
  | waiting run waited =>
    rw [step_waiting] at stepped
    cases stopping with
    | false =>
      cases stepped
      rw [Task.timedOut_dropLast T start _ waited]
      exact .due run waited
    | true =>
      cases stepped
      exact .halting run waited
  | halting run waited =>
    rw [step_halting] at stepped
    cases stepped
    rw [List.append_assoc]
    exact .stopped run waited
  | stopped run waited =>
    rw [step_stopped] at stepped
    contradiction

/-- Whatever the signal and the shared state were at its steps, a loop has a history of rounds. -/
theorem path_standing {T : Task σ} {name : String} {start : σ} {l : UpkeepLoop σ}
    (path : Path T (ofTask T name start) l) : Standing T name start l := by
  induction path with
  | nil => exact .starting
  | snoc _ stepped standing => exact standing_step standing stepped

section

variable {T : Task σ} {name : String} {start last task : σ} {l : UpkeepLoop σ}
variable {rounds : List (Round σ)} {round : Round σ} {reports : List Bool}
variable {labels : List Label} {calls more : List Call} {events further : List Event}

theorem path_starting :
    Path T (ofTask T name start) (recorded T name start start .starting [] [] []) := .nil

theorem recorded_finished (run : T.Rounds start rounds last)
    (waited : T.waits start rounds ≠ []) :
    recorded T name start last .stopped
        ((T.timedOut start rounds).dropLast ++ [.waitEnded true, .stopped])
        (rounds.flatMap Round.calls) (rounds.flatMap (Round.report name)) =
      finished T name start rounds := by
  have counted : (T.timedOut start rounds).dropLast.foldl LoopTally.observe
      { worker := name, kind := T.kind start } = T.tally name start rounds := by
    have all := Task.observe_timedOut T name start rounds
    rw [← Task.timedOut_dropLast T start rounds waited, List.foldl_append] at all
    exact all
  simp only [recorded, finished, List.foldl_append, counted, Task.rounds_last run]
  rfl

/-- Told of a stop, a loop has ended after the rounds so far, or it does so by its next step. -/
theorem Heard.ending (heard : Heard T (ofTask T name start) reports l) (told : true ∈ reports) :
    ∃ rounds, T.UntilStop start reports rounds ∧
      (l = finished T name start rounds ∨
        ∀ stopping state, l.step? T stopping state =
          some (state, finished T name start rounds)) := by
  have unheard (n : Nat) : true ∉ List.replicate n false := by simp [List.mem_replicate]
  have counted {rounds : List (Round σ)} (waited : T.waits start rounds ≠ []) :
      ∃ n, (T.waits start rounds).length = n + 1 :=
    Nat.exists_eq_add_one_of_ne_zero (mt List.eq_nil_of_length_eq_zero waited)
  have trace := heard.trace
  cases path_standing (path_iff_heard.mpr ⟨reports, heard⟩) with
  | starting =>
    rw [← trace] at told
    exact absurd told List.not_mem_nil
  | due run waited =>
    rw [← trace, recorded, Task.heard_timedOut] at told
    exact absurd told (unheard _)
  | passing run steps =>
    rw [← trace, recorded, List.filterMap_append, Task.heard_timedOut] at told
    simp [Label.heard?] at told
  | passed run pass =>
    rw [← trace, recorded, List.filterMap_append, Task.heard_timedOut] at told
    simp [Label.heard?] at told
  | waiting run waited =>
    obtain ⟨n, count⟩ := counted waited
    rw [← trace, recorded, Task.heard_timedOut_dropLast count] at told
    exact absurd told (unheard n)
  | halting run waited =>
    obtain ⟨n, count⟩ := counted waited
    rw [recorded, List.filterMap_append, Task.heard_timedOut_dropLast count] at trace
    refine ⟨_, ⟨⟨_, run⟩, n, count, trace.symm⟩, .inr fun stopping state => ?_⟩
    rw [step_halting, List.append_assoc, ← recorded_finished run waited]
    rfl
  | stopped run waited =>
    obtain ⟨n, count⟩ := counted waited
    rw [recorded, List.filterMap_append, Task.heard_timedOut_dropLast count] at trace
    exact ⟨_, ⟨⟨_, run⟩, n, count, trace.symm⟩, .inl (recorded_finished run waited)⟩

/-- No loop ends without having been told of a stop. -/
theorem Heard.told (heard : Heard T (ofTask T name start) reports l)
    (ended : l.phase = .stopped) : true ∈ reports := by
  rw [← heard.trace]
  cases path_standing (path_iff_heard.mpr ⟨reports, heard⟩) with
  | stopped run waited =>
    rw [recorded, List.filterMap_append]
    exact List.mem_append_right _ List.mem_cons_self
  | starting | due | passing | passed | waiting | halting => cases ended

end

end UpkeepLoop

end TabletUpkeep
