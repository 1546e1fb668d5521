import TabletUpkeep.Duty.Worker
import TabletUpkeep.Loop.Script
import TabletUpkeep.Proofs.FleetRuns
import TabletUpkeep.Supervisor.Basic

/-! Stopping. The signal counts only when a wait ends, so what a loop still does after the trigger
depends on where in its round the trigger finds it. That rest is laid down by `closing`; every
step after the trigger takes its label off the front of it. Before the trigger no loop sees a stop,
and letting go of the trigger is no trigger. -/
namespace TabletUpkeep

variable {σ : Type}

/-- A label without its details. -/
inductive Beat
  | waitEntered
  | waitEnded (stopping : Bool)
  | passStarted
  | passEnded
  | stopped
  deriving DecidableEq

def Label.beat : Label → Beat
  | waitEntered _ => .waitEntered
  | waitEnded stopping => .waitEnded stopping
  | passStarted => .passStarted
  | passEnded _ => .passEnded
  | stopped => .stopped

/-- What a loop still does once a stop is signalled. -/
def Phase.closing (waitsFirst : Bool) : Phase → List Beat
  | starting =>
    if waitsFirst then [.waitEntered, .waitEnded true, .stopped]
    else [.passStarted, .passEnded, .waitEntered, .waitEnded true, .stopped]
  | due => [.passStarted, .passEnded, .waitEntered, .waitEnded true, .stopped]
  | passing => [.passEnded, .waitEntered, .waitEnded true, .stopped]
  | passed => [.waitEntered, .waitEnded true, .stopped]
  | waiting _ => [.waitEnded true, .stopped]
  | halting => [.stopped]
  | stopped => []

theorem Phase.eq_passing_of_closing {phase : Phase} {first : Bool} {rest : List Beat}
    (ends : phase.closing first = .passEnded :: rest) : phase = .passing := by
  cases phase with
  | passing => rfl
  | starting => cases first <;> simp [closing] at ends
  | due => simp [closing] at ends
  | passed => simp [closing] at ends
  | waiting length => simp [closing] at ends
  | halting => simp [closing] at ends
  | stopped => simp [closing] at ends

/-- If a pass is still to start, it starts at once. -/
theorem Phase.passStarted_not_mem_tail_closing (phase : Phase) (first : Bool) :
    .passStarted ∉ (phase.closing first).tail := by
  cases phase with
  | starting => cases first <;> simp [closing]
  | due => simp [closing]
  | passing => simp [closing]
  | passed => simp [closing]
  | waiting length => simp [closing]
  | halting => simp [closing]
  | stopped => simp [closing]

theorem Label.beat_eq_passStarted {label : Label} :
    label.beat = .passStarted ↔ label = .passStarted := by
  cases label <;> simp [beat]

theorem Label.beat_eq_passEnded {label : Label} :
    label.beat = .passEnded ↔ ∃ outcome, label = .passEnded outcome := by
  cases label <;> simp [beat]

section

variable {labels : List Label} {rest : List Beat} {first : Bool}

/-- Of labels that begin a closing, only the first can be the start of a pass. -/
theorem Label.passStarted_not_mem_tail {phase : Phase}
    (closing : phase.closing first = labels.map Label.beat ++ rest) :
    .passStarted ∉ labels.tail := by
  intro started
  refine phase.passStarted_not_mem_tail_closing first ?_
  cases labels with
  | nil => simp at started
  | cons label labels =>
    rw [closing, List.map_cons, List.cons_append, List.tail_cons, List.mem_append]
    exact .inl (List.mem_map.mpr ⟨_, started, rfl⟩)

theorem Label.count_passStarted_le_one (only_first : .passStarted ∉ labels.tail) :
    labels.count .passStarted ≤ 1 := by
  cases labels with
  | nil => simp
  | cons label labels =>
    have none_later : labels.count .passStarted = 0 := List.count_eq_zero.mpr only_first
    rw [List.count_cons, none_later]
    split <;> simp

/-- A pass in flight is the next thing to end, and the only pass to do so. -/
theorem Label.passEnded_first
    (closing : Phase.passing.closing first = labels.map Label.beat ++ rest) :
    labels = [] ∨ ∃ outcome more, labels = .passEnded outcome :: more ∧
      (labels.map Label.beat).count .passEnded = 1 := by
  cases labels with
  | nil => exact .inl rfl
  | cons label labels =>
    obtain ⟨ends, others⟩ := List.cons.inj closing
    obtain ⟨outcome, rfl⟩ := Label.beat_eq_passEnded.mp ends.symm
    have no_other : .passEnded ∉ labels.map Label.beat := fun again => by
      have member := List.mem_append_left rest again
      rw [← List.append_eq, ← others] at member
      simp at member
    refine .inr ⟨outcome, labels, rfl, ?_⟩
    rw [List.map_cons, List.count_cons, List.count_eq_zero.mpr no_other]
    rfl

/-- A loop whose first wait is still to come has no pass before it. -/
theorem Label.no_pass_of_waits_first
    (closing : Phase.starting.closing true = labels.map Label.beat ++ rest) :
    .passStarted ∉ labels ∧ (labels.map Label.beat).count .passEnded = 0 := by
  have among {beat : Beat} (member : beat ∈ labels.map Label.beat) :
      beat ∈ Phase.starting.closing true := by
    rw [closing]
    exact List.mem_append_left rest member
  refine ⟨fun started => ?_, List.count_eq_zero.mpr fun ended => ?_⟩
  · simpa [Phase.closing, Label.beat] using among (List.mem_map_of_mem started)
  · simpa [Phase.closing] using among ended

/-- A loop whose pass comes first has run one pass when it has stopped. -/
theorem Label.one_pass_of_runs_first
    (closing : Phase.starting.closing false = labels.map Label.beat) :
    labels.count .passStarted = 1 ∧ (labels.map Label.beat).count .passEnded = 1 := by
  refine ⟨?_, by rw [← closing]; rfl⟩
  have split : Phase.starting.closing false = labels.map Label.beat ++ [] := by
    rw [closing, List.append_nil]
  have only_first : .passStarted ∉ labels.tail := passStarted_not_mem_tail split
  refine Nat.le_antisymm (count_passStarted_le_one only_first) (List.one_le_count_iff.mpr ?_)
  have started : Beat.passStarted ∈ labels.map Label.beat := by simp [← closing, Phase.closing]
  obtain ⟨label, member, same⟩ := List.mem_map.mp started
  rwa [Label.beat_eq_passStarted.mp same] at member

end

namespace LoopTally

theorem observe_passes (s : LoopTally) (label : Label) :
    (s.observe label).passes = s.passes + .ofNat ([label.beat].count .passEnded) := by
  cases label with
  | passEnded outcome => exact notePass_passes s outcome
  | waitEntered length => simp [observe, Label.beat, noteWait, waitWrites, apply]
  | waitEnded stopping => simp [observe, Label.beat]
  | passStarted => simp [observe, Label.beat]
  | stopped => simp [observe, Label.beat, halt, apply]

/-- The passes counted are the passes that came to their end. -/
theorem foldl_observe_passes (s : LoopTally) (labels : List Label) :
    (labels.foldl observe s).passes =
      s.passes + .ofNat ((labels.map Label.beat).count .passEnded) := by
  induction labels generalizing s with
  | nil => simp
  | cons label rest ih =>
    have split : (label :: rest).map Label.beat = [label.beat] ++ rest.map Label.beat := rfl
    rw [List.foldl_cons, ih, observe_passes, split, List.count_append, UInt64.ofNat_add,
      UInt64.add_assoc]

theorem observe_stopped (s : LoopTally) {label : Label} (other : label ≠ .stopped) :
    (s.observe label).stopped = s.stopped := by
  cases label with
  | passEnded outcome =>
    simp only [observe, notePass, passWrites]
    split <;> rfl
  | stopped => exact absurd rfl other
  | waitEntered length => rfl
  | waitEnded stopping => rfl
  | passStarted => rfl

theorem foldl_observe_stopped (s : LoopTally) {labels : List Label}
    (unstopped : .stopped ∉ labels) : (labels.foldl observe s).stopped = s.stopped := by
  induction labels generalizing s with
  | nil => rfl
  | cons label rest ih =>
    obtain ⟨other, later⟩ := not_or.mp (mt List.mem_cons.mpr unstopped)
    rw [List.foldl_cons, ih _ later, observe_stopped s (Ne.symm other)]

end LoopTally

namespace UpkeepLoop

def closing (T : Task σ) (l : UpkeepLoop σ) : List Beat :=
  l.phase.closing (T.firstWait l.task).isSome

/-- Under a stop signal a step takes what it does off the front of what is left to do. -/
theorem Turn.closing {first second : Bool} {phase next : Phase} {labels : List Label}
    (turn : Turn true first phase labels next) :
    phase.closing first = labels.map Label.beat ++ next.closing second := by
  cases turn with
  | firstWait waits => simp [Phase.closing, waits, Label.beat]
  | firstPass runs => simp [Phase.closing, runs, Label.beat]
  | nextPass => rfl
  | withinPass => rfl
  | passEnd => rfl
  | laterWait => rfl
  | waitEnd => rfl
  | halt => rfl

/-- What was done under a stop signal, and what is left to do, is what was to be done. -/
theorem Stretch.closing {T : Task σ} {start l : UpkeepLoop σ} (stretch : Stretch T true start l) :
    ∃ labels, l.trace = start.trace ++ labels ∧
      l.tally = labels.foldl LoopTally.observe start.tally ∧
      start.closing T = labels.map Label.beat ++ l.closing T := by
  induction stretch with
  | nil => exact ⟨[], by simp⟩
  | snoc _ stepped before =>
    obtain ⟨labels, trace, tally, rest⟩ := before
    obtain ⟨more, turn, further, counted⟩ := (stepped_of_step stepped).turn
    refine ⟨labels ++ more, ?_, ?_, ?_⟩
    · rw [further, trace, List.append_assoc]
    · rw [counted, tally, List.foldl_append]
    · rw [rest, UpkeepLoop.closing, turn.closing, List.map_append, List.append_assoc]
      rfl

/-- What is known of a loop that has seen no stop. -/
structure Running (l : UpkeepLoop σ) : Prop where
  phase : l.phase ≠ .halting ∧ l.phase ≠ .stopped
  trace : .stopped ∉ l.trace
  tally : l.tally.stopped = false

theorem Turn.running {first : Bool} {phase next : Phase} {labels : List Label}
    (turn : Turn false first phase labels next) (running : phase ≠ .halting) :
    next ≠ .halting ∧ next ≠ .stopped ∧ .stopped ∉ labels := by
  cases turn with
  | halt => exact absurd rfl running
  | firstWait _ => simp
  | firstPass _ => simp
  | nextPass => simp
  | withinPass => simp
  | passEnd => simp
  | laterWait => simp
  | waitEnd => simp

theorem Stretch.running {T : Task σ} {start l : UpkeepLoop σ} (stretch : Stretch T false start l)
    (running : start.Running) : l.Running := by
  induction stretch with
  | nil => exact running
  | snoc _ stepped before =>
    obtain ⟨labels, turn, trace, tally⟩ := (stepped_of_step stepped).turn
    obtain ⟨halting, stopped, unstopped⟩ := turn.running before.phase.1
    refine ⟨⟨halting, stopped⟩, ?_, ?_⟩
    · rw [trace, List.mem_append, not_or]
      exact ⟨before.trace, unstopped⟩
    · rw [tally, LoopTally.foldl_observe_stopped _ unstopped, before.tally]

/-- Once a wait has ended in a stop, nothing is left but to stop. -/
def Sealed (l : UpkeepLoop σ) : Prop :=
  ∀ before after, l.trace = before ++ .waitEnded true :: after →
    (l.phase = .halting ∧ after = []) ∨ (l.phase = .stopped ∧ after = [.stopped])

theorem Turn.of_halting {stopping first : Bool} {phase next : Phase} {labels : List Label}
    (turn : Turn stopping first phase labels next) (halting : phase = .halting) :
    labels = [.stopped] ∧ next = .stopped := by
  cases turn
  case halt => exact ⟨rfl, rfl⟩
  all_goals cases halting

theorem Turn.phase_ne_stopped {stopping first : Bool} {phase next : Phase} {labels : List Label}
    (turn : Turn stopping first phase labels next) : phase ≠ .stopped := by
  cases turn <;> simp

theorem Turn.sealing {stopping first : Bool} {phase next : Phase} {labels : List Label}
    (turn : Turn stopping first phase labels next) (stop : .waitEnded true ∈ labels) :
    labels = [.waitEnded true] ∧ next = .halting := by
  cases turn
  case waitEnd =>
    obtain rfl : stopping = true := by simpa using stop
    exact ⟨rfl, rfl⟩
  all_goals simp at stop

theorem Stepped.keeps_sealed {T : Task σ} {stopping : Bool} {state after : SharedState}
    {l next : UpkeepLoop σ} (step : Stepped T stopping state l after next) (so_far : l.Sealed) :
    next.Sealed := by
  obtain ⟨labels, turn, trace, -⟩ := step.turn
  intro early late split
  have ends_now (here : .waitEnded true :: late = labels) : next.phase = .halting ∧ late = [] := by
    obtain ⟨only, halting⟩ := turn.sealing (by simp [← here])
    rw [only] at here
    exact ⟨halting, (List.cons.inj here).2⟩
  rw [trace, List.append_eq_append_iff] at split
  obtain ⟨more, -, here⟩ | ⟨rest, ended, here⟩ := split
  · obtain ⟨only, -⟩ := turn.sealing (by simp [here])
    obtain rfl : more = [] := by
      have length := congrArg List.length (only.symm.trans here)
      simp at length
      exact List.eq_nil_of_length_eq_zero (by omega)
    exact .inl (ends_now here.symm)
  · cases rest with
    | nil => exact .inl (ends_now here)
    | cons first rest =>
      obtain ⟨rfl, rfl⟩ := List.cons.inj here
      obtain ⟨halting, rfl⟩ | ⟨stopped, -⟩ := so_far early rest ended
      · obtain ⟨rfl, stopped⟩ := turn.of_halting halting
        exact .inr ⟨stopped, rfl⟩
      · exact absurd stopped turn.phase_ne_stopped

theorem Path.sealed {T : Task σ} {name : String} {task : σ} {l : UpkeepLoop σ}
    (path : Path T (.ofTask T name task) l) : l.Sealed :=
  path.keeps (fun _ _ _ _ _ step so_far => step.keeps_sealed so_far)
    (fun _ _ split => by simp [ofTask] at split)

/-- What a loop makes of the trigger: `found` is the loop as the trigger finds it, `l` the same
loop at any later time, and `later` what it has done in between. -/
structure Heeds (T : Task σ) (found : UpkeepLoop σ) (later : List Label) (l : UpkeepLoop σ) :
    Prop where
  trace : l.trace = found.trace ++ later
  /-- The pass in flight goes on; it is the next thing to end, and it is counted. -/
  inFlight : found.phase = .passing → (later = [] ∧ l.phase = .passing) ∨
    ∃ outcome rest, later = .passEnded outcome :: rest ∧
      l.tally.passes = found.tally.passes + 1
  atMostOne : later.count .passStarted ≤ 1
  /-- A pass that starts is the first thing to happen, so no wait has been entered before it. -/
  atOnce : ∀ mid rest, later = mid ++ .passStarted :: rest → mid = []
  waitsFirst : found.phase = .starting → (T.firstWait found.task).isSome = true →
    .passStarted ∉ l.trace ∧ l.tally.passes = 0
  runsFirst : found.phase = .starting → T.firstWait found.task = none → l.phase = .stopped →
    l.trace.count .passStarted = 1 ∧ l.tally.passes = 1

theorem Heeds.of_stretch {T : Task σ} {name : String} {task : σ} {found l : UpkeepLoop σ}
    (path : Path T (.ofTask T name task) found) (stretch : Stretch T true found l) :
    ∃ later, Heeds T found later l := by
  obtain ⟨later, trace, tally, closing⟩ := stretch.closing
  have passes : l.tally.passes =
      found.tally.passes + .ofNat ((later.map Label.beat).count .passEnded) := by
    rw [tally, LoopTally.foldl_observe_passes]
  have only_first : .passStarted ∉ later.tail := Label.passStarted_not_mem_tail closing
  refine ⟨later, trace, ?_, Label.count_passStarted_le_one only_first, ?_, ?_, ?_⟩
  · intro passing
    rw [UpkeepLoop.closing, passing] at closing
    obtain rfl | ⟨outcome, rest, split, once⟩ := Label.passEnded_first closing
    · exact .inl ⟨rfl, Phase.eq_passing_of_closing closing.symm⟩
    · exact .inr ⟨outcome, rest, split, by rw [passes, once]; rfl⟩
  · rintro mid rest rfl
    cases mid with
    | nil => rfl
    | cons label mid => simp at only_first
  · intro starting waits
    obtain rfl := path.eq_of_starting starting
    rw [UpkeepLoop.closing, waits, starting] at closing
    obtain ⟨unstarted, unended⟩ := Label.no_pass_of_waits_first closing
    rw [trace, passes, unended]
    exact ⟨unstarted, rfl⟩
  · intro starting runs stopped
    obtain rfl := path.eq_of_starting starting
    rw [UpkeepLoop.closing, runs, starting, UpkeepLoop.closing, stopped] at closing
    obtain ⟨started, ended⟩ := Label.one_pass_of_runs_first (closing.trans (List.append_nil _))
    rw [trace, passes, ended]
    exact ⟨started, rfl⟩

end UpkeepLoop

/-- A scripted pass ends with its first step. -/
theorem ScriptedTask.pass_ends (state : SharedState) (t : ScriptedTask) :
    ∃ fuel pass, task.pass? state t fuel = some pass := by
  obtain ⟨outcome, ends⟩ : ∃ outcome, (t.advance state).outcome = some outcome := by
    unfold advance
    split <;> exact ⟨_, rfl⟩
  refine ⟨1, t.advance state, ?_⟩
  simp [Task.pass?, task, ends]

namespace Fleet

/-- Steps of loop `i` alone bring it to its end. -/
def Stops (T : Task σ) (i : Nat) (f : Fleet σ) : Prop :=
  ∃ count l, (f.run T (.replicate count (.step i))).loops[i]? = some l ∧ l.phase = .stopped

section

variable {T : Task σ} {i : Nat} {f : Fleet σ} {l : UpkeepLoop σ}

/-- To stop, a loop may take a step first. -/
theorem Stops.of_step {next : UpkeepLoop σ} {after : SharedState} (found : f.loops[i]? = some l)
    (stepped : l.step? T f.line.reportsStop f.state = some (after, next))
    (rest : ∀ g : Fleet σ, g.line = f.line → g.state = after → g.loops[i]? = some next →
      g.Stops T i) : f.Stops T i := by
  have bound := (List.getElem?_eq_some_iff.mp found).1
  obtain ⟨count, last, at_i, stopped⟩ :=
    rest { f with state := after, loops := f.loops.set i next } rfl rfl (by simp [bound])
  refine ⟨count + 1, last, ?_, stopped⟩
  rw [List.replicate_succ, run_cons, move_step found stepped]
  exact at_i

theorem stops_halting (found : f.loops[i]? = some l) (halting : l.phase = .halting) :
    f.Stops T i := by
  have stepped :
      l.step? T f.line.reportsStop f.state = some (f.state, l.enter .stopped .stopped) := by
    simp only [UpkeepLoop.step?, halting]
  exact .of_step found stepped fun g _ _ at_i => ⟨0, _, at_i, rfl⟩

theorem stops_waiting {length : Duration} (stopping : f.line.reportsStop = true)
    (found : f.loops[i]? = some l) (waiting : l.phase = .waiting length) : f.Stops T i := by
  have stepped : l.step? T f.line.reportsStop f.state =
      some (f.state, l.enter .halting (.waitEnded true)) := by
    simp only [UpkeepLoop.step?, waiting, stopping, if_true]
  exact .of_step found stepped fun g _ _ at_i => stops_halting at_i rfl

theorem stops_passed (stopping : f.line.reportsStop = true) (found : f.loops[i]? = some l)
    (passed : l.phase = .passed) : f.Stops T i := by
  have stepped : l.step? T f.line.reportsStop f.state =
      some (f.state, l.enterWait (T.laterWait l.task)) := by
    simp only [UpkeepLoop.step?, passed]
  exact .of_step found stepped fun g line _ at_i => stops_waiting (line ▸ stopping) at_i rfl

/-- A pass that comes to its end leads to the wait after it. -/
theorem stops_passing {fuel : Nat} {pass : PassStep σ} (stopping : f.line.reportsStop = true)
    (found : f.loops[i]? = some l) (passing : l.phase = .passing)
    (ends : T.pass? f.state l.task fuel = some pass) : f.Stops T i := by
  induction fuel generalizing f l pass with
  | zero => cases ends
  | succ fuel ih =>
    obtain ⟨first, advanced, rest⟩ := Option.bind_eq_some_iff.mp ends
    have stepped : l.step? T f.line.reportsStop f.state =
        some (first.state, l.continuePass first) := by
      simp only [UpkeepLoop.step?, passing, advanced, Option.map_some]
    refine .of_step found stepped fun g line state at_i => ?_
    have still_stopping : g.line.reportsStop = true := line ▸ stopping
    cases ended : first.outcome with
    | some outcome =>
      rw [UpkeepLoop.continuePass_ended l ended] at at_i
      exact stops_passed still_stopping at_i rfl
    | none =>
      rw [ended] at rest
      obtain ⟨more, later, -⟩ := Option.map_eq_some_iff.mp rest
      have going : (l.continuePass first).phase = .passing := by
        rw [UpkeepLoop.continuePass_going l ended, passing]
      have continues : T.pass? g.state (l.continuePass first).task fuel = some more := by
        rwa [state, UpkeepLoop.continuePass_task]
      exact ih still_stopping at_i going continues

theorem stops_starting_pass {fuel : Nat} {pass : PassStep σ}
    (stopping : f.line.reportsStop = true) (found : f.loops[i]? = some l)
    (stepped : l.step? T f.line.reportsStop f.state = some (f.state, l.startPass))
    (ends : T.pass? f.state l.task fuel = some pass) : f.Stops T i :=
  .of_step found stepped fun _ line state at_i =>
    stops_passing (line ▸ stopping) at_i rfl (state ▸ ends)

/-- Once a stop is signalled a loop comes to its end, if the pass before it does. -/
theorem stops_of_closing (stopping : f.line.reportsStop = true) (found : f.loops[i]? = some l)
    (ends : .passEnded ∈ l.closing T → ∃ fuel pass, T.pass? f.state l.task fuel = some pass) :
    f.Stops T i := by
  cases phase : l.phase with
  | stopped => exact ⟨0, l, found, phase⟩
  | halting => exact stops_halting found phase
  | waiting length => exact stops_waiting stopping found phase
  | passed => exact stops_passed stopping found phase
  | passing =>
    obtain ⟨fuel, pass, ends⟩ := ends (by simp [UpkeepLoop.closing, phase, Phase.closing])
    exact stops_passing stopping found phase ends
  | due =>
    obtain ⟨fuel, pass, ends⟩ := ends (by simp [UpkeepLoop.closing, phase, Phase.closing])
    exact stops_starting_pass stopping found (by simp only [UpkeepLoop.step?, phase]) ends
  | starting =>
    cases first : T.firstWait l.task with
    | none =>
      obtain ⟨fuel, pass, ends⟩ := ends (by simp [UpkeepLoop.closing, phase, Phase.closing, first])
      exact stops_starting_pass stopping found (by simp only [UpkeepLoop.step?, phase, first]) ends
    | some length =>
      have stepped : l.step? T f.line.reportsStop f.state =
          some (f.state, l.enterWait length) := by
        simp only [UpkeepLoop.step?, phase, first]
      exact .of_step found stepped fun g line _ at_i => stops_waiting (line ▸ stopping) at_i rfl

end

section

variable {T : Task σ} {state : SharedState} {team : List (String × σ)} {schedule : List Move}
variable {i : Nat} {l : UpkeepLoop σ}

/-- Before the trigger no loop has seen a stop. Letting go of it is one of the moves. -/
theorem ofTeam_running (quiet : .fire ∉ schedule)
    (found : ((ofTeam T state team).run T schedule).loops[i]? = some l) : l.Running := by
  obtain ⟨worker, -, first⟩ := ofTeam_first found
  obtain ⟨reached, at_i, stretch⟩ := run_armed quiet ofTeam_armed first
  obtain rfl := Option.some.inj (found.symm.trans at_i)
  exact stretch.running ⟨by simp [UpkeepLoop.ofTask], by simp [UpkeepLoop.ofTask], rfl⟩

theorem ofTeam_sealed (found : ((ofTeam T state team).run T schedule).loops[i]? = some l) :
    l.Sealed := by
  obtain ⟨worker, -, first⟩ := ofTeam_first found
  obtain ⟨reached, at_i, path⟩ := run_path T schedule first
  obtain rfl := Option.some.inj (found.symm.trans at_i)
  exact path.sealed

/-- Once the trigger is fired each loop heeds it, and comes to its end if its pass does. -/
theorem ofTeam_heeds {worker : String × σ} {before : List Move} (after : List Move)
    (kept : .dropTrigger ∉ before) (at_i : team[i]? = some worker) :
    ∃ found l later,
      ((ofTeam T state team).run T before).loops[i]? = some found ∧
      ((ofTeam T state team).run T (before ++ .fire :: after)).loops[i]? = some l ∧
      UpkeepLoop.Heeds T found later l ∧
      ((.passEnded ∈ l.closing T → ∃ fuel pass, T.pass?
          ((ofTeam T state team).run T (before ++ .fire :: after)).state l.task fuel = some pass) →
        ((ofTeam T state team).run T (before ++ .fire :: after)).Stops T i) := by
  obtain ⟨found, at_fire, path⟩ := run_path T before (ofTeam_loops at_i)
  have fired : (((ofTeam T state team).run T before).move T .fire).line.sender = false :=
    StopLine.fire_sender (run_trigger kept rfl)
  obtain ⟨l, at_end, still_fired, stretch⟩ := run_fired after fired at_fire
  rw [← run_cons, ← run_append] at at_end still_fired
  obtain ⟨later, heeds⟩ := UpkeepLoop.Heeds.of_stretch path stretch
  exact ⟨found, l, later, at_fire, at_end, heeds,
    stops_of_closing (StopLine.reportsStop_of_fired still_fired) at_end⟩

end

/-- No loop stops before the trigger is fired, which letting go of it or of the supervisor never
does. Fired, it is heeded at the end of the next wait: a pass in flight is completed, and only a
pass that is next to come still starts. -/
theorem stops_at_next_wait (T : Task σ) (state : SharedState) (team : List (String × σ)) :
    (∀ (schedule : List Move) (i : Nat) (l : UpkeepLoop σ), .fire ∉ schedule →
      ((ofTeam T state team).run T schedule).loops[i]? = some l → l.Running) ∧
    (∀ (schedule : List Move) (i : Nat) (l : UpkeepLoop σ) (before after : List Label),
      ((ofTeam T state team).run T schedule).loops[i]? = some l →
      l.trace = before ++ .waitEnded true :: after → .passStarted ∉ after) ∧
    (∀ (before after : List Move) (i : Nat) (worker : String × σ), .dropTrigger ∉ before →
      team[i]? = some worker →
      ∃ found l later,
        ((ofTeam T state team).run T before).loops[i]? = some found ∧
        ((ofTeam T state team).run T (before ++ .fire :: after)).loops[i]? = some l ∧
        UpkeepLoop.Heeds T found later l ∧
        ((.passEnded ∈ l.closing T → ∃ fuel pass, T.pass?
            ((ofTeam T state team).run T (before ++ .fire :: after)).state l.task fuel =
              some pass) →
          ((ofTeam T state team).run T (before ++ .fire :: after)).Stops T i)) ∧
    ∀ s : Supervisor, .fire ∉ s.drop.deeds := by
  refine ⟨?_, ?_, ?_, ?_⟩
  · intro schedule i l quiet found
    exact ofTeam_running quiet found
  · intro schedule i l before after found split
    obtain ⟨-, rfl⟩ | ⟨-, rfl⟩ := ofTeam_sealed found before after split <;> simp
  · intro before after i worker kept at_i
    exact ofTeam_heeds after kept at_i
  · intro s
    simp [Supervisor.drop]

/-- A sweeper about to wait, and a monitor whose pass is in flight as the trigger fires: the pass is
counted although it panics, the sweeper runs none, and both stop. -/
theorem pass_in_flight_counted :
    let team : List (String × ScriptedTask) :=
      [("sweeper", { kind := .trashSweep, firstWait := some .zero, rounds := [] }),
       ("monitor", { kind := .diskStatMonitor, firstWait := none,
                     rounds := [(.panic (.fixed "p"), .zero)] })]
    let f := ofTeam ScriptedTask.task {} team
    let struck := f.run ScriptedTask.task [.step 1, .fire, .step 1, .step 0, .step 1, .step 0]
    (∀ l, (f.run ScriptedTask.task [.step 1, .dropTrigger, .step 1]).loops[1]? = some l →
      l.Running) ∧
    (∀ l, struck.loops[1]? = some l → l.tally.passes = 1) ∧
    (∀ l, struck.loops[0]? = some l → .passStarted ∉ l.trace) ∧
    struck.Stops ScriptedTask.task 0 ∧ struck.Stops ScriptedTask.task 1 := by
  intro team f struck
  obtain ⟨running, -, heeds, -⟩ := stops_at_next_wait ScriptedTask.task {} team
  obtain ⟨found, l, later, at_fire, at_end, heeded, stops⟩ :=
    heeds [.step 1] [.step 1, .step 0, .step 1, .step 0] 1 _ (by decide) rfl
  obtain ⟨found', l', later', at_fire', at_end', heeded', stops'⟩ :=
    heeds [.step 1] [.step 1, .step 0, .step 1, .step 0] 0 _ (by decide) rfl
  refine ⟨fun l => running [.step 1, .dropTrigger, .step 1] 1 l (by decide), ?_, ?_,
    stops' fun _ => ScriptedTask.pass_ends _ _, stops fun _ => ScriptedTask.pass_ends _ _⟩
  · intro reached at_one
    obtain rfl := Option.some.inj (at_one.symm.trans at_end)
    cases at_fire
    obtain ⟨-, passing⟩ | ⟨_, _, -, counted⟩ := heeded.inFlight rfl
    · cases at_end
      cases passing
    · exact counted
  · intro reached at_zero
    obtain rfl := Option.some.inj (at_zero.symm.trans at_end')
    cases at_fire'
    exact (heeded'.waitsFirst rfl rfl).1

end Fleet

end TabletUpkeep
