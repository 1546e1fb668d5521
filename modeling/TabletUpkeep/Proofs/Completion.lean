import TabletUpkeep.Proofs.FleetRuns
import TabletUpkeep.Duty.Worker

/-! Coming to an end. Where every call of a collaborator comes back, by whatever result, every pass
ends, and a loop that is told to stop winds up. Others may change the shared state between any two
steps, so each of the three is about every state that a step may find. The induction is on how a
call comes back; from calls it goes up to passes, and from passes to loops. -/
namespace TabletUpkeep

/-- The call comes back, whatever goes on meanwhile. -/
inductive Collaborators.Returns {κ : Type} (C : Collaborators κ) (call : Call) : κ → Prop
  | intro {own : κ} : (∀ state, (C.step call state own).isSome = true) →
      (∀ state step, C.step call state own = some step → step.answer = none →
        Returns C call step.own) →
      Returns C call own

/-- Collaborators all of whose calls come back, in every condition they can get into. -/
structure Collaborators.Returning {κ : Type} (C : Collaborators κ) (Good : κ → Prop) : Prop where
  returns : ∀ own call, Good own → C.Returns call own
  kept : ∀ own call state step, Good own → C.step call state own = some step → Good step.own

namespace Task

variable {σ : Type}

/-- The pass ends, whatever goes on meanwhile. -/
inductive PassEnds (T : Task σ) : σ → Prop
  | intro {task : σ} : (∀ state, (T.advance state task).isSome = true) →
      (∀ state step, T.advance state task = some step → step.outcome = none →
        PassEnds T step.task) →
      PassEnds T task

/-- A task all of whose passes end. -/
structure Ending (T : Task σ) (Good : σ → Prop) : Prop where
  ends : ∀ task, Good task → T.PassEnds task
  kept : ∀ task state step, Good task → T.advance state task = some step → Good step.task

end Task

theorem TrashSweep.respond_ends (t : TrashSweep) (answer : Outcome Float) :
    (t.respond answer).outcome ≠ none := by
  cases answer with
  | ok reported =>
    unfold respond
    dsimp only
    split <;> exact Option.some_ne_none _
  | error cause => exact Option.some_ne_none _
  | panic payload => exact Option.some_ne_none _

theorem RoutineWork.respond_ends (p : RoutineWork) (answer : Outcome Float) :
    (p.respond answer).outcome ≠ none := by
  cases answer <;> exact Option.some_ne_none _

namespace CompactionWork

theorem respond_ends {c : CompactionWork} (unbinding : c.isBinding = false)
    (answer : Outcome Float) : (c.respond answer).outcome ≠ none := by
  rw [respond, unbinding]
  exact Option.some_ne_none _

/-- A binding that leaves the pass going on leaves it with the compaction. -/
theorem respond_bound {c : CompactionWork} {answer : Outcome Float} (binding : c.isBinding = true)
    (going : (c.respond answer).outcome = none) : (c.respond answer).worker.isBinding = false := by
  rw [respond, binding, if_pos rfl] at going ⊢
  cases answer with
  | ok _ => simp [respondToBinding, isBinding]
  | error cause => simp [respondToBinding, isBinding]
  | panic payload => cases going

end CompactionWork

namespace Worker

variable {κ : Type} {C : Collaborators κ} {Good : κ → Prop}

/-- A pass whose call comes back ends, if it ends where the answer leaves it going on. -/
theorem passEnds_of_returns (returning : C.Returning Good) {duty : Duty} {own : κ}
    (good : Good own)
    (onward : ∀ answer own, Good own → (duty.respond answer).outcome = none →
      (task C).PassEnds ⟨(duty.respond answer).worker, own⟩) :
    (task C).PassEnds ⟨duty, own⟩ := by
  have returns := returning.returns own duty.call good
  induction returns with
  | @intro own goes _ ih =>
    refine .intro (fun state => ?_) fun state step advanced going => ?_
    · exact (Option.isSome_map ..).trans (goes state)
    · obtain ⟨called, found, rfl⟩ := Option.map_eq_some_iff.mp advanced
      have still : Good called.own := returning.kept _ _ _ _ good found
      cases answered : called.answer with
      | none => exact ih state called found answered still
      | some answer =>
        rw [answered] at going
        exact onward answer called.own still going

theorem passEnds_of_unbinding (returning : C.Returning Good) {work : CompactionWork} {own : κ}
    (good : Good own) (unbinding : work.isBinding = false) :
    (task C).PassEnds ⟨.compaction work, own⟩ :=
  passEnds_of_returns returning good fun answer _ _ going =>
    absurd going (CompactionWork.respond_ends unbinding answer)

/-- Of every duty the passes end. A compaction goes on after its binding, unless that panicked; any
other answer is the last one. -/
theorem task_ending (returning : C.Returning Good) :
    (task C).Ending fun w => Good w.own := by
  refine ⟨?_, ?_⟩
  · rintro ⟨duty, own⟩ good
    cases duty with
    | trashSweep work =>
      exact passEnds_of_returns returning good fun answer _ _ going =>
        absurd going (work.respond_ends answer)
    | routine work =>
      exact passEnds_of_returns returning good fun answer _ _ going =>
        absurd going (work.respond_ends answer)
    | compaction work =>
      cases binding : work.isBinding with
      | false => exact passEnds_of_unbinding returning good binding
      | true =>
        exact passEnds_of_returns returning good fun answer own good going =>
          passEnds_of_unbinding returning good (CompactionWork.respond_bound binding going)
  · intro w state step good advanced
    obtain ⟨called, found, rfl⟩ := Option.map_eq_some_iff.mp advanced
    have still : Good called.own := returning.kept _ _ _ _ good found
    cases called.answer with
    | none => exact still
    | some answer => exact still

end Worker

namespace UpkeepLoop

variable {σ : Type} {T : Task σ}

/-- Told to stop, the loop comes to its end, whatever goes on between its steps. -/
inductive Winds (T : Task σ) : UpkeepLoop σ → Prop
  | stopped {l : UpkeepLoop σ} : l.phase = .stopped → Winds T l
  | step {l : UpkeepLoop σ} : (∀ state, (l.step? T true state).isSome = true) →
      (∀ state after next, l.step? T true state = some (after, next) → Winds T next) → Winds T l

theorem Winds.of_next {l : UpkeepLoop σ} (next : UpkeepLoop σ)
    (stepped : ∀ state, l.step? T true state = some (state, next)) (winds : next.Winds T) :
    l.Winds T := by
  refine .step (fun state => by rw [stepped]; rfl) fun state after found possible => ?_
  rw [stepped] at possible
  cases possible
  exact winds

theorem winds_of_halting {l : UpkeepLoop σ} (halting : l.phase = .halting) : l.Winds T :=
  .of_next (l.enter .stopped .stopped) (fun state => by simp only [step?, halting]) (.stopped rfl)

theorem winds_of_waiting {l : UpkeepLoop σ} {length : Duration}
    (waiting : l.phase = .waiting length) : l.Winds T :=
  .of_next (l.enter .halting (.waitEnded true))
    (fun state => by simp only [step?, waiting, if_true]) (winds_of_halting rfl)

theorem winds_of_passed {l : UpkeepLoop σ} (passed : l.phase = .passed) : l.Winds T :=
  .of_next (l.enterWait (T.laterWait l.task)) (fun state => by simp only [step?, passed])
    (winds_of_waiting rfl)

theorem winds_of_passing {l : UpkeepLoop σ} (passing : l.phase = .passing)
    (ends : T.PassEnds l.task) : l.Winds T := by
  generalize at_task : l.task = task at ends
  induction ends generalizing l with
  | intro goes _ ih =>
    subst at_task
    refine .step (fun state => ?_) fun state after next stepped => ?_
    · rw [step?, passing]
      exact (Option.isSome_map ..).trans (goes state)
    · rw [step?, passing] at stepped
      obtain ⟨step, advanced, equal⟩ := Option.map_eq_some_iff.mp stepped
      cases equal
      cases ended : step.outcome with
      | none =>
        refine ih state step advanced ended ?_ (l.continuePass_task step)
        rw [continuePass_going l ended, passing]
      | some outcome =>
        rw [continuePass_ended l ended]
        exact winds_of_passed rfl

theorem winds_of_startPass {l : UpkeepLoop σ} (ends : T.PassEnds l.task)
    (stepped : ∀ state, l.step? T true state = some (state, l.startPass)) : l.Winds T :=
  .of_next l.startPass stepped (winds_of_passing rfl ends)

theorem winds_of_passEnds {l : UpkeepLoop σ} (ends : T.PassEnds l.task) : l.Winds T := by
  cases phase : l.phase with
  | stopped => exact .stopped phase
  | halting => exact winds_of_halting phase
  | waiting length => exact winds_of_waiting phase
  | passed => exact winds_of_passed phase
  | passing => exact winds_of_passing phase ends
  | due => exact winds_of_startPass ends fun state => by simp only [step?, phase]
  | starting =>
    cases first : T.firstWait l.task with
    | none => exact winds_of_startPass ends fun state => by simp only [step?, phase, first]
    | some length =>
      exact .of_next (l.enterWait length) (fun state => by simp only [step?, phase, first])
        (winds_of_waiting rfl)

/-- What passes keep of a task holds of it along a path. -/
theorem Path.keeps_task {Good : σ → Prop}
    (kept : ∀ task state step, Good task → T.advance state task = some step → Good step.task)
    {start l : UpkeepLoop σ} (path : Path T start l) (good : Good start.task) : Good l.task := by
  refine path.keeps (P := fun l => Good l.task) ?_ good
  intro stopping state l after next step good
  cases step with
  | passing _ advanced =>
    rw [continuePass_task]
    exact kept _ _ _ good advanced
  | firstWait _ _ => exact good
  | firstPass _ _ => exact good
  | nextPass _ => exact good
  | laterWait _ => exact good
  | waitEnd _ => exact good
  | halt _ => exact good

theorem Turn.eq_stopped {stopping first : Bool} {phase next : Phase} {labels : List Label}
    (turn : Turn stopping first phase labels next) (stopped : next = .stopped) :
    labels = [.stopped] := by
  cases turn
  case halt => rfl
  case waitEnd => cases stopping <;> cases stopped
  all_goals cases stopped

/-- A loop marks its end. -/
theorem Path.marks_stopped {start l : UpkeepLoop σ} (path : Path T start l)
    (unstopped : start.phase ≠ .stopped) (stopped : l.phase = .stopped) :
    l.tally.stopped = true := by
  cases path with
  | nil => exact absurd stopped unstopped
  | snoc _ stepped =>
    obtain ⟨labels, turn, -, tally⟩ := (stepped_of_step stepped).turn
    rw [tally, turn.eq_stopped stopped]
    rfl

end UpkeepLoop

end TabletUpkeep
