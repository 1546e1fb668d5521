import TabletUpkeep.Proofs.FleetRuns

/-! A loop by itself. If its passes do not look at the shared state, nothing that other loops do
reaches it: it is where its own steps and the waits that timed out have brought it. The moves that
concern it make up a schedule of its own, under which it does the same with no other loop beside
it. -/
namespace TabletUpkeep

variable {σ : Type}

/-- What a step of a pass does to its loop, leaving out what it does to the shared state. -/
def PassStep.inward (step : PassStep σ) : PassStep σ := { step with state := {} }

/-- Passes take no notice of the shared state. They may still change it. -/
def Task.Blind (T : Task σ) : Prop :=
  ∀ state other task, (T.advance state task).map PassStep.inward =
    (T.advance other task).map PassStep.inward

namespace UpkeepLoop

/-- The loop after its next step, with no shared state to speak of. -/
def next? (T : Task σ) (stopping : Bool) (l : UpkeepLoop σ) : Option (UpkeepLoop σ) :=
  (l.step? T stopping {}).map Prod.snd

/-- The waits of a loop that came to the end of their time. -/
def timeouts (l : UpkeepLoop σ) : Nat := l.trace.count (.waitEnded false)

theorem continuePass_inward (l : UpkeepLoop σ) (step : PassStep σ) :
    l.continuePass step.inward = l.continuePass step := rfl

theorem step?_next? {T : Task σ} (blind : T.Blind) (stopping : Bool) (state : SharedState)
    (l : UpkeepLoop σ) : (l.step? T stopping state).map Prod.snd = l.next? T stopping := by
  unfold next? step?
  split
  case h_3 passing =>
    have same := congrArg (Option.map l.continuePass) (blind state {} l.task)
    simpa [Function.comp_def, continuePass_inward] using same
  case h_1 => split <;> rfl
  all_goals rfl

/-- Only the end of a wait looks at the signal. -/
theorem next?_of_not_waiting {T : Task σ} {l : UpkeepLoop σ}
    (active : ∀ length, l.phase ≠ .waiting length) (stopping other : Bool) :
    l.next? T stopping = l.next? T other := by
  unfold next? step?
  split
  case h_5 length waiting => exact absurd waiting (active length)
  all_goals rfl

theorem next?_of_waiting {T : Task σ} {l : UpkeepLoop σ} {length : Duration}
    (waiting : l.phase = .waiting length) (stopping : Bool) :
    l.next? T stopping =
      some (l.enter (if stopping then .halting else .due) (.waitEnded stopping)) := by
  simp only [next?, step?, waiting, Option.map_some]

theorem timeouts_of_waiting (l : UpkeepLoop σ) (phase : Phase) (stopping : Bool) :
    (l.enter phase (.waitEnded stopping)).timeouts =
      l.timeouts + if stopping then 0 else 1 := by
  cases stopping <;> simp [timeouts]

theorem timeouts_of_not_waiting {T : Task σ} {stopping : Bool} {l next : UpkeepLoop σ}
    (active : ∀ length, l.phase ≠ .waiting length) (stepped : l.next? T stopping = some next) :
    next.timeouts = l.timeouts := by
  obtain ⟨⟨state, next⟩, step, rfl⟩ := Option.map_eq_some_iff.mp stepped
  obtain ⟨labels, turn, trace, -⟩ := (stepped_of_step step).turn
  unfold timeouts
  rw [trace, List.count_append]
  generalize l.phase = phase, next.phase = after at turn active
  cases turn
  case waitEnd length => exact absurd rfl (active length)
  all_goals simp

/-- The loop after some steps, a stop being signalled from the time on that the given number of
its waits have timed out. -/
def alone (T : Task σ) (timeouts : Nat) (first : UpkeepLoop σ) : Nat → UpkeepLoop σ
  | 0 => first
  | steps + 1 =>
    let l := alone T timeouts first steps
    (l.next? T (timeouts ≤ l.timeouts)).getD l

section

variable {T : Task σ} {first l : UpkeepLoop σ} {timeouts steps : Nat}

/-- A loop that is not about to end has not seen the signal, so it may as well come later. -/
theorem alone_later {later : Nat} (order : timeouts ≤ later)
    (halting : (alone T timeouts first steps).phase ≠ .halting)
    (stopped : (alone T timeouts first steps).phase ≠ .stopped) :
    alone T later first steps = alone T timeouts first steps := by
  induction steps with
  | zero => rfl
  | succ steps ih =>
    rw [alone] at halting stopped ⊢
    rw [alone]
    generalize alone T timeouts first steps = l at ih halting stopped ⊢
    have not_halting : l.phase ≠ .halting := fun phase => by
      simp [next?, step?, phase] at stopped
    have not_stopped : l.phase ≠ .stopped := fun phase => by
      simp [next?, step?, phase] at stopped
    rw [ih not_halting not_stopped]
    by_cases active : ∀ length, l.phase ≠ .waiting length
    · rw [next?_of_not_waiting active]
    · obtain ⟨length, waiting⟩ : ∃ length, l.phase = .waiting length := by simpa using active
      have running : ¬ timeouts ≤ l.timeouts := fun reached => by
        simp [next?_of_waiting waiting, reached] at halting
      have still_running : ¬ later ≤ l.timeouts :=
        fun reached => running (Nat.le_trans order reached)
      rw [decide_eq_false running, decide_eq_false still_running]

/-- One more step, whatever the signal then is, is the next step of the loop alone. -/
theorem alone_follows (stopping : Bool) (so_far : l = alone T l.timeouts first steps) :
    (l.next? T stopping).getD l =
      alone T ((l.next? T stopping).getD l).timeouts first (steps + 1) := by
  by_cases active : ∀ length, l.phase ≠ .waiting length
  · have same : ((l.next? T stopping).getD l).timeouts = l.timeouts := by
      cases stepped : l.next? T stopping with
      | none => rfl
      | some next => exact timeouts_of_not_waiting active stepped
    rw [same, alone, ← so_far, next?_of_not_waiting active]
  · obtain ⟨length, waiting⟩ : ∃ length, l.phase = .waiting length := by simpa using active
    rw [next?_of_waiting waiting, Option.getD_some, timeouts_of_waiting, alone]
    cases stopping with
    | true =>
      simp only [if_true, Nat.add_zero, ← so_far, next?_of_waiting waiting, Nat.le_refl,
        decide_true, Option.getD_some]
    | false =>
      have unseen : alone T (l.timeouts + 1) first steps = l := by
        refine (alone_later (Nat.le_succ _) ?_ ?_).trans so_far.symm <;> simp [← so_far, waiting]
      have flag : decide (l.timeouts + 1 ≤ l.timeouts) = false := by simp
      simp only [Bool.false_eq_true, if_false, unseen, flag, next?_of_waiting waiting,
        Option.getD_some]

/-- A loop with no next step stays as it is. -/
theorem alone_settled (more : Nat)
    (settled : (alone T timeouts first steps).next? T false = none) :
    alone T timeouts first (steps + more) = alone T timeouts first steps := by
  have active (length : Duration) : (alone T timeouts first steps).phase ≠ .waiting length :=
    fun waiting => by simp [next?_of_waiting waiting] at settled
  induction more with
  | zero => rfl
  | succ more ih =>
    rw [← Nat.add_assoc, alone, ih, next?_of_not_waiting active _ false, settled]
    rfl

/-- Two loops alone are the same after as many steps, and when neither has a next one. -/
theorem alone_unique {other : Nat}
    (same : steps = other ∨ (alone T timeouts first steps).next? T false = none ∧
      (alone T timeouts first other).next? T false = none) :
    alone T timeouts first steps = alone T timeouts first other := by
  obtain rfl | ⟨settled, settled'⟩ := same
  · rfl
  · obtain ⟨more, rfl⟩ | ⟨more, rfl⟩ := (Nat.le_total steps other).imp
      Nat.exists_eq_add_of_le Nat.exists_eq_add_of_le
    · exact (alone_settled more settled).symm
    · exact alone_settled more settled'

end

end UpkeepLoop

namespace StopLine

/-- Two lines that report a stop at the same time, and go on to do so under the same moves. -/
structure Alike (x y : StopLine) : Prop where
  sender : x.sender = y.sender
  trigger : x.trigger = y.trigger
  signals : 0 < x.signals ∧ 0 < y.signals

theorem Alike.reportsStop {x y : StopLine} (alike : Alike x y) :
    x.reportsStop = y.reportsStop := by
  rw [reportsStop_eq alike.signals.1, reportsStop_eq alike.signals.2, alike.sender]

theorem Alike.fire {x y : StopLine} (alike : Alike x y) : Alike x.fire y.fire := by
  unfold StopLine.fire
  rw [alike.trigger]
  split
  · exact ⟨rfl, rfl, alike.signals⟩
  · exact alike

theorem Alike.dropTrigger {x y : StopLine} (alike : Alike x y) :
    Alike { x with trigger := false } { y with trigger := false } :=
  ⟨alike.sender, rfl, alike.signals⟩

end StopLine

/-- What a move is to the loop in place `i`, as the only loop there is. -/
def Move.seenBy (i : Nat) : Move → Option Move
  | .step j => if j = i then some (.step 0) else none
  | .fire => some .fire
  | .dropTrigger => some .dropTrigger

namespace Fleet

/-- The moves of a schedule that concern the loop in place `i`. -/
def aside (i : Nat) (schedule : List Move) : List Move := schedule.filterMap (Move.seenBy i)

section

variable {T : Task σ} {f g : Fleet σ} {i : Nat} {l : UpkeepLoop σ}

theorem move_own (blind : T.Blind) (found : f.loops[i]? = some l) :
    (f.move T (.step i)).loops[i]? = some ((l.next? T f.line.reportsStop).getD l) := by
  rw [← UpkeepLoop.step?_next? blind _ f.state]
  cases stepped : l.step? T f.line.reportsStop f.state with
  | none => simp [move, stepLoop, found, stepped]
  | some result =>
    have bound := (List.getElem?_eq_some_iff.mp found).1
    rw [move_step found stepped]
    simp [bound]

theorem run_alone_from (blind : T.Blind) {first last : UpkeepLoop σ} {steps : Nat}
    (schedule : List Move) (found : f.loops[i]? = some l)
    (so_far : l = UpkeepLoop.alone T l.timeouts first steps)
    (reached : (f.run T schedule).loops[i]? = some last) :
    last = UpkeepLoop.alone T last.timeouts first (steps + schedule.count (.step i)) := by
  induction schedule generalizing f l steps with
  | nil =>
    obtain rfl := Option.some.inj (found.symm.trans reached)
    exact so_far
  | cons m rest ih =>
    by_cases own : m = .step i
    · subst own
      rw [List.count_cons_self, Nat.add_comm (rest.count _), ← Nat.add_assoc]
      exact ih (move_own blind found) (UpkeepLoop.alone_follows _ so_far) reached
    · rw [List.count_cons_of_ne own]
      exact ih ((move_other own).trans found) so_far reached

/-- Beside others a loop is where it would be alone, given the waits of it that timed out. -/
theorem run_alone (blind : T.Blind) {first last : UpkeepLoop σ} (schedule : List Move)
    (found : f.loops[i]? = some first) (reached : (f.run T schedule).loops[i]? = some last) :
    last = UpkeepLoop.alone T last.timeouts first (schedule.count (.step i)) := by
  have begun : first = UpkeepLoop.alone T first.timeouts first 0 := rfl
  have ended := run_alone_from blind schedule found begun reached
  rwa [Nat.zero_add] at ended

/-- In any two runs a loop comes to the same, if as many of its waits have timed out and it has had
as many steps or all that it can take. -/
theorem runs_agree (blind : T.Blind) {j : Nat} {first here there : UpkeepLoop σ}
    {schedule other : List Move} (found : f.loops[i]? = some first)
    (found' : g.loops[j]? = some first) (reached : (f.run T schedule).loops[i]? = some here)
    (reached' : (g.run T other).loops[j]? = some there) (timeouts : there.timeouts = here.timeouts)
    (same : other.count (.step j) = schedule.count (.step i) ∨
      there.next? T false = none ∧ here.next? T false = none) : there = here := by
  have lone := run_alone blind schedule found reached
  have lone' := run_alone blind other found' reached'
  rw [timeouts] at lone'
  clear reached reached' timeouts
  generalize here.timeouts = timedOut at lone lone'
  subst lone lone'
  exact UpkeepLoop.alone_unique same

theorem move_step_line (T : Task σ) (f : Fleet σ) (j : Nat) :
    (f.move T (.step j)).line = f.line := by
  have possible := moved T f (.step j)
  generalize f.move T (.step j) = g at possible ⊢
  cases possible <;> rfl

/-- A loop does with its own moves alone what it does beside other loops. -/
theorem run_aside (blind : T.Blind) (schedule : List Move) (alike : f.line.Alike g.line)
    (found : f.loops[i]? = some l) (same : g.loops[0]? = some l) :
    (f.run T schedule).loops[i]? = (g.run T (aside i schedule)).loops[0]? := by
  induction schedule generalizing f g l with
  | nil => exact found.trans same.symm
  | cons m rest ih =>
    rw [run_cons]
    cases m with
    | fire => exact ih (g := g.move T .fire) alike.fire found same
    | dropTrigger => exact ih (g := g.move T .dropTrigger) alike.dropTrigger found same
    | step j =>
      by_cases own : j = i
      · subst own
        have reduced : aside j (.step j :: rest) = .step 0 :: aside j rest := by
          simp [aside, Move.seenBy]
        rw [reduced, run_cons]
        refine ih ?_ (move_own blind found) ?_
        · rwa [move_step_line, move_step_line]
        · rw [move_own blind same, alike.reportsStop]
      · have reduced : aside i (.step j :: rest) = aside i rest := by
          simp [aside, Move.seenBy, own]
        have apart : Move.step j ≠ .step i := fun equal => own (Move.step.inj equal)
        rw [reduced]
        refine ih ?_ ((move_other apart).trans found) same
        rwa [move_step_line]

end

end Fleet

end TabletUpkeep
