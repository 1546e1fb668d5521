import TabletUpkeep.Fleet
import TabletUpkeep.Proofs.LoopSteps

/-! What a schedule comes to for the loops of a fleet. A move is a step of one loop, under the
signal and the shared state of the moment, or it touches the trigger alone. Facts about runs are
facts that every move keeps. -/
namespace TabletUpkeep

variable {σ : Type}

namespace StopLine

/-- The sending end is in its slot, and some signal keeps the slot alive. -/
structure Armed (l : StopLine) : Prop where
  sender : l.sender = true
  signals : 0 < l.signals

theorem reportsStop_eq {l : StopLine} (kept : 0 < l.signals) : l.reportsStop = !l.sender := by
  have held : l.holders ≠ 0 := by
    simp only [holders]
    omega
  simp [reportsStop, isDisconnected, held]

theorem Armed.reportsStop {l : StopLine} (armed : l.Armed) : l.reportsStop = false := by
  rw [reportsStop_eq armed.signals, armed.sender]
  rfl

/-- Letting go of the trigger is not firing it: the signals keep the slot. -/
theorem Armed.dropTrigger {l : StopLine} (armed : l.Armed) :
    { l with trigger := false }.Armed := ⟨armed.sender, armed.signals⟩

theorem reportsStop_of_fired {l : StopLine} (fired : l.sender = false) :
    l.reportsStop = true := by
  simp [reportsStop, isDisconnected, fired]

theorem fire_sender {l : StopLine} (present : l.trigger = true) : l.fire.sender = false := by
  simp [fire, present]

theorem fire_fired {l : StopLine} (fired : l.sender = false) : l.fire.sender = false := by
  unfold fire
  split <;> simp [fired]

end StopLine

namespace Fleet

/-- All that a move can do. A loop without a next step lets its turn pass. -/
inductive Moved (T : Task σ) (f : Fleet σ) : Move → Fleet σ → Prop
  | stepped {i : Nat} {l next : UpkeepLoop σ} {after : SharedState} : f.loops[i]? = some l →
      l.step? T f.line.reportsStop f.state = some (after, next) →
      Moved T f (.step i) { f with state := after, loops := f.loops.set i next }
  | idle {i : Nat} :
      (∀ l, f.loops[i]? = some l → l.step? T f.line.reportsStop f.state = none) →
      Moved T f (.step i) f
  | fired : Moved T f .fire { f with line := f.line.fire }
  | dropped : Moved T f .dropTrigger { f with line := { f.line with trigger := false } }

theorem moved (T : Task σ) (f : Fleet σ) (m : Move) : Moved T f m (f.move T m) := by
  cases m with
  | fire => exact .fired
  | dropTrigger => exact .dropped
  | step i =>
    cases found : f.loops[i]? with
    | none =>
      have still : f.move T (.step i) = f := by simp [move, stepLoop, found]
      rw [still]
      exact .idle (by simp [found])
    | some l =>
      cases stepped : l.step? T f.line.reportsStop f.state with
      | none =>
        have still : f.move T (.step i) = f := by simp [move, stepLoop, found, stepped]
        rw [still]
        exact .idle (by simp [found, stepped])
      | some result =>
        obtain ⟨after, next⟩ := result
        have went : f.move T (.step i) =
            { f with state := after, loops := f.loops.set i next } := by
          simp [move, stepLoop, found, stepped]
        rw [went]
        exact .stepped found stepped

/-- What every move of a schedule keeps holds at its end. -/
theorem run_keeps {T : Task σ} {P : Fleet σ → Prop} {schedule : List Move}
    (kept : ∀ f m, m ∈ schedule → P f → P (f.move T m)) {f : Fleet σ} (start : P f) :
    P (f.run T schedule) := by
  induction schedule generalizing f with
  | nil => exact start
  | cons m rest ih =>
    have first := kept f m (by simp) start
    exact ih (fun g m' later => kept g m' (List.mem_cons_of_mem m later)) first

theorem move_line_armed {T : Task σ} {f : Fleet σ} {m : Move} (quiet : m ≠ .fire)
    (armed : f.line.Armed) : (f.move T m).line.Armed := by
  have possible := moved T f m
  generalize f.move T m = g at possible ⊢
  cases possible with
  | stepped _ _ => exact armed
  | idle _ => exact armed
  | fired => exact absurd rfl quiet
  | dropped => exact armed.dropTrigger

theorem move_line_fired {T : Task σ} {f : Fleet σ} {m : Move} (fired : f.line.sender = false) :
    (f.move T m).line.sender = false := by
  have possible := moved T f m
  generalize f.move T m = g at possible ⊢
  cases possible with
  | stepped _ _ => exact fired
  | idle _ => exact fired
  | fired => exact StopLine.fire_fired fired
  | dropped => exact fired

/-- A step of loop `j`, seen from loop `i`: either it is its own, or nothing of it changes. -/
theorem getElem?_set_cases {loops : List (UpkeepLoop σ)} {i j : Nat} {l next found : UpkeepLoop σ}
    (stepping : loops[j]? = some l) (at_i : (loops.set j next)[i]? = some found) :
    (i = j ∧ found = next) ∨ (i ≠ j ∧ loops[i]? = some found) := by
  have bound := (List.getElem?_eq_some_iff.mp stepping).1
  by_cases same : j = i
  · subst same
    simp [bound] at at_i
    exact .inl ⟨rfl, at_i.symm⟩
  · rw [List.getElem?_set_ne same] at at_i
    exact .inr ⟨fun h => same h.symm, at_i⟩

theorem move_trigger {T : Task σ} {f : Fleet σ} {m : Move} (kept : m ≠ .dropTrigger)
    (present : f.line.trigger = true) : (f.move T m).line.trigger = true := by
  have possible := moved T f m
  generalize f.move T m = g at possible ⊢
  cases possible with
  | stepped _ _ => exact present
  | idle _ => exact present
  | fired => simp [StopLine.fire, present]
  | dropped => exact absurd rfl kept

/-- A move takes a loop at most one step further. -/
theorem move_loop (T : Task σ) {f : Fleet σ} (m : Move) {i : Nat} {l : UpkeepLoop σ}
    (found : f.loops[i]? = some l) :
    ∃ next, (f.move T m).loops[i]? = some next ∧
      (next = l ∨ ∃ after, l.step? T f.line.reportsStop f.state = some (after, next)) := by
  have possible := moved T f m
  generalize f.move T m = g at possible ⊢
  cases possible with
  | idle _ => exact ⟨l, found, .inl rfl⟩
  | fired => exact ⟨l, found, .inl rfl⟩
  | dropped => exact ⟨l, found, .inl rfl⟩
  | @stepped j other next after stepping stepped =>
    by_cases same : j = i
    · subst same
      obtain rfl : l = other := Option.some.inj (found.symm.trans stepping)
      have bound := (List.getElem?_eq_some_iff.mp stepping).1
      exact ⟨next, by simp [bound], .inr ⟨after, stepped⟩⟩
    · exact ⟨l, by rw [List.getElem?_set_ne same, found], .inl rfl⟩

/-- Only its own steps change a loop. -/
theorem move_other {T : Task σ} {f : Fleet σ} {m : Move} {i : Nat} (other : m ≠ .step i) :
    (f.move T m).loops[i]? = f.loops[i]? := by
  have possible := moved T f m
  generalize f.move T m = g at possible ⊢
  cases possible with
  | @stepped j _ _ _ _ _ =>
    have apart : j ≠ i := fun same => other (same ▸ rfl)
    exact List.getElem?_set_ne apart
  | idle _ => rfl
  | fired => rfl
  | dropped => rfl

theorem move_stretch (T : Task σ) {f : Fleet σ} (m : Move) {stopping : Bool} {i : Nat}
    {first l : UpkeepLoop σ} (reported : f.line.reportsStop = stopping)
    (found : f.loops[i]? = some l) (so_far : UpkeepLoop.Stretch T stopping first l) :
    ∃ next, (f.move T m).loops[i]? = some next ∧ UpkeepLoop.Stretch T stopping first next := by
  subst reported
  obtain ⟨next, at_i, rfl | ⟨after, stepped⟩⟩ := move_loop T m found
  · exact ⟨next, at_i, so_far⟩
  · exact ⟨next, at_i, so_far.snoc stepped⟩

/-- For each of its loops a schedule is a path of its own. -/
theorem run_path (T : Task σ) {f : Fleet σ} (schedule : List Move) {i : Nat}
    {first : UpkeepLoop σ} (found : f.loops[i]? = some first) :
    ∃ l, (f.run T schedule).loops[i]? = some l ∧ UpkeepLoop.Path T first l := by
  refine run_keeps (P := fun g => ∃ l, g.loops[i]? = some l ∧ UpkeepLoop.Path T first l) ?_
    ⟨first, found, .nil⟩
  rintro g m - ⟨l, at_i, path⟩
  obtain ⟨next, moved, rfl | ⟨after, stepped⟩⟩ := move_loop T m at_i
  · exact ⟨next, moved, path⟩
  · exact ⟨next, moved, path.snoc stepped⟩

/-- Up to the trigger, whatever the schedule, no loop has seen a stop. -/
theorem run_armed {T : Task σ} {f : Fleet σ} {schedule : List Move} {i : Nat}
    {first : UpkeepLoop σ} (quiet : .fire ∉ schedule) (armed : f.line.Armed)
    (found : f.loops[i]? = some first) :
    ∃ l, (f.run T schedule).loops[i]? = some l ∧ UpkeepLoop.Stretch T false first l := by
  suffices kept : (f.run T schedule).line.Armed ∧ ∃ l, (f.run T schedule).loops[i]? = some l ∧
      UpkeepLoop.Stretch T false first l from kept.2
  refine run_keeps (P := fun g => g.line.Armed ∧ ∃ l, g.loops[i]? = some l ∧
    UpkeepLoop.Stretch T false first l) ?_ ⟨armed, first, found, .nil⟩
  rintro g m member ⟨armed, l, at_i, so_far⟩
  have loud : m ≠ .fire := by
    rintro rfl
    exact quiet member
  exact ⟨move_line_armed loud armed, move_stretch T m armed.reportsStop at_i so_far⟩

/-- From the trigger on, every step of every loop is taken under the stop signal. -/
theorem run_fired {T : Task σ} {f : Fleet σ} (schedule : List Move) {i : Nat}
    {first : UpkeepLoop σ} (fired : f.line.sender = false) (found : f.loops[i]? = some first) :
    ∃ l, (f.run T schedule).loops[i]? = some l ∧ (f.run T schedule).line.sender = false ∧
      UpkeepLoop.Stretch T true first l := by
  refine run_keeps (P := fun g => ∃ l, g.loops[i]? = some l ∧ g.line.sender = false ∧
    UpkeepLoop.Stretch T true first l) ?_ ⟨first, found, fired, .nil⟩
  rintro g m - ⟨l, at_i, fired, so_far⟩
  obtain ⟨next, moved, further⟩ :=
    move_stretch T m (StopLine.reportsStop_of_fired fired) at_i so_far
  exact ⟨next, moved, move_line_fired fired, further⟩

theorem run_trigger {T : Task σ} {f : Fleet σ} {schedule : List Move}
    (kept : .dropTrigger ∉ schedule) (present : f.line.trigger = true) :
    (f.run T schedule).line.trigger = true := by
  refine run_keeps (P := fun g => g.line.trigger = true) ?_ present
  intro g m member
  refine move_trigger ?_
  rintro rfl
  exact kept member

/-- A move is a step of its loop when the loop has one. -/
theorem move_step {T : Task σ} {f : Fleet σ} {i : Nat} {l next : UpkeepLoop σ}
    {after : SharedState} (found : f.loops[i]? = some l)
    (stepped : l.step? T f.line.reportsStop f.state = some (after, next)) :
    f.move T (.step i) = { f with state := after, loops := f.loops.set i next } := by
  simp [move, stepLoop, found, stepped]

/-- Loops of named workers with one task, none of which has taken a step. -/
def ofTeam (T : Task σ) (state : SharedState) (team : List (String × σ)) : Fleet σ :=
  .ofLoops state (team.map fun worker => .ofTask T worker.1 worker.2)

section

variable {T : Task σ} {state : SharedState} {team : List (String × σ)}

theorem ofTeam_armed : (ofTeam T state team).line.Armed := ⟨rfl, Nat.succ_pos _⟩

theorem ofTeam_loops {i : Nat} {worker : String × σ} (at_i : team[i]? = some worker) :
    (ofTeam T state team).loops[i]? = some (.ofTask T worker.1 worker.2) := by
  simp [ofTeam, ofLoops, at_i]

theorem run_length (T : Task σ) (f : Fleet σ) (schedule : List Move) :
    (f.run T schedule).loops.length = f.loops.length := by
  refine run_keeps (P := fun g => g.loops.length = f.loops.length) ?_ rfl
  rintro g m - same
  have possible := moved T g m
  generalize g.move T m = h at possible ⊢
  cases possible with
  | stepped _ _ => rw [List.length_set, same]
  | idle _ => exact same
  | fired => exact same
  | dropped => exact same

/-- Every loop of a run began as that of one worker. -/
theorem ofTeam_first {schedule : List Move} {i : Nat} {l : UpkeepLoop σ}
    (found : ((ofTeam T state team).run T schedule).loops[i]? = some l) :
    ∃ worker, team[i]? = some worker ∧
      (ofTeam T state team).loops[i]? = some (.ofTask T worker.1 worker.2) := by
  have bound := (List.getElem?_eq_some_iff.mp found).1
  rw [run_length] at bound
  have in_team : i < team.length := by simpa [ofTeam, ofLoops] using bound
  exact ⟨team[i], List.getElem?_eq_getElem in_team,
    ofTeam_loops (List.getElem?_eq_getElem in_team)⟩

end

end Fleet

end TabletUpkeep
