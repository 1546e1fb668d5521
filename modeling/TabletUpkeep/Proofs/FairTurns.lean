import Mathlib.Data.Nat.Find
import TabletUpkeep.Proofs.Completion

/-! Loops that are all told to stop, and get their turns for ever. In which order they do is left
open, as long as none of them is passed over for good. A loop keeps its place while others have
their turns, so each of its own turns brings it closer to its end, where it stays. -/
namespace TabletUpkeep

/-- Turns of so many loops, none of which is ever passed over for good. -/
def Fair (count : Nat) (turns : Nat → Nat) : Prop :=
  ∀ i < count, ∀ n, ∃ m, n ≤ m ∧ turns m = i

theorem Fair.next_turn {count i : Nat} {turns : Nat → Nat} (fair : Fair count turns)
    (among : i < count) (n : Nat) :
    ∃ m, n ≤ m ∧ turns m = i ∧ ∀ k, n ≤ k → k < m → turns k ≠ i := by
  have some_turn := fair i among n
  obtain ⟨after, own⟩ := Nat.find_spec some_turn
  exact ⟨Nat.find some_turn, after, own, fun k later before same =>
    Nat.find_min some_turn before ⟨later, same⟩⟩

namespace Fleet

variable {σ : Type} {T : Task σ} {f : Fleet σ} {turns : Nat → Nat} {i : Nat}

def afterTurns (T : Task σ) (f : Fleet σ) (turns : Nat → Nat) (n : Nat) : Fleet σ :=
  f.run T ((List.range n).map fun k => .step (turns k))

theorem afterTurns_succ (n : Nat) :
    f.afterTurns T turns (n + 1) = (f.afterTurns T turns n).move T (.step (turns n)) := by
  rw [afterTurns, List.range_succ, List.map_append, run_append]
  rfl

theorem afterTurns_fired (fired : f.line.sender = false) (n : Nat) :
    (f.afterTurns T turns n).line.sender = false :=
  run_keeps (P := fun g => g.line.sender = false) (fun _ _ _ fired => move_line_fired fired) fired

/-- A loop keeps its place as long as the turns are those of others. -/
theorem afterTurns_still {n m : Nat} (ordered : n ≤ m) (others : ∀ k, n ≤ k → k < m → turns k ≠ i) :
    (f.afterTurns T turns m).loops[i]? = (f.afterTurns T turns n).loops[i]? := by
  induction ordered with
  | refl => rfl
  | @step m ordered ih =>
    have other : Move.step (turns m) ≠ .step i := fun same =>
      others m ordered (Nat.lt_succ_self m) (Move.step.inj same)
    rw [afterTurns_succ, move_other other]
    exact ih fun k after before => others k after (Nat.lt_succ_of_lt before)

theorem afterTurns_stopped {n m : Nat} {l : UpkeepLoop σ} (ordered : n ≤ m)
    (found : (f.afterTurns T turns n).loops[i]? = some l) (stopped : l.phase = .stopped) :
    (f.afterTurns T turns m).loops[i]? = some l := by
  induction ordered with
  | refl => exact found
  | @step m ordered ih =>
    rw [afterTurns_succ]
    obtain ⟨next, at_i, rfl | ⟨after, stepped⟩⟩ := move_loop T (.step (turns m)) ih
    · exact at_i
    · rw [UpkeepLoop.step?, stopped] at stepped
      cases stepped

/-- A loop that winds up once it is told to stop comes to its end. -/
theorem comes_to_stop {count n : Nat} {l : UpkeepLoop σ} (fair : Fair count turns)
    (among : i < count) (fired : f.line.sender = false) (winds : l.Winds T)
    (found : (f.afterTurns T turns n).loops[i]? = some l) :
    ∃ m last, n ≤ m ∧ (f.afterTurns T turns m).loops[i]? = some last ∧ last.phase = .stopped := by
  induction winds generalizing n with
  | stopped stopped => exact ⟨n, _, Nat.le_refl n, found, stopped⟩
  | @step l goes _ ih =>
    obtain ⟨m, after, own, others⟩ := fair.next_turn among n
    have still := (afterTurns_still after others).trans found
    have reported : (f.afterTurns T turns m).line.reportsStop = true :=
      StopLine.reportsStop_of_fired (afterTurns_fired fired m)
    obtain ⟨⟨state, next⟩, stepped⟩ :=
      Option.isSome_iff_exists.mp (goes (f.afterTurns T turns m).state)
    have reached : (f.afterTurns T turns (m + 1)).loops[i]? = some next := by
      rw [afterTurns_succ, own, move_step still (reported ▸ stepped)]
      simp [(List.getElem?_eq_some_iff.mp still).1]
    obtain ⟨last_turn, last, later, at_end, stopped⟩ := ih _ _ _ stepped reached
    exact ⟨last_turn, last, by omega, at_end, stopped⟩

/-- From some turn on all loops have come to their end. -/
theorem all_come_to_stop {count : Nat} (fair : Fair count turns) (fired : f.line.sender = false)
    (winds : ∀ i < count, ∃ l, f.loops[i]? = some l ∧ l.Winds T) :
    ∃ n, ∀ m, n ≤ m → ∀ i < count, ∃ l, (f.afterTurns T turns m).loops[i]? = some l ∧
      l.phase = .stopped := by
  suffices first : ∀ k, k ≤ count → ∃ n, ∀ m, n ≤ m → ∀ i < k, ∃ l,
      (f.afterTurns T turns m).loops[i]? = some l ∧ l.phase = .stopped from
    first count (Nat.le_refl count)
  intro k within
  induction k with
  | zero => exact ⟨0, fun _ _ i none => absurd none (Nat.not_lt_zero i)⟩
  | succ k ih =>
    obtain ⟨n, earlier⟩ := ih (Nat.le_of_succ_le within)
    obtain ⟨l, found, winding⟩ := winds k within
    obtain ⟨m, last, -, at_end, stopped⟩ := comes_to_stop fair within fired winding (n := 0) found
    refine ⟨max n m, fun later after i among => ?_⟩
    rcases Nat.lt_succ_iff_lt_or_eq.mp among with before | rfl
    · exact earlier later (by omega) i before
    · exact ⟨last, afterTurns_stopped (by omega) at_end stopped, stopped⟩

end Fleet

end TabletUpkeep
