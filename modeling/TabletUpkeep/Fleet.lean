import TabletUpkeep.Loop.Basic
import TabletUpkeep.StopLine

/-! Several loops side by side, with one shared state and one stop signal between them. A schedule
is a list of moves; each is one step of one loop or something done with the trigger. A loop that
has no step to take lets its turn pass. -/
namespace TabletUpkeep

structure Fleet (σ : Type) where
  state : SharedState
  line : StopLine
  loops : List (UpkeepLoop σ)

inductive Move
  | step (loop : Nat)
  | fire
  | dropTrigger
  deriving DecidableEq, Repr

namespace Fleet

variable {σ : Type}

/-- Loops about to start, each with a signal of its own besides the first one. -/
def ofLoops (state : SharedState) (loops : List (UpkeepLoop σ)) : Fleet σ :=
  ⟨state, { signals := loops.length + 1 }, loops⟩

def stepLoop (T : Task σ) (f : Fleet σ) (i : Nat) : Option (Fleet σ) :=
  (f.loops[i]?).bind fun l =>
    (l.step? T f.line.reportsStop f.state).map fun (state, l) =>
      { f with state, loops := f.loops.set i l }

def move (T : Task σ) (f : Fleet σ) : Move → Fleet σ
  | .step i => (f.stepLoop T i).getD f
  | .fire => { f with line := f.line.fire }
  | .dropTrigger => { f with line := { f.line with trigger := false } }

def run (T : Task σ) (f : Fleet σ) (schedule : List Move) : Fleet σ := schedule.foldl (move T) f

@[simp] theorem run_nil (T : Task σ) (f : Fleet σ) : f.run T [] = f := rfl

@[simp] theorem run_cons (T : Task σ) (f : Fleet σ) (m : Move) (rest : List Move) :
    f.run T (m :: rest) = (f.move T m).run T rest := rfl

theorem run_append (T : Task σ) (f : Fleet σ) (xs ys : List Move) :
    f.run T (xs ++ ys) = (f.run T xs).run T ys := List.foldl_append

/-- Steps of loop `i` until it has come to rest or has no step to take, at most `fuel` of them. -/
def settleLoop (T : Task σ) (rests : UpkeepLoop σ → Bool) (i : Nat) :
    Nat → Fleet σ → Fleet σ
  | 0, f => f
  | fuel + 1, f =>
    if (f.loops[i]?).all rests then f
    else
      match f.stepLoop T i with
      | some f => settleLoop T rests i fuel f
      | none => f

/-- Every loop in turn is brought to rest. -/
def settle (T : Task σ) (rests : UpkeepLoop σ → Bool) (fuel : Nat) (f : Fleet σ) : Fleet σ :=
  (List.range f.loops.length).foldl (fun f i => settleLoop T rests i fuel f) f

end Fleet

end TabletUpkeep
