import TabletUpkeep.Word

/-! The number of schema changes under way. Counting up is an atomic step of the word followed by
a check of the result, so at the greatest word the count itself wraps and only the answer is
missing; counting down stays at zero. A guard counts once for as long as it lives. -/
namespace TabletUpkeep

structure SchemaChanges where
  active : UInt32 := 0
  deriving DecidableEq, Repr

namespace SchemaChanges

/-- The count after one more, absent when it does not fit. -/
def increment (c : SchemaChanges) : Option UInt32 × SchemaChanges :=
  (Word.add? c.active 1, { active := c.active + 1 })

/-- The count after one less. -/
def decrement (c : SchemaChanges) : UInt32 × SchemaChanges :=
  if c.active = 0 then (0, c) else (c.active - 1, { active := c.active - 1 })

theorem decrement_fst (c : SchemaChanges) : c.decrement.1 = c.decrement.2.active := by
  unfold decrement; split <;> simp_all

end SchemaChanges

/-- The counter with every guard ever taken from it, by slot: true while the guard lives. -/
structure GuardedCounter where
  counter : SchemaChanges := {}
  guards : List Bool := []
  deriving DecidableEq, Repr

namespace GuardedCounter

inductive Action
  | increment
  | decrement
  | enter
  | leave (slot : Nat)
  deriving DecidableEq, Repr

inductive Answer
  | count (value : UInt32)
  | overflow
  | slot (index : Nat)
  | left (wasAlive : Bool)
  deriving DecidableEq, Repr

/-- The answer to counting up: the count, where there is one that fits. -/
def Answer.ofCount : Option UInt32 → Answer
  | some value => .count value
  | none => .overflow

/-- There is a guard only where counting up has an answer. -/
def enter (g : GuardedCounter) : Answer × GuardedCounter :=
  let counted := g.counter.increment
  if counted.1.isSome then (.slot g.guards.length, ⟨counted.2, g.guards ++ [true]⟩)
  else (.overflow, { g with counter := counted.2 })

/-- A guard counts down once, when it goes. -/
def leave (g : GuardedCounter) (slot : Nat) : Answer × GuardedCounter :=
  if g.guards[slot]? = some true then
    (.left true, ⟨g.counter.decrement.2, g.guards.set slot false⟩)
  else (.left false, g)

def act (g : GuardedCounter) : Action → Answer × GuardedCounter
  | .increment => (.ofCount g.counter.increment.1, { g with counter := g.counter.increment.2 })
  | .decrement => (.count g.counter.decrement.1, { g with counter := g.counter.decrement.2 })
  | .enter => g.enter
  | .leave slot => g.leave slot

def run (g : GuardedCounter) (actions : List Action) : GuardedCounter :=
  actions.foldl (fun g a => (g.act a).2) g

@[simp] theorem run_nil (g : GuardedCounter) : g.run [] = g := rfl

theorem run_cons (g : GuardedCounter) (a : Action) (rest : List Action) :
    g.run (a :: rest) = (g.act a).2.run rest := rfl

def liveGuards (g : GuardedCounter) : Nat := g.guards.count true

/-- Every guard still alive goes, in the order of the slots. -/
def leaveAll (g : GuardedCounter) : GuardedCounter :=
  g.run ((List.range g.guards.length).map .leave)

end GuardedCounter

end TabletUpkeep
